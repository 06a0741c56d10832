import FrameMarkers.Proofs.Distinct
import FrameMarkers.Proofs.Notebook.Registered

namespace FrameMarkers.Notebook

variable {notebook before after : Notebook} {marker copy : Marker} {entered : List Marker}
  {operation : Operation} {operations : List Operation}

-- The pending markers have different names, and each can be declared.
structure Awaits (notebook : Notebook) : Prop where
  names : (notebook.pending.map (·.name)).Nodup
  valid : ∀ marker ∈ notebook.pending, marker.validate = .ok ()

namespace Awaits

theorem sublist (h : before.Awaits) (hs : after.pending.Sublist before.pending) : after.Awaits :=
  ⟨h.names.sublist (hs.map _), fun marker hm => h.valid marker (hs.mem hm)⟩

theorem await (h : notebook.Awaits) (valid : marker.validate = .ok ()) :
    (notebook.await marker).Awaits := by
  have hrest : (notebook.release marker.name).Awaits := h.sublist List.filter_sublist
  constructor
  · rw [Notebook.await, List.map_cons, List.nodup_cons]
    refine ⟨fun hm => ?_, hrest.names⟩
    obtain ⟨other, ho, he⟩ := List.mem_map.mp hm
    simp [he] at ho
  · exact List.forall_mem_cons.mpr ⟨valid, hrest.valid⟩

theorem foldl_await {markers : List Marker} (h : notebook.Awaits)
    (valid : ∀ marker ∈ markers, marker.validate = .ok ()) :
    (markers.foldl Notebook.await notebook).Awaits := by
  induction markers generalizing notebook with
  | nil => exact h
  | cons marker rest ih =>
      exact ih (h.await (valid marker List.mem_cons_self)) fun other ho =>
        valid other (List.mem_cons_of_mem _ ho)

theorem pending?_eq_some_iff (h : notebook.Awaits) {name : String} :
    notebook.pending? name = some marker ↔ marker ∈ notebook.pending ∧ marker.name = name :=
  find?_key_eq_some_iff h.names

end Awaits

theorem Enrolled.pending_sublist (h : Enrolled before entered after) :
    after.pending.Sublist before.pending := by
  induction h with
  | refl => exact .refl _
  | declared _ _ ih => exact ih
  | adopted _ _ _ ih => exact List.filter_sublist.trans ih

theorem enrolled_next (notebook : Notebook) (marker : Marker) :
    ∃ entered, Enrolled notebook entered ((Operation.register marker).next notebook) := by
  have hlog := logged_enter marker notebook
  rw [Operation.next, Operation.step, run_map, run_register]
  generalize (enter marker).run notebook = outcome at hlog
  cases hlog with
  | ok log | error log => exact ⟨_, log⟩

theorem Awaits.next (h : notebook.Awaits) (operation : Operation) :
    (operation.next notebook).Awaits := by
  rcases operation.isCell_or_register with hcell | ⟨marker, rfl⟩
  · rw [Operation.next_of_isCell hcell]
    exact (h.sublist (operation.pending_noted notebook ▸ .refl _)).foldl_await
      fun _ => Operation.makes_valid
  · obtain ⟨entered, log⟩ := enrolled_next notebook marker
    exact h.sublist log.pending_sublist

theorem Reached.awaits (reached : Reached notebook) : notebook.Awaits := by
  induction reached with
  | empty => exact ⟨List.nodup_nil, fun _ hm => nomatch hm⟩
  | next operation _ ih => exact ih.next operation

theorem pending_of_isCell (reached : Reached notebook) (hcell : operation.IsCell) :
    marker ∈ (operation.next notebook).pending ↔ marker ∈ operation.makes notebook ∨
      marker ∈ notebook.pending ∧ ∀ made ∈ operation.makes notebook, made.name ≠ marker.name := by
  have hbefore : notebook.pending? marker.name = some marker ↔ marker ∈ notebook.pending := by
    rw [reached.awaits.pending?_eq_some_iff, and_iff_left rfl]
  have hafter : (operation.next notebook).pending? marker.name = some marker ↔
      marker ∈ (operation.next notebook).pending := by
    rw [(reached.awaits.next operation).pending?_eq_some_iff, and_iff_left rfl]
  rw [← hafter, ← hbefore, Operation.pending?_of_isCell hcell, Option.or_eq_some_iff,
    find?_key_eq_some_iff (operation.nodup_makes notebook)]
  simp [and_comm]

-- A marker that was pending before the cell still is, exactly if the cell makes no other marker of
-- its name.
theorem kept_iff (reached : Reached notebook) (hcell : operation.IsCell)
    (hm : marker ∈ notebook.pending) :
    marker ∈ (operation.next notebook).pending ↔
      ∀ made ∈ operation.makes notebook, made.name = marker.name → made = marker := by
  rw [pending_of_isCell reached hcell]
  constructor
  · rintro (hmade | ⟨-, hother⟩) made hm' he
    · exact List.inj_on_of_nodup_map (operation.nodup_makes notebook) hm' hmade he
    · exact absurd he (hother made hm')
  · intro hsame
    by_cases hmade : marker ∈ operation.makes notebook
    · exact .inl hmade
    · exact .inr ⟨hm, fun made hm' he => hmade (hsame made hm' he ▸ hm')⟩

-- Registering keeps a pending marker, or something new has adopted it.
theorem Enrolled.kept_or_adopted (h : Enrolled before entered after) (awaits : before.Awaits)
    (hm : marker ∈ before.pending) :
    ∃ new, after.registered = before.registered ++ new ∧
      (marker ∈ after.pending ∨ ∃ adopted ∈ new, Adopts adopted marker) := by
  induction h with
  | refl => exact ⟨[], (List.append_nil _).symm, .inl hm⟩
  | declared declared _ ih =>
      obtain ⟨new, hnew, hcase⟩ := ih
      refine ⟨new ++ [declared], by rw [enroll, hnew, List.append_assoc], hcase.imp_right ?_⟩
      rintro ⟨adopted, ha, hadopts⟩
      exact ⟨adopted, List.mem_append_left _ ha, hadopts⟩
  | @adopted entered middle adopted pending waiting adopts _ ih =>
      obtain ⟨new, hnew, hcase⟩ := ih
      refine ⟨new ++ [adopted], by rw [enroll, release, hnew, List.append_assoc], ?_⟩
      rcases hcase with hkept | ⟨earlier, he, hadopts⟩
      · by_cases hname : marker.name = pending.name
        · obtain rfl := List.inj_on_of_nodup_map awaits.names hm waiting hname
          exact .inr ⟨adopted, List.mem_append_right _ List.mem_cons_self, adopts⟩
        · exact .inl (List.mem_filter.mpr ⟨hkept, bne_iff_ne.mpr hname⟩)
      · exact .inr ⟨earlier, List.mem_append_left _ he, hadopts⟩

-- None of the operations makes another marker of that name.
def Spares (marker : Marker) : List Operation → Notebook → Prop
  | [], _ => True
  | operation :: rest, notebook =>
    (∀ made ∈ operation.makes notebook, made.name = marker.name → made = marker) ∧
      Spares marker rest (operation.next notebook)

theorem kept_or_adopted (reached : Reached notebook) (hm : marker ∈ notebook.pending)
    (spares : Spares marker operations notebook) :
    marker ∈ (Operation.nextAll operations notebook).pending ∨
      ∃ adopted ∈ (Operation.nextAll operations notebook).registered, Adopts adopted marker := by
  induction operations generalizing notebook with
  | nil => exact .inl hm
  | cons operation rest ih =>
      obtain ⟨hfirst, hrest⟩ := spares
      rcases operation.isCell_or_register with hcell | ⟨declared, rfl⟩
      · exact ih (.next operation reached) ((kept_iff reached hcell hm).mpr hfirst) hrest
      · obtain ⟨entered, log⟩ := enrolled_next notebook declared
        obtain ⟨new, hnew, hkept | ⟨adopted, ha, hadopts⟩⟩ := log.kept_or_adopted reached.awaits hm
        · exact ih (.next _ reached) hkept hrest
        · have hprefix := registered_prefix ((Operation.register declared).next notebook) rest
          rw [hnew] at hprefix
          exact .inr ⟨adopted, hprefix.subset (List.mem_append_right _ ha), hadopts⟩

-- The marker is a compiled copy of the pending one, as far as short names tell.
structure Copies (copy marker : Marker) : Prop where
  name : copy.shortName = marker.name
  supers : (copy.supers.map Marker.shortName).Perm (marker.supers.map Marker.shortName)

-- What is registered for a compiled copy of the marker.
def compiled (marker copy : Marker) (supers : List Marker) : Marker :=
  ⟨copy.name, marker.ownFields, supers, marker.isOpen, .implicitPublic⟩

theorem Awaits.replaced?_eq_some_iff (h : notebook.Awaits) :
    notebook.replaced? copy = some marker ↔ marker ∈ notebook.pending ∧ Copies copy marker := by
  rw [replaced?, Option.filter_eq_some_iff, h.pending?_eq_some_iff, List.isPerm_iff]
  constructor
  · rintro ⟨⟨hm, hname⟩, hsupers⟩
    exact ⟨hm, hname.symm, hsupers⟩
  · rintro ⟨hm, hname, hsupers⟩
    exact ⟨⟨hm, hname.symm⟩, hsupers⟩

theorem registered?_of_register (reached : Reached notebook)
    (unknown : notebook.registered? copy.name = none)
    (replaces : notebook.replaced? copy = some marker) {text : String}
    (h : (register copy).run notebook = (.ok text, after)) :
    ∃ supers, after.registered? copy.name = some (compiled marker copy supers) := by
  have hsound : after.Sound := by
    have hnext := reached.sound.next (.register copy)
    rwa [Operation.next, Operation.step, run_map, h] at hnext
  have hcase := run_enter notebook copy
  rw [run_register] at h
  generalize (enter copy).run notebook = outcome at h hcase
  cases hcase with
  | known found =>
      rw [unknown] at found
      cases found
  | declared _ fresh | invalid _ fresh =>
      rw [replaces] at fresh
      cases fresh
  | unmade | blocked => cases h
  | @adopted pending adopted supers entered middle _ replaces' above made =>
      rw [replaces] at replaces'
      cases replaces'
      obtain ⟨rfl, -⟩ := Marker.make_eq_ok.mp made
      obtain rfl := congrArg Prod.snd h
      exact ⟨supers, (find?_key_eq_some_iff hsound.names).mpr
        ⟨List.mem_append_right _ List.mem_cons_self, rfl⟩⟩

-- With super markers that are registered already, nothing but the copy itself can be refused.
theorem run_register_copy {supers : List Marker}
    (unknown : notebook.registered? copy.name = none)
    (replaces : notebook.replaced? copy = some marker) (known : notebook.Known copy.supers supers)
    (valid : (compiled marker copy supers).validate = .ok ()) :
    (register copy).run notebook =
      (.ok "", (notebook.release marker.name).enroll (compiled marker copy supers)) := by
  have hmade := Marker.make_eq_ok.mpr ⟨rfl, valid⟩
  rw [run_register, run_enter_eq_iff.mpr (.adopted unknown replaces known.run_enterAll hmade)]
  rfl

theorem validate_compiled_nil (valid : marker.validate = .ok ()) :
    (compiled marker copy []).validate = .ok () := by
  have hkeys := (Marker.conflicting?_eq_none.mp (Marker.validate_eq_ok.mp valid).2).1
  exact Marker.validate_eq_ok.mpr
    ⟨rfl, Marker.conflicting?_eq_none.mpr ⟨hkeys, fun _ _ _ => List.not_mem_nil⟩⟩

theorem waits_for_copy (reached : Reached notebook) (hm : marker ∈ notebook.pending) :
    (∀ cell : Operation, cell.IsCell → (marker ∈ (cell.next notebook).pending ↔
      ∀ made ∈ cell.makes notebook, made.name = marker.name → made = marker)) ∧
    (∀ declared, ∃ new, ((Operation.register declared).next notebook).registered =
      notebook.registered ++ new ∧
        (marker ∈ ((Operation.register declared).next notebook).pending ∨
          ∃ adopted ∈ new, Adopts adopted marker)) ∧
    (∀ operations, Spares marker operations notebook →
      marker ∈ (Operation.nextAll operations notebook).pending ∨
        ∃ adopted ∈ (Operation.nextAll operations notebook).registered, Adopts adopted marker) ∧
    ∀ copy, Copies copy marker → notebook.registered? copy.name = none →
      (∀ text after, (register copy).run notebook = (.ok text, after) →
        ∃ supers, after.registered? copy.name = some (compiled marker copy supers)) ∧
      (∀ supers, notebook.Known copy.supers supers →
        (compiled marker copy supers).validate = .ok () → (register copy).run notebook =
          (.ok "", (notebook.release marker.name).enroll (compiled marker copy supers))) ∧
      (copy.supers = [] → (register copy).run notebook =
        (.ok "", (notebook.release marker.name).enroll (compiled marker copy []))) := by
  refine ⟨fun _ hcell => kept_iff reached hcell hm, fun declared => ?_,
    fun _ => kept_or_adopted reached hm, fun copy copies unknown => ?_⟩
  · obtain ⟨entered, log⟩ := enrolled_next notebook declared
    exact log.kept_or_adopted reached.awaits hm
  · have replaces := reached.awaits.replaced?_eq_some_iff.mpr ⟨hm, copies⟩
    refine ⟨fun _ _ => registered?_of_register reached unknown replaces,
      fun _ => run_register_copy unknown replaces, fun hnone => ?_⟩
    have hknown : notebook.Known copy.supers [] := hnone ▸ .nil
    exact run_register_copy unknown replaces hknown
      (validate_compiled_nil (reached.awaits.valid marker hm))

-- Two cells between which nothing is registered use the same name first. So the earlier one has a
-- marker that is lost, unless the later one makes that marker again.
theorem lost_or_made_again (reached : Reached notebook) {first second : Schema}
    (hfirst : (Operation.process first none).makes notebook ≠ [])
    (hsecond : (Operation.process second none).makes
      ((Operation.process first none).next notebook) ≠ []) :
    ∃ marker ∈ ((Operation.process first none).next notebook).pending,
      marker ∈ ((Operation.process second none).next
        ((Operation.process first none).next notebook)).pending →
      marker ∈ (Operation.process second none).makes
        ((Operation.process first none).next notebook) := by
  have hcell : ∀ schema, (Operation.process schema none).IsCell := fun _ => trivial
  obtain ⟨name, hname⟩ := exists_first_name notebook.registered rootName
  obtain ⟨marker, hm, rfl⟩ := hname notebook first true rfl hfirst
  obtain ⟨made, hmade, he⟩ := hname _ second true
    (Operation.registered_of_isCell (hcell first) notebook) hsecond
  have hpending := (pending_of_isCell reached (hcell first)).mpr (.inl hm)
  refine ⟨marker, hpending, fun hkept => ?_⟩
  exact (kept_iff (.next _ reached) (hcell second) hpending).mp hkept made hmade he ▸ hmade

-- A cell for a table with one column.
def columnCell (name : String) : Operation :=
  .process (column name) none

-- What the user has compiled of the first such cell.
def columnCopy (name : String) : Marker :=
  textMarker "Line_1._DataFrameType" [name] []

theorem exists_pending_copied :
    ∃ marker ∈ ((columnCell "a").next .empty).pending, Copies (columnCopy "a") marker := by
  have hawaits : ((columnCell "a").next .empty).Awaits := (Reached.next _ .empty).awaits
  have hsome : (((columnCell "a").next .empty).replaced? (columnCopy "a")).isSome = true := by
    decide +kernel
  obtain ⟨marker, hmarker⟩ := Option.isSome_iff_exists.mp hsome
  exact ⟨marker, hawaits.replaced?_eq_some_iff.mp hmarker⟩

-- Registered after its cell, the copy comes with the marker's field.
theorem waits_for_copy_column :
    ∃ marker ∈ ((columnCell "a").next .empty).pending, Copies (columnCopy "a") marker ∧
      (register (columnCopy "a")).run ((columnCell "a").next .empty) =
        (.ok "", (((columnCell "a").next .empty).release marker.name).enroll
          (compiled marker (columnCopy "a") [])) := by
  obtain ⟨marker, hm, hcopies⟩ := exists_pending_copied
  have hunknown : ((columnCell "a").next .empty).registered? (columnCopy "a").name = none := by
    rw [← Option.isNone_iff_eq_none]
    decide +kernel
  have hadopts := (waits_for_copy (.next (columnCell "a") .empty) hm).2.2.2
  exact ⟨marker, hm, hcopies, (hadopts _ hcopies hunknown).2.2 rfl⟩

-- After another cell the marker is pending no more, and its copy comes with the field of the other
-- cell's marker.
theorem not_kept_column :
    ∃ marker ∈ ((columnCell "a").next .empty).pending, Copies (columnCopy "a") marker ∧
      Reached ((columnCell "a").next .empty) ∧ (columnCell "b").IsCell ∧
      marker ∉ ((columnCell "b").next ((columnCell "a").next .empty)).pending ∧
      ∃ adopted, ((Operation.register (columnCopy "a")).next
          ((columnCell "b").next ((columnCell "a").next .empty))).registered = [adopted] ∧
        adopted.name = (columnCopy "a").name ∧ adopted.ownFields ≠ marker.ownFields := by
  obtain ⟨marker, hm, hcopies⟩ := exists_pending_copied
  have hfirst : ((columnCell "a").next .empty).pending.map
      (·.ownFields.map (·.column)) = [["a"]] := by decide +kernel
  have hsecond : ((columnCell "b").next ((columnCell "a").next .empty)).pending.map
      (·.ownFields.map (·.column)) = [["b"]] := by decide +kernel
  have hregistered : ((Operation.register (columnCopy "a")).next
      ((columnCell "b").next ((columnCell "a").next .empty))).registered.map
        (fun adopted => (adopted.name, adopted.ownFields.map (·.column))) =
      [("Line_1._DataFrameType", ["b"])] := by decide +kernel
  have hcolumn : marker.ownFields.map (·.column) = ["a"] := by
    have hmem := List.mem_map_of_mem (f := (·.ownFields.map (·.column))) hm
    rw [hfirst] at hmem
    exact List.mem_singleton.mp hmem
  refine ⟨marker, hm, hcopies, .next _ .empty, trivial, fun hkept => ?_, ?_⟩
  · have hmem := List.mem_map_of_mem (f := (·.ownFields.map (·.column))) hkept
    rw [hsecond, hcolumn] at hmem
    simp at hmem
  · obtain ⟨adopted, rest, hall, hadopted, hrest⟩ := List.map_eq_cons_iff.mp hregistered
    obtain ⟨hname, hfields⟩ := Prod.mk.inj hadopted
    rw [List.map_eq_nil_iff] at hrest
    subst hrest
    refine ⟨adopted, hall, hname, fun he => ?_⟩
    rw [he, hcolumn] at hfields
    simp at hfields

end FrameMarkers.Notebook
