import FrameMarkers.Proofs.Notebook.Cells
import FrameMarkers.Proofs.Notebook.Coverage

namespace FrameMarkers.Notebook

structure Sound (notebook : Notebook) : Prop where
  names : (notebook.registered.map (·.name)).Nodup
  valid : ∀ marker ∈ notebook.registered, marker.validate = .ok ()

variable {notebook middle after : Notebook} {marker : Marker} {markers : List Marker}

theorem Sound.enroll (h : notebook.Sound) (valid : marker.validate = .ok ())
    (fresh : ∀ other ∈ notebook.registered, other.name ≠ marker.name) :
    (notebook.enroll marker).Sound := by
  constructor
  · rw [Notebook.enroll, List.map_append]
    exact h.names.append (List.nodup_singleton _) (by simpa using fresh)
  · intro other ho
    rcases List.mem_append.mp ho with ho | ho
    · exact h.valid other ho
    · obtain rfl := List.mem_singleton.mp ho
      exact valid

theorem Sound.congr {other : Notebook} (h : notebook.Sound)
    (he : other.registered = notebook.registered) : other.Sound :=
  ⟨he ▸ h.names, he ▸ h.valid⟩

theorem Sound.release (h : notebook.Sound) (name : String) : (notebook.release name).Sound :=
  h.congr rfl

theorem name_ne_of_unknown (h : notebook.registered? marker.name = none) :
    ∀ other ∈ notebook.registered, other.name ≠ marker.name := by
  intro other ho
  simpa using List.find?_eq_none.mp h other ho

-- The outcome leaves a sound notebook. In a success, what was registered is found or stands above
-- what is found.
inductive Accounted {α : Type} (found : α → List Marker) (before : Notebook) :
    Except Error (α × List Marker) × Notebook → Prop
  | ok {result : α} {entered : List Marker} {after : Notebook} (sound : after.Sound)
      (above : ∀ marker ∈ after.registered,
        marker ∈ before.registered ∨ Marker.Among (found result) marker) :
      Accounted found before (.ok (result, entered), after)
  | error {error : Error} {after : Notebook} (sound : after.Sound) :
      Accounted found before (.error error, after)

theorem Accounted.sound {α : Type} {found : α → List Marker}
    {outcome : Except Error (α × List Marker) × Notebook}
    (h : Accounted found notebook outcome) : outcome.2.Sound := by
  cases h <;> assumption

theorem accounted_enterAll_of
    (h : ∀ marker ∈ markers, ∀ notebook : Notebook, notebook.Sound →
      Accounted (fun found => [found]) notebook ((enter marker).run notebook))
    (hs : notebook.Sound) : Accounted id notebook ((enterAll markers).run notebook) := by
  induction markers generalizing notebook with
  | nil => exact .ok hs fun _ hm => .inl hm
  | cons marker rest ih =>
      have hfirst := h marker List.mem_cons_self notebook hs
      rw [run_enterAll_cons]
      generalize (enter marker).run notebook = outcome at hfirst
      cases hfirst with
      | error sound => exact .error sound
      | @ok first _ middle sound above =>
          have hrest := ih (fun other ho => h other (List.mem_cons_of_mem _ ho)) sound
          simp only
          generalize (enterAll rest).run middle = outcome at hrest
          cases hrest with
          | error sound' => exact .error sound'
          | @ok others _ after sound' above' =>
              refine .ok sound' fun other ho => ?_
              rcases above' other ho with hm | ⟨lower, hl, he⟩
              · refine (above other hm).imp_right ?_
                rintro ⟨lower, hl, he⟩
                rw [List.mem_singleton.mp hl] at he
                exact ⟨first, List.mem_cons_self, he⟩
              · exact .inr ⟨lower, List.mem_cons_of_mem _ hl, he⟩

-- A marker with the name of one that was registered for it stands below that one, so that it is not
-- valid.
theorem name_ne_of_valid (valid : marker.validate = .ok ())
    (unknown : notebook.registered? marker.name = none)
    (above : ∀ other ∈ middle.registered,
      other ∈ notebook.registered ∨ Marker.Among marker.supers other) :
    ∀ other ∈ middle.registered, other.name ≠ marker.name := by
  intro other ho
  rcases above other ho with hm | ⟨lower, hl, he⟩
  · exact name_ne_of_unknown unknown other hm
  · have hacyclic := (Marker.validate_eq_ok.mp valid).1
    simpa using Marker.name_notMem_of_repeatedAbove hacyclic hl he

theorem accounted_enter (marker : Marker) (hs : notebook.Sound) :
    Accounted (fun found => [found]) notebook ((enter marker).run notebook) := by
  induction marker using Marker.supers_induction generalizing notebook with
  | step marker ih =>
      have habove := accounted_enterAll_of (fun upper hu _ => ih upper hu) hs
      have hcase := run_enter notebook marker
      generalize (enter marker).run notebook = outcome at hcase
      cases hcase with
      | known found => exact .ok hs fun _ hm => .inl hm
      | invalid => exact .error hs
      | declared unknown fresh valid =>
          refine .ok (hs.enroll valid (name_ne_of_unknown unknown)) fun other ho => ?_
          refine (List.mem_append.mp ho).imp_right fun hm => ?_
          rw [List.mem_singleton.mp hm]
          exact ⟨marker, List.mem_singleton_self _, .refl marker⟩
      | unmade unknown replaces above refused =>
          rw [above] at habove
          exact .error habove.sound
      | blocked unknown replaces above =>
          rw [above] at habove
          exact .error habove.sound
      | @adopted pending adopted supers entered middle unknown replaces above made =>
          rw [above] at habove
          obtain ⟨rfl, valid⟩ := Marker.make_eq_ok.mp made
          cases habove with
          | ok sound above =>
              have hfresh := name_ne_of_valid valid unknown above
              refine .ok ((sound.release pending.name).enroll valid hfresh) fun other ho => ?_
              rcases List.mem_append.mp ho with hm | hm
              · refine (above other hm).imp_right ?_
                rintro ⟨lower, hl, he⟩
                exact ⟨_, List.mem_singleton_self _, (Marker.Extends.of_mem_supers hl).trans he⟩
              · rw [List.mem_singleton.mp hm]
                exact .inr ⟨_, List.mem_singleton_self _, .refl _⟩

theorem Sound.next (h : notebook.Sound) (operation : Operation) :
    (operation.next notebook).Sound := by
  rcases operation.isCell_or_register with hcell | ⟨marker, rfl⟩
  · exact h.congr (Operation.registered_of_isCell hcell notebook)
  · have haccounted := accounted_enter marker h
    rw [Operation.next, Operation.step, run_map, run_register]
    generalize (enter marker).run notebook = outcome at haccounted
    cases haccounted <;> assumption

theorem Reached.sound (reached : Reached notebook) : notebook.Sound := by
  induction reached with
  | empty => exact ⟨List.nodup_nil, fun _ hm => nomatch hm⟩
  | next operation _ ih => exact ih.next operation

theorem registered_prefix_next (notebook : Notebook) (operation : Operation) :
    notebook.registered <+: (operation.next notebook).registered := by
  rcases operation.isCell_or_register with hcell | ⟨marker, rfl⟩
  · have hsame := Operation.registered_of_isCell hcell notebook
    exact ⟨[], (List.append_nil _).trans hsame.symm⟩
  · have hlog := logged_enter marker notebook
    rw [Operation.next, Operation.step, run_map, run_register]
    generalize (enter marker).run notebook = outcome at hlog
    cases hlog with
    | ok log | error log =>
        obtain ⟨new, hnew, -⟩ := log.exists_new
        exact ⟨new, hnew.symm⟩

-- Also of operations that fail, and of several in turn.
theorem registered_prefix (notebook : Notebook) (operations : List Operation) :
    notebook.registered <+: (Operation.nextAll operations notebook).registered := by
  induction operations generalizing notebook with
  | nil => exact List.prefix_rfl
  | cons operation rest ih =>
      exact (notebook.registered_prefix_next operation).trans (ih (operation.next notebook))

theorem registered_accumulate (reached : Reached notebook) :
    (notebook.registered.map (·.name)).Nodup ∧
      (∀ marker ∈ notebook.registered, marker.validate = .ok ()) ∧
      ∀ operations : List Operation,
        notebook.registered <+: (Operation.nextAll operations notebook).registered :=
  ⟨reached.sound.names, reached.sound.valid, notebook.registered_prefix⟩

theorem reached_agesNotebook : Reached agesNotebook :=
  .next _ (.next _ .empty)

-- A cell fails before the marker of an earlier one is compiled, with another marker above it.
def agesOperations : List Operation :=
  [unnamedCell, .register agesMarker]

theorem registered_accumulate_ages :
    Reached agesNotebook ∧
      agesNotebook.registered <+: (Operation.nextAll agesOperations agesNotebook).registered ∧
      (Operation.nextAll agesOperations agesNotebook).registered.map (·.name) =
        ["Base", "app.Base", "Line_1._DataFrameType"] :=
  ⟨reached_agesNotebook, (registered_accumulate reached_agesNotebook).2.2 _, by decide +kernel⟩

end FrameMarkers.Notebook
