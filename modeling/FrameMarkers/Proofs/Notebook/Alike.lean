import FrameMarkers.Proofs.Marker.Inheritance
import FrameMarkers.Proofs.Notebook.Operation

namespace FrameMarkers.Notebook

structure Alike (notebook other : Notebook) : Prop where
  assigned : ∀ name, name ∈ notebook.assigned ↔ name ∈ other.assigned
  registered : notebook.registered = other.registered
  pending : ∀ name, notebook.pending? name = other.pending? name

theorem mem_assign {notebook : Notebook} {name assigned : String} :
    name ∈ (notebook.assign assigned).assigned ↔ name = assigned ∨ name ∈ notebook.assigned := by
  unfold assign
  split
  case isTrue h => exact (or_iff_right_of_imp fun he => he ▸ h).symm
  case isFalse => exact List.mem_cons

@[simp]
theorem registered_assign (notebook : Notebook) (name : String) :
    (notebook.assign name).registered = notebook.registered := by
  unfold assign
  split <;> rfl

@[simp]
theorem pending?_assign (notebook : Notebook) (assigned name : String) :
    (notebook.assign assigned).pending? name = notebook.pending? name := by
  unfold assign
  split <;> rfl

theorem pending?_release (notebook : Notebook) (released name : String) :
    (notebook.release released).pending? name =
      if name = released then none else notebook.pending? name := by
  simp only [pending?, release, List.find?_filter]
  split
  case isTrue h =>
    subst h
    simp [List.find?_eq_none]
  case isFalse h =>
    congr 1
    funext marker
    by_cases hn : marker.name = name <;> simp [hn, h]

theorem pending?_await (notebook : Notebook) (marker : Marker) (name : String) :
    (notebook.await marker).pending? name =
      if name = marker.name then some marker else notebook.pending? name := by
  have hrest := notebook.pending?_release marker.name name
  simp only [pending?, release] at hrest
  simp only [pending?, await, List.find?_cons, hrest]
  by_cases hn : name = marker.name
  · simp [hn]
  · simp [hn, beq_eq_false_iff_ne.mpr (Ne.symm hn)]

namespace Alike

variable {notebook other : Notebook}

theorem refl (notebook : Notebook) : notebook.Alike notebook :=
  ⟨fun _ => .rfl, rfl, fun _ => rfl⟩

theorem of_eq (h : notebook = other) : notebook.Alike other :=
  h ▸ .refl notebook

theorem trans {third : Notebook} (h : notebook.Alike other) (h' : other.Alike third) :
    notebook.Alike third :=
  ⟨fun name => (h.assigned name).trans (h'.assigned name), h.registered.trans h'.registered,
    fun name => (h.pending name).trans (h'.pending name)⟩

theorem assign (h : notebook.Alike other) (name : String) :
    (notebook.assign name).Alike (other.assign name) where
  assigned := fun _ => by rw [mem_assign, mem_assign, h.assigned]
  registered := by rw [registered_assign, registered_assign, h.registered]
  pending := fun _ => by rw [pending?_assign, pending?_assign, h.pending]

theorem await (h : notebook.Alike other) (marker : Marker) :
    (notebook.await marker).Alike (other.await marker) :=
  ⟨h.assigned, h.registered, fun name => by rw [pending?_await, pending?_await, h.pending]⟩

theorem foldl_await (h : notebook.Alike other) (markers : List Marker) :
    (markers.foldl Notebook.await notebook).Alike (markers.foldl Notebook.await other) := by
  induction markers generalizing notebook other with
  | nil => exact h
  | cons marker rest ih => exact ih (h.await marker)

theorem release (h : notebook.Alike other) (name : String) :
    (notebook.release name).Alike (other.release name) :=
  ⟨h.assigned, h.registered, fun _ => by rw [pending?_release, pending?_release, h.pending]⟩

theorem enroll (h : notebook.Alike other) (marker : Marker) :
    (notebook.enroll marker).Alike (other.enroll marker) :=
  ⟨h.assigned, congrArg (· ++ [marker]) h.registered, h.pending⟩

theorem registered?_eq (h : notebook.Alike other) (name : String) :
    notebook.registered? name = other.registered? name := by
  rw [registered?, registered?, h.registered]

theorem replaced?_eq (h : notebook.Alike other) (marker : Marker) :
    notebook.replaced? marker = other.replaced? marker := by
  rw [replaced?, replaced?, h.pending]

theorem options_eq (h : notebook.Alike other) (name : String) (isOpen : Bool) :
    notebook.options name isOpen = other.options name isOpen := by
  rw [options, options, h.registered]

theorem target?_eq (h : notebook.Alike other) (schema : Schema) (assignment : Assignment)
    (before : Bool) :
    notebook.target? schema assignment before = other.target? schema assignment before := by
  have hregistered := h.registered
  cases notebook
  cases other
  cases hregistered
  rfl

end Alike

variable {notebook : Notebook}

theorem alike_assign_iff {name : String} :
    (notebook.assign name).Alike notebook ↔ name ∈ notebook.assigned := by
  constructor
  · intro h
    exact (h.assigned name).mp (mem_assign.mpr (.inl rfl))
  · intro hm
    rw [assign, if_pos hm]
    exact .refl notebook

theorem alike_await {marker : Marker} (h : notebook.pending? marker.name = some marker) :
    (notebook.await marker).Alike notebook := by
  refine ⟨fun _ => .rfl, rfl, fun name => ?_⟩
  rw [pending?_await]
  split
  case isTrue hn => rw [hn, h]
  case isFalse => rfl

theorem pending?_foldl_await {markers : List Marker} (h : (markers.map (·.name)).Nodup) :
    (∀ marker ∈ markers, (markers.foldl await notebook).pending? marker.name = some marker) ∧
      ∀ name ∉ markers.map (·.name),
        (markers.foldl await notebook).pending? name = notebook.pending? name := by
  induction markers generalizing notebook with
  | nil =>
      refine ⟨?_, fun _ _ => rfl⟩
      rintro _ ⟨⟩
  | cons marker rest ih =>
      rw [List.map_cons, List.nodup_cons] at h
      obtain ⟨hmem, hother⟩ := @ih (notebook.await marker) h.2
      refine ⟨fun other hm => ?_, fun name hn => ?_⟩
      · rcases List.mem_cons.mp hm with rfl | hm
        · rw [List.foldl_cons, hother _ h.1, pending?_await, if_pos rfl]
        · exact hmem other hm
      · rw [List.map_cons, List.mem_cons, not_or] at hn
        rw [List.foldl_cons, hother _ hn.2, pending?_await, if_neg hn.1]

-- Markers of different names change nothing exactly if they are pending already.
theorem alike_foldl_await_iff {markers : List Marker} (h : (markers.map (·.name)).Nodup) :
    (markers.foldl await notebook).Alike notebook ↔
      ∀ marker ∈ markers, notebook.pending? marker.name = some marker := by
  constructor
  · intro ha marker hm
    rw [← ha.pending]
    exact (pending?_foldl_await h).1 marker hm
  · clear h
    induction markers with
    | nil => exact fun _ => .refl notebook
    | cons marker rest ih =>
        intro hall
        have hfirst := alike_await (hall marker List.mem_cons_self)
        exact (hfirst.foldl_await rest).trans
          (ih fun other hm => hall other (List.mem_cons_of_mem _ hm))

-- The same result, in notebooks that are alike.
structure Agree {α : Type} (outcome outcome' : Except Error α × Notebook) : Prop where
  result : outcome.1 = outcome'.1
  notebook : outcome.2.Alike outcome'.2

theorem Agree.exists_next {α : Type} {result : Except Error α} {next : Notebook}
    {outcome : Except Error α × Notebook} (h : Agree (result, next) outcome) :
    ∃ next', outcome = (result, next') ∧ next.Alike next' :=
  ⟨outcome.2, Prod.ext h.result.symm rfl, h.notebook⟩

-- The step does not tell apart notebooks that are alike.
def Respects {α : Type} (step : Step α) : Prop :=
  ∀ notebook other, Alike notebook other → Agree (step.run notebook) (step.run other)

namespace Respects

variable {α β : Type} {step : Step α}

theorem ofResult (result : Except Error α) : Respects (MonadExcept.ofExcept result) := by
  intro notebook other alike
  rw [run_ofExcept, run_ofExcept]
  exact ⟨rfl, alike⟩

theorem bind {f : α → Step β} (h : Respects step) (hf : ∀ a, Respects (f a)) :
    Respects (step >>= f) := by
  intro notebook other alike
  have hagree := h notebook other alike
  rw [run_bind, run_bind]
  generalize step.run notebook = outcome at hagree
  obtain ⟨result, next⟩ := outcome
  obtain ⟨next', hnext', hnext⟩ := hagree.exists_next
  rw [hnext']
  cases result with
  | error error => exact ⟨rfl, hnext⟩
  | ok a => exact hf a next next' hnext

theorem map (f : α → β) (h : Respects step) : Respects (f <$> step) := by
  intro notebook other alike
  obtain ⟨hresult, hnext⟩ := h notebook other alike
  rw [run_map, run_map, hresult]
  exact ⟨rfl, hnext⟩

theorem generate (schema : Schema) (name : String) (isOpen : Bool) :
    Respects (generate schema name isOpen) := by
  intro notebook other alike
  cases hg : FrameMarkers.generate (notebook.options name isOpen) schema with
  | error error =>
      have hg' := hg
      rw [alike.options_eq] at hg'
      rw [run_generate_error hg, run_generate_error hg']
      exact ⟨rfl, alike⟩
  | ok generated =>
      have hg' := hg
      rw [alike.options_eq] at hg'
      rw [run_generate_ok hg, run_generate_ok hg']
      exact ⟨rfl, alike.foldl_await _⟩

theorem process (schema : Schema) (assignment? : Option Assignment) :
    Respects (process schema assignment?) := by
  cases assignment? with
  | none => exact generate schema rootName true
  | some assignment =>
      intro notebook other alike
      have hbefore : notebook.assigned.contains assignment.name =
          other.assigned.contains assignment.name := by
        rw [Bool.eq_iff_iff, List.contains_iff_mem, List.contains_iff_mem, alike.assigned]
      rw [run_process_some, run_process_some, alike.target?_eq, hbefore]
      cases other.target? schema assignment (other.assigned.contains assignment.name) with
      | none => exact ⟨rfl, alike.assign _⟩
      | some target => exact generate target rootName true _ _ (alike.assign _)

theorem enterAll {markers : List Marker} (h : ∀ marker ∈ markers, Respects (enter marker)) :
    Respects (enterAll markers) := by
  induction markers with
  | nil => exact ofResult (.ok ([], []))
  | cons marker rest ih =>
      rw [Notebook.enterAll]
      refine (h marker List.mem_cons_self).bind fun _ => ?_
      refine (ih fun other hm => h other (List.mem_cons_of_mem _ hm)).bind fun _ => ?_
      exact ofResult (.ok _)

-- The same case on both sides.
theorem enter (marker : Marker) : Respects (enter marker) := by
  induction marker using Marker.supers_induction with
  | step marker ih =>
      intro notebook other alike
      have hagree := enterAll ih notebook other alike
      have hregistered := alike.registered?_eq marker.name
      have hreplaced := alike.replaced?_eq marker
      have hcase := run_enter notebook marker
      generalize (Notebook.enter marker).run notebook = outcome at hcase
      cases hcase with
      | known found =>
          rw [hregistered] at found
          rw [run_enter_eq_iff.mpr (.known found)]
          exact ⟨rfl, alike⟩
      | declared unknown fresh valid =>
          rw [hregistered] at unknown
          rw [hreplaced] at fresh
          rw [run_enter_eq_iff.mpr (.declared unknown fresh valid)]
          exact ⟨rfl, alike.enroll marker⟩
      | invalid unknown fresh refused =>
          rw [hregistered] at unknown
          rw [hreplaced] at fresh
          rw [run_enter_eq_iff.mpr (.invalid unknown fresh refused)]
          exact ⟨rfl, alike⟩
      | adopted unknown replaces above made =>
          rw [hregistered] at unknown
          rw [hreplaced] at replaces
          rw [above] at hagree
          obtain ⟨next, above', hnext⟩ := hagree.exists_next
          rw [run_enter_eq_iff.mpr (.adopted unknown replaces above' made)]
          exact ⟨rfl, (hnext.release _).enroll _⟩
      | unmade unknown replaces above refused =>
          rw [hregistered] at unknown
          rw [hreplaced] at replaces
          rw [above] at hagree
          obtain ⟨next, above', hnext⟩ := hagree.exists_next
          rw [run_enter_eq_iff.mpr (.unmade unknown replaces above' refused)]
          exact ⟨rfl, hnext⟩
      | blocked unknown replaces above =>
          rw [hregistered] at unknown
          rw [hreplaced] at replaces
          rw [above] at hagree
          obtain ⟨next, above', hnext⟩ := hagree.exists_next
          rw [run_enter_eq_iff.mpr (.blocked unknown replaces above')]
          exact ⟨rfl, hnext⟩

end Respects

namespace Operation

theorem respects_step (operation : Operation) : Respects operation.step := by
  cases operation with
  | process schema assignment? => exact (Respects.process schema assignment?).map _
  | processGroups keys groups =>
      refine Respects.map _ ((Respects.generate keys _ _).bind fun _ => ?_)
      exact (Respects.generate groups _ _).bind fun _ => .ofResult (.ok _)
  | register marker => exact .map _ ((Respects.enter marker).bind fun _ => .ofResult _)

variable {notebook other : Notebook}

theorem answers_eq (h : notebook.Alike other) (operations : List Operation) :
    answers operations notebook = answers operations other := by
  induction operations generalizing notebook other with
  | nil => rfl
  | cons operation rest ih =>
      obtain ⟨hanswer, hnext⟩ := operation.respects_step notebook other h
      exact congrArg₂ List.cons hanswer (ih hnext)

end Operation

end FrameMarkers.Notebook
