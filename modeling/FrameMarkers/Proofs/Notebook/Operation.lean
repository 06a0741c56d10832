import FrameMarkers.Notebook
import FrameMarkers.Proofs.Effects

namespace FrameMarkers.Notebook

inductive Operation where
  -- Code for the table of a cell, which may be assigned to a variable.
  | process (schema : Schema) (assignment? : Option Assignment)
  | processGroups (keys groups : Schema)
  | register (marker : Marker)

namespace Operation

-- Answers with code for a cell or with accessors.
def step : Operation → Step (Code ⊕ String)
  | .process schema assignment? => Sum.inl <$> Notebook.process schema assignment?
  | .processGroups keys groups => Sum.inl <$> Notebook.processGroups keys groups
  | .register marker => Sum.inr <$> Notebook.register marker

def answer (operation : Operation) (notebook : Notebook) : Except Error (Code ⊕ String) :=
  (operation.step.run notebook).1

def next (operation : Operation) (notebook : Notebook) : Notebook :=
  (operation.step.run notebook).2

-- What operations in turn leave.
def nextAll : List Operation → Notebook → Notebook
  | [], notebook => notebook
  | operation :: rest, notebook => nextAll rest (operation.next notebook)

-- The answers to operations in turn.
def answers : List Operation → Notebook → List (Except Error (Code ⊕ String))
  | [], _ => []
  | operation :: rest, notebook =>
    operation.answer notebook :: answers rest (operation.next notebook)

end Operation

-- The notebooks of a session: what an operation leaves is where the next one starts, also when it
-- has failed.
inductive Reached : Notebook → Prop
  | empty : Reached .empty
  | next {notebook : Notebook} (operation : Operation) :
      Reached notebook → Reached (operation.next notebook)

variable {notebook : Notebook} {schema : Schema} {name : String} {isOpen : Bool}
  {assignment : Assignment} {marker : Marker} {error : Error}

theorem run_generate_ok {generated : Generated}
    (h : FrameMarkers.generate (notebook.options name isOpen) schema = .ok generated) :
    (generate schema name isOpen).run notebook =
      (.ok (cellCode schema generated.code), generated.newMarkers.foldl await notebook) := by
  simp only [generate, run_bind, run_get, run_ofExcept, h, run_set, run_pure]

theorem run_generate_error
    (h : FrameMarkers.generate (notebook.options name isOpen) schema = .error error) :
    (generate schema name isOpen).run notebook = (.error error, notebook) := by
  simp only [generate, run_bind, run_get, run_ofExcept, h]

-- The part of a call before there is anything to generate.
theorem run_process_some :
    (process schema (some assignment)).run notebook =
      match notebook.target? schema assignment (notebook.assigned.contains assignment.name) with
      | none => (.ok .empty, notebook.assign assignment.name)
      | some target => (generate target rootName true).run (notebook.assign assignment.name) := by
  simp only [process, run_bind, run_get, run_set]
  cases notebook.target? schema assignment (notebook.assigned.contains assignment.name) <;> rfl

-- How registering a marker can end.
inductive Entering (notebook : Notebook) (marker : Marker) :
    Except Error (Marker × List Marker) × Notebook → Prop
  | known {existing : Marker} (found : notebook.registered? marker.name = some existing) :
      Entering notebook marker (.ok (existing, []), notebook)
  | declared (unknown : notebook.registered? marker.name = none)
      (fresh : notebook.replaced? marker = none) (valid : marker.validate = .ok ()) :
      Entering notebook marker (.ok (marker, [marker]), notebook.enroll marker)
  | invalid {error : Error} (unknown : notebook.registered? marker.name = none)
      (fresh : notebook.replaced? marker = none) (refused : marker.validate = .error error) :
      Entering notebook marker (.error error, notebook)
  | adopted {pending adopted : Marker} {supers entered : List Marker} {middle : Notebook}
      (unknown : notebook.registered? marker.name = none)
      (replaces : notebook.replaced? marker = some pending)
      (above : (enterAll marker.supers).run notebook = (.ok (supers, entered), middle))
      (made : Marker.make marker.name pending.ownFields supers pending.isOpen .implicitPublic =
        .ok adopted) :
      Entering notebook marker (.ok (adopted, entered),
        (middle.release pending.name).enroll adopted)
  | unmade {pending : Marker} {supers entered : List Marker} {middle : Notebook} {error : Error}
      (unknown : notebook.registered? marker.name = none)
      (replaces : notebook.replaced? marker = some pending)
      (above : (enterAll marker.supers).run notebook = (.ok (supers, entered), middle))
      (refused : Marker.make marker.name pending.ownFields supers pending.isOpen .implicitPublic =
        .error error) :
      Entering notebook marker (.error error, middle)
  | blocked {pending : Marker} {middle : Notebook} {error : Error}
      (unknown : notebook.registered? marker.name = none)
      (replaces : notebook.replaced? marker = some pending)
      (above : (enterAll marker.supers).run notebook = (.error error, middle)) :
      Entering notebook marker (.error error, middle)

theorem run_enter (notebook : Notebook) (marker : Marker) :
    Entering notebook marker ((enter marker).run notebook) := by
  obtain ⟨name, ownFields, supers, isOpen, visibility⟩ := marker
  cases hu : notebook.registered? name with
  | some existing =>
      simp only [enter, run_bind, run_get, hu, run_pure]
      exact .known hu
  | none =>
      cases hr : notebook.replaced? ⟨name, ownFields, supers, isOpen, visibility⟩ with
      | none =>
          simp only [enter, run_bind, run_get, hu, hr, run_ofExcept, run_modify, run_pure]
          cases hv : Marker.validate ⟨name, ownFields, supers, isOpen, visibility⟩ with
          | error error => exact .invalid hu hr hv
          | ok _ => exact .declared hu hr hv
      | some pending =>
          simp only [enter, run_bind, run_get, hu, hr]
          rcases ha : (enterAll supers).run notebook with ⟨error | ⟨markers, entered⟩, middle⟩
          · exact .blocked hu hr ha
          · simp only [run_ofExcept, run_modify, run_pure]
            cases hm : Marker.make name pending.ownFields markers pending.isOpen
              .implicitPublic with
            | error error => exact .unmade hu hr ha hm
            | ok adopted => exact .adopted hu hr ha hm

-- The case and what is known in it leave only one outcome.
theorem Entering.unique {outcome outcome' : Except Error (Marker × List Marker) × Notebook}
    (h : Entering notebook marker outcome) (h' : Entering notebook marker outcome') :
    outcome = outcome' := by
  cases h <;> cases h' <;> grind

theorem run_enter_eq_iff {outcome : Except Error (Marker × List Marker) × Notebook} :
    (enter marker).run notebook = outcome ↔ Entering notebook marker outcome := by
  constructor
  · rintro rfl
    exact run_enter notebook marker
  · exact (run_enter notebook marker).unique

theorem run_enterAll_cons {rest : List Marker} :
    (enterAll (marker :: rest)).run notebook =
      match (enter marker).run notebook with
      | (.ok (found, entered), middle) =>
        match (enterAll rest).run middle with
        | (.ok (markers, others), after) => (.ok (found :: markers, entered ++ others), after)
        | (.error error, after) => (.error error, after)
      | (.error error, middle) => (.error error, middle) := by
  rw [enterAll, run_bind]
  rcases (enter marker).run notebook with ⟨error | ⟨found, entered⟩, middle⟩
  · rfl
  · simp only [run_bind]
    rcases (enterAll rest).run middle with ⟨error | ⟨markers, others⟩, after⟩ <;> rfl

theorem run_enterAll_cons_ok_iff {after : Notebook} {rest found entered : List Marker} :
    (enterAll (marker :: rest)).run notebook = (.ok (found, entered), after) ↔
      ∃ first others entered' entered'' middle,
        (enter marker).run notebook = (.ok (first, entered'), middle) ∧
        (enterAll rest).run middle = (.ok (others, entered''), after) ∧
        found = first :: others ∧ entered = entered' ++ entered'' := by
  rw [run_enterAll_cons]
  constructor
  · intro h
    rcases hfirst : (enter marker).run notebook with ⟨error | ⟨first, entered'⟩, middle⟩
    · rw [hfirst] at h
      cases h
    · rw [hfirst] at h
      rcases hrest : (enterAll rest).run middle with ⟨error | ⟨others, entered''⟩, after⟩
      · simp only [hrest] at h
        cases h
      · simp only [hrest] at h
        cases h
        exact ⟨first, others, entered', entered'', middle, rfl, hrest, rfl, rfl⟩
  · rintro ⟨first, others, entered', entered'', middle, hfirst, hrest, rfl, rfl⟩
    rw [hfirst]
    simp only [hrest]

theorem run_enterAll_cons_error_iff {after : Notebook} {rest : List Marker} :
    (enterAll (marker :: rest)).run notebook = (.error error, after) ↔
      (enter marker).run notebook = (.error error, after) ∨
        ∃ first middle, (enter marker).run notebook = (.ok first, middle) ∧
          (enterAll rest).run middle = (.error error, after) := by
  rw [run_enterAll_cons]
  constructor
  · intro h
    rcases hfirst : (enter marker).run notebook with ⟨error' | ⟨first, entered⟩, middle⟩
    · rw [hfirst] at h
      cases h
      exact .inl rfl
    · rw [hfirst] at h
      rcases hrest : (enterAll rest).run middle with ⟨error' | others, after'⟩
      · simp only [hrest] at h
        cases h
        exact .inr ⟨(first, entered), middle, rfl, hrest⟩
      · simp only [hrest] at h
        cases h
  · rintro (hfirst | ⟨first, middle, hfirst, hrest⟩)
    · rw [hfirst]
    · rw [hfirst]
      simp only [hrest]

theorem run_register (notebook : Notebook) (marker : Marker) :
    (register marker).run notebook =
      match (enter marker).run notebook with
      | (.ok (_, entered), after) =>
        (Marker.declareAll ⟨.short, false⟩ .none true entered, after)
      | (.error error, after) => (.error error, after) := by
  rw [register, run_bind]
  rcases (enter marker).run notebook with ⟨error | ⟨found, entered⟩, after⟩
  · rfl
  · exact run_ofExcept _ _

end FrameMarkers.Notebook
