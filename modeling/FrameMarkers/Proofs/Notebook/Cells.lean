import FrameMarkers.Proofs.Notebook.Traces

namespace FrameMarkers.Notebook

variable {notebook : Notebook} {schema : Schema} {name : String} {isOpen : Bool}

-- The markers that are made for the schema, none if there is no code for it.
def newMarkers (notebook : Notebook) (schema : Schema) (name : String) (isOpen : Bool) :
    List Marker :=
  match FrameMarkers.generate (notebook.options name isOpen) schema with
  | .error _ => []
  | .ok generated => generated.newMarkers

theorem newMarkers_of_ok {generated : Generated}
    (h : FrameMarkers.generate (notebook.options name isOpen) schema = .ok generated) :
    notebook.newMarkers schema name isOpen = generated.newMarkers := by
  rw [newMarkers, h]

theorem newMarkers_of_error {error : Error}
    (h : FrameMarkers.generate (notebook.options name isOpen) schema = .error error) :
    notebook.newMarkers schema name isOpen = [] := by
  rw [newMarkers, h]

theorem next_generate (notebook : Notebook) (schema : Schema) (name : String) (isOpen : Bool) :
    ((generate schema name isOpen).run notebook).2 =
      (notebook.newMarkers schema name isOpen).foldl await notebook := by
  cases hg : FrameMarkers.generate (notebook.options name isOpen) schema with
  | error error => rw [run_generate_error hg, newMarkers_of_error hg, List.foldl_nil]
  | ok generated => rw [run_generate_ok hg, newMarkers_of_ok hg]

theorem newMarkers_congr {other : Notebook} (h : notebook.registered = other.registered) :
    notebook.newMarkers schema name isOpen = other.newMarkers schema name isOpen := by
  rw [newMarkers, newMarkers, options, options, h]

theorem newMarkers_names (notebook : Notebook) (schema : Schema) (name : String) (isOpen : Bool) :
    ((notebook.newMarkers schema name isOpen).map (·.name)).Nodup ∧
      ∀ marker ∈ notebook.newMarkers schema name isOpen, NamePool.Derived name marker.name := by
  cases hg : FrameMarkers.generate (notebook.options name isOpen) schema with
  | error error => simp [newMarkers_of_error hg]
  | ok generated =>
      rw [newMarkers_of_ok hg]
      obtain ⟨-, root, markers, blocks, hs, -, rfl⟩ := generate_eq_ok_iff.mp hg
      exact GenerationOptions.names_of_synthesize hs

theorem newMarkers_valid {marker : Marker} (h : marker ∈ notebook.newMarkers schema name isOpen) :
    marker.validate = .ok () := by
  cases hg : FrameMarkers.generate (notebook.options name isOpen) schema with
  | error error =>
      rw [newMarkers_of_error hg] at h
      cases h
  | ok generated =>
      rw [newMarkers_of_ok hg] at h
      obtain ⟨-, root, markers, blocks, hs, -, rfl⟩ := generate_eq_ok_iff.mp hg
      exact GenerationOptions.valid_of_synthesize hs marker h

-- One name is always used first: every schema that needs new markers gets a marker of that name.
theorem exists_first_name (registered : List Marker) (name : String) :
    ∃ first, ∀ (notebook : Notebook) (schema : Schema) (isOpen : Bool),
      notebook.registered = registered → notebook.newMarkers schema name isOpen ≠ [] →
        ∃ marker ∈ notebook.newMarkers schema name isOpen, marker.name = first := by
  cases hopened : Registry.ofKnown registered with
  | error error =>
      refine ⟨name, ?_⟩
      rintro notebook schema isOpen rfl hne
      cases hg : FrameMarkers.generate (notebook.options name isOpen) schema with
      | error error' => exact absurd (newMarkers_of_error hg) hne
      | ok generated =>
          obtain ⟨-, root, markers, blocks, hs, -, rfl⟩ := generate_eq_ok_iff.mp hg
          obtain ⟨start, _, hstart, -⟩ := GenerationOptions.exists_session hs
          simp [options, hopened] at hstart
  | ok start =>
      refine ⟨(start.allocate name).1, ?_⟩
      rintro notebook schema isOpen rfl hne
      cases hg : FrameMarkers.generate (notebook.options name isOpen) schema with
      | error error => exact absurd (newMarkers_of_error hg) hne
      | ok generated =>
          rw [newMarkers_of_ok hg] at hne ⊢
          obtain ⟨-, root, markers, blocks, hs, -, rfl⟩ := generate_eq_ok_iff.mp hg
          exact ⟨root, GenerationOptions.root_of_synthesize hopened hs hne⟩

@[simp]
theorem registered_foldl_await (markers : List Marker) (notebook : Notebook) :
    (markers.foldl await notebook).registered = notebook.registered := by
  induction markers generalizing notebook with
  | nil => rfl
  | cons marker rest ih => exact ih (notebook.await marker)

namespace Operation

-- The operation is a cell, for which there is code to compile.
def IsCell : Operation → Prop
  | .process _ _ => True
  | .processGroups _ _ => True
  | .register _ => False

theorem isCell_or_register (operation : Operation) :
    operation.IsCell ∨ ∃ marker, operation = .register marker := by
  cases operation with
  | process | processGroups => exact .inl trivial
  | register marker => exact .inr ⟨marker, rfl⟩

-- The variable of the cell is noted before anything is made.
def noted (notebook : Notebook) : Operation → Notebook
  | .process _ (some assignment) => notebook.assign assignment.name
  | _ => notebook

-- The markers that the operation makes, also if it fails later.
def makes (notebook : Notebook) : Operation → List Marker
  | .process schema none => notebook.newMarkers schema rootName true
  | .process schema (some assignment) =>
    match notebook.target? schema assignment (notebook.assigned.contains assignment.name) with
    | none => []
    | some target => notebook.newMarkers target rootName true
  | .processGroups keys groups =>
    match FrameMarkers.generate notebook.keyOptions keys with
    | .error _ => []
    | .ok generated =>
      generated.newMarkers ++ notebook.newMarkers groups (rootName ++ "Groups") false
  | .register _ => []

variable {operation : Operation}

@[simp]
theorem registered_noted (notebook : Notebook) (operation : Operation) :
    (operation.noted notebook).registered = notebook.registered := by
  cases operation with
  | process schema assignment? =>
      cases assignment? with
      | none => rfl
      | some assignment => exact registered_assign notebook assignment.name
  | processGroups | register => rfl

@[simp]
theorem pending_noted (notebook : Notebook) (operation : Operation) :
    (operation.noted notebook).pending = notebook.pending := by
  cases operation with
  | process schema assignment? =>
      cases assignment? with
      | none => rfl
      | some assignment =>
          rw [noted, assign]
          split <;> rfl
  | processGroups | register => rfl

theorem next_process (notebook : Notebook) (schema : Schema) (assignment? : Option Assignment) :
    ((Notebook.process schema assignment?).run notebook).2 =
      ((Operation.process schema assignment?).makes notebook).foldl await
        ((Operation.process schema assignment?).noted notebook) := by
  cases assignment? with
  | none => exact next_generate notebook schema rootName true
  | some assignment =>
      rw [run_process_some, makes, noted]
      cases notebook.target? schema assignment (notebook.assigned.contains assignment.name) with
      | none => rfl
      | some target =>
          simp only
          rw [next_generate, newMarkers_congr (registered_assign notebook assignment.name)]

theorem next_processGroups (notebook : Notebook) (keys groups : Schema) :
    ((Notebook.processGroups keys groups).run notebook).2 =
      ((Operation.processGroups keys groups).makes notebook).foldl await notebook := by
  rw [Notebook.processGroups, run_bind, makes]
  cases hk : FrameMarkers.generate notebook.keyOptions keys with
  | error error =>
      rw [run_generate_error hk]
      rfl
  | ok generated =>
      rw [run_generate_ok hk]
      have hgroups := next_generate (generated.newMarkers.foldl await notebook) groups
        (rootName ++ "Groups") false
      rw [newMarkers_congr (registered_foldl_await _ _), ← List.foldl_append] at hgroups
      simp only [run_bind]
      rw [← hgroups]
      rcases (Notebook.generate groups (rootName ++ "Groups") false).run
        (generated.newMarkers.foldl await notebook) with ⟨error | code, after⟩ <;> rfl

theorem next_of_isCell (h : operation.IsCell) (notebook : Notebook) :
    operation.next notebook =
      (operation.makes notebook).foldl await (operation.noted notebook) := by
  cases operation with
  | process schema assignment? =>
      rw [next, step, run_map]
      exact next_process notebook schema assignment?
  | processGroups keys groups =>
      rw [next, step, run_map]
      exact next_processGroups notebook keys groups
  | register => exact h.elim

theorem registered_of_isCell (h : operation.IsCell) (notebook : Notebook) :
    (operation.next notebook).registered = notebook.registered := by
  rw [next_of_isCell h, registered_foldl_await, registered_noted]

-- The names differ in the first letter behind the common part.
theorem keys_ne_groups {name other : String} (h : NamePool.Derived (rootName ++ "Keys") name)
    (h' : NamePool.Derived (rootName ++ "Groups") other) : name ≠ other := by
  obtain ⟨digits, -, hname⟩ := h.exists_digits
  obtain ⟨digits', -, hother⟩ := h'.exists_digits
  rintro rfl
  rw [hname] at hother
  have hletter := congrArg (·[14]?) hother
  simp [rootName] at hletter

theorem nodup_makes (notebook : Notebook) (operation : Operation) :
    ((operation.makes notebook).map (·.name)).Nodup := by
  cases operation with
  | process schema assignment? =>
      cases assignment? with
      | none => exact (newMarkers_names ..).1
      | some assignment =>
          rw [makes]
          split
          · exact List.nodup_nil
          · exact (newMarkers_names ..).1
  | processGroups keys groups =>
      rw [makes]
      split
      case h_1 => exact List.nodup_nil
      case h_2 generated hk =>
        have hkeys := newMarkers_names notebook keys (rootName ++ "Keys") false
        have hgroups := newMarkers_names notebook groups (rootName ++ "Groups") false
        rw [newMarkers_of_ok hk] at hkeys
        rw [List.map_append]
        refine hkeys.1.append hgroups.1 fun name hm hm' => ?_
        obtain ⟨marker, hmarker, rfl⟩ := List.mem_map.mp hm
        obtain ⟨other, hother, he⟩ := List.mem_map.mp hm'
        exact keys_ne_groups (hkeys.2 marker hmarker) (hgroups.2 other hother) he.symm
  | register => exact List.nodup_nil

theorem makes_valid {marker : Marker} (h : marker ∈ operation.makes notebook) :
    marker.validate = .ok () := by
  cases operation with
  | process schema assignment? =>
      cases assignment? with
      | none => exact newMarkers_valid h
      | some assignment =>
          rw [makes] at h
          split at h
          · cases h
          · exact newMarkers_valid h
  | processGroups keys groups =>
      rw [makes] at h
      split at h
      case h_1 => cases h
      case h_2 generated hk =>
        rw [← newMarkers_of_ok hk] at h
        exact (List.mem_append.mp h).elim newMarkers_valid newMarkers_valid
  | register => cases h

theorem pending?_of_isCell (h : operation.IsCell) (notebook : Notebook) (name : String) :
    (operation.next notebook).pending? name =
      ((operation.makes notebook).find? (·.name == name)).or (notebook.pending? name) := by
  obtain ⟨hmade, hother⟩ :=
    @pending?_foldl_await (operation.noted notebook) _ (operation.nodup_makes notebook)
  rw [next_of_isCell h]
  cases hf : (operation.makes notebook).find? (·.name == name) with
  | none =>
      rw [hother, pending?, pending_noted, ← pending?, Option.none_or]
      intro hm
      obtain ⟨marker, hmarker, rfl⟩ := List.mem_map.mp hm
      simpa using List.find?_eq_none.mp hf marker hmarker
  | some marker =>
      have hname := List.find?_some hf
      rw [← beq_iff_eq.mp hname, hmade marker (List.mem_of_find?_eq_some hf), Option.some_or]

end Operation

end FrameMarkers.Notebook
