import FrameMarkers.Proofs.Synthesis.Outcome

namespace FrameMarkers

namespace Scope

-- What is declared for a column of the given type: nothing, the inherited field again with the
-- type, or a new field.
inductive Declares (scope : Scope) (name : String) (column : Column) (type : FieldType) :
    Option Field → Prop where
  | inherited {field : Field} (bound : scope.inherited? name = some field)
      (same : field.type = type) : Declares scope name column type none
  | overridden {field : Field} (bound : scope.inherited? name = some field)
      (differ : field.type ≠ type) :
      Declares scope name column type (some ⟨field.identifier, name, type, true, column⟩)
  | new {identifier : Identifier} (free : scope.inherited? name = none) :
      Declares scope name column type (some ⟨identifier, name, type, false, column⟩)

-- The own fields that are declared for columns of the given types.
inductive Declared (scope : Scope) :
    List (String × Column) → List (String × FieldType) → List Field → Prop where
  | nil : Declared scope [] [] []
  | cons {name : String} {column : Column} {type : FieldType} {field? : Option Field}
      {columns : List (String × Column)} {types : List (String × FieldType)} {fields : List Field}
      (first : scope.Declares name column type field?)
      (rest : Declared scope columns types fields) :
      Declared scope ((name, column) :: columns) ((name, type) :: types) (field?.toList ++ fields)

theorem declares_of_declare {naming : Naming} {scope : Scope} {name : String} {column : Column}
    {type : FieldType} {used used' : NamePool} {field? : Option Field}
    (h : naming.declare scope name column type used = .ok (field?, used')) :
    scope.Declares name column type field? := by
  unfold Naming.declare at h
  split at h
  · rename_i field hb
    split at h
    · rename_i hs
      cases h
      exact .inherited hb hs
    · rename_i hs
      cases h
      exact .overridden hb hs
  · rename_i hf
    cases hi : naming.identify scope name used with
    | error error => simp [hi, bind, Except.bind] at h
    | ok result =>
        simp only [hi, bind, Except.bind, pure, Except.pure, Except.ok.injEq, Prod.mk.injEq] at h
        rw [← h.1]
        exact .new hf

theorem Declares.of_some {scope : Scope} {name : String} {column : Column} {type : FieldType}
    {field : Field} (h : scope.Declares name column type (some field)) :
    field.column = name ∧ field.shape = column ∧ field.type = type := by
  cases h <;> exact ⟨rfl, rfl, rfl⟩

theorem Declares.of_overrides {scope : Scope} {name : String} {column : Column} {type : FieldType}
    {field : Field} (h : scope.Declares name column type (some field))
    (ho : field.overrides = true) :
    ∃ parent, scope.inherited? name = some parent ∧ field.identifier = parent.identifier := by
  cases h with
  | overridden bound _ => exact ⟨_, bound, rfl⟩
  | new _ => simp at ho

variable {scope : Scope} {columns : List (String × Column)} {types : List (String × FieldType)}
  {own : List Field}

theorem Declared.names (h : scope.Declared columns types own) :
    types.map Prod.fst = columns.map Prod.fst := by
  induction h with
  | nil => rfl
  | cons _ _ ih => simp [ih]

theorem Declared.columns_sublist (h : scope.Declared columns types own) :
    (own.map (·.column)).Sublist (columns.map Prod.fst) := by
  induction h with
  | nil => exact List.Sublist.refl _
  | @cons name column type field? _ _ _ first _ ih =>
      cases field? with
      | none => exact ih.cons name
      | some field =>
          simp only [Option.toList, List.singleton_append, List.map_cons, first.of_some.1]
          exact ih.cons_cons name

theorem Declared.of_mem_own (h : scope.Declared columns types own) {field : Field}
    (hf : field ∈ own) :
    (field.column, field.shape) ∈ columns ∧ (field.column, field.type) ∈ types ∧
      scope.Declares field.column field.shape field.type (some field) := by
  induction h with
  | nil => simp at hf
  | @cons name column type field? _ _ _ first _ ih =>
      rcases List.mem_append.mp hf with hf | hf
      · obtain rfl : field? = some field := Option.mem_toList.mp hf
        obtain ⟨rfl, rfl, rfl⟩ := first.of_some
        exact ⟨List.mem_cons_self, List.mem_cons_self, first⟩
      · obtain ⟨hc, ht, hd⟩ := ih hf
        exact ⟨List.mem_cons_of_mem _ hc, List.mem_cons_of_mem _ ht, hd⟩

theorem Declared.find?_own_eq_none (h : scope.Declared columns types own) {name : String}
    (hn : name ∉ columns.map Prod.fst) : own.find? (·.column == name) = none := by
  refine List.find?_eq_none.mpr fun field hf => ?_
  have hm := h.columns_sublist.mem (List.mem_map_of_mem hf)
  simp only [beq_iff_eq]
  rintro rfl
  exact hn hm

-- A column is left to the inherited field that binds it with its type, or has an own field.
theorem Declared.find?_own (h : scope.Declared columns types own)
    (hnodup : (columns.map Prod.fst).Nodup) {name : String} {type : FieldType}
    (ht : (name, type) ∈ types) :
    (own.find? (·.column == name) = none ∧
        ∃ parent, scope.inherited? name = some parent ∧ parent.type = type) ∨
      (∃ field, own.find? (·.column == name) = some field ∧ field.type = type) ∧
        ∀ parent, scope.inherited? name = some parent → parent.type ≠ type := by
  induction h with
  | nil => simp at ht
  | @cons name' column type' field? columns types fields first rest ih =>
      obtain ⟨hnot, hrest⟩ := List.nodup_cons.mp hnodup
      rcases List.mem_cons.mp ht with he | ht
      · cases he
        cases first with
        | inherited bound same =>
            exact .inl ⟨rest.find?_own_eq_none hnot, _, bound, same⟩
        | overridden bound differ =>
            refine .inr ⟨⟨_, List.find?_cons_of_pos (by simp), rfl⟩, fun parent hp => ?_⟩
            rw [bound] at hp
            cases hp
            exact differ
        | new free =>
            refine .inr ⟨⟨_, List.find?_cons_of_pos (by simp), rfl⟩, fun parent hp => ?_⟩
            rw [free] at hp
            contradiction
      · have hne : name' ≠ name := by
          rintro rfl
          have hm : name' ∈ types.map Prod.fst := List.mem_map_of_mem ht
          exact hnot (rest.names ▸ hm)
        have hskip : (field?.toList ++ fields).find? (·.column == name) =
            fields.find? (·.column == name) := by
          cases field? with
          | none => rfl
          | some field =>
              have hcolumn : field.column ≠ name := by rw [first.of_some.1]; exact hne
              exact List.find?_cons_of_neg (by simpa using hcolumn)
        rw [hskip]
        exact ih hrest ht

-- Without inherited fields, every column is declared as a new field.
theorem Declared.of_no_inherited (h : scope.Declared columns types own)
    (hnone : scope.inherited = []) :
    own.map (fun field => (field.column, field.shape)) = columns ∧
      ∀ field ∈ own, field.overrides = false := by
  induction h with
  | nil => exact ⟨rfl, fun _ hm => absurd hm List.not_mem_nil⟩
  | @cons name column type field? _ _ _ first _ ih =>
      cases first with
      | inherited bound _ => simp [inherited?, hnone] at bound
      | overridden bound _ => simp [inherited?, hnone] at bound
      | new _ =>
          refine ⟨by simp [ih.1], fun field hf => ?_⟩
          rcases List.mem_cons.mp hf with rfl | hf
          · rfl
          · exact ih.2 field hf

end Scope

namespace Synthesis

variable {naming : Naming} {proposal : Proposal}

theorem run_ownFields_cons (scope : Scope) (name : String) (column : Column)
    (rest : List (String × Column)) (used : NamePool) (registry : Registry) :
    (ownFields naming proposal scope ((name, column) :: rest) used).run registry =
      match (resolve naming proposal column).run registry with
      | (.error error, later) => (.error error, later)
      | (.ok type, later) =>
        match naming.declare scope name column type used with
        | .error error => (.error error, later)
        | .ok (field?, used) =>
          match (ownFields naming proposal scope rest used).run later with
          | (.error error, after) => (.error error, after)
          | (.ok fields, after) => (.ok (field?.toList ++ fields), after) := by
  simp only [ownFields, run_bind, run_ofExcept]
  rcases (resolve naming proposal column).run registry with ⟨error | type, later⟩
  · rfl
  · dsimp only
    rcases naming.declare scope name column type used with error | ⟨field?, used⟩
    · rfl
    · dsimp only
      rcases (ownFields naming proposal scope rest used).run later with ⟨error | fields, after⟩ <;>
        rfl

-- When the fields are declared for all columns, the first column was resolved and its field
-- declared, and the others followed.
theorem ownFields_cons_ok {scope : Scope} {name : String} {column : Column}
    {rest : List (String × Column)} {used : NamePool} {registry after : Registry} {own : List Field}
    (h : (ownFields naming proposal scope ((name, column) :: rest) used).run registry =
      (.ok own, after)) :
    ∃ type later field? used' fields,
      (resolve naming proposal column).run registry = (.ok type, later) ∧
        naming.declare scope name column type used = .ok (field?, used') ∧
          (ownFields naming proposal scope rest used').run later = (.ok fields, after) ∧
            own = field?.toList ++ fields := by
  rw [run_ownFields_cons] at h
  rcases hr : (resolve naming proposal column).run registry with ⟨error | type, later⟩
  · simp only [hr] at h
    cases h
  · rcases hd : naming.declare scope name column type used with error | ⟨field?, used'⟩
    · simp only [hr, hd] at h
      cases h
    · rcases hf : (ownFields naming proposal scope rest used').run later with
        ⟨error | fields, after'⟩
      · simp only [hr, hd, hf] at h
        cases h
      · simp only [hr, hd, hf] at h
        cases h
        exact ⟨type, later, field?, used', fields, rfl, hd, hf, rfl⟩

-- The columns were then resolved one after the other.
theorem ownFields_ok {scope : Scope} {columns : List (String × Column)} {used : NamePool}
    {registry after : Registry} {own : List Field}
    (h : (ownFields naming proposal scope columns used).run registry = (.ok own, after)) :
    ∃ types, (resolveAll naming proposal columns).run registry = (.ok types, after) ∧
      scope.Declared columns types own := by
  induction columns generalizing used registry own with
  | nil =>
      cases h
      exact ⟨[], rfl, .nil⟩
  | cons entry rest ih =>
      obtain ⟨name, column⟩ := entry
      obtain ⟨type, later, field?, used', fields, hr, hd, hf, rfl⟩ := ownFields_cons_ok h
      obtain ⟨types, ht, hdecl⟩ := ih hf
      refine ⟨(name, type) :: types, ?_, .cons (Scope.declares_of_declare hd) hdecl⟩
      simp only [resolveAll, run_bind, hr, ht, run_pure]

end Synthesis

end FrameMarkers
