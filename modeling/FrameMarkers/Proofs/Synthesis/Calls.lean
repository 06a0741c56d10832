import FrameMarkers.Proofs.Synthesis.Induction

namespace FrameMarkers.Synthesis

-- The declaration of the columns comes to the one of that name, on the registry `start` and with
-- the identifiers `last` in use.
inductive Arrives (naming : Naming) (proposal : Proposal) (scope : Scope) :
    List (String × Column) → NamePool → Registry → String → Column → NamePool → Registry →
      Prop where
  | here {name : String} {column : Column} {rest : List (String × Column)} {used : NamePool}
      {registry : Registry} :
      Arrives naming proposal scope ((name, column) :: rest) used registry name column used registry
  | later {name name' : String} {column column' : Column} {rest : List (String × Column)}
      {type : FieldType} {field? : Option Field} {used used' last : NamePool}
      {registry next start : Registry}
      (resolved : (resolve naming proposal column).run registry = (.ok type, next))
      (declared : naming.declare scope name column type used = .ok (field?, used'))
      (arrives : Arrives naming proposal scope rest used' next name' column' last start) :
      Arrives naming proposal scope ((name, column) :: rest) used registry name' column' last start

-- The call for the schema on the registry `before` comes to the column: it has not found a marker,
-- and declares the fields of a new one.
def Declares (naming : Naming) (proposal : Proposal) (schema : Schema) (before : Registry)
    (name : String) (column : Column) (used : NamePool) (start : Registry) : Prop :=
  before.choice? schema = none ∧
    before.reusable? schema (before.required schema) proposal.isOpen = none ∧
    Arrives naming proposal (newScope proposal schema before) schema.entries
      (newScope proposal schema before).identifiers (before.allocate proposal.name).2
      name column used start

-- The call for the schema on the registry `before` is, or makes, the call for the inner schema on
-- the registry `start`.
inductive Calls (naming : Naming) (proposal : Proposal) :
    Schema → Registry → Schema → Registry → Prop where
  | self {schema : Schema} {before : Registry} : Calls naming proposal schema before schema before
  | nested {schema nested inner : Schema} {before middle start : Registry} {name : String}
      {column : Column} {used : NamePool}
      (declares : Declares naming proposal schema before name column used middle)
      (holds : column.nested? = some nested)
      (calls : Calls naming proposal nested middle inner start) :
      Calls naming proposal schema before inner start

-- The call for the schema fails by itself: a column cannot be declared, or no valid marker has the
-- own fields.
inductive Fails (naming : Naming) (proposal : Proposal) (schema : Schema) (before : Registry)
    (error : Error) : Prop where
  | unnamed {name : String} {column : Column} {type : FieldType} {used : NamePool}
      {start next : Registry}
      (declares : Declares naming proposal schema before name column used start)
      (resolved : (resolve naming proposal column).run start = (.ok type, next))
      (refused : naming.declare (newScope proposal schema before) name column type used =
        .error error) :
      Fails naming proposal schema before error
  | invalid {own : List Field} {within : Registry} (unseen : before.choice? schema = none)
      (unmet : before.reusable? schema (before.required schema) proposal.isOpen = none)
      (fields : runFields naming proposal schema before = (.ok own, within))
      (refused : Marker.make (before.allocate proposal.name).1 own
        (Marker.leaves (before.required schema)) proposal.isOpen proposal.visibility =
          .error error) :
      Fails naming proposal schema before error

variable {naming : Naming} {proposal : Proposal} {scope : Scope}
  {columns : List (String × Column)} {used last : NamePool} {registry start before : Registry}
  {name : String} {column : Column} {schema nested inner : Schema} {error : Error}

theorem Arrives.mem
    (h : Arrives naming proposal scope columns used registry name column last start) :
    (name, column) ∈ columns := by
  induction h with
  | here => exact List.mem_cons_self
  | later _ _ _ ih => exact List.mem_cons_of_mem _ ih

theorem Declares.nests (h : Declares naming proposal schema before name column used start)
    (hn : column.nested? = some nested) : schema.Nests nested :=
  ⟨name, column, h.2.2.mem, hn⟩

theorem resolve_error_iff :
    ((resolve naming proposal column).run registry).1 = .error error ↔
      ∃ nested, column.nested? = some nested ∧
        ((process naming proposal nested).run registry).1 = .error error := by
  cases hn : column.nested? with
  | none => simp [run_resolve_of_value hn]
  | some nested =>
      rw [resolve_of_nested naming proposal hn, run_bind_error_iff]
      simp [run_pure]

theorem ownFields_cons_error_iff :
    ((ownFields naming proposal scope ((name, column) :: columns) used).run registry).1 =
        .error error ↔
      ((resolve naming proposal column).run registry).1 = .error error ∨
        ∃ type next, (resolve naming proposal column).run registry = (.ok type, next) ∧
          (naming.declare scope name column type used = .error error ∨
            ∃ field? used', naming.declare scope name column type used = .ok (field?, used') ∧
              ((ownFields naming proposal scope columns used').run next).1 = .error error) := by
  rw [ownFields, run_bind_error_iff]
  refine or_congr_right ?_
  refine exists_congr fun type => exists_congr fun next => and_congr_right fun _ => ?_
  rw [run_bind_error_iff]
  rw [run_ofExcept]
  refine or_congr_right ⟨?_, ?_⟩
  · rintro ⟨⟨field?, used'⟩, later, he, h⟩
    obtain ⟨hd, rfl⟩ := Prod.mk.inj he
    simp only [run_bind_error_iff, run_pure, reduceCtorEq, and_false, exists_false, or_false] at h
    exact ⟨field?, used', hd, h⟩
  · rintro ⟨field?, used', hd, h⟩
    rw [hd]
    exact ⟨(field?, used'), next, rfl, run_bind_error_iff.mpr (.inl h)⟩

-- The declaration of the columns stops at the first one that cannot be resolved or declared.
theorem ownFields_error_iff :
    ((ownFields naming proposal scope columns used).run registry).1 = .error error ↔
      ∃ name column last start,
        Arrives naming proposal scope columns used registry name column last start ∧
          (((resolve naming proposal column).run start).1 = .error error ∨
            ∃ type next, (resolve naming proposal column).run start = (.ok type, next) ∧
              naming.declare scope name column type last = .error error) := by
  induction columns generalizing used registry with
  | nil =>
      simp only [ownFields, run_pure, reduceCtorEq, false_iff]
      rintro ⟨_, _, _, _, harrives, -⟩
      cases harrives
  | cons entry rest ih =>
      obtain ⟨name, column⟩ := entry
      rw [ownFields_cons_error_iff]
      constructor
      · rintro (hr | ⟨type, next, hr, hd | ⟨field?, used', hd, hrest⟩⟩)
        · exact ⟨name, column, used, registry, .here, .inl hr⟩
        · exact ⟨name, column, used, registry, .here, .inr ⟨type, next, hr, hd⟩⟩
        · obtain ⟨name', column', last, start, harrives, hstop⟩ := ih.mp hrest
          exact ⟨name', column', last, start, .later hr hd harrives, hstop⟩
      · rintro ⟨name', column', last, start, harrives, hstop⟩
        cases harrives with
        | here =>
            rcases hstop with hr | ⟨type, next, hr, hd⟩
            · exact .inl hr
            · exact .inr ⟨type, next, hr, .inl hd⟩
        | later hr hd harrives =>
            exact .inr ⟨_, _, hr,
              .inr ⟨_, _, hd, ih.mpr ⟨name', column', last, start, harrives, hstop⟩⟩⟩

theorem create_error_iff :
    ((create proposal schema (before.required schema) fun scope =>
        ownFields naming proposal scope schema.entries scope.identifiers).run before).1 =
        .error error ↔
      (runFields naming proposal schema before).1 = .error error ∨
        ∃ own within, runFields naming proposal schema before = (.ok own, within) ∧
          Marker.make (before.allocate proposal.name).1 own
            (Marker.leaves (before.required schema)) proposal.isOpen proposal.visibility =
              .error error := by
  rw [run_create]
  rcases runFields naming proposal schema before with ⟨error' | own, within⟩
  · simp
  · simp only [reduceCtorEq, false_or, Prod.mk.injEq, Except.ok.injEq, and_assoc,
      exists_and_left, exists_eq_left']
    cases Marker.make (before.allocate proposal.name).1 own
      (Marker.leaves (before.required schema)) proposal.isOpen proposal.visibility <;> simp

-- A call fails by itself or through a call for a schema nested in its own.
theorem process_error_cases :
    ((process naming proposal schema).run before).1 = .error error ↔
      Fails naming proposal schema before error ∨
        ∃ name column used start nested,
          Declares naming proposal schema before name column used start ∧
            column.nested? = some nested ∧
              ((process naming proposal nested).run start).1 = .error error := by
  rw [run_process]
  cases unseen : before.choice? schema with
  | some marker =>
      simp only [reduceCtorEq, false_iff, not_or, not_exists]
      exact ⟨fun h => by cases h <;> simp_all [Declares], by simp [Declares, unseen]⟩
  | none =>
      dsimp only
      cases unmet : before.reusable? schema (before.required schema) proposal.isOpen with
      | some marker =>
          simp only [reduceCtorEq, false_iff, not_or, not_exists]
          exact ⟨fun h => by cases h <;> simp_all [Declares], by simp [Declares, unmet]⟩
      | none =>
          dsimp only
          rw [create_error_iff, runFields, ownFields_error_iff]
          constructor
          · rintro (⟨name, column, used, start, harrives, hr | ⟨type, next, hr, hd⟩⟩ |
              ⟨own, within, hf, hm⟩)
            · obtain ⟨nested, hn, hnested⟩ := resolve_error_iff.mp hr
              exact .inr ⟨name, column, used, start, nested, ⟨unseen, unmet, harrives⟩, hn, hnested⟩
            · exact .inl (.unnamed ⟨unseen, unmet, harrives⟩ hr hd)
            · exact .inl (.invalid unseen unmet hf hm)
          · rintro (hfails | ⟨name, column, used, start, nested, hdeclares, hn, hnested⟩)
            · cases hfails with
              | unnamed declares hr hd =>
                  exact .inl ⟨_, _, _, _, declares.2.2, .inr ⟨_, _, hr, hd⟩⟩
              | invalid _ _ hf hm => exact .inr ⟨_, _, hf, hm⟩
            · exact .inl ⟨name, column, used, start, hdeclares.2.2,
                .inl (resolve_error_iff.mpr ⟨nested, hn, hnested⟩)⟩

theorem process_error_iff :
    ((process naming proposal schema).run before).1 = .error error ↔
      ∃ inner start, Calls naming proposal schema before inner start ∧
        Fails naming proposal inner start error := by
  constructor
  · intro h
    induction schema using Schema.nesting_induction generalizing before with
    | step schema ih =>
        rcases process_error_cases.mp h with
          hfails | ⟨name, column, used, start, nested, hdeclares, hn, hnested⟩
        · exact ⟨schema, before, .self, hfails⟩
        · obtain ⟨inner, last, hcalls, hfails⟩ := ih nested (hdeclares.nests hn) hnested
          exact ⟨inner, last, .nested hdeclares hn hcalls, hfails⟩
  · rintro ⟨inner, start, hcalls, hfails⟩
    induction hcalls with
    | self => exact process_error_cases.mpr (.inl hfails)
    | nested declares holds _ ih =>
        exact process_error_cases.mpr (.inr ⟨_, _, _, _, _, declares, holds, ih hfails⟩)

theorem Calls.trans {middle : Registry} (h : Calls naming proposal schema before nested middle)
    (h' : Calls naming proposal nested middle inner start) :
    Calls naming proposal schema before inner start := by
  induction h with
  | self => exact h'
  | nested declares holds _ ih => exact .nested declares holds (ih h')

-- A call that returns a marker makes no call that fails.
theorem Calls.exists_ok {marker : Marker} {after : Registry}
    (h : Calls naming proposal schema before inner start)
    (hrun : (process naming proposal schema).run before = (.ok marker, after)) :
    ∃ found later, (process naming proposal inner).run start = (.ok found, later) := by
  rcases hinner : (process naming proposal inner).run start with ⟨error | found, later⟩
  · have herror : ((process naming proposal inner).run start).1 = .error error := by rw [hinner]
    obtain ⟨last, middle, hcalls, hfails⟩ := process_error_iff.mp herror
    have houter := process_error_iff.mpr ⟨last, middle, h.trans hcalls, hfails⟩
    rw [hrun] at houter
    cases houter
  · exact ⟨found, later, rfl⟩

namespace Steps

variable {domain : Schema → Prop} {relation : Registry → Registry → Prop}

-- What single steps keep holds of the registries on which the declarations come to the columns.
theorem arrives (steps : Steps naming proposal domain relation)
    (h : Arrives naming proposal scope columns used registry name column last start)
    (hd : ∀ name column nested, (name, column) ∈ columns → column.nested? = some nested →
      domain nested) : relation registry start := by
  induction h with
  | here => exact steps.refl _
  | @later _ _ _ _ _ _ _ _ _ _ registry _ _ resolved _ _ ih =>
      have hfirst := steps.resolve (hd _ _ · List.mem_cons_self) registry
      rw [resolved] at hfirst
      exact steps.trans hfirst
        (ih fun name column nested hm => hd name column nested (List.mem_cons_of_mem _ hm))

-- They lead from the column that the declarations come to, once it is resolved, to the end.
theorem after_arrives (steps : Steps naming proposal domain relation)
    (h : Arrives naming proposal scope columns used registry name column last start)
    (hd : ∀ name column nested, (name, column) ∈ columns → column.nested? = some nested →
      domain nested) :
    relation ((Synthesis.resolve naming proposal column).run start).2
      ((Synthesis.ownFields naming proposal scope columns used).run registry).2 := by
  induction h with
  | @here name column rest used registry =>
      rw [run_ownFields_cons]
      rcases (Synthesis.resolve naming proposal column).run registry with ⟨error | type, later⟩
      · exact steps.refl later
      · dsimp only
        rcases naming.declare scope name column type used with error | ⟨field?, used'⟩
        · exact steps.refl later
        · dsimp only
          have hrest := steps.ownFields
            (fun name column nested hm => hd name column nested (List.mem_cons_of_mem _ hm))
            scope used' later
          rcases hf : (Synthesis.ownFields naming proposal scope rest used').run later with
            ⟨error | fields, after⟩ <;>
          · rw [hf] at hrest
            exact hrest
  | @later _ _ _ _ rest _ _ _ used' _ _ next _ resolved declared _ ih =>
      have hrest := ih fun name column nested hm =>
        hd name column nested (List.mem_cons_of_mem _ hm)
      rw [run_ownFields_cons, resolved]
      dsimp only
      rw [declared]
      dsimp only
      rcases hf : (Synthesis.ownFields naming proposal scope rest used').run next with
        ⟨error | fields, after⟩ <;>
      · rw [hf] at hrest
        exact hrest

theorem calls (steps : Steps naming proposal domain relation)
    (h : Calls naming proposal schema before inner start) (hd : domain schema) :
    domain inner ∧ relation before start := by
  induction h with
  | self => exact ⟨hd, steps.refl _⟩
  | nested declares holds _ ih =>
      obtain ⟨hinner, hrest⟩ := ih (steps.nested hd (declares.nests holds))
      have hmiddle := steps.arrives declares.2.2 fun name column nested hm hn =>
        steps.nested hd ⟨name, column, hm, hn⟩
      exact ⟨hinner, steps.trans (steps.allocate _) (steps.trans hmiddle hrest)⟩

end Steps

end FrameMarkers.Synthesis
