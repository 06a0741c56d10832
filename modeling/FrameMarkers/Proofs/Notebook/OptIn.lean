import FrameMarkers.Proofs.Notebook.Cells

namespace FrameMarkers

-- The schema has a plain column of that type, or one that is nested in it at some depth has.
def Schema.Holds (schema : Schema) (type : String) : Prop :=
  ∃ inner, Relation.ReflTransGen Schema.Nests schema inner ∧
    ∃ name nullable, (name, Column.value ⟨type, nullable⟩) ∈ inner.entries

variable {type : String}

theorem Column.mentions_toNullable (column : Column) :
    column.toNullable.mentions type = column.mentions type := by
  cases column <;> rfl

theorem Columns.mentions_toNullable {low : Option String} :
    (columns : Columns low) → columns.toNullable.mentions type = columns.mentions type
  | .nil => rfl
  | .cons _ column _ rest => by
      rw [toNullable, mentions, mentions, column.mentions_toNullable, mentions_toNullable rest]

theorem Columns.mentions_lifted {low : Option String} (lift : Bool) (columns : Columns low) :
    (columns.lifted lift).mentions type = columns.mentions type := by
  cases lift with
  | false => rfl
  | true => exact mentions_toNullable columns

theorem Columns.mentions_iff_mem {low : Option String} :
    (columns : Columns low) → (columns.mentions type ↔
      ∃ name column, (name, column) ∈ columns.entries ∧ column.mentions type)
  | .nil => by simp [mentions, entries]
  | .cons name column _ rest => by
      simp only [mentions, Bool.or_eq_true, mentions_iff_mem rest, entries, List.mem_cons]
      constructor
      · rintro (hc | ⟨name', column', hm, hc⟩)
        · exact ⟨name, column, .inl rfl, hc⟩
        · exact ⟨name', column', .inr hm, hc⟩
      · rintro ⟨name', column', he | hm, hc⟩
        · cases he
          exact .inl hc
        · exact .inr ⟨name', column', hm, hc⟩

theorem Column.mentions_iff {column : Column} :
    column.mentions type ↔ (∃ nullable, column = .value ⟨type, nullable⟩) ∨
      ∃ nested, column.nested? = some nested ∧ nested.mentions type := by
  cases column with
  | value valueType =>
      obtain ⟨name, nullable⟩ := valueType
      simp [mentions, nested?]
  | group schema nullable => simp [mentions, nested?]
  | frame schema nullable elementsNullable => simp [mentions, nested?, Columns.mentions_lifted]

theorem Schema.mentions_iff {schema : Schema} : schema.mentions type ↔ schema.Holds type := by
  induction schema using nesting_induction with
  | step schema ih =>
      rw [Columns.mentions_iff_mem]
      constructor
      · rintro ⟨name, column, hm, hc⟩
        rcases Column.mentions_iff.mp hc with ⟨nullable, rfl⟩ | ⟨nested, hn, hnested⟩
        · exact ⟨schema, .refl, name, nullable, hm⟩
        · have hnests : schema.Nests nested := ⟨name, column, hm, hn⟩
          obtain ⟨inner, hpath, hholds⟩ := (ih nested hnests).mp hnested
          exact ⟨inner, .head hnests hpath, hholds⟩
      · rintro ⟨inner, hpath, name, nullable, hm⟩
        rcases hpath.cases_head with rfl | ⟨nested, hnests, hrest⟩
        · exact ⟨name, _, hm, Column.mentions_iff.mpr (.inl ⟨nullable, rfl⟩)⟩
        · have hnested := (ih nested hnests).mpr ⟨inner, hrest, name, nullable, hm⟩
          obtain ⟨name', column, hm', hn⟩ := hnests
          exact ⟨name', column, hm', Column.mentions_iff.mpr (.inr ⟨nested, hn, hnested⟩)⟩

theorem Marker.exists_interface_eq (style : TypeStyle) (withFields : Bool)
    (method? : Option ReadMethod) (marker : Marker) :
    ∃ rest, marker.interface style withFields method? = "@DataSchema" ++ rest := by
  unfold interface interfaceHeader
  simp only [String.append_assoc]
  exact ⟨_, rfl⟩

-- Unless only accessors are declared, declarations start with the mark of an interface, if there
-- are any.
theorem exists_declarations_eq {options : GenerationOptions} {schema : Schema} {result : Generated}
    (hm : options.mode ≠ .none) (h : generate options schema = .ok result) :
    result.code.declarations = "" ∨ ∃ rest, result.code.declarations = "@DataSchema" ++ rest := by
  obtain ⟨-, root, markers, blocks, -, hblocks, rfl⟩ := generate_eq_ok_iff.mp h
  cases markers with
  | nil =>
      cases hblocks
      exact .inl rfl
  | cons marker others =>
      right
      obtain ⟨rest, hinterface⟩ := Marker.exists_interface_eq options.types
        (options.mode = .withFields) (if marker.name = root.name then options.readMethod else none)
        marker
      obtain ⟨accessors, _, later, -, -, rfl⟩ :=
        GenerationOptions.blocks_cons_eq_ok_iff.mp hblocks
      simp only [GenerationOptions.interface?, if_neg hm, hinterface, Option.toList_some,
        List.cons_append, List.nil_append]
      cases accessors.toList ++ later with
      | nil => exact ⟨rest, String.intercalate_singleton⟩
      | cons block blocks =>
          refine ⟨rest ++ "\n\n" ++ "\n\n".intercalate (block :: blocks), ?_⟩
          simp only [String.intercalate_cons_cons, String.append_assoc]

namespace Notebook

-- Declarations for the schemas: the plain ones if none of the schemas needs the line, else the line
-- and then the plain ones.
inductive OptsIn (schemas : List Schema) (plain : String) : String → Prop
  | plain (free : ∀ schema ∈ schemas, ¬schema.Holds experimentalType) : OptsIn schemas plain plain
  | line (needed : ∃ schema ∈ schemas, schema.Holds experimentalType) :
      OptsIn schemas plain (optIn ++ "\n" ++ plain)

variable {notebook after : Notebook} {keys groups : Schema} {code : Code}
  {first second first' second' : String}

theorem optsIn_cellCode (schema : Schema) (code : Code) :
    OptsIn [schema] code.declarations (cellCode schema code).declarations := by
  unfold cellCode
  by_cases hm : schema.mentions experimentalType
  · rw [if_pos hm]
    exact .line ⟨schema, List.mem_cons_self, Schema.mentions_iff.mp hm⟩
  · rw [if_neg hm]
    exact .plain fun _ hs =>
      List.mem_singleton.mp hs ▸ mt Schema.mentions_iff.mpr hm

theorem OptsIn.eq_plain (h : OptsIn [groups] second second')
    (hg : ¬groups.Holds experimentalType) : second' = second := by
  cases h with
  | plain _ => rfl
  | line needed =>
      obtain ⟨schema, hs, hholds⟩ := needed
      exact absurd (List.mem_singleton.mp hs ▸ hholds) hg

theorem OptsIn.eq_line {schemas : List Schema} (h : OptsIn schemas second second')
    (hm : groups ∈ schemas) (hg : groups.Holds experimentalType) :
    second' = optIn ++ "\n" ++ second := by
  cases h with
  | plain free => exact absurd hg (free groups hm)
  | line _ => rfl

theorem getElem?_toList_append {index : Nat} (h : index < first.length) :
    (first ++ second).toList[index]? = first.toList[index]? := by
  rw [String.toList_append, List.getElem?_append_left (by rwa [String.length_toList])]

-- The line starts with other characters than the declarations before it.
theorem append_line_ne (hrendered : first = "" ∨ ∃ rest, first = "@DataSchema" ++ rest) :
    first ++ "\n" ++ (optIn ++ "\n" ++ second) ≠ optIn ++ "\n" ++ (first ++ "\n" ++ second) := by
  intro he
  have hline (index : Nat) (h : index < (optIn ++ "\n").length) :
      (first ++ "\n" ++ (optIn ++ "\n" ++ second)).toList[index]? =
        (optIn ++ "\n").toList[index]? := by
    rw [he, getElem?_toList_append h]
  rcases hrendered with rfl | ⟨rest, rfl⟩
  · have hc := hline 0 (by decide)
    rw [getElem?_toList_append (by decide)] at hc
    exact absurd hc (by decide)
  · have hc := hline 1 (by decide)
    rw [String.append_assoc, String.append_assoc, getElem?_toList_append (by decide)] at hc
    exact absurd hc (by decide)

theorem line_append_ne :
    optIn ++ "\n" ++ first ++ "\n" ++ (optIn ++ "\n" ++ second) ≠
      optIn ++ "\n" ++ (first ++ "\n" ++ second) := by
  intro he
  have hl := congrArg String.length he
  simp only [String.length_append] at hl
  have hline : 0 < optIn.length := by decide
  omega

theorem optsIn_groups_iff (hkeys : OptsIn [keys] first first')
    (hgroups : OptsIn [groups] second second')
    (hrendered : first = "" ∨ ∃ rest, first = "@DataSchema" ++ rest) :
    OptsIn [keys, groups] (first ++ "\n" ++ second) (first' ++ "\n" ++ second') ↔
      ¬groups.Holds experimentalType := by
  constructor
  · intro h hg
    have hboth := h.eq_line (List.mem_cons_of_mem _ List.mem_cons_self) hg
    rw [hgroups.eq_line List.mem_cons_self hg] at hboth
    cases hkeys with
    | plain _ => exact append_line_ne hrendered hboth
    | line _ => exact line_append_ne hboth
  · intro hg
    rw [hgroups.eq_plain hg]
    cases hkeys with
    | plain free =>
        refine .plain fun schema hs => ?_
        rcases List.mem_pair.mp hs with rfl | rfl
        · exact free schema List.mem_cons_self
        · exact hg
    | line needed =>
        obtain ⟨schema, hs, hholds⟩ := needed
        have hline : OptsIn [keys, groups] (first ++ "\n" ++ second)
            (optIn ++ "\n" ++ (first ++ "\n" ++ second)) :=
          .line ⟨keys, List.mem_cons_self, List.mem_singleton.mp hs ▸ hholds⟩
        simpa only [String.append_assoc] using hline

-- How the markers for the groups of a grouped table are generated.
abbrev groupOptions (notebook : Notebook) : GenerationOptions :=
  notebook.options (rootName ++ "Groups") false

-- The schema that the table of a cell gets code for, if it does.
def source? (notebook : Notebook) (schema : Schema) : Option Assignment → Option Schema
  | none => some schema
  | some assignment =>
    notebook.target? schema assignment (notebook.assigned.contains assignment.name)

variable {schema : Schema} {name : String} {isOpen : Bool} {assignment? : Option Assignment}

theorem exists_of_run_generate
    (h : (generate schema name isOpen).run notebook = (.ok code, after)) :
    ∃ generated, FrameMarkers.generate (notebook.options name isOpen) schema = .ok generated ∧
      code = cellCode schema generated.code ∧ after.registered = notebook.registered := by
  cases hg : FrameMarkers.generate (notebook.options name isOpen) schema with
  | error error =>
      rw [run_generate_error hg] at h
      cases h
  | ok generated =>
      rw [run_generate_ok hg] at h
      cases h
      exact ⟨generated, rfl, rfl, registered_foldl_await _ _⟩

theorem exists_of_run_process
    (h : (process schema assignment?).run notebook = (.ok code, after)) :
    (notebook.source? schema assignment? = none ∧ code = .empty) ∨
      ∃ target generated, notebook.source? schema assignment? = some target ∧
        FrameMarkers.generate (notebook.options rootName true) target = .ok generated ∧
        code = cellCode target generated.code := by
  cases assignment? with
  | none =>
      obtain ⟨generated, hg, hcode, -⟩ := exists_of_run_generate h
      exact .inr ⟨schema, generated, rfl, hg, hcode⟩
  | some assignment =>
      rw [run_process_some] at h
      rw [source?]
      cases ht : notebook.target? schema assignment
          (notebook.assigned.contains assignment.name) with
      | none =>
          rw [ht] at h
          cases h
          exact .inl ⟨rfl, rfl⟩
      | some target =>
          rw [ht] at h
          obtain ⟨generated, hg, hcode, -⟩ := exists_of_run_generate h
          rw [options, registered_assign] at hg
          exact .inr ⟨target, generated, rfl, hg, hcode⟩

theorem exists_of_run_processGroups
    (h : (processGroups keys groups).run notebook = (.ok code, after)) :
    ∃ generated generated', FrameMarkers.generate notebook.keyOptions keys = .ok generated ∧
      FrameMarkers.generate notebook.groupOptions groups = .ok generated' ∧
      code.declarations = (cellCode keys generated.code).declarations ++ "\n" ++
        (cellCode groups generated'.code).declarations := by
  rw [processGroups, run_bind] at h
  rcases hk : (generate keys (rootName ++ "Keys") false).run notebook with ⟨error | first, middle⟩
  · rw [hk] at h
    cases h
  · rw [hk] at h
    simp only [run_bind] at h
    rcases hg : (generate groups (rootName ++ "Groups") false).run middle with
      ⟨error | second, last⟩
    · rw [hg] at h
      cases h
    · rw [hg] at h
      cases h
      obtain ⟨generated, hkeys, rfl, hregistered⟩ := exists_of_run_generate hk
      obtain ⟨generated', hgroups, rfl, -⟩ := exists_of_run_generate hg
      rw [options, hregistered] at hgroups
      exact ⟨generated, generated', hkeys, hgroups, rfl⟩

theorem optsIn_iff (notebook : Notebook) :
    (∀ schema assignment? code after,
      (process schema assignment?).run notebook = (.ok code, after) →
        (notebook.source? schema assignment? = none ∧ code = .empty) ∨
          ∃ target generated, notebook.source? schema assignment? = some target ∧
            FrameMarkers.generate (notebook.options rootName true) target = .ok generated ∧
            OptsIn [target] generated.code.declarations code.declarations) ∧
    ∀ keys groups code after,
      (processGroups keys groups).run notebook = (.ok code, after) →
        ∃ generated generated' first second,
          FrameMarkers.generate notebook.keyOptions keys = .ok generated ∧
          FrameMarkers.generate notebook.groupOptions groups = .ok generated' ∧
          code.declarations = first ++ "\n" ++ second ∧
          OptsIn [keys] generated.code.declarations first ∧
          OptsIn [groups] generated'.code.declarations second ∧
          (OptsIn [keys, groups]
              (generated.code.declarations ++ "\n" ++ generated'.code.declarations)
              code.declarations ↔
            ¬groups.Holds experimentalType) := by
  constructor
  · intro schema assignment? code after h
    rcases exists_of_run_process h with hnone | ⟨target, generated, ht, hg, rfl⟩
    · exact .inl hnone
    · exact .inr ⟨target, generated, ht, hg, optsIn_cellCode target generated.code⟩
  · intro keys groups code after h
    obtain ⟨generated, generated', hkeys, hgroups, hcode⟩ := exists_of_run_processGroups h
    have hfirst := optsIn_cellCode keys generated.code
    have hsecond := optsIn_cellCode groups generated'.code
    have hrendered := exists_declarations_eq (by simp [options]) hkeys
    refine ⟨generated, generated', _, _, hkeys, hgroups, hcode, hfirst, hsecond, ?_⟩
    rw [hcode]
    exact optsIn_groups_iff hfirst hsecond hrendered

-- A table with a moment, below a record.
def visits : Schema :=
  .ofList [("last", .group (Schema.ofList [("at", .value ⟨experimentalType, false⟩)]) true)]

theorem holds_visits : visits.Holds experimentalType :=
  Schema.mentions_iff.mp (by decide +kernel)

theorem optsIn_iff_visits :
    (∃ code after generated, (process visits none).run .empty = (.ok code, after) ∧
      FrameMarkers.generate (empty.options rootName true) visits = .ok generated ∧
      code.declarations = optIn ++ "\n" ++ generated.code.declarations) ∧
    ∃ code after generated generated',
      (processGroups visits (column "city")).run .empty = (.ok code, after) ∧
      FrameMarkers.generate empty.keyOptions visits = .ok generated ∧
      FrameMarkers.generate empty.groupOptions (column "city") = .ok generated' ∧
      code.declarations = optIn ++ "\n" ++
        (generated.code.declarations ++ "\n" ++ generated'.code.declarations) := by
  have hok : ((process visits none).run .empty).1.isOk = true := by decide +kernel
  have hok' : ((processGroups visits (column "city")).run .empty).1.isOk = true := by
    decide +kernel
  have hfree : ¬(column "city").Holds experimentalType :=
    mt Schema.mentions_iff.mpr (by decide +kernel)
  constructor
  · obtain ⟨code, hrun⟩ := exists_ok hok
    obtain ⟨hnone, -⟩ | ⟨target, generated, ht, hg, hcode⟩ :=
      (optsIn_iff .empty).1 visits none code _ hrun
    · cases hnone
    · cases ht
      exact ⟨code, _, generated, hrun, hg, hcode.eq_line List.mem_cons_self holds_visits⟩
  · obtain ⟨code, hrun⟩ := exists_ok hok'
    obtain ⟨generated, generated', _, _, hkeys, hgroups, -, -, -, hiff⟩ :=
      (optsIn_iff .empty).2 visits (column "city") code _ hrun
    exact ⟨code, _, generated, generated', hrun, hkeys, hgroups,
      (hiff.mpr hfree).eq_line List.mem_cons_self holds_visits⟩

-- The line stands between the keys' declarations and those of the groups that need it.
theorem not_optsIn_visits :
    Reached .empty ∧ ∃ code after generated generated',
      (processGroups (column "city") visits).run .empty = (.ok code, after) ∧
      FrameMarkers.generate empty.keyOptions (column "city") = .ok generated ∧
      FrameMarkers.generate empty.groupOptions visits = .ok generated' ∧
      ¬OptsIn [column "city", visits]
        (generated.code.declarations ++ "\n" ++ generated'.code.declarations)
        code.declarations := by
  have hok : ((processGroups (column "city") visits).run .empty).1.isOk = true := by
    decide +kernel
  obtain ⟨code, hrun⟩ := exists_ok hok
  obtain ⟨generated, generated', hkeys, hgroups, hcode⟩ := exists_of_run_processGroups hrun
  refine ⟨.empty, code, _, generated, generated', hrun, hkeys, hgroups, fun h => ?_⟩
  rw [hcode] at h
  exact (optsIn_groups_iff (optsIn_cellCode _ _) (optsIn_cellCode _ _)
    (exists_declarations_eq (by simp [options]) hkeys)).mp h holds_visits

end Notebook

end FrameMarkers
