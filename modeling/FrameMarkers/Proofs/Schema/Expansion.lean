import FrameMarkers.Proofs.Schema.Cover

namespace FrameMarkers

mutual

-- The column with no frame of nullable elements in it: the columns of such a frame are nullable
-- themselves.
def Column.expanded : Column → Column
  | .value type => .value type
  | .group schema nullable => .group schema.expanded nullable
  | .frame schema nullable elementsNullable =>
    .frame (schema.expanded.lifted elementsNullable) nullable false

def Columns.expanded : {low : Option String} → Columns low → Columns low
  | _, .nil => .nil
  | _, .cons name column above rest => .cons name column.expanded above rest.expanded

end

theorem Column.expanded_toNullable (column : Column) :
    column.toNullable.expanded = column.expanded.toNullable := by
  cases column <;> rfl

namespace Columns

theorem entries_expanded {low : Option String} :
    (columns : Columns low) →
      columns.expanded.entries =
        columns.entries.map fun (name, column) => (name, column.expanded)
  | .nil => rfl
  | .cons name column _ rest => by simp [expanded, entries, entries_expanded rest]

theorem get?_expanded {low : Option String} (name : String) :
    (columns : Columns low) → columns.expanded.get? name = (columns.get? name).map Column.expanded
  | .nil => rfl
  | .cons first column _ rest => by
      by_cases hn : name = first <;> simp [expanded, get?, hn, get?_expanded name rest]

theorem expanded_toNullable {low : Option String} :
    (columns : Columns low) → columns.toNullable.expanded = columns.expanded.toNullable
  | .nil => rfl
  | .cons _ column _ rest => by
      simp [toNullable, expanded, column.expanded_toNullable, expanded_toNullable rest]

-- Whether the columns are made nullable first or last does not matter.
theorem expanded_lifted {low : Option String} (lift : Bool) (columns : Columns low) :
    (columns.lifted lift).expanded = columns.expanded.lifted lift := by
  cases lift with
  | false => rfl
  | true => exact expanded_toNullable columns

end Columns

namespace Column

theorem expanded_frame (schema : Schema) (nullable elementsNullable : Bool) :
    (frame schema nullable elementsNullable).expanded =
      frame (schema.lifted elementsNullable).expanded nullable false := by
  rw [Columns.expanded_lifted]
  rfl

-- A column and its expansion cover each other when that holds of the nested schema.
theorem covers_expanded_of_nested (column : Column)
    (h : ∀ nested, column.nested? = some nested →
      nested.covers nested.expanded ∧ nested.expanded.covers nested) :
    column.covers column.expanded ∧ column.expanded.covers column := by
  cases column with
  | value type => exact ⟨covers_refl _, covers_refl _⟩
  | group schema nullable =>
      obtain ⟨hto, hof⟩ := h schema rfl
      exact ⟨covers_group_iff.mpr ⟨_, _, rfl, id, hto⟩, covers_group_iff.mpr ⟨_, _, rfl, id, hof⟩⟩
  | frame schema nullable elementsNullable =>
      obtain ⟨hto, hof⟩ := h (schema.lifted elementsNullable) rfl
      rw [expanded_frame]
      exact ⟨covers_frame_iff.mpr ⟨_, _, _, rfl, id, hto⟩,
        covers_frame_iff.mpr ⟨_, _, _, rfl, id, hof⟩⟩

-- Columns that cover each other have the same expansion when that holds of what they nest.
theorem expanded_eq_of_nested {first second : Column}
    (h : ∀ nested, first.nested? = some nested → ∀ {other : Schema},
      nested.covers other → other.covers nested → nested.expanded = other.expanded)
    (hfirst : first.covers second) (hsecond : second.covers first) :
    first.expanded = second.expanded := by
  cases first with
  | value type =>
      obtain ⟨type', rfl, ht⟩ := covers_value_iff.mp hfirst
      obtain ⟨_, he, ht'⟩ := covers_value_iff.mp hsecond
      cases he
      obtain ⟨name, nullable⟩ := type
      obtain ⟨name', nullable'⟩ := type'
      obtain ⟨hn, hname⟩ := ValueType.covers_iff.mp ht
      obtain ⟨hn', hname'⟩ := ValueType.covers_iff.mp ht'
      dsimp only at hn hname hn' hname'
      have hnullable : nullable = nullable' := Bool.eq_iff_iff.mpr ⟨hn', hn⟩
      -- Each covers the other by the type above all types only if both are that type.
      have heq : name = name' := by
        rcases hname with hany | he
        · rcases hname' with hany' | he'
          · rw [hany, hany']
          · exact he'.symm
        · exact he
      rw [hnullable, heq]
  | group schema nullable =>
      obtain ⟨schema', nullable', rfl, hn, hc⟩ := covers_group_iff.mp hfirst
      obtain ⟨_, _, he, hn', hc'⟩ := covers_group_iff.mp hsecond
      cases he
      have hnullable : nullable = nullable' := Bool.eq_iff_iff.mpr ⟨hn', hn⟩
      rw [expanded, expanded, h schema rfl hc hc', hnullable]
  | frame schema nullable elementsNullable =>
      obtain ⟨schema', nullable', elements', rfl, hn, hc⟩ := covers_frame_iff.mp hfirst
      obtain ⟨_, _, _, he, hn', hc'⟩ := covers_frame_iff.mp hsecond
      cases he
      have hnullable : nullable = nullable' := Bool.eq_iff_iff.mpr ⟨hn', hn⟩
      rw [expanded_frame, expanded_frame, h _ rfl hc hc', hnullable]

end Column

namespace Columns

theorem covers_expanded (schema : Schema) :
    schema.covers schema.expanded ∧ schema.expanded.covers schema := by
  induction schema using Schema.nesting_induction with
  | step schema ih =>
      have hcolumn : ∀ name column, (name, column) ∈ schema.entries →
          column.covers column.expanded ∧ column.expanded.covers column :=
        fun name column hm => column.covers_expanded_of_nested fun nested hn =>
          ih nested ⟨name, column, hm, hn⟩
      constructor
      · refine covers_iff.mpr fun name column hm =>
          ⟨column.expanded, ?_, (hcolumn name column hm).1⟩
        rw [get?_expanded, (get?_eq_some_iff schema).mpr hm]
        rfl
      · refine covers_iff.mpr fun name expansion hm => ?_
        rw [entries_expanded] at hm
        obtain ⟨⟨_, column⟩, hentry, he⟩ := List.mem_map.mp hm
        cases he
        exact ⟨column, (get?_eq_some_iff schema).mpr hentry, (hcolumn name column hentry).2⟩

theorem expanded_eq_of_covers {first second : Schema} (hfirst : first.covers second)
    (hsecond : second.covers first) : first.expanded = second.expanded := by
  induction first using Schema.nesting_induction generalizing second with
  | step first ih =>
      refine ext_get? fun name => ?_
      rw [get?_expanded, get?_expanded]
      cases hg : first.get? name with
      | none =>
          cases hg' : second.get? name with
          | none => rfl
          | some column =>
              obtain ⟨found, hf, -⟩ :=
                covers_iff.mp hsecond name column ((get?_eq_some_iff second).mp hg')
              rw [hg] at hf
              cases hf
      | some column =>
          have hm := (get?_eq_some_iff first).mp hg
          obtain ⟨column', hg', hc⟩ := covers_iff.mp hfirst name column hm
          obtain ⟨_, hf, hc'⟩ :=
            covers_iff.mp hsecond name column' ((get?_eq_some_iff second).mp hg')
          rw [hg] at hf
          cases hf
          rw [hg', Option.map_some, Option.map_some, Column.expanded_eq_of_nested
            (fun nested hn {_} => ih nested ⟨name, column, hm, hn⟩) hc hc']

theorem covers_both_iff {first second : Schema} :
    first.covers second ∧ second.covers first ↔ first.expanded = second.expanded := by
  constructor
  · exact fun ⟨hfirst, hsecond⟩ => expanded_eq_of_covers hfirst hsecond
  · intro h
    obtain ⟨hto, hof⟩ := covers_expanded first
    obtain ⟨hto', hof'⟩ := covers_expanded second
    rw [← h] at hto' hof'
    exact ⟨covers_trans hto hof', covers_trans hto' hof⟩

end Columns

theorem Column.covers_both_iff {first second : Column} :
    first.covers second ∧ second.covers first ↔ first.expanded = second.expanded := by
  constructor
  · exact fun ⟨hfirst, hsecond⟩ => expanded_eq_of_nested
      (fun _ _ {_} => Columns.expanded_eq_of_covers) hfirst hsecond
  · intro h
    obtain ⟨hto, hof⟩ := covers_expanded_of_nested first fun _ _ =>
      Columns.covers_expanded _
    obtain ⟨hto', hof'⟩ := covers_expanded_of_nested second fun _ _ =>
      Columns.covers_expanded _
    rw [← h] at hto' hof'
    exact ⟨covers_trans hto hof', covers_trans hto' hof⟩

theorem covers_preorder :
    ((∀ schema : Schema, schema.covers schema) ∧
      (∀ first second third : Schema,
        first.covers second → second.covers third → first.covers third) ∧
      ∀ first second : Schema,
        first.covers second ∧ second.covers first ↔ first.expanded = second.expanded) ∧
    (∀ column : Column, column.covers column) ∧
      (∀ first second third : Column,
        first.covers second → second.covers third → first.covers third) ∧
      ∀ first second : Column,
        first.covers second ∧ second.covers first ↔ first.expanded = second.expanded :=
  ⟨⟨Columns.covers_refl, fun _ _ _ => Columns.covers_trans, fun _ _ => Columns.covers_both_iff⟩,
    Column.covers_refl, fun _ _ _ => Column.covers_trans, fun _ _ => Column.covers_both_iff⟩

-- Tables of numbers that may be absent, said in two ways, below tables of anything.
def anythings : Schema :=
  .ofList [("x", .value ⟨ValueType.any, true⟩)]

def numbers (nullable : Bool) : Schema :=
  .ofList [("x", .value ⟨"kotlin.Int", nullable⟩)]

theorem covers_preorder_numbers :
    (Column.frame anythings true false).covers (.frame (numbers false) false true) ∧
      (Column.frame (numbers false) false true).covers (.frame (numbers true) false false) ∧
      (Column.frame anythings true false).covers (.frame (numbers true) false false) ∧
      (Column.frame (numbers false) false true).expanded =
        (Column.frame (numbers true) false false).expanded := by
  have hfirst : (Column.frame anythings true false).covers (.frame (numbers false) false true) := by
    decide +kernel
  have hsecond :
      (Column.frame (numbers false) false true).covers (.frame (numbers true) false false) := by
    decide +kernel
  have hback :
      (Column.frame (numbers true) false false).covers (.frame (numbers false) false true) := by
    decide +kernel
  obtain ⟨-, -, htrans, hboth⟩ := covers_preorder
  exact ⟨hfirst, hsecond, htrans _ _ _ hfirst hsecond, (hboth _ _).mp ⟨hsecond, hback⟩⟩

end FrameMarkers
