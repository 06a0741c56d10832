import FrameMarkers.Proofs.Schema.Entries

namespace FrameMarkers

mutual

-- How many schemas are nested in the column inside each other.
def Column.height : Column → Nat
  | .value _ => 0
  | .group schema _ => schema.height + 1
  | .frame schema _ _ => schema.height + 1

-- The greatest height of a column.
def Columns.height : {low : Option String} → Columns low → Nat
  | _, .nil => 0
  | _, .cons _ column _ rest => max column.height rest.height

end

theorem Column.height_toNullable (column : Column) : column.toNullable.height = column.height := by
  cases column <;> simp [toNullable, height]

namespace Columns

theorem height_toNullable {low : Option String} :
    (columns : Columns low) → columns.toNullable.height = columns.height
  | .nil => rfl
  | .cons _ _ _ rest => by
      simp [toNullable, height, Column.height_toNullable, height_toNullable rest]

theorem height_lifted {low : Option String} (lift : Bool) (columns : Columns low) :
    (columns.lifted lift).height = columns.height := by
  cases lift with
  | false => rfl
  | true => exact height_toNullable columns

theorem height_le_of_mem {low : Option String} :
    (columns : Columns low) → {name : String} → {column : Column} →
      (name, column) ∈ columns.entries → column.height ≤ columns.height
  | .nil, _, _, h => absurd h (by simp [entries])
  | .cons _ _ _ rest, _, _, h => by
      rcases List.mem_cons.mp h with he | hr
      · cases he
        exact Nat.le_max_left _ _
      · exact (height_le_of_mem rest hr).trans (Nat.le_max_right _ _)

-- The height is that of some column, unless there is no nesting at all.
theorem exists_mem_height {low : Option String} :
    (columns : Columns low) → 0 < columns.height →
      ∃ name column, (name, column) ∈ columns.entries ∧ column.height = columns.height
  | .nil, h => absurd h (by simp [height])
  | .cons name column _ rest, h => by
      rcases Nat.le_total rest.height column.height with hle | hle
      · exact ⟨name, column, by simp [entries], (Nat.max_eq_left hle).symm⟩
      · have hmax : max column.height rest.height = rest.height := Nat.max_eq_right hle
        obtain ⟨name', column', hm, he⟩ := exists_mem_height rest (by simpa [height, hmax] using h)
        exact ⟨name', column', List.mem_cons_of_mem _ hm, by simp [height, hmax, he]⟩

end Columns

theorem Column.height_of_nested? {column : Column} {nested : Schema}
    (h : column.nested? = some nested) : column.height = nested.height + 1 := by
  cases column with
  | value type => simp [nested?] at h
  | group schema nullable =>
      simp only [nested?, Option.some.injEq] at h
      rw [height, h]
  | frame schema nullable elementsNullable =>
      simp only [nested?, Option.some.injEq] at h
      rw [height, ← h, Columns.height_lifted]

namespace Schema

-- The second schema is that of a group or frame among the columns of the first.
def Nests (schema nested : Schema) : Prop :=
  ∃ name column, (name, column) ∈ schema.entries ∧ column.nested? = some nested

theorem Nests.height_lt {schema nested : Schema} (h : schema.Nests nested) :
    nested.height < schema.height := by
  obtain ⟨name, column, hm, hn⟩ := h
  have hle := Columns.height_le_of_mem schema hm
  rw [Column.height_of_nested? hn] at hle
  exact hle

theorem nesting_induction {P : Schema → Prop}
    (step : ∀ schema, (∀ nested, Schema.Nests schema nested → P nested) → P schema)
    (schema : Schema) : P schema := by
  induction hn : schema.height using Nat.strongRecOn generalizing schema with
  | ind height ih =>
      subst hn
      exact step schema fun nested h => ih nested.height h.height_lt nested rfl

end Schema

mutual

-- The names of the columns at every depth.
def Column.allNames : Column → List String
  | .value _ => []
  | .group schema _ => schema.allNames
  | .frame schema _ _ => schema.allNames

def Columns.allNames : {low : Option String} → Columns low → List String
  | _, .nil => []
  | _, .cons name column _ rest => name :: (column.allNames ++ rest.allNames)

end

theorem Column.allNames_toNullable (column : Column) :
    column.toNullable.allNames = column.allNames := by
  cases column <;> simp [toNullable, allNames]

theorem Columns.allNames_toNullable {low : Option String} :
    (columns : Columns low) → columns.toNullable.allNames = columns.allNames
  | .nil => rfl
  | .cons _ _ _ rest => by
      simp [toNullable, allNames, Column.allNames_toNullable, allNames_toNullable rest]

theorem Columns.allNames_lifted {low : Option String} (lift : Bool) (columns : Columns low) :
    (columns.lifted lift).allNames = columns.allNames := by
  cases lift with
  | false => rfl
  | true => exact allNames_toNullable columns

theorem Column.allNames_of_nested? {column : Column} {nested : Schema}
    (h : column.nested? = some nested) : column.allNames = nested.allNames := by
  cases column with
  | value type => simp [nested?] at h
  | group schema nullable =>
      simp only [nested?, Option.some.injEq] at h
      rw [allNames, h]
  | frame schema nullable elementsNullable =>
      simp only [nested?, Option.some.injEq] at h
      rw [allNames, ← h, Columns.allNames_lifted]

theorem Column.exists_nested_of_mem_allNames {column : Column} {name : String}
    (h : name ∈ column.allNames) :
    ∃ nested, column.nested? = some nested ∧ name ∈ nested.allNames := by
  cases hn : column.nested? with
  | none =>
      cases column with
      | value type => exact absurd h (by simp [allNames])
      | group schema nullable => simp [nested?] at hn
      | frame schema nullable elementsNullable => simp [nested?] at hn
  | some nested =>
      rw [allNames_of_nested? hn] at h
      exact ⟨nested, rfl, h⟩

theorem Columns.mem_allNames {low : Option String} {name : String} :
    (columns : Columns low) →
      (name ∈ columns.allNames ↔ ∃ key column, (key, column) ∈ columns.entries ∧
        (key = name ∨ name ∈ column.allNames))
  | .nil => by simp [allNames, entries]
  | .cons key column _ rest => by
      simp only [allNames, entries, List.mem_cons, List.mem_append, mem_allNames rest]
      constructor
      · rintro (rfl | hc | ⟨key', column', hm, hn⟩)
        · exact ⟨name, column, .inl rfl, .inl rfl⟩
        · exact ⟨key, column, .inl rfl, .inr hc⟩
        · exact ⟨key', column', .inr hm, hn⟩
      · rintro ⟨key', column', he | hm, hn⟩
        · cases he
          exact hn.elim (fun h => .inl h.symm) fun h => .inr (.inl h)
        · exact .inr (.inr ⟨key', column', hm, hn⟩)

theorem Schema.mem_allNames_of_entry {schema : Schema} {name : String} {column : Column}
    (h : (name, column) ∈ schema.entries) : name ∈ schema.allNames :=
  schema.mem_allNames.mpr ⟨name, column, h, .inl rfl⟩

theorem Schema.Nests.allNames_subset {schema nested : Schema} (h : schema.Nests nested) :
    nested.allNames ⊆ schema.allNames := by
  intro name hm
  obtain ⟨key, column, he, hn⟩ := h
  rw [← Column.allNames_of_nested? hn] at hm
  exact schema.mem_allNames.mpr ⟨key, column, he, .inr hm⟩

end FrameMarkers
