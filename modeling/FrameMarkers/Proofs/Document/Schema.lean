import FrameMarkers.Document.Schema
import FrameMarkers.Proofs.Json.Shortened
import FrameMarkers.Proofs.Schema.Entries

namespace FrameMarkers

open Json

theorem Column.not_omissible (column : Column) (name : String) :
    (name, column.toJson) ∉ omissible := by
  cases column <;> simp [toJson, omissible]

namespace ColumnMeaning

variable {held : Option Json}

-- A schema is read as soon as its columns are, since they determine it.
theorem fold_schema {inner : Bool} {schema : Schema} {members : List (String × Json)}
    (h : (members.mapM fun member =>
      ((member.2.fold ofLayer).column inner).map (member.1, ·)) = some schema.entries) :
    ((object members).fold ofLayer).schema inner = some schema := by
  rw [fold_object]
  simp only [ofLayer, schemaOf, withMeanings, List.mapM_map, Function.comp_def] at h ⊢
  rw [h]
  exact congrArg some schema.ofList_entries

theorem nested_of_found {schema : Schema} (h : Found "schema" schema.toJson held)
    (hread : ∀ members, Kept Shortened schema.toMembers members →
      (members.mapM fun member => ((member.2.fold ofLayer).column true).map (member.1, ·)) =
        some schema.entries) :
    nested (held.map fun value => (value, value.fold ofLayer)) = some schema := by
  cases h with
  | present hs =>
      cases hs with
      | object hk => exact fold_schema (hread _ hk)
  | missing hm => simp [omissible] at hm

theorem flag_of_found (key : String) (value : Bool) (h : Found key (.bool value) held)
    (hkey : key ≠ "is_open") :
    flag (held.map fun value => (value, value.fold ofLayer)) = some value := by
  rw [flag, map_fst_withMeaning]
  exact h.flag (by simp [hkey])

end ColumnMeaning

open ColumnMeaning

mutual

theorem Column.fold_of_shortened (inner : Bool) :
    (column : Column) → (json : Json) → Shortened column.toJson json →
      (json.fold ofLayer).column inner = some column
  | .value type, _, .object h => by
      obtain ⟨short, hk, ht⟩ := tagged?_of_kept (fold ofLayer) kinds 0 inner h
        (by decide) (by simp) (by decide)
      have hnodup : (["name", "nullable"] : List String).Nodup := by decide
      have hname : required string? (short.lookup "name") = some type.name :=
        (hk.found hnodup (by simp)).string (by decide)
      have hnullable := flag_of_found "nullable" type.nullable (hk.found hnodup (by simp))
        (by decide)
      rw [fold_object]
      simp only [ofLayer, columnOf, ht, record?_of_kept hk hnodup, Option.bind_eq_bind,
        Option.bind_some, List.map_cons, List.map_nil, map_fst_withMeaning, hname, hnullable]
      rfl
  | .group schema nullable, _, .object h => by
      obtain ⟨short, hk, ht⟩ := tagged?_of_kept (fold ofLayer) kinds 1 inner h
        (by decide) (by simp) (by decide)
      have hnodup : (["schema", "nullable"] : List String).Nodup := by decide
      have hschema := nested_of_found (hk.found hnodup (by simp [Schema.toJson]))
        (Columns.mapM_of_kept true schema)
      have hnullable := flag_of_found "nullable" nullable (hk.found hnodup (by simp)) (by decide)
      rw [fold_object]
      simp only [ofLayer, columnOf, ht, record?_of_kept hk hnodup, Option.bind_eq_bind,
        Option.bind_some, List.map_cons, List.map_nil, hschema, hnullable]
      rfl
  | .frame schema nullable elements, _, .object h => by
      obtain ⟨short, hk, ht⟩ := tagged?_of_kept (fold ofLayer) kinds 2 inner h
        (by decide) (by simp) (by decide)
      have hnodup : (["schema", "nullable", "elements_nullable"] : List String).Nodup := by decide
      have hschema := nested_of_found (hk.found hnodup (by simp [Schema.toJson]))
        (Columns.mapM_of_kept true schema)
      have hnullable := flag_of_found "nullable" nullable (hk.found hnodup (by simp)) (by decide)
      have helements := flag_of_found "elements_nullable" elements (hk.found hnodup (by simp))
        (by decide)
      rw [fold_object]
      simp only [ofLayer, columnOf, ht, record?_of_kept hk hnodup, Option.bind_eq_bind,
        Option.bind_some, List.map_cons, List.map_nil, hschema, hnullable, helements]
      rfl

theorem Columns.mapM_of_kept (inner : Bool) :
    {low : Option String} → (columns : Columns low) → (members : List (String × Json)) →
      Kept Shortened columns.toMembers members →
        (members.mapM fun member =>
          ((member.2.fold ofLayer).column inner).map (member.1, ·)) = some columns.entries
  | _, .nil, members, h => by
      cases h
      rfl
  | _, .cons name column _ rest, _, h => by
      cases h with
      | keep hs hk =>
          rw [List.mapM_cons, Column.fold_of_shortened inner column _ hs,
            Columns.mapM_of_kept inner rest _ hk]
          rfl
      | drop hd _ => exact absurd hd (column.not_omissible name)

end

theorem Schema.ofJson?_of_shortened (schema : Schema) (json : Json)
    (h : Shortened schema.toJson json) : Schema.ofJson? json = some schema := by
  cases h with
  | object hk => exact fold_schema (Columns.mapM_of_kept false schema _ hk)

end FrameMarkers
