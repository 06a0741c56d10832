import FrameMarkers.Proofs.Distinct
import FrameMarkers.Schema.Cover
import Mathlib.Data.List.Nodup
import Mathlib.Data.String.Basic

namespace FrameMarkers

namespace Columns

theorem above_of_mem_entries {low : Option String} :
    (columns : Columns low) → {name : String} → {column : Column} →
      (name, column) ∈ columns.entries → Above low name
  | .nil, _, _, h => absurd h (by simp [entries])
  | .cons first _ above rest, name, column, h => by
      rcases List.mem_cons.mp h with he | hr
      · cases he; exact above
      · have hn : first < name := above_of_mem_entries rest hr
        cases low with
        | none => trivial
        | some low => exact lt_trans above hn

theorem entries_pairwise {low : Option String} :
    (columns : Columns low) → columns.entries.Pairwise fun first second => first.1 < second.1
  | .nil => List.Pairwise.nil
  | .cons _ _ _ rest =>
      List.Pairwise.cons (fun (_, _) h => above_of_mem_entries rest h) (entries_pairwise rest)

theorem names_nodup {low : Option String} (columns : Columns low) : columns.names.Nodup :=
  List.pairwise_map.mpr (columns.entries_pairwise.imp fun h => ne_of_lt h)

theorem mem_names {low : Option String} {columns : Columns low} {name : String} :
    name ∈ columns.names ↔ ∃ column, (name, column) ∈ columns.entries := by
  simp [names]

theorem get?_eq_some_iff {low : Option String} :
    (columns : Columns low) → {name : String} → {column : Column} →
      (columns.get? name = some column ↔ (name, column) ∈ columns.entries)
  | .nil, _, _ => by simp [get?, entries]
  | .cons first old above rest, name, column => by
      by_cases hn : name = first
      · subst hn
        have hr : (name, column) ∉ rest.entries := fun h =>
          absurd (above_of_mem_entries rest h) (lt_irrefl name)
        simp [get?, entries, hr, eq_comm]
      · simp [get?, entries, hn, get?_eq_some_iff rest]

theorem entries_injective {low : Option String} :
    (first second : Columns low) → first.entries = second.entries → first = second
  | .nil, .nil, _ => rfl
  | .nil, .cons .., h => absurd h (by simp [entries])
  | .cons .., .nil, h => absurd h (by simp [entries])
  | .cons name column _ rest, .cons name' column' _ rest', h => by
      simp only [entries, List.cons.injEq, Prod.mk.injEq] at h
      obtain ⟨⟨rfl, rfl⟩, hr⟩ := h
      rw [entries_injective rest rest' hr]

-- Reading tells schemas apart, since the order of the columns is determined by their names.
theorem ext_get? {low : Option String} {first second : Columns low}
    (h : ∀ name, first.get? name = second.get? name) : first = second := by
  apply entries_injective
  have hmem : ∀ entry, entry ∈ first.entries ↔ entry ∈ second.entries := by
    rintro ⟨name, column⟩
    rw [← get?_eq_some_iff, ← get?_eq_some_iff, h]
  have hnodup : ∀ columns : Columns low, columns.entries.Nodup := fun columns =>
    List.Nodup.of_map Prod.fst columns.names_nodup
  apply List.Perm.eq_of_pairwise _ first.entries_pairwise second.entries_pairwise
    ((List.perm_ext_iff_of_nodup (hnodup first) (hnodup second)).mpr hmem)
  intro a b _ _ hab hba
  exact absurd (lt_trans hab hba) (lt_irrefl _)

theorem get?_set {low : Option String} :
    (columns : Columns low) → (key : String) → (column : Column) → (above : Above low key) →
      (name : String) →
      (columns.set key column above).get? name =
        if name = key then some column else columns.get? name
  | .nil, _, _, _, _ => by simp [set, get?]
  | .cons first old _ rest, key, column, _, name => by
      rcases lt_trichotomy key first with hlt | rfl | hgt
      · simp [set, get?, hlt]
      · by_cases hn : name = key <;> simp [set, get?, hn]
      · have hr := get?_set rest key column hgt name
        simp only [set, hgt.not_gt, hgt, dite_true, dite_false, get?, hr]
        by_cases hn : name = first
        · simp [hn, hgt.ne]
        · simp [hn]

theorem entries_toNullable {low : Option String} :
    (columns : Columns low) →
      columns.toNullable.entries =
        columns.entries.map fun (name, column) => (name, column.toNullable)
  | .nil => rfl
  | .cons name column _ rest => by simp [toNullable, entries, entries_toNullable rest]

theorem get?_toNullable {low : Option String} (name : String) :
    (columns : Columns low) →
      columns.toNullable.get? name = (columns.get? name).map Column.toNullable
  | .nil => rfl
  | .cons first column _ rest => by
      by_cases hn : name = first <;> simp [toNullable, get?, hn, get?_toNullable name rest]

theorem entries_lifted {low : Option String} (lift : Bool) (columns : Columns low) :
    (columns.lifted lift).entries =
      columns.entries.map fun (name, column) => (name, column.lifted lift) := by
  cases lift with
  | false => simp [lifted, Column.lifted]
  | true => exact entries_toNullable columns

end Columns

namespace Schema

theorem get?_insert (schema : Schema) (key : String) (column : Column) (name : String) :
    (schema.insert key column).get? name = if name = key then some column else schema.get? name :=
  Columns.get?_set schema key column trivial name

theorem get?_foldl_insert (entries : List (String × Column)) (schema : Schema) (name : String) :
    (entries.foldl (fun schema entry => insert schema entry.1 entry.2) schema).get? name =
      ((entries.reverse.find? (·.1 == name)).map Prod.snd).or (schema.get? name) := by
  induction entries generalizing schema with
  | nil => simp
  | cons entry rest ih =>
      rw [List.foldl_cons, ih, List.reverse_cons, List.find?_append]
      cases hr : rest.reverse.find? (·.1 == name) with
      | some found => simp
      | none =>
          by_cases hn : entry.1 = name
          · simp [get?_insert, hn]
          · simp [get?_insert, hn, Ne.symm hn]

-- Of several columns under one name the last counts.
theorem get?_ofList (entries : List (String × Column)) (name : String) :
    (ofList entries).get? name = (entries.reverse.find? (·.1 == name)).map Prod.snd := by
  simp [ofList, get?_foldl_insert, empty, Columns.get?]

theorem get?_ofList_eq_some_iff {entries : List (String × Column)}
    (h : (entries.map Prod.fst).Nodup) {name : String} {column : Column} :
    (ofList entries).get? name = some column ↔ (name, column) ∈ entries := by
  have hreverse : (entries.reverse.map Prod.fst).Nodup := by
    rw [List.map_reverse]
    exact List.nodup_reverse.mpr h
  simp only [get?_ofList, Option.map_eq_some_iff, find?_key_eq_some_iff hreverse,
    List.mem_reverse]
  constructor
  · rintro ⟨⟨_, _⟩, ⟨hm, rfl⟩, rfl⟩
    exact hm
  · exact fun hm => ⟨_, ⟨hm, rfl⟩, rfl⟩

theorem ofList_entries (schema : Schema) : ofList schema.entries = schema := by
  refine Columns.ext_get? fun name => Option.ext fun column => ?_
  rw [get?_ofList_eq_some_iff schema.names_nodup, Columns.get?_eq_some_iff]

end Schema

end FrameMarkers
