import FrameMarkers.Document.Marker
import FrameMarkers.Proofs.Document.Schema

namespace FrameMarkers

open Json

variable {members : List (String × Json)} {held : Option Json}

theorem Identifier.ofJson?_of_shortened (identifier : Identifier) (json : Json)
    (h : Shortened identifier.toJson json) : Identifier.ofJson? json = some identifier := by
  cases h with
  | @object _ short hk =>
      have hnodup : (["identifier", "needs_quote"] : List String).Nodup := by decide
      have hkeys : Marker.Part.identifier.keys = ["identifier", "needs_quote"] := rfl
      have htext : required string? (short.lookup "identifier") = some identifier.text :=
        (hk.found hnodup (by simp)).string (by decide)
      have hquoted : required bool? (short.lookup "needs_quote") = some identifier.quoted :=
        (hk.found hnodup (by simp)).required (by simp [omissible]) bool?_of_shortened
      simp only [ofJson?, hkeys, record?_object_of_kept hk hnodup, Option.bind_eq_bind,
        Option.bind_some, List.map_cons, List.map_nil, htext, hquoted]
      rfl

namespace FieldType

theorem named?_of_kept {key name : String} {nullable : Bool}
    (h : Kept Shortened [(key, .string name), ("nullable", .bool nullable)] members)
    (hkey : key ≠ "visibility" ∧ key ≠ "nullable") :
    named? key (.object (withMeanings (fun _ => ()) members)) = some (name, nullable) := by
  have hnodup : [key, "nullable"].Nodup := by simp [hkey]
  have hname : required string? (members.lookup key) = some name :=
    (h.found hnodup (by simp)).string hkey.1
  have hnullable : withDefault false bool? (members.lookup "nullable") = some nullable :=
    (h.found hnodup (by simp)).flag (by decide)
  simp only [named?, record?_of_kept h hnodup, Option.bind_eq_bind, Option.bind_some,
    List.map_cons, List.map_nil, map_fst_withMeaning, hname, hnullable]
  rfl

-- The three kinds differ in their words and in the key of the name.
theorem tagged?_named?_of_kept {word key name : String} {nullable : Bool} (place : Nat)
    (h : Kept Shortened [("kind", .string word), (key, .string name), ("nullable", .bool nullable)]
      members)
    (hkey : key ≠ "visibility" ∧ key ≠ "nullable") (hkind : key ≠ "kind")
    (hplace : ColumnMeaning.kinds.idxOf? word = some place) :
    ∃ body, (object members).layer.tagged? "kind" ColumnMeaning.kinds false = some (place, body) ∧
      named? key body = some (name, nullable) := by
  obtain ⟨short, hk, ht⟩ := tagged?_of_kept (fun _ => ()) _ _ false h (by decide)
    (by simp [hkind.symm]) hplace
  exact ⟨_, ht, named?_of_kept hk hkey⟩

theorem ofJson?_of_shortened (type : FieldType) (json : Json)
    (h : Shortened type.toJson json) : FieldType.ofJson? json = some type := by
  cases type with
  | value name nullable =>
      cases h with
      | object hk =>
          obtain ⟨body, ht, hn⟩ := tagged?_named?_of_kept 0 hk (by decide) (by decide)
            (by decide)
          simp only [ofJson?, ht, Option.bind_eq_bind, Option.bind_some, hn]
          rfl
  | group marker nullable =>
      cases h with
      | object hk =>
          obtain ⟨body, ht, hn⟩ := tagged?_named?_of_kept 1 hk (by decide) (by decide)
            (by decide)
          simp only [ofJson?, ht, Option.bind_eq_bind, Option.bind_some, hn]
          rfl
  | frame marker nullable =>
      cases h with
      | object hk =>
          obtain ⟨body, ht, hn⟩ := tagged?_named?_of_kept 2 hk (by decide) (by decide)
            (by decide)
          simp only [ofJson?, ht, Option.bind_eq_bind, Option.bind_some, hn]
          rfl

end FieldType

theorem Field.ofJson?_of_shortened (field : Field) (json : Json)
    (h : Shortened field.toJson json) : Field.ofJson? json = some field := by
  cases h with
  | @object _ short hk =>
      have hnodup : (["field_name", "column_name", "field_type", "overrides", "column_schema"] :
        List String).Nodup := by decide
      have hkeys : Marker.Part.field.keys =
        ["field_name", "column_name", "field_type", "overrides", "column_schema"] := rfl
      have hidentifier : required Identifier.ofJson? (short.lookup "field_name") =
          some field.identifier :=
        (hk.found hnodup (by simp)).required (by simp [omissible])
          field.identifier.ofJson?_of_shortened
      have hcolumn : required string? (short.lookup "column_name") = some field.column :=
        (hk.found hnodup (by simp)).string (by decide)
      have htype : required FieldType.ofJson? (short.lookup "field_type") = some field.type :=
        (hk.found hnodup (by simp)).required (by simp [omissible]) field.type.ofJson?_of_shortened
      have hoverrides : withDefault false bool? (short.lookup "overrides") = some field.overrides :=
        (hk.found hnodup (by simp)).flag (by decide)
      have hshape : required Column.ofJson? (short.lookup "column_schema") = some field.shape :=
        (hk.found hnodup (by simp)).required (by simp [omissible])
          (field.shape.fold_of_shortened false)
      simp only [ofJson?, hkeys, record?_object_of_kept hk hnodup, Option.bind_eq_bind,
        Option.bind_some, List.map_cons, List.map_nil, hidentifier, hcolumn, htype, hoverrides,
        hshape]
      rfl

theorem Visibility.ofJson?_of_shortened (visibility : Visibility) (json : Json)
    (h : Shortened visibility.toJson json) : Visibility.ofJson? json = some visibility := by
  cases h
  cases visibility <;> rfl

theorem Visibility.eq_of_omissible (visibility : Visibility)
    (h : ("visibility", visibility.toJson) ∈ omissible) : .implicitPublic = visibility := by
  cases visibility
  · simp [omissible, toJson, word, wordOf, words] at h
  · rfl
  · simp [omissible, toJson, word, wordOf, words] at h

namespace Marker

open Meaning (ofLayer markerOf markersOf)

theorem markers_fold_array {items : List Json} {markers : List Marker}
    (h : items.mapM ofJson? = some markers) :
    ((array items).fold ofLayer).markers = some markers := by
  rw [fold_array]
  simp only [ofLayer, markersOf, List.mapM_map]
  exact h

theorem supers_of_found {supers : List Marker}
    (h : Found "super_markers" (.array (toJsonAll supers)) held)
    (hread : ∀ items, List.Forall₂ Shortened (toJsonAll supers) items →
      items.mapM ofJson? = some supers) :
    (∃ json, held = some json ∧ (json.fold ofLayer).markers = some supers) ∨
      held = none ∧ supers = [] := by
  cases h with
  | present hs =>
      cases hs with
      | array h => exact .inl ⟨_, rfl, markers_fold_array (hread _ h)⟩
  | missing hm =>
      cases supers with
      | nil => exact .inr ⟨rfl, rfl⟩
      | cons _ _ => simp [omissible, toJsonAll] at hm

-- By recursion on the marker: its super markers stand in its document.
mutual

theorem ofJson?_of_shortened :
    (marker : Marker) → (json : Json) → Shortened marker.toJson json →
      ofJson? json = some marker
  | ⟨name, ownFields, supers, isOpen, visibility⟩, _, @Shortened.object _ short hk => by
      have hnodup : (["name", "own_fields", "super_markers", "is_open", "visibility"] :
        List String).Nodup := by decide
      have hkeys : Part.marker.keys =
        ["name", "own_fields", "super_markers", "is_open", "visibility"] := rfl
      have hname : required string? (short.lookup "name") = some name :=
        (hk.found hnodup (by simp)).string (by decide)
      have hown : withDefault [] (listOf Field.ofJson?) (short.lookup "own_fields") =
          some ownFields :=
        (hk.found hnodup (by simp :
          ("own_fields", ofList Field.toJson ownFields) ∈ _)).withDefault
          (by simp [omissible, ofList, eq_comm])
          (listOf_of_shortened Field.ofJson?_of_shortened)
      have hopen : withDefault true bool? (short.lookup "is_open") = some isOpen :=
        (hk.found hnodup (by simp)).flag (by decide)
      have hvisibility : withDefault .implicitPublic Visibility.ofJson?
          (short.lookup "visibility") = some visibility :=
        (hk.found hnodup (by simp)).withDefault
          visibility.eq_of_omissible visibility.ofJson?_of_shortened
      rw [ofJson?, fold_object]
      simp only [ofLayer, markerOf, hkeys, record?_of_kept hk hnodup, Option.bind_eq_bind,
        Option.bind_some, List.map_cons, List.map_nil, map_fst_withMeaning, hname, hown, hopen,
        hvisibility]
      rcases supers_of_found (hk.found hnodup (by simp)) (mapM_ofJson?_of_shortened supers) with
        ⟨json, hl, hm⟩ | ⟨hl, hn⟩
      · simp only [hl, Option.map_some, hm, Option.bind_some]
        rfl
      · simp only [hl, Option.map_none, hn]
        rfl

theorem mapM_ofJson?_of_shortened :
    (markers : List Marker) → (items : List Json) →
      List.Forall₂ Shortened (toJsonAll markers) items → items.mapM ofJson? = some markers
  | [], items, h => by
      cases h
      rfl
  | marker :: rest, items, h => by
      cases h with
      | cons hs hr =>
          rw [List.mapM_cons, ofJson?_of_shortened marker _ hs, mapM_ofJson?_of_shortened rest _ hr]
          rfl

end

end Marker

-- The document of a value gives the value back, in full and with members left out.
def ReadsBack {α : Type} (write : α → Json) (read : Json → Option α) : Prop :=
  ∀ value, read (write value) = some value ∧
    ∀ json, Shortened (write value) json → read json = read (write value)

theorem readsBack_of_shortened {α : Type} {write : α → Json} {read : Json → Option α}
    (h : ∀ value json, Shortened (write value) json → read json = some value) :
    ReadsBack write read := by
  intro value
  have hfull := h value _ (shortened_self _)
  exact ⟨hfull, fun json hs => (h value json hs).trans hfull.symm⟩

theorem documents_read_back :
    ReadsBack Schema.toJson Schema.ofJson? ∧ ReadsBack Column.toJson Column.ofJson? ∧
      ReadsBack FieldType.toJson FieldType.ofJson? ∧ ReadsBack Field.toJson Field.ofJson? ∧
        ReadsBack Marker.toJson Marker.ofJson? :=
  ⟨readsBack_of_shortened fun _ => Schema.ofJson?_of_shortened _,
    readsBack_of_shortened (Column.fold_of_shortened false),
    readsBack_of_shortened FieldType.ofJson?_of_shortened,
    readsBack_of_shortened Field.ofJson?_of_shortened,
    readsBack_of_shortened Marker.ofJson?_of_shortened⟩

-- A marker of which only the name is told, and a column without its flags.
example : Marker.ofJson? (.object [("name", .string "Person")]) =
    some ⟨"Person", [], [], true, .implicitPublic⟩ := by
  rfl

example : Column.ofJson? (.object [("kind", .string "frame"), ("schema", .object [])]) =
    some (.frame .nil false false) := by
  decide +kernel

end FrameMarkers
