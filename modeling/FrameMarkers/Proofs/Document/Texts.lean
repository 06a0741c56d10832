import FrameMarkers.Proofs.Document.Marker
import FrameMarkers.Proofs.Json.Printed

namespace FrameMarkers

open Json
open Marker (Part)

namespace Json

variable {α : Type} {selection : Selection α} {part inner : α} {full short : List (String × Json)}

theorem Fits.of_forall_members
    (h : ∀ member ∈ full, ∃ inner, selection.member part member.1 = some inner ∧
      Fits selection inner member.2) : Fits selection part (.object full) := by
  refine .object (fun name value hm => ?_) fun name value inner hm hinner => ?_
  · obtain ⟨inner, hinner, -⟩ := h (name, value) hm
    exact Option.isSome_of_eq_some hinner
  · obtain ⟨other, hother, hfits⟩ := h (name, value) hm
    rw [hinner] at hother
    cases hother
    exact hfits

theorem Fits.of_forall_items {items : List Json}
    (hpart : ∀ place, selection.item part place = inner)
    (h : ∀ item ∈ items, Fits selection inner item) : Fits selection part (.array items) :=
  .array fun place item hp => hpart place ▸ h item (List.mem_of_getElem? hp)

theorem Fits.whole {json : Json} (h : Fits selection part json) : Fits .whole () json := by
  induction h with
  | null => exact .null
  | bool => exact .bool
  | number hnumeral hfinite => exact .number hnumeral hfinite
  | string => exact .string
  | array _ ih => exact .array ih
  | object hm _ ih =>
      refine .object (fun _ _ _ => rfl) fun name value _ hmember _ => ?_
      obtain ⟨inner, hinner⟩ := Option.isSome_iff_exists.mp (hm name value hmember)
      exact ih name value inner hmember hinner

theorem Kept.exists_related {related : Json → Json → Prop} (h : Kept related full short)
    {name : String} {value : Json} (hm : (name, value) ∈ short) :
    ∃ other, (name, other) ∈ full ∧ related other value := by
  induction h with
  | nil => exact absurd hm List.not_mem_nil
  | keep hr _ ih =>
      rcases List.mem_cons.mp hm with he | hm
      · cases he
        exact ⟨_, List.mem_cons_self, hr⟩
      · obtain ⟨other, ho, hrelated⟩ := ih hm
        exact ⟨other, List.mem_cons_of_mem _ ho, hrelated⟩
  | drop _ _ ih =>
      obtain ⟨other, ho, hrelated⟩ := ih hm
      exact ⟨other, List.mem_cons_of_mem _ ho, hrelated⟩

-- What is left out is not missed.
theorem Fits.of_shortened {full : Json} (h : Fits selection part full) {short : Json}
    (hs : Shortened full short) : Fits selection part short := by
  induction h generalizing short with
  | null => cases hs; exact .null
  | bool => cases hs; exact .bool
  | number hnumeral hfinite => cases hs; exact .number hnumeral hfinite
  | string => cases hs; exact .string
  | array _ ih =>
      cases hs with
      | array hitems =>
          refine .array fun place item hp => ?_
          obtain ⟨hlt, rfl⟩ := List.getElem?_eq_some_iff.mp hp
          have hfull := hitems.length_eq ▸ hlt
          exact ih place _ (List.getElem?_eq_getElem hfull) (hitems.get hfull hlt)
  | object hm _ ih =>
      cases hs with
      | object hk =>
          refine .object (fun name value hmember => ?_) fun name value inner hmember hinner => ?_
          · obtain ⟨other, ho, -⟩ := hk.exists_related hmember
            exact hm name other ho
          · obtain ⟨other, ho, hrelated⟩ := hk.exists_related hmember
            exact ih name other inner ho hinner hrelated

end Json

-- A schema stands in its document as a member of any name.
theorem Json.Fits.schema {members : List (String × Json)}
    (h : ∀ member ∈ members, Fits Part.selection .value member.2) :
    Fits Part.selection .value (.object members) :=
  .of_forall_members fun member hm => ⟨.value, rfl, h member hm⟩

mutual

theorem Column.fits : (column : Column) → Fits Part.selection .value column.toJson
  | .value _ => by
      refine .of_forall_members ?_
      simp only [List.forall_mem_cons]
      exact ⟨⟨.value, rfl, .string⟩, ⟨.value, rfl, .string⟩, ⟨.value, rfl, .bool⟩, nofun⟩
  | .group schema _ => by
      have hschema := Fits.schema (Columns.fits schema)
      refine .of_forall_members ?_
      simp only [List.forall_mem_cons]
      exact ⟨⟨.value, rfl, .string⟩, ⟨.value, rfl, hschema⟩, ⟨.value, rfl, .bool⟩, nofun⟩
  | .frame schema _ _ => by
      have hschema := Fits.schema (Columns.fits schema)
      refine .of_forall_members ?_
      simp only [List.forall_mem_cons]
      exact ⟨⟨.value, rfl, .string⟩, ⟨.value, rfl, hschema⟩, ⟨.value, rfl, .bool⟩,
        ⟨.value, rfl, .bool⟩, nofun⟩

theorem Columns.fits : {low : Option String} → (columns : Columns low) →
    ∀ member ∈ columns.toMembers, Fits Part.selection .value member.2
  | _, .nil => nofun
  | _, .cons _ column _ rest => List.forall_mem_cons.mpr ⟨column.fits, rest.fits⟩

end

theorem Schema.fits (schema : Schema) : Fits Part.selection .value schema.toJson :=
  .schema (Columns.fits schema)

theorem Identifier.fits (identifier : Identifier) :
    Fits Part.selection .identifier identifier.toJson := by
  refine .of_forall_members ?_
  simp only [List.forall_mem_cons]
  exact ⟨⟨.value, rfl, .string⟩, ⟨.value, rfl, .bool⟩, nofun⟩

theorem FieldType.fits (type : FieldType) : Fits Part.selection .value type.toJson := by
  cases type <;>
  · refine .of_forall_members ?_
    simp only [List.forall_mem_cons]
    exact ⟨⟨.value, rfl, .string⟩, ⟨.value, rfl, .string⟩, ⟨.value, rfl, .bool⟩, nofun⟩

theorem Field.fits (field : Field) : Fits Part.selection .field field.toJson := by
  refine .of_forall_members ?_
  simp only [List.forall_mem_cons]
  exact ⟨⟨.identifier, rfl, field.identifier.fits⟩, ⟨.value, rfl, .string⟩,
    ⟨.value, rfl, field.type.fits⟩, ⟨.value, rfl, .bool⟩, ⟨.value, rfl, field.shape.fits⟩, nofun⟩

namespace Marker

mutual

theorem fits : (marker : Marker) → Fits Part.selection .marker marker.toJson
  | ⟨_, ownFields, supers, _, _⟩ => by
      have hown : Fits Part.selection .fields (.ofList Field.toJson ownFields) :=
        .of_forall_items (fun _ => rfl) (List.forall_mem_map.mpr fun field _ => field.fits)
      have hsupers : Fits Part.selection .markers (.array (toJsonAll supers)) :=
        .of_forall_items (fun _ => rfl) (fits_toJsonAll supers)
      refine .of_forall_members ?_
      simp only [List.forall_mem_cons]
      exact ⟨⟨.value, rfl, .string⟩, ⟨.fields, rfl, hown⟩, ⟨.markers, rfl, hsupers⟩,
        ⟨.value, rfl, .bool⟩, ⟨.value, rfl, .string⟩, nofun⟩

theorem fits_toJsonAll : (markers : List Marker) →
    ∀ json ∈ toJsonAll markers, Fits Part.selection .marker json
  | [] => nofun
  | marker :: rest => List.forall_mem_cons.mpr ⟨marker.fits, fits_toJsonAll rest⟩

end

end Marker

theorem parseSelected_of_shortened {α β : Type} {selection : Selection β} {part : β}
    {read : Json → Option α} {value : α} {full json : Json} (hfits : Fits selection part full)
    (hs : Shortened full json) (hread : read json = some value) :
    (parseSelected selection part json.render >>= read) =
      if json.depth ≤ maxDepth then some value else none := by
  rw [parseSelected_render (hfits.of_shortened hs)]
  split
  · exact hread
  · rfl

-- The printed document of a value gives the value back, in full and with members left out, unless
-- it is nested too deeply to be read.
def TextReadsBack {α : Type} (write : α → Json) (read : Json → Option α) : Prop :=
  ∀ value json, Shortened (write value) json →
    (Json.parse json.render >>= read) = if json.depth ≤ maxDepth then some value else none

theorem textReadsBack {α : Type} {part : Part} {write : α → Json} {read : Json → Option α}
    (hfits : ∀ value, Fits Part.selection part (write value))
    (hread : ∀ value json, Shortened (write value) json → read json = some value) :
    TextReadsBack write read :=
  fun value json hs => parseSelected_of_shortened (hfits value).whole hs (hread value json hs)

theorem texts_read_back :
    TextReadsBack Schema.toJson Schema.ofJson? ∧ TextReadsBack Column.toJson Column.ofJson? ∧
      TextReadsBack FieldType.toJson FieldType.ofJson? ∧ TextReadsBack Field.toJson Field.ofJson? ∧
        TextReadsBack Marker.toJson Marker.ofJson? :=
  ⟨textReadsBack Schema.fits Schema.ofJson?_of_shortened,
    textReadsBack Column.fits (Column.fold_of_shortened false),
    textReadsBack FieldType.fits FieldType.ofJson?_of_shortened,
    textReadsBack Field.fits Field.ofJson?_of_shortened,
    textReadsBack Marker.fits Marker.ofJson?_of_shortened⟩

-- So a schema that the command reads is the one whose document was printed, and so are its markers.
theorem Schema.parse_render (schema : Schema) (json : Json) (hs : Shortened schema.toJson json) :
    Schema.parse json.render = if json.depth ≤ maxDepth then some schema else none :=
  texts_read_back.1 schema json hs

theorem Marker.parseList_render (markers : List Marker) (items : List Json)
    (hs : List.Forall₂ Shortened (toJsonAll markers) items) :
    parseList (Json.array items).render =
      if (Json.array items).depth ≤ maxDepth then some markers else none := by
  have hfits : Fits Part.selection .markers (.array (toJsonAll markers)) :=
    .of_forall_items (fun _ => rfl) (fits_toJsonAll markers)
  exact parseSelected_of_shortened hfits (.array hs)
    (markers_fold_array (mapM_ofJson?_of_shortened markers items hs))

end FrameMarkers
