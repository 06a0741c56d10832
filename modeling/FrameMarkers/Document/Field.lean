import FrameMarkers.Document.Part
import FrameMarkers.Document.Schema
import FrameMarkers.Field.Basic

namespace FrameMarkers

open Json

def Identifier.toJson (identifier : Identifier) : Json :=
  .object [("identifier", .string identifier.text), ("needs_quote", .bool identifier.quoted)]

def Identifier.ofJson? (json : Json) : Option Identifier := do
  let [text, quoted] ← json.record? Marker.Part.identifier.keys | none
  return ⟨← required string? text, ← required bool? quoted⟩

namespace FieldType

def toJson : FieldType → Json
  | .value name nullable =>
    .object [("kind", .string "value"), ("type_name", .string name), ("nullable", .bool nullable)]
  | .group marker nullable =>
    .object [("kind", .string "group"), ("marker_name", .string marker),
      ("nullable", .bool nullable)]
  | .frame marker nullable =>
    .object [("kind", .string "frame"), ("marker_name", .string marker),
      ("nullable", .bool nullable)]

def named? (key : String) (body : Layer Unit) : Option (String × Bool) := do
  let [name, nullable] ← body.record? [key, "nullable"] | none
  return (← required string? (name.map Prod.fst),
    ← withDefault false bool? (nullable.map Prod.fst))

def ofJson? (json : Json) : Option FieldType := do
  let (kind, body) ← json.layer.tagged? "kind" ColumnMeaning.kinds false
  match kind with
  | 0 =>
    let (name, nullable) ← named? "type_name" body
    return .value name nullable
  | 1 =>
    let (marker, nullable) ← named? "marker_name" body
    return .group marker nullable
  | _ =>
    let (marker, nullable) ← named? "marker_name" body
    return .frame marker nullable

end FieldType

namespace Field

def toJson (field : Field) : Json :=
  .object [("field_name", field.identifier.toJson), ("column_name", .string field.column),
    ("field_type", field.type.toJson), ("overrides", .bool field.overrides),
    ("column_schema", field.shape.toJson)]

def ofJson? (json : Json) : Option Field := do
  let [identifier, column, type, overrides, shape] ← json.record? Marker.Part.field.keys | none
  return {
    identifier := ← required Identifier.ofJson? identifier
    column := ← required string? column
    type := ← required FieldType.ofJson? type
    overrides := ← withDefault false bool? overrides
    shape := ← required Column.ofJson? shape }

end Field

end FrameMarkers
