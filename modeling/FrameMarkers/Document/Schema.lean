import FrameMarkers.Json.Reader
import FrameMarkers.Json.Record
import FrameMarkers.Schema.Basic

namespace FrameMarkers

mutual

def Column.toJson : Column → Json
  | .value type =>
    .object [("kind", .string "value"), ("name", .string type.name),
      ("nullable", .bool type.nullable)]
  | .group schema nullable =>
    .object [("kind", .string "group"), ("schema", .object schema.toMembers),
      ("nullable", .bool nullable)]
  | .frame schema nullable elementsNullable =>
    .object [("kind", .string "frame"), ("schema", .object schema.toMembers),
      ("nullable", .bool nullable), ("elements_nullable", .bool elementsNullable)]

def Columns.toMembers : {low : Option String} → Columns low → List (String × Json)
  | _, .nil => []
  | _, .cons name column _ rest => (name, column.toJson) :: rest.toMembers

end

def Schema.toJson (schema : Schema) : Json :=
  .object schema.toMembers

-- A level is read both as a column and as a schema, on its own or inside a column.
structure ColumnMeaning where
  column : (inner : Bool) → Option Column
  schema : (inner : Bool) → Option Schema

namespace ColumnMeaning

open Json

def kinds : List String :=
  ["value", "group", "frame"]

def nested (value : Option (Json × ColumnMeaning)) : Option Schema :=
  value.bind (·.2.schema true)

def flag (value : Option (Json × ColumnMeaning)) : Option Bool :=
  withDefault false bool? (value.map Prod.fst)

def columnOf (layer : Layer ColumnMeaning) (inner : Bool) : Option Column := do
  let (kind, body) ← layer.tagged? "kind" kinds inner
  match kind with
  | 0 =>
    let [name, nullable] ← body.record? ["name", "nullable"] | none
    let name ← required string? (name.map Prod.fst)
    return .value ⟨name, ← flag nullable⟩
  | 1 =>
    let [schema, nullable] ← body.record? ["schema", "nullable"] | none
    return .group (← nested schema) (← flag nullable)
  | _ =>
    let [schema, nullable, elements] ← body.record? ["schema", "nullable", "elements_nullable"]
      | none
    return .frame (← nested schema) (← flag nullable) (← flag elements)

def schemaOf (layer : Layer ColumnMeaning) (inner : Bool) : Option Schema :=
  match layer with
  | .object members => do
    let columns ← members.mapM fun member => (member.2.2.column inner).map (member.1, ·)
    return .ofList columns
  | _ => none

def ofLayer (layer : Layer ColumnMeaning) : ColumnMeaning :=
  ⟨columnOf layer, schemaOf layer⟩

end ColumnMeaning

def Column.ofJson? (json : Json) : Option Column :=
  (json.fold ColumnMeaning.ofLayer).column false

def Schema.ofJson? (json : Json) : Option Schema :=
  (json.fold ColumnMeaning.ofLayer).schema false

def Schema.parse (text : String) : Option Schema := do
  ofJson? (← Json.parse text)

end FrameMarkers
