import FrameMarkers.Json.Record
import FrameMarkers.ReadMethod

namespace FrameMarkers

open Json

namespace ReadArgument

def toJson (argument : ReadArgument) : Json :=
  .object [("name", .string argument.name), ("type_name", .string argument.type),
    ("default", .string argument.default)]

def ofJson? (json : Json) : Option ReadArgument := do
  let [name, type, default] ← json.record? ["name", "type_name", "default"] | none
  return ⟨← required string? name, ← required string? type, ← required string? default⟩

end ReadArgument

namespace ReadMethod

def toJson (method : ReadMethod) : Json :=
  .object [("method_name", .string method.name),
    ("default_path", .ofOption .string method.defaultPath),
    ("arguments", .ofList ReadArgument.toJson method.arguments)]

def ofJson? (json : Json) : Option ReadMethod := do
  let [name, defaultPath, arguments] ← json.record? ["method_name", "default_path", "arguments"]
    | none
  return {
    name := ← required string? name
    defaultPath := ← withDefault none (orNull string?) defaultPath
    arguments := ← withDefault [] (listOf ReadArgument.ofJson?) arguments }

end ReadMethod

end FrameMarkers
