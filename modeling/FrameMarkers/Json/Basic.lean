import FrameMarkers.Text.Decimal

namespace FrameMarkers

inductive Json where
  | null
  | bool (value : Bool)
  | number (literal : String)
  | string (text : String)
  | array (items : List Json)
  | object (members : List (String × Json))

namespace Json

def string? : Json → Option String
  | .string text => some text
  | _ => none

def bool? : Json → Option Bool
  | .bool value => some value
  | _ => none

def array? : Json → Option (List Json)
  | .array items => some items
  | _ => none

def object? : Json → Option (List (String × Json))
  | .object members => some members
  | _ => none

def natural? : Json → Option Nat
  | .number literal =>
    if literal.toList.all Char.isDigit then some (Text.decimalValue literal.toList) else none
  | _ => none

def listOf {α : Type} (read : Json → Option α) (json : Json) : Option (List α) := do
  let items ← json.array?
  items.mapM read

def orNull {α : Type} (read : Json → Option α) : Json → Option (Option α)
  | .null => some none
  | json => (read json).map some

def ofList {α : Type} (write : α → Json) (items : List α) : Json :=
  .array (items.map write)

def ofOption {α : Type} (write : α → Json) : Option α → Json
  | some value => write value
  | none => .null

end Json

end FrameMarkers
