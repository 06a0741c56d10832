import FrameMarkers.Text.CodeTable

namespace FrameMarkers

inductive Mode where
  | noFields
  | withFields
  | enumeration
  | typeAlias
  | none
deriving DecidableEq, Repr

def Mode.title : Mode → String
  | .noFields => "NoFields"
  | .withFields => "WithFields"
  | .enumeration => "Enum"
  | .typeAlias => "TypeAlias"
  | .none => "None"

def Mode.words : List (String × Mode) := [
  ("no_fields", .noFields), ("with_fields", .withFields), ("enum", .enumeration),
  ("type_alias", .typeAlias), ("none", .none)]

inductive Error where
  | cycle (marker : String)
  | conflict (scope : String) (identifier : String)
  | blankColumn (column : String)
  | notForSchemas (mode : Mode)
  | aliasTarget (marker : String) (supers : Nat)
deriving DecidableEq, Repr

def Error.message : Error → String
  | .cycle marker => "marker `" ++ marker ++ "` is its own ancestor"
  | .conflict scope identifier =>
    "identifier `" ++ identifier ++ "` is declared more than once in `" ++ scope ++ "`"
  | .blankColumn column =>
    "column " ++ String.ofList (Text.quoteBlank column.toList)
      ++ " normalizes to an empty identifier"
  | .notForSchemas mode =>
    mode.title
      ++ " mode is not supported: synthesized markers render as interfaces or accessors only"
  | .aliasTarget marker supers =>
    Mode.typeAlias.title ++ " mode is not supported: `" ++ marker ++ "` has " ++ toString supers
      ++ " super markers, a type alias needs exactly one"

end FrameMarkers
