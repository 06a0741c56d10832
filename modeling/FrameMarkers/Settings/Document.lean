import FrameMarkers.Settings.Basic
import FrameMarkers.Toml.Document

namespace FrameMarkers.Settings

def word? {α : Type} (words : List (String × α)) : Toml → Option α
  | .string word => words.lookup word
  | .table _ [(word, .array [])] => words.lookup word
  | .table _ [(word, .table _ [])] => words.lookup word
  | _ => none

def strings? (value : Toml) : Option (List String) := do
  (← value.items?).mapM Toml.string?

def optional {α : Type} (read : Toml → Option α) : Option Toml → Option (Option α)
  | some value => (read value).map some
  | none => some none

def keys : List String := [
  "name_prefix", "open", "visibility", "mode", "accessors", "nullable_accessors", "type_names",
  "name_delimiters", "on_name_conflict", "package", "imports", "read_method", "default_path"]

-- A section may also be an array of values, and a date counts as a section without keys.
def valueOf? (part : Toml) (key : String) : Option (Option Toml) :=
  match part with
  | .table _ members => some (members.lookup key)
  | .array items => some ((keys.idxOf? key).bind (items[·]?))
  | .tables items => some ((keys.idxOf? key).bind ((items.map (Toml.table .header ·))[·]?))
  | .date => some none
  | _ => none

def ofSection? (part : Toml) : Option Settings := do
  let key {α : Type} (name : String) (read : Toml → Option α) : Option (Option α) := do
    optional read (← valueOf? part name)
  return {
    rootName := ← key "name_prefix" Toml.string?
    isOpen := ← key "open" Toml.bool?
    visibility := ← key "visibility" (word? Visibility.words)
    mode := ← key "mode" (word? Mode.words)
    accessors := ← key "accessors" Toml.bool?
    nullableAccessors := ← key "nullable_accessors" Toml.bool?
    types := ← key "type_names" (word? TypeStyle.words)
    delimiters := ← key "name_delimiters" Toml.string?
    onConflict := ← key "on_name_conflict" (word? OnConflict.words)
    package := ← key "package" Toml.string?
    imports := ← key "imports" strings?
    readMethod := ← key "read_method" Toml.string?
    defaultPath := ← key "default_path" Toml.string? }

def ofMembers? (document : Toml.Members) : Option Settings :=
  match document.lookup "generate" with
  | some part => ofSection? part
  | none => some {}

def parse (text : String) : Option Settings := do
  ofMembers? (← Toml.parse text)

end FrameMarkers.Settings
