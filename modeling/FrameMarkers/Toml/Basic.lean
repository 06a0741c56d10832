namespace FrameMarkers

namespace Toml

inductive Origin where
  | inline
  | implied
  | dotted
  | header
deriving DecidableEq, Repr

end Toml

inductive Toml where
  | string (text : String)
  | bool (value : Bool)
  | number
  | date
  | array (items : List Toml)
  | tables (items : List (List (String × Toml)))
  | table (origin : Toml.Origin) (members : List (String × Toml))

namespace Toml

abbrev Members := List (String × Toml)

def Members.put (key : String) (value : Toml) : Members → Members
  | [] => [(key, value)]
  | (name, old) :: rest =>
    if name = key then (key, value) :: rest else (name, old) :: put key value rest

def string? : Toml → Option String
  | .string text => some text
  | _ => none

def bool? : Toml → Option Bool
  | .bool value => some value
  | _ => none

def items? : Toml → Option (List Toml)
  | .array items => some items
  | .tables items => some (items.map (.table .header ·))
  | _ => none

end Toml

end FrameMarkers
