import FrameMarkers.Json.Source

namespace FrameMarkers.Marker

inductive Part where
  | markers
  | marker
  | fields
  | field
  | identifier
  | value

namespace Part

def record? : Part → Option (List (String × Part))
  | .marker => some [
      ("name", .value), ("own_fields", .fields), ("super_markers", .markers), ("is_open", .value),
      ("visibility", .value)]
  | .field => some [
      ("field_name", .identifier), ("column_name", .value), ("field_type", .value),
      ("overrides", .value), ("column_schema", .value)]
  | .identifier => some [("identifier", .value), ("needs_quote", .value)]
  | _ => none

def keys (part : Part) : List String :=
  (part.record?.getD []).map Prod.fst

-- A record has no members but those under its keys.
def member? (part : Part) (name : String) : Option Part :=
  match part.record? with
  | some keys => keys.lookup name
  | none => some .value

-- A record may be an array of the values under its keys.
def item (part : Part) (place : Nat) : Part :=
  match part with
  | .markers => .marker
  | .fields => .field
  | part => ((part.record?.getD [])[place]?).elim .value Prod.snd

def selection : Json.Selection Part :=
  ⟨member?, item⟩

end Part

end FrameMarkers.Marker
