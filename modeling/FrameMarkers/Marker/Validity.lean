import FrameMarkers.Error
import FrameMarkers.Marker.Basic

namespace FrameMarkers.Marker

mutual

def repeatedAbove (path : List String) : Marker → Option String
  | ⟨_, _, supers, _, _⟩ => repeatedAmong path supers

def repeatedAmong (path : List String) : List Marker → Option String
  | [] => none
  | marker :: rest =>
    if marker.name ∈ path then some marker.name
    else
      match repeatedAbove (marker.name :: path) marker with
      | some name => some name
      | none => repeatedAmong path rest

end

def inheritedIdentifiers (marker : Marker) : List String :=
  (marker.supers.flatMap fields).map (·.identifier.text)

-- Declared twice, or taken from an inherited field without leave.
def conflicting? (marker : Marker) : Option Field :=
  match firstRepeated (·.identifier.text) [] marker.ownFields with
  | some field => some field
  | none =>
    marker.ownFields.find? fun field =>
      !field.overrides && marker.inheritedIdentifiers.contains field.identifier.text

def validate (marker : Marker) : Except Error Unit :=
  match repeatedAbove [marker.name] marker with
  | some name => .error (.cycle name)
  | none =>
    match marker.conflicting? with
    | some field => .error (.conflict marker.name field.identifier.text)
    | none => .ok ()

def make (name : String) (ownFields : List Field) (supers : List Marker) (isOpen : Bool)
    (visibility : Visibility) : Except Error Marker := do
  let marker := ⟨name, ownFields, supers, isOpen, visibility⟩
  marker.validate
  pure marker

end FrameMarkers.Marker
