import FrameMarkers.Field.Basic

namespace FrameMarkers

section

variable {α β : Type} [DecidableEq β]

def distinctBy (key : α → β) : List α → List α
  | [] => []
  | entry :: rest => entry :: (distinctBy key rest).filter fun other => key other ≠ key entry

def firstRepeated (key : α → β) : List β → List α → Option α
  | _, [] => none
  | seen, entry :: rest =>
    if key entry ∈ seen then some entry else firstRepeated key (key entry :: seen) rest

end

inductive Visibility where
  | internal
  | implicitPublic
  | explicitPublic
deriving DecidableEq, Repr

namespace Visibility

def topLevel : Visibility → String
  | .internal => "internal "
  | .implicitPublic => ""
  | .explicitPublic => "public "

def member : Visibility → String
  | .explicitPublic => "public "
  | .internal => ""
  | .implicitPublic => ""

def words : List (String × Visibility) := [
  ("internal", .internal), ("implicit_public", .implicitPublic),
  ("explicit_public", .explicitPublic)]

end Visibility

structure Marker where
  name : String
  ownFields : List Field
  supers : List Marker
  isOpen : Bool
  visibility : Visibility

namespace Marker

def shortName (marker : Marker) : String :=
  String.ofList (marker.name.toList.reverse.takeWhile (· != '.')).reverse

mutual

-- The own fields first, then those of each super marker in turn.
def declaredFields : Marker → List Field
  | ⟨_, ownFields, supers, _, _⟩ => ownFields ++ declaredFieldsOf supers

def declaredFieldsOf : List Marker → List Field
  | [] => []
  | marker :: rest => declaredFields marker ++ declaredFieldsOf rest

end

-- Of those with one identifier, the first that is declared.
def fields (marker : Marker) : List Field :=
  distinctBy (·.identifier.text) marker.declaredFields

def field? (marker : Marker) (column : String) : Option Field :=
  marker.fields.find? (·.column == column)

def schema (marker : Marker) : Schema :=
  .ofList (marker.fields.map fun field => (field.column, field.shape))

def accepts (marker : Marker) (schema : Schema) : Bool :=
  marker.fields.all fun field => (schema.get? field.column).any field.accepts

end Marker

namespace Field

def group (column : String) (marker : Marker) (nullable : Bool) : Field :=
  ⟨.ofName column, column, .group marker.name nullable, false, .group marker.schema nullable⟩

def frame (column : String) (marker : Marker) (nullable : Bool) : Field :=
  ⟨.ofName column, column, .frame marker.name nullable, false, .frame marker.schema nullable false⟩

end Field

end FrameMarkers
