import FrameMarkers.Document.Field
import FrameMarkers.Marker.Basic

namespace FrameMarkers

open Json

def wordOf {α : Type} [DecidableEq α] (words : List (String × α)) (choice : α) : String :=
  ((words.find? (·.2 == choice)).map Prod.fst).getD ""

def Visibility.word (visibility : Visibility) : String :=
  wordOf words visibility

def Visibility.toJson (visibility : Visibility) : Json :=
  .string visibility.word

def Visibility.ofJson? : Json → Option Visibility :=
  Json.word? words

namespace Marker

mutual

def toJson : Marker → Json
  | ⟨name, ownFields, supers, isOpen, visibility⟩ =>
    .object [("name", .string name), ("own_fields", .ofList Field.toJson ownFields),
      ("super_markers", .array (toJsonAll supers)), ("is_open", .bool isOpen),
      ("visibility", visibility.toJson)]

def toJsonAll : List Marker → List Json
  | [] => []
  | marker :: rest => toJson marker :: toJsonAll rest

end

-- A level of a document is read both ways: as a marker and as a list of markers.
structure Meaning where
  marker : Option Marker
  markers : Option (List Marker)

namespace Meaning

def markerOf (layer : Layer Meaning) : Option Marker := do
  let [name, ownFields, supers, isOpen, visibility] ← layer.record? Part.marker.keys | none
  return {
    name := ← required string? (name.map Prod.fst)
    ownFields := ← withDefault [] (listOf Field.ofJson?) (ownFields.map Prod.fst)
    supers := ← match supers with
      | some value => value.2.markers
      | none => some []
    isOpen := ← withDefault true bool? (isOpen.map Prod.fst)
    visibility := ← withDefault .implicitPublic Visibility.ofJson? (visibility.map Prod.fst) }

def markersOf : Layer Meaning → Option (List Marker)
  | .array items => items.mapM (·.2.marker)
  | _ => none

def ofLayer (layer : Layer Meaning) : Meaning :=
  ⟨markerOf layer, markersOf layer⟩

end Meaning

def ofJson? (json : Json) : Option Marker :=
  (json.fold Meaning.ofLayer).marker

def listOfJson? (json : Json) : Option (List Marker) :=
  (json.fold Meaning.ofLayer).markers

-- Members that are not part of a marker need not make sense, only be well formed.
def parseList (text : String) : Option (List Marker) := do
  listOfJson? (← Json.parseSelected Part.selection .markers text)

end Marker

end FrameMarkers
