import FrameMarkers.Identifier.Pool
import FrameMarkers.Marker.Ancestors
import FrameMarkers.Marker.Validity

namespace FrameMarkers

structure Registry where
  -- The known ones as supplied, then their ancestors, then those that were synthesized. This order
  -- decides between equally good ones.
  markers : List Marker
  generated : List Marker
  chosen : List (Schema × Marker)
  names : NamePool

namespace Registry

-- The short names of the known markers are in use.
def ofKnown (known : List Marker) : Except Error Registry := do
  known.forM Marker.validate
  let markers := distinctBy (·.name) (known ++ known.flatMap Marker.ancestors)
  pure ⟨markers, [], [], .ofList (markers.map Marker.shortName)⟩

def find? (registry : Registry) (name : String) : Option Marker :=
  registry.markers.find? (·.name == name)

def choice? (registry : Registry) (schema : Schema) : Option Marker :=
  (registry.chosen.find? (·.1 == schema)).map Prod.snd

def choose (registry : Registry) (schema : Schema) (marker : Marker) : Registry :=
  { registry with chosen := (schema, marker) :: registry.chosen }

def register (registry : Registry) (marker : Marker) : Registry :=
  { registry with
    markers := registry.markers ++ [marker]
    generated := registry.generated ++ [marker] }

def allocate (registry : Registry) (proposed : String) : String × Registry :=
  let (name, names) := registry.names.allocate proposed
  (name, { registry with names })

end Registry

-- Those with more fields first, equally large ones in the order of the registry.
def Registry.required (registry : Registry) (schema : Schema) : List Marker :=
  (registry.markers.filter fun marker => marker.isOpen && marker.accepts schema).mergeSort
    fun first second => second.fields.length ≤ first.fields.length

-- An open marker cannot be replaced by a closed one.
def Registry.reusable? (registry : Registry) (schema : Schema) (required : List Marker)
    (isOpen : Bool) : Option Marker :=
  registry.markers.find? fun marker =>
    (marker.isOpen || !isOpen) && required.all marker.implements && marker.schema == schema

def Marker.leaves (markers : List Marker) : List Marker :=
  markers.filter fun marker =>
    !markers.any fun other => other.name != marker.name && other.implements marker

end FrameMarkers
