import FrameMarkers.Declaration.TypeStyle
import FrameMarkers.Error
import FrameMarkers.Marker.Basic
import FrameMarkers.Text.Literal

namespace FrameMarkers

inductive Receiver where
  | container
  | row
deriving DecidableEq, Repr

structure BindingTable where
  claimed : List (Receiver × String)

namespace BindingTable

def empty : BindingTable :=
  ⟨[]⟩

def claim (table : BindingTable) (receiver : Receiver) (binding : String) (owner : String) :
    Except Error BindingTable :=
  if table.claimed.contains (receiver, binding) then .error (.conflict owner binding)
  else .ok ⟨(receiver, binding) :: table.claimed⟩

end BindingTable

structure Accessor where
  receiver : Receiver
  binding : String
  text : String
deriving DecidableEq, Repr

namespace Accessor

def render (visibility : Visibility) (receiver : String) (field : Field) (result : String)
    (binding : String) : String :=
  visibility.topLevel ++ "val " ++ receiver ++ "." ++ field.identifier.declared ++ ": " ++ result
    ++ " @JvmName(\"" ++ Text.literal binding ++ "\") get() = this[\""
    ++ Text.literal field.column ++ "\"] as " ++ result

def claimAll (owner : String) : List Accessor → BindingTable → Except Error BindingTable
  | [], table => .ok table
  | accessor :: rest, table => do
    let table ← table.claim accessor.receiver accessor.binding owner
    claimAll owner rest table

end Accessor

namespace Marker

variable (style : TypeStyle)

def sortedFields (marker : Marker) : List Field :=
  marker.fields.mergeSort fun first second =>
    first.identifier.declared ≤ second.identifier.declared

def fieldAccessors (marker : Marker) (field : Field) : List Accessor :=
  let binding := marker.shortName ++ "_" ++ field.identifier.text
  [⟨.container, binding, Accessor.render marker.visibility (style.containerType marker.name) field
      (style.columnType field.type) binding⟩,
    ⟨.row, binding, Accessor.render marker.visibility (style.rowType marker.name) field
      (style.fieldType field.type) binding⟩]

def nullableFieldAccessors (marker : Marker) (field : Field) : List Accessor :=
  let binding := "Nullable" ++ marker.shortName ++ "_" ++ field.identifier.text
  let type := style.typeName marker.name ++ "?"
  [⟨.container, binding, Accessor.render marker.visibility (style.applied .columnsContainer type)
      field (style.nullableColumnType field.type) binding⟩,
    ⟨.row, binding, Accessor.render marker.visibility (style.applied .dataRow type) field
      (style.nullableFieldType field.type) binding⟩]

def accessors (nullable : Bool) (marker : Marker) : List Accessor :=
  marker.sortedFields.flatMap (marker.fieldAccessors style)
    ++ if nullable then marker.sortedFields.flatMap (marker.nullableFieldAccessors style) else []

def renderAccessors (nullable : Bool) (marker : Marker) (table : BindingTable) :
    Except Error (String × BindingTable) := do
  let accessors := marker.accessors style nullable
  let table ← Accessor.claimAll marker.name accessors table
  pure ("\n".intercalate (accessors.map (·.text)), table)

end Marker

end FrameMarkers
