import FrameMarkers.Identifier.Basic
import FrameMarkers.Schema.Cover

namespace FrameMarkers

inductive FieldType where
  | value (name : String) (nullable : Bool)
  | group (marker : String) (nullable : Bool)
  | frame (marker : String) (nullable : Bool)
deriving DecidableEq, Repr

namespace FieldType

def wildcard : String :=
  "*"

def ofValueType (type : ValueType) : FieldType :=
  .value type.name type.nullable

def nullable : FieldType → Bool
  | .value _ nullable => nullable
  | .group _ nullable => nullable
  | .frame _ nullable => nullable

def marker? : FieldType → Option String
  | .value _ _ => none
  | .group marker _ => some marker
  | .frame marker _ => some marker

def isWildcard (type : FieldType) : Bool :=
  type.marker? == some wildcard

-- The wildcard stays as it is.
def withNullability (nullable : Bool) (type : FieldType) : FieldType :=
  if type.isWildcard then type
  else
    match type with
    | .value name _ => .value name nullable
    | .group marker _ => .group marker nullable
    | .frame marker _ => .frame marker nullable

def toNullable : FieldType → FieldType :=
  withNullability true

def toNotNullable : FieldType → FieldType :=
  withNullability false

def valueName? : FieldType → Option String
  | .value name nullable => some (ValueType.render ⟨name, nullable⟩)
  | _ => none

end FieldType

structure Field where
  identifier : Identifier
  column : String
  type : FieldType
  overrides : Bool
  shape : Column
deriving DecidableEq

namespace Field

def value (column : String) (type : ValueType) : Field :=
  ⟨.ofName column, column, .ofValueType type, false, .value type⟩

def anyGroup (column : String) (nullable : Bool) : Field :=
  ⟨.ofName column, column, .group FieldType.wildcard nullable, false, .group Schema.empty nullable⟩

def isWildcard (field : Field) : Bool :=
  field.type.isWildcard

def sameKind : FieldType → Column → Bool
  | .group _ _, .group _ _ => true
  | .frame _ _, .frame _ _ _ => true
  | _, _ => false

-- A wildcard asks for the kind and for nothing absent that it does not allow.
def accepts (field : Field) (column : Column) : Bool :=
  if field.isWildcard then
    (field.type.nullable || !column.nullable) && sameKind field.type column
  else field.shape.covers column

end Field

end FrameMarkers
