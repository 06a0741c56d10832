import FrameMarkers.Schema.Basic

namespace FrameMarkers

namespace Column

def nullable : Column → Bool
  | .value type => type.nullable
  | .group _ nullable => nullable
  | .frame _ nullable _ => nullable

def toNullable : Column → Column
  | .value type => .value type.toNullable
  | .group schema _ => .group schema true
  | .frame schema _ elementsNullable => .frame schema true elementsNullable

def lifted (lift : Bool) (column : Column) : Column :=
  if lift then column.toNullable else column

end Column

namespace Columns

def toNullable : {low : Option String} → Columns low → Columns low
  | _, .nil => .nil
  | _, .cons name column above rest => .cons name column.toNullable above rest.toNullable

def lifted {low : Option String} (lift : Bool) (columns : Columns low) : Columns low :=
  if lift then columns.toNullable else columns

end Columns

-- Inside a frame with nullable elements every column is nullable.
def Column.nested? : Column → Option Schema
  | .value _ => none
  | .group schema _ => some schema
  | .frame schema _ elementsNullable => some (schema.lifted elementsNullable)

def ValueType.any : String :=
  "kotlin.Any"

def ValueType.covers (type other : ValueType) : Bool :=
  (type.nullable || !other.nullable) && (type.name == any || type.name == other.name)

mutual

def Column.coversLifted (lift : Bool) : Column → Column → Bool
  | .value type, .value other => ValueType.covers ⟨type.name, lift || type.nullable⟩ other
  | .group schema nullable, .group other otherNullable =>
    ((lift || nullable) || !otherNullable) && schema.coversLifted false other
  | .frame schema nullable elementsNullable, .frame other otherNullable otherElements =>
    ((lift || nullable) || !otherNullable)
      && schema.coversLifted elementsNullable (other.lifted otherElements)
  | _, _ => false

def Columns.coversLifted (lift : Bool) : {low : Option String} → Columns low → Schema → Bool
  | _, .nil, _ => true
  | _, .cons name column _ rest, other =>
    (other.get? name).any (column.coversLifted lift) && rest.coversLifted lift other

end

def Column.covers (column other : Column) : Bool :=
  column.coversLifted false other

def Columns.covers {low : Option String} (columns : Columns low) (other : Schema) : Bool :=
  columns.coversLifted false other

end FrameMarkers
