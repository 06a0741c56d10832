import FrameMarkers.Error
import FrameMarkers.Field.Basic
import FrameMarkers.Identifier.CamelCase
import FrameMarkers.Identifier.Pool

namespace FrameMarkers

inductive OnConflict where
  | suffix
  | fail
deriving DecidableEq, Repr

def OnConflict.words : List (String × OnConflict) := [
  ("suffix", .suffix), ("fail", .fail)]

structure Naming where
  normalize : Normalizer
  onConflict : OnConflict

structure Scope where
  marker : String
  inherited : List Field

namespace Scope

def inherited? (scope : Scope) (column : String) : Option Field :=
  scope.inherited.find? (·.column == column)

def identifiers (scope : Scope) : NamePool :=
  .ofList (scope.inherited.map (·.identifier.text))

end Scope

namespace Naming

-- The normalized name, or the column itself if nothing of it is left.
def source (naming : Naming) (column : String) : String :=
  let normalized := naming.normalize column
  if Text.isBlank normalized.toList then column else normalized

def identify (naming : Naming) (scope : Scope) (column : String) (used : NamePool) :
    Except Error (Identifier × NamePool) :=
  let source := naming.source column
  if Text.isBlank source.toList then .error (.blankColumn column)
  else
    let identifier := Identifier.ofName source
    if used.contains identifier.text then
      match naming.onConflict with
      | .fail => .error (.conflict scope.marker identifier.text)
      | .suffix =>
        let (text, used) := used.allocate identifier.text
        .ok ({ identifier with text }, used)
    else .ok (identifier, used.insert identifier.text)

-- There is no field where an inherited one of the same type stands for the column.
def declare (naming : Naming) (scope : Scope) (column : String) (shape : Column) (type : FieldType)
    (used : NamePool) : Except Error (Option Field × NamePool) :=
  match scope.inherited? column with
  | some field =>
    if field.type = type then .ok (none, used)
    else .ok (some ⟨field.identifier, column, type, true, shape⟩, used)
  | none => do
    let (identifier, used) ← naming.identify scope column used
    pure (some ⟨identifier, column, type, false, shape⟩, used)

end Naming

end FrameMarkers
