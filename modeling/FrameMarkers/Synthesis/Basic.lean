import FrameMarkers.Registry
import FrameMarkers.Synthesis.Naming

namespace FrameMarkers

-- The effects of a call remain when it fails.
abbrev Synthesis := ExceptT Error (StateM Registry)

structure Proposal where
  name : String
  isOpen : Bool
  visibility : Visibility

namespace Synthesis

-- The candidates that no other implies become super markers. The own fields are computed in the
-- scope of the new marker, when its name is taken.
def create (proposal : Proposal) (schema : Schema) (required : List Marker)
    (ownFields : Scope → Synthesis (List Field)) : Synthesis Marker := do
  let name ← modifyGet (·.allocate proposal.name)
  let supers := Marker.leaves required
  let own ← ownFields ⟨name, distinctBy (·.column) (supers.flatMap Marker.fields)⟩
  let marker ← MonadExcept.ofExcept
    (Marker.make name own supers proposal.isOpen proposal.visibility)
  modify fun registry => (registry.register marker).choose schema marker
  pure marker

-- The one chosen before, one that can be reused, or a new one.
def obtain (proposal : Proposal) (schema : Schema)
    (ownFields : Scope → Synthesis (List Field)) : Synthesis Marker := do
  let registry ← get
  match registry.choice? schema with
  | some marker => pure marker
  | none =>
    let required := registry.required schema
    match registry.reusable? schema required proposal.isOpen with
    | some marker =>
      set (registry.choose schema marker)
      pure marker
    | none => create proposal schema required ownFields

end Synthesis

variable (naming : Naming) (proposal : Proposal)

mutual

def Column.resolveLifted (lift : Bool) : Column → Synthesis FieldType
  | .value type => pure (.value type.name (lift || type.nullable))
  | .group schema nullable => do
    let marker ← Synthesis.obtain proposal schema fun scope =>
      schema.ownFieldsLifted false scope scope.identifiers
    pure (.group marker.name (lift || nullable))
  | .frame schema nullable elementsNullable => do
    let marker ← Synthesis.obtain proposal (schema.lifted elementsNullable) fun scope =>
      schema.ownFieldsLifted elementsNullable scope scope.identifiers
    pure (.frame marker.name (lift || nullable))

def Columns.ownFieldsLifted (lift : Bool) :
    {low : Option String} → Columns low → Scope → NamePool → Synthesis (List Field)
  | _, .nil, _, _ => pure []
  | _, .cons name column _ rest, scope, used => do
    let type ← column.resolveLifted lift
    let (field?, used) ← MonadExcept.ofExcept
      (naming.declare scope name (column.lifted lift) type used)
    let fields ← rest.ownFieldsLifted lift scope used
    pure (field?.toList ++ fields)

end

namespace Synthesis

def resolve (column : Column) : Synthesis FieldType :=
  column.resolveLifted naming proposal false

def process (schema : Schema) : Synthesis Marker :=
  obtain proposal schema fun scope =>
    schema.ownFieldsLifted naming proposal false scope scope.identifiers

end Synthesis

end FrameMarkers
