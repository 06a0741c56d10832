import FrameMarkers.Declaration.Basic
import FrameMarkers.Synthesis.Basic

namespace FrameMarkers

structure GenerationOptions where
  -- Nested schemas get numbers behind it.
  rootName : String := "DataType"
  known : List Marker := []
  normalize : Normalizer := Normalizer.asWritten
  isOpen : Bool := true
  visibility : Visibility := .implicitPublic
  mode : Mode := .withFields
  accessors : Bool := true
  readMethod : Option ReadMethod := none
  types : TypeStyle := .qualified
  onConflict : OnConflict := .suffix
  nullableAccessors : Bool := false

structure Generated where
  code : Code
  newMarkers : List Marker

def Mode.supportsSchemas : Mode → Bool
  | .noFields => true
  | .withFields => true
  | .none => true
  | .enumeration => false
  | .typeAlias => false

def Marker.nullableReferences (markers : List Marker) : List String :=
  (markers.flatMap Marker.fields).filterMap fun field =>
    match field.type with
    | .group marker true => some marker
    | _ => none

namespace GenerationOptions

def synthesize (options : GenerationOptions) (schema : Schema) :
    Except Error (Marker × List Marker) := do
  let registry ← Registry.ofKnown options.known
  let naming : Naming := ⟨options.normalize, options.onConflict⟩
  let proposal : Proposal := ⟨options.rootName, options.isOpen, options.visibility⟩
  let (result, registry) := (Synthesis.process naming proposal schema).run registry
  let root ← result
  pure (root, registry.generated)

def interface? (options : GenerationOptions) (root : String) (marker : Marker) : Option String :=
  if options.mode = .none then none
  else
    let method? := if marker.name = root then options.readMethod else none
    some (marker.interface options.types (options.mode = .withFields) method?)

def accessors? (options : GenerationOptions) (nullable : List String) (marker : Marker)
    (table : BindingTable) : Except Error (Option String × BindingTable) :=
  if options.accessors then do
    let (text, table) ← marker.renderAccessors options.types
      (options.nullableAccessors || nullable.contains marker.name) table
    pure (if text.isEmpty then none else some text, table)
  else .ok (none, table)

def blocks (options : GenerationOptions) (root : String) (nullable : List String) :
    List Marker → BindingTable → Except Error (List String)
  | [], _ => .ok []
  | marker :: rest, table => do
    let (accessors, table) ← options.accessors? nullable marker table
    let others ← options.blocks root nullable rest table
    pure ((options.interface? root marker).toList ++ accessors.toList ++ others)

end GenerationOptions

def generate (options : GenerationOptions) (schema : Schema) : Except Error Generated :=
  if options.mode.supportsSchemas then do
    let (root, markers) ← options.synthesize schema
    let blocks ← options.blocks root.name (Marker.nullableReferences markers) markers .empty
    pure ⟨⟨"\n\n".intercalate blocks, [root.name]⟩, markers⟩
  else .error (.notForSchemas options.mode)

end FrameMarkers
