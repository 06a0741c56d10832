import FrameMarkers.Generation

namespace FrameMarkers

structure Assignment where
  name : String
  marker : Option Marker

structure Notebook where
  assigned : List String
  registered : List Marker
  pending : List Marker

mutual

def Column.mentions (type : String) : Column → Bool
  | .value valueType => valueType.name == type
  | .group schema _ => schema.mentions type
  | .frame schema _ _ => schema.mentions type

def Columns.mentions (type : String) : {low : Option String} → Columns low → Bool
  | _, .nil => false
  | _, .cons _ column _ rest => column.mentions type || rest.mentions type

end

namespace Notebook

def empty : Notebook :=
  ⟨[], [], []⟩

def rootName : String :=
  "_DataFrameType"

def experimentalType : String :=
  "kotlin.time.Instant"

def optIn : String :=
  "@file:OptIn(kotlin.time.ExperimentalTime::class)"

def registered? (notebook : Notebook) (name : String) : Option Marker :=
  notebook.registered.find? (·.name == name)

def pending? (notebook : Notebook) (name : String) : Option Marker :=
  notebook.pending.find? (·.name == name)

def assign (notebook : Notebook) (name : String) : Notebook :=
  if name ∈ notebook.assigned then notebook
  else { notebook with assigned := name :: notebook.assigned }

-- A marker takes the place of a pending one of its name.
def await (notebook : Notebook) (marker : Marker) : Notebook :=
  { notebook with pending := marker :: notebook.pending.filter (·.name != marker.name) }

def release (notebook : Notebook) (name : String) : Notebook :=
  { notebook with pending := notebook.pending.filter (·.name != name) }

def enroll (notebook : Notebook) (marker : Marker) : Notebook :=
  { notebook with registered := notebook.registered ++ [marker] }

def options (notebook : Notebook) (name : String) (isOpen : Bool) : GenerationOptions :=
  { rootName := name, known := notebook.registered, isOpen, types := .short }

def cellCode (schema : Schema) (code : Code) : Code :=
  if schema.mentions experimentalType then
    { code with declarations := optIn ++ "\n" ++ code.declarations }
  else code

-- The effects of a step remain when it fails.
abbrev Step := ExceptT Error (StateM Notebook)

def generate (schema : Schema) (name : String) (isOpen : Bool) : Step Code := do
  let notebook ← get
  let generated ← MonadExcept.ofExcept
    (FrameMarkers.generate (notebook.options name isOpen) schema)
  set (generated.newMarkers.foldl await notebook)
  pure (cellCode schema generated.code)

-- The marker by which a variable keeps its type, if it is declared with an open one: as registered,
-- or as declared.
def declaredMarker? (notebook : Notebook) (assignment : Assignment) : Option Marker :=
  (assignment.marker.map fun marker => (notebook.registered? marker.name).getD marker).filter
    (·.isOpen)

def coveredBy (notebook : Notebook) (marker : Marker) : Bool :=
  let required := notebook.registered.filter fun other =>
    other.isOpen && other.accepts marker.schema
  !required.isEmpty && required.all marker.implements

-- There is nothing to generate if the type of the variable is covered. A variable assigned before
-- keeps its declared type, as does one whose type describes the table exactly.
def target? (notebook : Notebook) (schema : Schema) (assignment : Assignment) (before : Bool) :
    Option Schema :=
  match notebook.declaredMarker? assignment with
  | none => some schema
  | some marker =>
    if before || marker.schema == schema then
      if notebook.coveredBy marker then none else some marker.schema
    else some schema

def process (schema : Schema) (assignment? : Option Assignment) : Step Code := do
  match assignment? with
  | none => generate schema rootName true
  | some assignment =>
    let notebook ← get
    set (notebook.assign assignment.name)
    match notebook.target? schema assignment (notebook.assigned.contains assignment.name) with
    | none => pure .empty
    | some target => generate target rootName true

def processGroups (keys groups : Schema) : Step Code := do
  let keys ← generate keys (rootName ++ "Keys") false
  let groups ← generate groups (rootName ++ "Groups") false
  pure ⟨keys.declarations ++ "\n" ++ groups.declarations, keys.castTo ++ groups.castTo⟩

-- A compiled marker replaces the pending one of its short name, if the super markers have the same
-- short names too.
def replaced? (notebook : Notebook) (marker : Marker) : Option Marker :=
  (notebook.pending? marker.shortName).filter fun pending =>
    (marker.supers.map Marker.shortName).isPerm (pending.supers.map Marker.shortName)

mutual

-- A marker that replaces a pending one adopts its fields, after its super markers are registered
-- likewise. Gives the marker as registered, and those registered as they are, in order.
def enter : Marker → Step (Marker × List Marker)
  | ⟨name, ownFields, supers, isOpen, visibility⟩ => do
    let marker : Marker := ⟨name, ownFields, supers, isOpen, visibility⟩
    let notebook ← get
    match notebook.registered? name with
    | some existing => pure (existing, [])
    | none =>
      match notebook.replaced? marker with
      | some pending =>
        let (supers, entered) ← enterAll supers
        let adopted ← MonadExcept.ofExcept
          (Marker.make name pending.ownFields supers pending.isOpen .implicitPublic)
        modify fun notebook => (notebook.release pending.name).enroll adopted
        pure (adopted, entered)
      | none =>
        MonadExcept.ofExcept marker.validate
        modify (·.enroll marker)
        pure (marker, [marker])

def enterAll : List Marker → Step (List Marker × List Marker)
  | [] => pure ([], [])
  | marker :: rest => do
    let (marker, entered) ← enter marker
    let (markers, others) ← enterAll rest
    pure (marker :: markers, entered ++ others)

end

def register (marker : Marker) : Step String := do
  let (_, entered) ← enter marker
  MonadExcept.ofExcept (Marker.declareAll ⟨.short, false⟩ .none true entered)

end Notebook

end FrameMarkers
