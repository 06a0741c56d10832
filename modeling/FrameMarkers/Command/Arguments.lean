import FrameMarkers.Declaration.TypeStyle
import FrameMarkers.Marker.Basic
import FrameMarkers.Synthesis.Naming

namespace FrameMarkers.Command

structure Arguments where
  schema : Option String := none
  name : Option String := none
  known : List String := []
  fields : Bool := false
  noFields : Bool := false
  accessorsOnly : Bool := false
  accessors : Bool := false
  noAccessors : Bool := false
  isOpen : Bool := false
  closed : Bool := false
  visibility : Option Visibility := none
  types : Option TypeStyle := none
  onConflict : Option OnConflict := none
  delimiters : Option String := none
  nullableAccessors : Bool := false
  readMethod : Option String := none
  defaultPath : Option String := none
  package : Option String := none
  output : Option String := none
  root : Option String := none

inductive Request where
  | generate (schema : String) (arguments : Arguments)
  | version
  | help
  | misuse

namespace Arguments

def once {α : Type} (old : Option α) (value : α) : Option (Option α) :=
  if old.isSome then none else some (some value)

def fileName? (value : String) : Option String :=
  if value.isEmpty then none else some value

-- A switch that is on cannot be given again. It turns off those that it excludes.
def switch? (arguments : Arguments) : (name : String) → Option (Option Arguments)
  | "fields" => some (if arguments.fields then none
      else some { arguments with fields := true, noFields := false })
  | "no-fields" => some (if arguments.noFields then none
      else some { arguments with noFields := true, fields := false })
  | "accessors-only" => some (if arguments.accessorsOnly then none
      else some { arguments with accessorsOnly := true })
  | "accessors" => some (if arguments.accessors then none
      else some { arguments with accessors := true, noAccessors := false })
  | "no-accessors" => some (if arguments.noAccessors then none
      else some { arguments with noAccessors := true, accessors := false })
  | "open" => some (if arguments.isOpen then none
      else some { arguments with isOpen := true, closed := false })
  | "closed" => some (if arguments.closed then none
      else some { arguments with closed := true, isOpen := false })
  | "nullable-accessors" => some (if arguments.nullableAccessors then none
      else some { arguments with nullableAccessors := true })
  | _ => none

def valueOptions : List String := [
  "name", "known", "visibility", "type-names", "on-name-conflict", "delimiters", "read-method",
  "default-path", "package", "output", "root"]

def setValue (arguments : Arguments) (name value : String) : Option Arguments := do
  match name with
  | "name" => return { arguments with name := ← once arguments.name value }
  | "known" => return { arguments with known := arguments.known ++ [← fileName? value] }
  | "visibility" =>
    let word ← Visibility.words.lookup value
    return { arguments with visibility := ← once arguments.visibility word }
  | "type-names" =>
    let word ← TypeStyle.words.lookup value
    return { arguments with types := ← once arguments.types word }
  | "on-name-conflict" =>
    let word ← OnConflict.words.lookup value
    return { arguments with onConflict := ← once arguments.onConflict word }
  | "delimiters" => return { arguments with delimiters := ← once arguments.delimiters value }
  | "read-method" => return { arguments with readMethod := ← once arguments.readMethod value }
  | "default-path" => return { arguments with defaultPath := ← once arguments.defaultPath value }
  | "package" => return { arguments with package := ← once arguments.package value }
  | "output" => return { arguments with output := ← once arguments.output (← fileName? value) }
  | "root" => return { arguments with root := ← once arguments.root (← fileName? value) }
  | _ => none

def setSchema (arguments : Arguments) (value : String) : Option Arguments := do
  return { arguments with schema := ← once arguments.schema (← fileName? value) }

-- Accessors alone cannot be combined with a choice of fields, and there must be a schema.
def request (arguments : Arguments) : Request :=
  match arguments.schema with
  | some schema =>
    if arguments.accessorsOnly && (arguments.fields || arguments.noFields) then .misuse
    else .generate schema arguments
  | none => .misuse

end Arguments

inductive Shape where
  -- What follows is no option.
  | separator
  | long (name : String) (value : Option String)
  | short (letter : Char) (rest : List Char)
  | plain (value : String)

-- A single dash is a value.
def Shape.of (argument : String) : Shape :=
  match argument.toList with
  | ['-', '-'] => .separator
  | '-' :: '-' :: rest =>
    let name := String.ofList (rest.takeWhile (· != '='))
    match rest.dropWhile (· != '=') with
    | _ :: value => .long name (some (String.ofList value))
    | [] => .long name none
  | '-' :: letter :: rest => .short letter rest
  | _ => .plain argument

def attached : List Char → Option String
  | [] => none
  | '=' :: value => some (String.ofList value)
  | value => some (String.ofList value)

-- After the separator, all arguments are plain. The option that is due gets the next one.
def readGenerate (arguments : Arguments) (onlyPlain : Bool) (due : Option String) :
    List String → Request
  | [] => if due.isSome then .misuse else arguments.request
  | argument :: rest =>
    let proceed (next : Option Arguments) : Request :=
      match next with
      | some arguments => readGenerate arguments onlyPlain none rest
      | none => .misuse
    let withValue (name : String) (value : Option String) : Request :=
      match value with
      | some value => proceed (arguments.setValue name value)
      | none => readGenerate arguments onlyPlain (some name) rest
    if onlyPlain then proceed (arguments.setSchema argument)
    else
      match due, Shape.of argument with
      | some name, .plain value => proceed (arguments.setValue name value)
      | some _, _ => .misuse
      | none, .plain value => proceed (arguments.setSchema value)
      | none, .separator => readGenerate arguments true none rest
      | none, .long "help" none => .help
      | none, .long name value =>
        if Arguments.valueOptions.contains name then withValue name value
        else
          match value, arguments.switch? name with
          | none, some next => proceed next
          | _, _ => .misuse
      | none, .short 'h' _ => .help
      | none, .short 'o' value => withValue "output" (attached value)
      | none, .short _ _ => .misuse

def readHelp : List String → Request
  | [] => .help
  | ["generate"] => .help
  | ["help"] => .help
  | _ => .misuse

def Request.read : List String → Request
  | [] => .misuse
  | argument :: rest =>
    match Shape.of argument with
    | .plain "generate" => readGenerate {} false none rest
    | .plain "help" => readHelp rest
    | .long "help" none => .help
    | .short 'h' _ => .help
    | .long "version" none => .version
    | .short 'V' _ => .version
    | _ => .misuse

end FrameMarkers.Command
