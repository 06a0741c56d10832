import FrameMarkers.Command.Arguments
import FrameMarkers.Command.Files
import FrameMarkers.Document.Marker
import FrameMarkers.Settings.Basic
import FrameMarkers.Settings.Document

namespace FrameMarkers.Command

structure Machine (m : Type → Type) where
  readFile : String → m (Except FileError String)
  writeFile : String → String → m (Except FileError Unit)
  readInput : m (Except FileError String)
  currentDirectory : m (Except FileError String)

structure Environment where
  configHome : Option String
  home : Option String

inductive Failure where
  | noDirectory (cause : FileError)
  | unreadable (path : String) (cause : FileError)
  | unreadableInput (cause : FileError)
  | malformed (path : String)
  | generation (path : String) (error : Error)
  | unwritable (path : String) (cause : FileError)

def Failure.message : Failure → String
  | .noDirectory cause => "failed to determine current directory: " ++ cause.message
  | .unreadable path cause => "failed to read " ++ path ++ ": " ++ cause.message
  | .unreadableInput cause => "failed to read stdin: " ++ cause.message
  | .malformed path => "invalid JSON in " ++ path
  | .generation path error => "failed to generate markers for " ++ path ++ ": " ++ error.message
  | .unwritable path cause => "failed to write " ++ path ++ ": " ++ cause.message

-- Files with settings that are malformed are ignored.
structure Outcome where
  result : Except Failure String
  ignored : List String

def below (directory : String) (path : String) : String :=
  if directory.isEmpty || directory.toList.getLast? == some '/' then directory ++ path
  else directory ++ "/" ++ path

def Environment.settingsFile? (environment : Environment) : Option String :=
  (environment.configHome <|> environment.home.map (below · ".config")).map
    (below · "markergen/config.toml")

def projectSettingsFile : String :=
  ".markergen/config.toml"

def Arguments.settings (arguments : Arguments) : Settings where
  rootName := arguments.name
  isOpen :=
    if arguments.closed then some false else if arguments.isOpen then some true else none
  visibility := arguments.visibility
  mode :=
    if arguments.accessorsOnly then some .none
    else if arguments.noFields then some .noFields
    else if arguments.fields then some .withFields
    else none
  accessors :=
    if arguments.noAccessors then some false else if arguments.accessors then some true else none
  nullableAccessors := if arguments.nullableAccessors then some true else none
  types := arguments.types
  delimiters := arguments.delimiters
  onConflict := arguments.onConflict
  package := arguments.package
  readMethod := arguments.readMethod
  defaultPath := arguments.defaultPath

section

variable {m : Type → Type} [Monad m] (machine : Machine m)

-- A file that cannot be read is passed over.
def loadSettings (path : String) : m (Settings × List String) := do
  match ← machine.readFile path with
  | .error _ => pure ({}, [])
  | .ok text =>
    match Settings.parse text with
    | some settings => pure (settings, [])
    | none => pure ({}, [path])

def rootDirectory (arguments : Arguments) : m (Except FileError String) :=
  match arguments.root with
  | some root => pure (.ok root)
  | none => machine.currentDirectory

def loadLayers (environment : Environment) (root : String) : m (Settings × List String) := do
  let (user, ignored) ←
    match environment.settingsFile? with
    | some path => loadSettings machine path
    | none => pure ({}, [])
  let (project, alsoIgnored) ← loadSettings machine (below root projectSettingsFile)
  pure (project.withFallback user, ignored ++ alsoIgnored)

def readText (path : String) : ExceptT Failure m String := do
  if path = "-" then
    match ← machine.readInput with
    | .ok text => pure text
    | .error cause => throw (.unreadableInput cause)
  else
    match ← machine.readFile path with
    | .ok text => pure text
    | .error cause => throw (.unreadable path cause)

def readDocument {α : Type} (parse : String → Option α) (path : String) : ExceptT Failure m α := do
  match parse (← readText machine path) with
  | some value => pure value
  | none => throw (.malformed path)

def generateFile (settings : Settings) (schemaPath : String) (arguments : Arguments) :
    ExceptT Failure m String := do
  let schema ← readDocument machine Schema.parse schemaPath
  let known ← arguments.known.mapM (readDocument machine Marker.parseList)
  match generate (settings.options known.flatten) schema with
  | .error error => throw (.generation schemaPath error)
  | .ok generated =>
    let text := settings.file generated.code
    match arguments.output with
    | none => pure text
    | some path =>
      match ← machine.writeFile path text with
      | .ok () => pure ""
      | .error cause => throw (.unwritable path cause)

-- Options decide over the settings of the project, and those over the settings of the user.
def runGenerate (environment : Environment) (schemaPath : String) (arguments : Arguments) :
    m Outcome := do
  match ← rootDirectory machine arguments with
  | .error cause => pure ⟨.error (.noDirectory cause), []⟩
  | .ok root =>
    let (layers, ignored) ← loadLayers machine environment root
    let settings := arguments.settings.withFallback layers
    let result ← (generateFile machine settings schemaPath arguments).run
    pure ⟨result, ignored⟩

end

def versionText : String :=
  "markergen 0.2.0\n"

def helpText : String :=
  "Marker type and accessor declarations for typed data frames\n\n"
    ++ "Usage: markergen generate [OPTIONS] <SCHEMA>\n"

structure Report where
  status : Nat
  output : String
  message : Option String
  ignored : List String

def run {m : Type → Type} [Monad m] (machine : Machine m) (environment : Environment)
    (arguments : List String) : m Report := do
  match Request.read arguments with
  | .misuse => pure ⟨2, "", none, []⟩
  | .help => pure ⟨0, helpText, none, []⟩
  | .version => pure ⟨0, versionText, none, []⟩
  | .generate schemaPath arguments =>
    let outcome ← runGenerate machine environment schemaPath arguments
    match outcome.result with
    | .ok output => pure ⟨0, output, none, outcome.ignored⟩
    | .error failure => pure ⟨1, "", some failure.message, outcome.ignored⟩

end FrameMarkers.Command
