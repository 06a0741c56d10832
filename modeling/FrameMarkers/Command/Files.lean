namespace FrameMarkers.Command

-- Why a file cannot be read or written.
inductive FileError where
  | missing
  | noDevice
  | denied
  | notDirectory
  | isDirectory
  | noSpace
  | nameTooLong
  | tooManyLinks
  -- What is there is not encoded text.
  | notText
  | other (cause : String)
deriving DecidableEq, Repr

def FileError.message : FileError → String
  | .missing => "No such file or directory (os error 2)"
  | .noDevice => "No such device or address (os error 6)"
  | .denied => "Permission denied (os error 13)"
  | .notDirectory => "Not a directory (os error 20)"
  | .isDirectory => "Is a directory (os error 21)"
  | .noSpace => "No space left on device (os error 28)"
  | .nameTooLong => "File name too long (os error 36)"
  | .tooManyLinks => "Too many levels of symbolic links (os error 40)"
  | .notText => "stream did not contain valid UTF-8"
  | .other cause => cause

-- The value, unless there is a cause to refuse it.
def grant {α : Type} (refusal : Option FileError) (value : α) : Except FileError α :=
  refusal.elim (.ok value) .error

-- What is left of standard input, or why it cannot be read.
abbrev Input := Except FileError String

-- Reading takes all of it, also when it turns out to be no text.
def Input.rest : Input → Input
  | .ok _ | .error .notText => .ok ""
  | .error cause => .error cause

inductive Device where
  | null
  | zero
  | full
  | standardInput
  | standardOutput
  | standardError
  -- A command that runs on its own has no terminal.
  | terminal
deriving DecidableEq, Repr

namespace Device

-- What never ends is too much.
def read (device : Device) (input : Input) : Except FileError String × Input :=
  match device with
  | .standardInput => (input, input.rest)
  | .null | .standardOutput | .standardError => (.ok "", input)
  | .zero | .full => (.error (.other "out of memory"), input)
  | .terminal => (.error .noDevice, input)

def refusal : Device → Option FileError
  | .full => some .noSpace
  | .terminal => some .noDevice
  | .null | .zero | .standardInput | .standardOutput | .standardError => none

end Device

inductive Content where
  | text (text : String)
  -- Bytes that encode no text.
  | bytes (bytes : List UInt8)
deriving DecidableEq, Repr

-- A file, and why it cannot be read or changed.
structure File where
  content : Content
  reading : Option FileError := none
  writing : Option FileError := none
deriving DecidableEq, Repr

-- Why nothing behind a directory can be reached, why it cannot be read, and why no file can be made
-- in it.
structure Directory where
  entering : Option FileError := none
  reading : Option FileError := none
  making : Option FileError := none
deriving DecidableEq, Repr

inductive Node where
  | file (file : File)
  | directory (directory : Directory)
  | device (device : Device)
  | link (target : String)
deriving DecidableEq, Repr

-- All files of a system under the names that lead to them from the root, and the names of the
-- working directory.
structure Files where
  nodes : List (List String × Node)
  directory : List String
deriving DecidableEq, Repr

-- What a path leads to.
inductive Place where
  | file (place : List String) (file : File)
  | directory (directory : Directory)
  | device (device : Device)
  -- Nothing yet; a file can be made there unless it is refused for that cause.
  | free (place : List String) (refusal : Option FileError)

-- Why nothing can stand behind it.
def Place.deadEnd : Place → FileError
  | .free _ _ => .missing
  | .file _ _ | .directory _ | .device _ => .notDirectory

-- What one name on a path leads to.
inductive Step where
  | on (directory : List String)
  -- A link, with the directory from which its target counts and the names of the target.
  | link (start names : List String)
  | stop (place : Place)

-- Where a text comes from.
inductive Source where
  | file (place : List String) (text : String)
  | device (device : Device)

-- Where a text goes to.
inductive Target where
  | file (place : List String)
  | device (device : Device)

def Place.source : Place → Except FileError Source
  | .file place found => do
    match ← grant found.reading found.content with
    | .text text => .ok (.file place text)
    | .bytes _ => .error .notText
  | .directory here => .error (here.reading.getD .isDirectory)
  | .device found => .ok (.device found)
  | .free _ _ => .error .missing

def Place.target : Place → Except FileError Target
  | .file place found => grant found.writing (.file place)
  | .directory _ => .error .isDirectory
  | .device found => grant found.refusal (.device found)
  | .free place refusal => grant refusal (.file place)

namespace Files

def node? (files : Files) (place : List String) : Option Node :=
  files.nodes.lookup place

def put (files : Files) (place : List String) (node : Node) : Files :=
  { files with nodes := (place, node) :: files.nodes.filter (·.1 != place) }

-- A file that was there stays open to the same readers and writers.
def written (files : Files) (place : List String) (text : String) : File :=
  match files.node? place with
  | some (.file file) => { file with content := .text text }
  | _ => { content := .text text }

def write (files : Files) (place : List String) (text : String) : Files :=
  files.put place (.file (files.written place text))

def names (path : String) : List String :=
  (path.toList.splitOnP (· == '/')).map String.ofList

def isAbsolute (path : String) : Bool :=
  path.toList.head? == some '/'

-- In bytes.
def maxNameSize : Nat :=
  255

def maxPathSize : Nat :=
  4095

-- In a row, for one path.
def maxLinks : Nat :=
  40

-- Where one name leads to that stands for an entry of a directory.
def enter (files : Files) (directory : List String) (here : Directory) (name : String) : Step :=
  let place := directory ++ [name]
  match files.node? place with
  | some (.directory _) => .on place
  | some (.link target) => .link (if isAbsolute target then [] else directory) (names target)
  | some (.file file) => .stop (.file place file)
  | some (.device device) => .stop (.device device)
  | none => .stop (.free place here.making)

-- Where a name leads to that stands for no entry of a directory.
def besides? (directory : List String) (name : String) : Option (List String) :=
  if name = "." then some directory else if name = ".." then some directory.dropLast else none

def step (files : Files) (directory : List String) (name : String) : Except FileError Step :=
  match files.node? directory with
  | some (.directory here) =>
    if name = "" then .ok (.on directory)
    else
      match here.entering, besides? directory name with
      | some cause, _ => .error cause
      | none, some next => .ok (.on next)
      | none, none =>
        if maxNameSize < name.utf8ByteSize then .error .nameTooLong
        else .ok (files.enter directory here name)
  | _ => .error .missing

-- Where the names lead to from a directory. The way on from a link is given: the directory from
-- which its target counts, and the names of the target with those that are left.
def walkFrom (files : Files)
    (onLink : List String → List String → Except FileError Place) (directory : List String) :
    List String → Except FileError Place
  | [] =>
    match files.node? directory with
    | some (.directory here) => .ok (.directory here)
    | _ => .error .missing
  | name :: rest =>
    match files.step directory name with
    | .error cause => .error cause
    | .ok (.on next) => walkFrom files onLink next rest
    | .ok (.link start names) => onLink start (names ++ rest)
    | .ok (.stop place) => if rest.isEmpty then .ok place else .error place.deadEnd

-- Where the names lead to over at most that many links.
def walk (files : Files) : Nat → List String → List String → Except FileError Place
  | 0 => files.walkFrom fun _ _ => .error .tooManyLinks
  | links + 1 => files.walkFrom (files.walk links)

-- Where a path leads to, whatever its size, the empty one to where it starts.
def follow (files : Files) (path : String) : Except FileError Place :=
  files.walk maxLinks (if isAbsolute path then [] else files.directory) (names path)

-- Where a text is read from.
def locate (files : Files) (path : String) : Except FileError Source :=
  if path = "" then .error .missing
  else if maxPathSize < path.utf8ByteSize then .error .nameTooLong
  else files.follow path >>= Place.source

-- The directory of a path that ends with slashes, up to the slash before its last name.
def directoryPart (path : String) : String :=
  String.ofList ((path.toList.reverse.dropWhile (· == '/')).dropWhile (· != '/')).reverse

-- Where a text is written to. A path that ends with a slash can only be a directory, if there is
-- one that could hold it.
def locateTarget (files : Files) (path : String) : Except FileError Target :=
  if path = "" then .error .missing
  else if maxPathSize < path.utf8ByteSize then .error .nameTooLong
  else if path.toList.getLast? = some '/' then
    files.follow (directoryPart path) >>= fun _ => .error .isDirectory
  else files.follow path >>= Place.target

-- The text that a path gives, and what is left of standard input after it was read.
def read (files : Files) (path : String) (input : Input) : Except FileError String × Input :=
  match files.locate path with
  | .error cause => (.error cause, input)
  | .ok (.file _ text) => (.ok text, input)
  | .ok (.device device) => device.read input

-- The path of the working directory, which may be gone.
def currentDirectory (files : Files) : Except FileError String :=
  match files.node? files.directory with
  | some (.directory _) => .ok ("/" ++ "/".intercalate files.directory)
  | _ => .error .missing

def standardDirectories : List (List String) := [
  [], ["bin"], ["boot"], ["dev"], ["dev", "shm"], ["etc"], ["home"], ["lib"], ["media"], ["mnt"],
  ["opt"], ["root"], ["run"], ["sbin"], ["srv"], ["tmp"], ["usr"], ["usr", "bin"], ["usr", "lib"],
  ["usr", "share"], ["var"], ["var", "log"], ["var", "tmp"]]

-- The directories that a system has for itself, and why no file can be made in them.
def systemDirectories : List (List String × FileError) := [
  (["dev", "fd"], .missing), (["dev", "pts"], .denied), (["proc"], .missing),
  (["proc", "self"], .missing), (["proc", "self", "fd"], .missing), (["sys"], .denied)]

def standardDevices : List (List String × Device) := [
  (["dev", "null"], .null), (["dev", "zero"], .zero), (["dev", "full"], .full),
  (["dev", "stdin"], .standardInput), (["dev", "stdout"], .standardOutput),
  (["dev", "stderr"], .standardError), (["dev", "tty"], .terminal),
  (["dev", "fd", "0"], .standardInput), (["dev", "fd", "1"], .standardOutput),
  (["dev", "fd", "2"], .standardError), (["proc", "self", "fd", "0"], .standardInput),
  (["proc", "self", "fd", "1"], .standardOutput), (["proc", "self", "fd", "2"], .standardError)]

-- A system with an empty working directory.
def standard : Files where
  nodes := standardDirectories.map (·, .directory {})
    ++ systemDirectories.map (fun (place, cause) => (place, .directory { making := some cause }))
    ++ standardDevices.map (fun (place, device) => (place, .device device))
    ++ [(["tmp", "work"], .directory {})]
  directory := ["tmp", "work"]

-- The files with one more below the working directory, and the directories that lead to it.
def add (files : Files) (path text : String) : Files :=
  let place := files.directory ++ (names path).filter fun name => name != "" && name != "."
  let above := (List.range place.length).map place.take
  let opened := above.foldl (fun files directory =>
    if (files.node? directory).isSome then files else files.put directory (.directory {})) files
  opened.write place text

-- The files of a working directory, under their paths.
def ofList (texts : List (String × String)) : Files :=
  texts.foldl (fun files (path, text) => files.add path text) standard

end Files

end FrameMarkers.Command
