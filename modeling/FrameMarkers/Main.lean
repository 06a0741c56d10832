import FrameMarkers.Command.Run

namespace FrameMarkers.Command

def FileError.ofSystem : IO.Error → FileError
  | .noFileOrDirectory .. => .missing
  | .noSuchThing .. => .noDevice
  | .permissionDenied .. => .denied
  | .inappropriateType _ 21 _ => .isDirectory
  | .inappropriateType .. => .notDirectory
  | .resourceExhausted .. => .noSpace
  | .invalidArgument _ 40 _ => .tooManyLinks
  | .invalidArgument .. => .nameTooLong
  | .userError _ => .notText
  | error => .other (toString error)

def attempt {α : Type} (action : IO α) : IO (Except FileError α) :=
  try
    return .ok (← action)
  catch error =>
    return .error (.ofSystem error)

partial def readAll (stream : IO.FS.Stream) (before : ByteArray) : IO ByteArray := do
  let bytes ← stream.read 65536
  if bytes.isEmpty then return before else readAll stream (before ++ bytes)

def systemMachine : Machine IO where
  readFile path := attempt (IO.FS.readFile path)
  writeFile path text := attempt do
    let handle ← IO.FS.Handle.mk path .write
    handle.putStr text
    handle.flush
  readInput := do
    match ← attempt do readAll (← IO.getStdin) .empty with
    | .ok bytes => return (String.fromUTF8? bytes).elim (.error .notText) .ok
    | .error cause => return .error cause
  currentDirectory := attempt do return (← IO.currentDir).toString

end FrameMarkers.Command

open FrameMarkers.Command in
def main (arguments : List String) : IO UInt32 := do
  let home ← IO.getEnv "HOME"
  let environment : Environment :=
    ⟨← IO.getEnv "XDG_CONFIG_HOME", home.filter (!·.isEmpty)⟩
  let report ← run systemMachine environment arguments
  for path in report.ignored do
    IO.eprintln ("WARN ignoring invalid config " ++ path)
  IO.print report.output
  if let some message := report.message then
    IO.eprintln ("error: " ++ message)
  if report.status == 2 then
    IO.eprint helpText
  return report.status.toUInt32
