import FrameMarkers.Command.Run

namespace FrameMarkers.Command

structure MachineState where
  files : Files
  input : Input
  -- What was written to the standard output as a device.
  printed : String

namespace MachineState

def start (files : Files) (input : String) : MachineState :=
  ⟨files, .ok input, ""⟩

def read (path : String) : StateM MachineState (Except FileError String) :=
  modifyGet fun state =>
    let (result, input) := state.files.read path state.input
    (result, { state with input })

def readInput : StateM MachineState (Except FileError String) :=
  modifyGet fun state => (state.input, { state with input := state.input.rest })

-- A write that is refused changes nothing.
def write (path text : String) : StateM MachineState (Except FileError Unit) :=
  modifyGet fun state =>
    match state.files.locateTarget path with
    | .error cause => (.error cause, state)
    | .ok (.file place) => (.ok (), { state with files := state.files.write place text })
    | .ok (.device .standardOutput) =>
      (.ok (), { state with printed := state.printed ++ text })
    | .ok (.device _) => (.ok (), state)

end MachineState

def valueMachine : Machine (StateM MachineState) where
  readFile := MachineState.read
  writeFile := MachineState.write
  readInput := MachineState.readInput
  currentDirectory := return (← get).files.currentDirectory

end FrameMarkers.Command
