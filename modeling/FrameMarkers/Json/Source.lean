import FrameMarkers.Json.Basic
import FrameMarkers.Json.Numeral
import FrameMarkers.Json.Quoted

namespace FrameMarkers.Json

-- Strings and names are the bodies between their quotation marks.
inductive Source where
  | null
  | bool (value : Bool)
  | number (literal : String) (numeral : Numeral)
  | string (body : List Char)
  | array (items : List Source)
  | object (members : List (List Char × Source))

-- Every value stands for something. What a member or an item stands for is decided by what encloses
-- it.
structure Selection (α : Type) where
  member : α → String → Option α
  item : α → Nat → α

def Selection.whole : Selection Unit :=
  ⟨fun _ _ => some (), fun _ _ => ()⟩

namespace Source

variable {α : Type}

mutual

-- With at most that many arrays and objects inside each other. What is passed over is only well
-- formed.
def select (selection : Selection α) (part : α) (room : Nat) : Source → Option Json
  | .null => some .null
  | .bool value => some (.bool value)
  | .number literal numeral => if numeral.isFinite then some (.number literal) else none
  | .string body => (Quoted.text? body).map .string
  | .array items =>
    if room = 0 then none
    else (selectItems selection part (room - 1) 0 items).map .array
  | .object members =>
    if room = 0 then none
    else (selectMembers selection part (room - 1) members).map .object

def selectItems (selection : Selection α) (part : α) (room place : Nat) :
    List Source → Option (List Json)
  | [] => some []
  | item :: rest => do
    let item ← select selection (selection.item part place) room item
    (selectItems selection part room (place + 1) rest).map (item :: ·)

def selectMembers (selection : Selection α) (part : α) (room : Nat) :
    List (List Char × Source) → Option (List (String × Json))
  | [] => some []
  | (body, value) :: rest => do
    let name ← Quoted.text? body
    match selection.member part name with
    | some inner =>
      let value ← select selection inner room value
      (selectMembers selection part room rest).map ((name, value) :: ·)
    | none => selectMembers selection part room rest

end

end Source

end FrameMarkers.Json
