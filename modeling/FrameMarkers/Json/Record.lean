import FrameMarkers.Json.Basic

namespace FrameMarkers.Json

inductive Layer (α : Type) where
  | scalar (value : Json)
  | array (items : List (Json × α))
  | object (members : List (String × (Json × α)))

variable {α : Type}

mutual

def fold (meaning : Layer α → α) : Json → α
  | .array items => meaning (.array (foldItems meaning items))
  | .object members => meaning (.object (foldMembers meaning members))
  | .null => meaning (.scalar .null)
  | .bool value => meaning (.scalar (.bool value))
  | .number literal => meaning (.scalar (.number literal))
  | .string text => meaning (.scalar (.string text))

def foldItems (meaning : Layer α → α) : List Json → List (Json × α)
  | [] => []
  | item :: rest => (item, fold meaning item) :: foldItems meaning rest

def foldMembers (meaning : Layer α → α) : List (String × Json) → List (String × (Json × α))
  | [] => []
  | (name, value) :: rest => (name, (value, fold meaning value)) :: foldMembers meaning rest

end

-- No key may occur twice. Values may be missing at the end of an array.
def Layer.record? (keys : List String) : Layer α → Option (List (Option (Json × α)))
  | .object members =>
    if keys.any fun key => 1 < members.countP (·.1 == key) then none
    else some (keys.map fun key => members.lookup key)
  | .array items =>
    if items.length ≤ keys.length then
      some (items.map some ++ List.replicate (keys.length - items.length) none)
    else none
  | .scalar _ => none

def layer : Json → Layer Unit
  | .array items => .array (items.map (·, ()))
  | .object members => .object (members.map fun member => (member.1, (member.2, ())))
  | json => .scalar json

def record? (keys : List String) (json : Json) : Option (List (Option Json)) :=
  (json.layer.record? keys).map fun values => values.map (·.map Prod.fst)

-- Inside another tagged record, the tag may be the place itself.
def tagPlace? (words : List String) (inner : Bool) : Json → Option Nat
  | .string word => words.idxOf? word
  | json =>
    if inner then (json.natural?).filter (· < words.length) else none

def Layer.tagged? (tag : String) (words : List String) (inner : Bool) :
    Layer α → Option (Nat × Layer α)
  | .object members => do
    if 1 < members.countP (·.1 == tag) then none
    else
      let value ← members.lookup tag
      let place ← tagPlace? words inner value.1
      pure (place, .object (members.filter (·.1 != tag)))
  | .array (value :: items) => do
    let place ← tagPlace? words inner value.1
    pure (place, .array items)
  | _ => none

-- As a string, or as the name of an object with one empty member.
def word? (words : List (String × α)) : Json → Option α
  | .string word => words.lookup word
  | .object [(word, .null)] => words.lookup word
  | _ => none

def required {β : Type} (read : Json → Option β) : Option Json → Option β :=
  (·.bind read)

def withDefault {β : Type} (default : β) (read : Json → Option β) : Option Json → Option β
  | some value => read value
  | none => some default

end FrameMarkers.Json
