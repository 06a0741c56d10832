import FrameMarkers.Toml.Basic

namespace FrameMarkers.Toml

-- The path goes through tables, and through the last table of an array of them. Tables that are
-- missing are made, with the given origin. A dotted path only goes through tables that no header or
-- brace has completed.
def descend (made : Origin) (change : Origin → Members → Option Members) :
    (path : List String) → Origin → Members → Option Members
  | [], origin, members => change origin members
  | key :: path, _, members => do
    match members.lookup key with
    | none =>
      let inner ← descend made change path made []
      pure (members.put key (.table made inner))
    | some (.table origin inner) =>
      if origin = .inline ∨ made = .dotted ∧ origin = .header then none
      else
        let inner ← descend made change path origin inner
        pure (members.put key (.table origin inner))
    | some (.tables items) =>
      let last ← items.getLast?
      let last ← descend made change path .header last
      pure (members.put key (.tables (items.dropLast ++ [last])))
    | some _ => none

-- A dotted key adds to a table that its own dots or earlier dotted keys made, any other key to the
-- table at hand.
def assign (path : List String) (value : Toml) (members : Members) : Option Members := do
  let key ← path.getLast?
  descend .dotted (fun origin members =>
    if (origin == .dotted) == (path.length == 1) || (members.lookup key).isSome then none
    else some (members.put key value)) path.dropLast .header members

def assemble (pairs : List (List String × Toml)) : Option Members :=
  pairs.foldlM (fun members (path, value) => assign path value members) []

-- A table that was only implied so far becomes one of its own.
def openTable (path : List String) (root : Members) : Option Members := do
  let key ← path.getLast?
  descend .implied (fun _ members =>
    match members.lookup key with
    | none => some (members.put key (.table .header []))
    | some (.table .implied inner) => some (members.put key (.table .header inner))
    | some _ => none) path.dropLast .header root

def openItem (path : List String) (root : Members) : Option Members := do
  let key ← path.getLast?
  descend .implied (fun _ members =>
    match members.lookup key with
    | none => some (members.put key (.tables [[]]))
    | some (.tables items) => some (members.put key (.tables (items ++ [[]])))
    | some _ => none) path.dropLast .header root

end FrameMarkers.Toml
