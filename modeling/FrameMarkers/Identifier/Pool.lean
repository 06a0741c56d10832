namespace FrameMarkers

structure NamePool where
  used : List String

namespace NamePool

def ofList (names : List String) : NamePool :=
  ⟨names⟩

def contains (pool : NamePool) (name : String) : Bool :=
  pool.used.contains name

def insert (pool : NamePool) (name : String) : NamePool :=
  if pool.contains name then pool else ⟨name :: pool.used⟩

def reserve (pool : NamePool) (name : String) : Bool × NamePool :=
  (!pool.contains name, pool.insert name)

def numbered (proposed : String) (number : Nat) : String :=
  proposed ++ toString number

-- One of these numbers does: they are one more than there are names in use, and give different
-- names.
def firstFree (pool : NamePool) (proposed : String) : String :=
  let free := (List.range' 1 (pool.used.length + 1)).find? fun number =>
    !pool.contains (numbered proposed number)
  numbered proposed (free.getD 0)

def fresh (pool : NamePool) (proposed : String) : String :=
  if pool.contains proposed then pool.firstFree proposed else proposed

def allocate (pool : NamePool) (proposed : String) : String × NamePool :=
  let name := pool.fresh proposed
  (name, pool.insert name)

end NamePool

end FrameMarkers
