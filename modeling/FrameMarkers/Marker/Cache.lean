import FrameMarkers.Marker.Basic

namespace FrameMarkers

structure MarkerCache (κ : Type) where
  entries : List (κ × Marker)

namespace MarkerCache

variable {κ ε : Type} [DecidableEq κ]

def empty : MarkerCache κ :=
  ⟨[]⟩

def get? (cache : MarkerCache κ) (key : κ) : Option Marker :=
  (cache.entries.find? (·.1 == key)).map Prod.snd

def contains (cache : MarkerCache κ) (key : κ) : Bool :=
  (cache.get? key).isSome

def size (cache : MarkerCache κ) : Nat :=
  cache.entries.length

def isEmpty (cache : MarkerCache κ) : Bool :=
  cache.entries.isEmpty

def getOrCompute (cache : MarkerCache κ) (key : κ) (compute : κ → Except ε Marker) :
    Except ε (Marker × MarkerCache κ) :=
  match cache.get? key with
  | some marker => .ok (marker, cache)
  | none => do
    let marker ← compute key
    pure (marker, ⟨(key, marker) :: cache.entries⟩)

end MarkerCache

end FrameMarkers
