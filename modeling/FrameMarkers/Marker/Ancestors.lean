import FrameMarkers.Marker.Basic

namespace FrameMarkers.Marker

mutual

def treeSize : Marker → Nat
  | ⟨_, _, supers, _, _⟩ => treeSizeOf supers + 1

def treeSizeOf : List Marker → Nat
  | [] => 0
  | marker :: rest => treeSize marker + treeSizeOf rest

end

theorem treeSize_eq (marker : Marker) : marker.treeSize = treeSizeOf marker.supers + 1 := by
  cases marker
  rw [treeSize]

theorem treeSizeOf_append (first second : List Marker) :
    treeSizeOf (first ++ second) = treeSizeOf first + treeSizeOf second := by
  induction first with
  | nil => simp [treeSizeOf]
  | cons marker rest ih => simp [treeSizeOf, ih, Nat.add_assoc]

-- A name that was visited before is passed over, together with what stands above it there.
def levels (visited : List String) : List Marker → List Marker
  | [] => []
  | marker :: queue =>
    if marker.name ∈ visited then levels visited queue
    else marker :: levels (marker.name :: visited) (queue ++ marker.supers)
termination_by queue => treeSizeOf queue
decreasing_by
  · have := treeSize_eq marker
    simp only [treeSizeOf]
    omega
  · have := treeSize_eq marker
    simp only [treeSizeOf, treeSizeOf_append]
    omega

def ancestors (marker : Marker) : List Marker :=
  levels [marker.name] marker.supers

-- Markers are told apart by name.
def implements (marker other : Marker) : Bool :=
  marker.name == other.name || marker.ancestors.any (·.name == other.name)

end FrameMarkers.Marker
