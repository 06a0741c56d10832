import FrameMarkers.Proofs.Marker.Validity
import FrameMarkers.Proofs.Session.Reached
import FrameMarkers.Proofs.Synthesis.Nested

namespace FrameMarkers

open Synthesis

variable {naming : Naming} {proposal : Proposal} {schema : Schema} {registry within : Registry}
  {root marker other : Marker}

theorem Marker.implements_of_no_supers (h : marker.supers = []) :
    marker.implements other ↔ marker.name = other.name := by
  simp [implements, ancestors, h, levels]

namespace Registry

theorem required_of_no_markers (h : registry.markers = []) (schema : Schema) :
    registry.required schema = [] := by
  simp [required, h]

-- The registry when the markers of an earlier run are the known ones.
def knowing (markers : List Marker) : Registry :=
  ⟨markers, [], [], .ofList (markers.map Marker.shortName)⟩

-- The markers made in a session can be supplied as known ones, and come with no further ancestors.
theorem ofKnown_generated (h : Reached naming registry) :
    ofKnown registry.generated = .ok (knowing registry.generated) := by
  have hvalid : ∀ marker ∈ registry.generated, marker.validate = .ok () := by
    intro marker hm
    obtain ⟨_, _, _, _, -, creation, -⟩ := h.exists_creation hm
    exact creation.valid
  have hancestors : distinctBy (·.name)
      (registry.generated ++ registry.generated.flatMap Marker.ancestors) = registry.generated := by
    rw [distinctBy_append, distinctBy_eq_self h.sound.names, List.append_right_eq_self,
      List.filter_eq_nil_iff]
    intro ancestor ha
    obtain ⟨marker, hm, hancestor⟩ := List.mem_flatMap.mp (mem_of_mem_distinctBy ha)
    have hmember := h.sound.family.of_extends hm (Marker.exists_of_mem_ancestors hancestor)
    simpa using List.mem_map_of_mem (f := (·.name)) hmember
  simp only [ofKnown, Marker.forM_validate_eq_ok_iff.mpr hvalid, hancestors, bind, Except.bind,
    pure, Except.pure, knowing]

end Registry

namespace Synthesis.Creation

variable {before : Registry}

-- In a registry of all the markers of such a run, only the root is for the schema.
theorem eq_root_of_schema_eq (creation : Creation naming proposal schema before root within)
    (hb : before.markers = []) (hm : marker ∈ within.markers ++ [root])
    (hs : marker.schema = schema) : marker = root := by
  rcases List.mem_append.mp hm with hg | hr
  · have hbelow := creation.within_below hb marker hg
    have hlt := hbelow.height_lt
    rw [hs] at hlt
    omega
  · exact List.mem_singleton.mp hr

end Synthesis.Creation

end FrameMarkers
