import FrameMarkers.Proofs.Session.Known
import Mathlib.Data.List.TakeWhile

namespace FrameMarkers

open Synthesis

theorem Marker.shortName_eq_name {marker : Marker} (h : '.' ∉ marker.name.toList) :
    marker.shortName = marker.name := by
  have hall : ∀ c ∈ marker.name.toList.reverse, (c != '.') = true := by
    intro c hc
    rw [bne_iff_ne]
    rintro rfl
    exact h (List.mem_reverse.mp hc)
  rw [shortName, List.takeWhile_eq_self_iff.mpr hall, List.reverse_reverse, String.ofList_toList]

variable {naming : Naming} {proposable : String → Prop} {known : List Marker}
  {start registry : Registry} {marker other : Marker}

-- A synthesized marker has the short name of no known one: these were in use from the start.
theorem Proceeds.name_ne_shortName (opened : Registry.ofKnown known = .ok start)
    (h : Proceeds naming proposable start registry) (hm : marker ∈ registry.generated)
    (ho : other ∈ start.markers) : marker.name ≠ other.shortName := by
  intro he
  rcases h.growsFresh.fresh marker hm with hs | hunused
  · rw [Registry.generated_of_ofKnown opened] at hs
    exact List.not_mem_nil hs
  · have hused : start.names.contains other.shortName = true := by
      rw [Registry.eq_of_ofKnown opened] at ho ⊢
      simpa [NamePool.contains, NamePool.ofList] using ⟨other, ho, rfl⟩
    rw [← he, hunused] at hused
    contradiction

-- The name of a synthesized marker is a proposed one, up to a number.
theorem Proceeds.derived (opened : Registry.ofKnown known = .ok start)
    (h : Proceeds naming proposable start registry) (hm : marker ∈ registry.generated) :
    ∃ proposed, proposable proposed ∧ NamePool.Derived proposed marker.name := by
  refine h.of_creation opened
    (P := fun marker => ∃ proposed, proposable proposed ∧ NamePool.Derived proposed marker.name)
    (fun {proposal _ before _ marker} named creation => ?_) hm
  rw [creation.name]
  exact ⟨proposal.name, named, before.names.fresh_derived proposal.name⟩

theorem Registry.nodup_markers_iff (h : registry.markers = start.markers ++ registry.generated) :
    (registry.markers.map (·.name)).Nodup ↔
      (start.markers.map (·.name)).Nodup ∧ (registry.generated.map (·.name)).Nodup ∧
        ∀ marker ∈ registry.generated, ∀ other ∈ start.markers, other.name ≠ marker.name := by
  rw [h, List.map_append, List.nodup_append]
  simp only [List.forall_mem_map]
  exact and_congr_right fun _ => and_congr_right fun _ =>
    ⟨fun h marker hm other ho => h other ho marker hm,
      fun h other ho marker hm => h marker hm other ho⟩

-- Two markers of a session have one name only where a synthesized one has a name with a dot.
theorem Proceeds.nodup_markers_iff (opened : Registry.ofKnown known = .ok start)
    (h : Proceeds naming proposable start registry) :
    (registry.markers.map (·.name)).Nodup ↔ ∀ marker ∈ registry.generated,
      '.' ∈ marker.name.toList → ∀ other ∈ start.markers, other.name ≠ marker.name := by
  rw [Registry.nodup_markers_iff (h.markers_eq opened)]
  constructor
  · exact fun hall marker hm _ => hall.2.2 marker hm
  · intro hqualified
    refine ⟨Registry.nodup_of_ofKnown opened, (h.tracks opened).names,
      fun marker hm other ho he => ?_⟩
    have hdot : '.' ∈ marker.name.toList := by
      by_contra hnone
      apply h.name_ne_shortName opened hm ho
      rw [Marker.shortName_eq_name (by rwa [he]), he]
    exact hqualified marker hm hdot other ho he

-- Names without dots are short names.
theorem Proceeds.nodup_markers (opened : Registry.ofKnown known = .ok start)
    (h : Proceeds naming proposable start registry)
    (hplain : ∀ proposed, proposable proposed → '.' ∉ proposed.toList) :
    (registry.markers.map (·.name)).Nodup := by
  refine (h.nodup_markers_iff opened).mpr fun marker hm hdot => ?_
  obtain ⟨proposed, hp, hderived⟩ := h.derived opened hm
  exact absurd (hderived.mem_of_mem (by decide) hdot) (hplain proposed hp)

theorem names_distinct_iff (opened : Registry.ofKnown known = .ok start)
    (session : Proceeds naming proposable start registry) :
    (registry.generated.map (·.name)).Nodup ∧
      (∀ marker ∈ registry.generated, ∀ other ∈ start.markers, marker.name ≠ other.shortName) ∧
      ((registry.markers.map (·.name)).Nodup ↔ ∀ marker ∈ registry.generated,
        '.' ∈ marker.name.toList → ∀ other ∈ start.markers, other.name ≠ marker.name) ∧
      ((∀ proposed, proposable proposed → '.' ∉ proposed.toList) →
        (registry.markers.map (·.name)).Nodup) :=
  ⟨(session.tracks opened).names, fun _ hm _ ho => session.name_ne_shortName opened hm ho,
    session.nodup_markers_iff opened, session.nodup_markers opened⟩

-- A known marker with a qualified name, and a session that proposes this name for another schema.
def qualifiedKnown : List Marker :=
  [⟨"app.Login", [Field.value "login" ⟨"kotlin.String", false⟩], [], true, .implicitPublic⟩]

def qualifiedStart : Registry :=
  ⟨qualifiedKnown, [], [], .ofList ["Login"]⟩

def qualifiedSession : Registry :=
  ((process ⟨.asWritten, .suffix⟩ ⟨"app.Login", true, .implicitPublic⟩
    (.ofList [("email", .value ⟨"kotlin.String", false⟩)])).run qualifiedStart).2

theorem ofKnown_qualified : Registry.ofKnown qualifiedKnown = .ok qualifiedStart := by
  simp [Registry.ofKnown, qualifiedKnown, Marker.ancestors, Marker.levels, distinctBy]
  rfl

theorem proceeds_qualified :
    Proceeds ⟨.asWritten, .suffix⟩ (fun _ => True) qualifiedStart qualifiedSession :=
  .process _ _ trivial .start

theorem names_distinct_iff_qualified :
    qualifiedSession.generated ≠ [] ∧
      (qualifiedSession.generated.map (·.name)).Nodup ∧
      (∀ marker ∈ qualifiedSession.generated, ∀ other ∈ qualifiedStart.markers,
        marker.name ≠ other.shortName) ∧
      ((qualifiedSession.markers.map (·.name)).Nodup ↔
        ∀ marker ∈ qualifiedSession.generated, '.' ∈ marker.name.toList →
          ∀ other ∈ qualifiedStart.markers, other.name ≠ marker.name) := by
  obtain ⟨hnames, hshort, hiff, -⟩ := names_distinct_iff ofKnown_qualified proceeds_qualified
  exact ⟨by decide +kernel, hnames, hshort, hiff⟩

theorem not_names_distinct_qualified :
    ∃ start registry, Registry.ofKnown qualifiedKnown = .ok start ∧
      Proceeds ⟨.asWritten, .suffix⟩ (fun _ => True) start registry ∧
      ¬(registry.markers.map (·.name)).Nodup := by
  refine ⟨qualifiedStart, qualifiedSession, ofKnown_qualified, proceeds_qualified, ?_⟩
  decide +kernel

end FrameMarkers
