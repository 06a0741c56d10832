import FrameMarkers.Proofs.Marker.Ancestors
import FrameMarkers.Proofs.Session.Names

namespace FrameMarkers

open Synthesis

variable {naming : Naming} {proposable : String → Prop} {known : List Marker}
  {start registry before after : Registry} {proposal : Proposal} {schema : Schema}
  {marker : Marker}

-- With a marker, the registry has those above it.
def Registry.Closed (registry : Registry) : Prop :=
  ∀ marker ∈ registry.markers, ∀ upper ∈ marker.supers, upper ∈ registry.markers

theorem Registry.closed_of_ofKnown (opened : ofKnown known = .ok start)
    (unambiguous : Marker.Unambiguous known) : start.Closed := by
  have hmarkers : start.markers =
      distinctBy (·.name) (known ++ known.flatMap Marker.ancestors) := by
    rw [eq_of_ofKnown opened]
  intro marker hm upper hu
  rw [hmarkers, unambiguous.mem_ancestors] at hm ⊢
  exact unambiguous.family.supers hm hu

theorem Registry.Grows.markers_subset (h : before.Grows after) :
    before.markers ⊆ after.markers :=
  h.markers.subset

theorem Synthesis.closed_steps (naming : Naming) (proposal : Proposal) :
    Steps naming proposal (fun _ => True) fun before after => before.Closed → after.Closed where
  nested _ _ := trivial
  refl _ := id
  trans h h' := h' ∘ h
  allocate _ h := h
  reuse _ _ _ h := h
  create {schema before within made} _ creation hw hb := by
    have hwithin : within.Closed := hw hb
    have hgrows : within.markers ⊆ (within.register made).markers :=
      (Registry.Grows.register within made).markers_subset
    intro other ho upper hu
    have hother : other ∈ within.markers ∨ other = made := by
      simpa [Registry.choose, Registry.register] using ho
    rcases hother with ho | rfl
    · exact hgrows (hwithin other ho upper hu)
    · exact hgrows (creation.grows.markers_subset (creation.of_mem_supers hu).1)

theorem Registry.Closed.family (h : registry.Closed)
    (hnames : (registry.markers.map (·.name)).Nodup) : Marker.Family (· ∈ registry.markers) :=
  .of_closed hnames h

-- No leaf is implemented by another one.
theorem Marker.pairwise_leaves {candidates : List Marker}
    (h : (candidates.map (·.name)).Nodup) :
    (leaves candidates).Pairwise fun first second =>
      first.implements second = false ∧ second.implements first = false := by
  have hleaf : ∀ first ∈ leaves candidates, ∀ second ∈ leaves candidates,
      first.name ≠ second.name → first.implements second = false := by
    intro first hf second hs hne
    rw [leaves, List.mem_filter, Bool.not_eq_true', List.any_eq_false] at hs
    have hnot := hs.2 first (mem_of_mem_leaves hf)
    simpa [hne] using hnot
  have hnodup : ((leaves candidates).map (·.name)).Nodup := (List.filter_sublist.map _).nodup h
  refine (List.pairwise_map.mp hnodup).imp_of_mem fun {first second} hf hs hne => ?_
  exact ⟨hleaf first hf second hs hne, hleaf second hs first hf (Ne.symm hne)⟩

theorem Registry.nodup_required (h : (registry.markers.map (·.name)).Nodup) (schema : Schema) :
    ((registry.required schema).map (·.name)).Nodup := by
  exact ((List.mergeSort_perm _ _).map Marker.name).nodup_iff.mpr
    ((List.filter_sublist.map _).nodup h)

theorem implements_required (unambiguous : Marker.Unambiguous known)
    (opened : Registry.ofKnown known = .ok start)
    (session : Proceeds naming (fun proposed => '.' ∉ proposed.toList) start before)
    (plain : '.' ∉ proposal.name.toList) (unseen : before.choice? schema = none)
    (returned : (process naming proposal schema).run before = (.ok marker, after)) :
    (∀ required ∈ before.markers, required.isOpen = true → required.accepts schema = true →
        marker.implements required = true) ∧
      (Makes naming proposal schema before marker after →
        marker.supers.Pairwise fun first second =>
          first.implements second = false ∧ second.implements first = false) := by
  have hafter : Proceeds naming (fun proposed => '.' ∉ proposed.toList) start after := by
    have hcall := session.process proposal schema plain
    rwa [returned] at hcall
  have hfamily : ∀ {registry}, Proceeds naming (fun proposed => '.' ∉ proposed.toList) start
      registry → Marker.Family (· ∈ registry.markers) := fun {registry} hsession =>
    (hsession.relation (R := fun before after => before.Closed → after.Closed) id
      (fun proposal _ => closed_steps naming proposal)
      (Registry.closed_of_ofKnown opened unambiguous)).family
      (hsession.nodup_markers opened fun _ => id)
  refine ⟨fun required hm hopen haccepts => ?_, fun hmakes => ?_⟩
  · have hrequired : required ∈ before.required schema :=
      Registry.mem_required.mpr ⟨hm, hopen, haccepts⟩
    have houtcome := process_outcome naming proposal schema before
    rw [returned] at houtcome
    cases houtcome with
    | chosen seen =>
        rw [unseen] at seen
        contradiction
    | reused _ met => exact (mem_of_reusable? met).2 required hrequired
    | created creation =>
        have hextends := creation.extends_required (hfamily session)
          (fun candidate hc => (Registry.mem_required.mp hc).1) hrequired
        refine ((hfamily hafter).implements_iff ?_ ?_).mpr hextends
        · exact List.mem_append_right _ List.mem_cons_self
        · exact (creation.grows.trans creation.grows_after).markers_subset hm
  · obtain ⟨within, creation, -⟩ := makes_iff.mp hmakes
    rw [creation.supers]
    exact Marker.pairwise_leaves
      (Registry.nodup_required (session.nodup_markers opened fun _ => id) schema)

-- A record, an extension of it and an unrelated one. All three are required for the schema, and the
-- first is no super marker, since the second has it.
def layeredBase : Marker :=
  ⟨"Base", [Field.value "a" ⟨"kotlin.Int", false⟩], [], true, .implicitPublic⟩

def layeredKnown : List Marker :=
  [⟨"Derived", [Field.value "b" ⟨"kotlin.Int", false⟩], [layeredBase], true, .implicitPublic⟩,
    ⟨"Other", [Field.value "c" ⟨"kotlin.Int", false⟩], [], true, .implicitPublic⟩]

def layeredStart : Registry :=
  ⟨layeredKnown ++ [layeredBase], [], [], .ofList ["Derived", "Other", "Base"]⟩

def layeredSchema : Schema :=
  let number : Column := .value ⟨"kotlin.Int", false⟩
  .ofList [("a", number), ("b", number), ("c", number)]

def layeredMarker : Marker :=
  ⟨"DataType", [], layeredKnown, true, .implicitPublic⟩

theorem ofKnown_layered : Registry.ofKnown layeredKnown = .ok layeredStart := by
  simp [Registry.ofKnown, layeredKnown, layeredBase, Marker.ancestors, Marker.levels, distinctBy]
  rfl

theorem unambiguous_layered : Marker.Unambiguous layeredKnown := by
  have hclosed : layeredStart.Closed := by
    simp [Registry.Closed, layeredStart, layeredKnown, layeredBase]
  exact (hclosed.family (by decide)).unambiguous fun marker hm =>
    List.mem_append_left _ (List.mem_append_left _ hm)

theorem required_layered :
    layeredStart.required layeredSchema = layeredKnown ++ [layeredBase] := by
  have hfilter : (layeredStart.markers.filter fun marker =>
      marker.isOpen && marker.accepts layeredSchema) = layeredKnown ++ [layeredBase] := by
    rfl
  rw [Registry.required_eq_filter, hfilter]
  rw [hfilter]
  simp only [layeredKnown, layeredBase]
  decide

theorem leaves_layered : Marker.leaves (layeredKnown ++ [layeredBase]) = layeredKnown := by
  simp [Marker.leaves, layeredKnown, layeredBase, Marker.implements, Marker.ancestors,
    Marker.levels]

theorem makes_layered :
    Makes ⟨.asWritten, .suffix⟩ ⟨"DataType", true, .implicitPublic⟩ layeredSchema layeredStart
      layeredMarker
      (((layeredStart.allocate "DataType").2.register layeredMarker).choose layeredSchema
        layeredMarker) := by
  have hschemas : ∀ marker ∈ layeredStart.markers, (marker.schema == layeredSchema) = false := by
    decide +kernel
  refine makes_iff.mpr ⟨_, ?_, rfl⟩
  exact {
    unseen := rfl
    unmet := List.find?_eq_none.mpr fun marker hm => by simp [hschemas marker hm]
    fields := by
      rw [runFields, newScope, required_layered, leaves_layered]
      rfl
    name := rfl
    supers := by rw [required_layered, leaves_layered]; rfl
    isOpen := rfl
    visibility := rfl
    valid := rfl }

theorem implements_required_layered :
    (∀ required ∈ layeredStart.markers, required.isOpen = true →
        required.accepts layeredSchema = true → layeredMarker.implements required = true) ∧
      layeredMarker.supers.Pairwise fun first second =>
        first.implements second = false ∧ second.implements first = false := by
  obtain ⟨himplements, hleaves⟩ := implements_required unambiguous_layered ofKnown_layered
    (.start : Proceeds ⟨.asWritten, .suffix⟩ _ layeredStart layeredStart) (by decide) rfl
    makes_layered.1
  exact ⟨himplements, hleaves makes_layered⟩

end FrameMarkers
