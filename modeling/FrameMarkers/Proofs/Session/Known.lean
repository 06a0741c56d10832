import FrameMarkers.Proofs.Session.Reached
import FrameMarkers.Proofs.Synthesis.Calls

namespace FrameMarkers

open Synthesis

-- A session on the registry `start` comes to the other one, by calls whose proposed names are of
-- the given kind: between the calls, or where a call makes another one for a nested schema.
inductive Proceeds (naming : Naming) (proposable : String → Prop) (start : Registry) :
    Registry → Prop where
  | start : Proceeds naming proposable start start
  | process {registry : Registry} (proposal : Proposal) (schema : Schema)
      (named : proposable proposal.name) (earlier : Proceeds naming proposable start registry) :
      Proceeds naming proposable start ((process naming proposal schema).run registry).2
  | resolve {registry : Registry} (proposal : Proposal) (column : Column)
      (named : proposable proposal.name) (earlier : Proceeds naming proposable start registry) :
      Proceeds naming proposable start ((resolve naming proposal column).run registry).2
  | nested {registry within : Registry} {proposal : Proposal} {schema inner : Schema}
      (named : proposable proposal.name) (earlier : Proceeds naming proposable start registry)
      (calls : Calls naming proposal schema registry inner within) :
      Proceeds naming proposable start within

variable {naming : Naming} {proposable : String → Prop} {known : List Marker}
  {start registry : Registry} {proposal : Proposal} {marker other : Marker}

-- What the single steps of each call keep, a session keeps.
theorem Proceeds.relation {R : Registry → Registry → Prop} (hrefl : R start start)
    (steps : ∀ proposal : Proposal, proposable proposal.name →
      Steps naming proposal (fun _ => True) R)
    (h : Proceeds naming proposable start registry) : R start registry := by
  induction h with
  | start => exact hrefl
  | process proposal schema named _ ih =>
      exact (steps proposal named).trans ih ((steps proposal named).process trivial _)
  | resolve proposal column named _ ih =>
      exact (steps proposal named).trans ih ((steps proposal named).resolve (fun _ _ => trivial) _)
  | nested named _ calls ih =>
      exact (steps _ named).trans ih ((steps _ named).calls calls trivial).2

theorem Proceeds.growsFresh (h : Proceeds naming proposable start registry) :
    start.GrowsFresh registry :=
  h.relation (.of_generated_eq (.refl start) rfl) fun proposal _ => growsFresh_steps naming proposal

theorem Registry.eq_of_ofKnown (h : ofKnown known = .ok start) :
    start = ⟨distinctBy (·.name) (known ++ known.flatMap Marker.ancestors), [], [],
      .ofList ((distinctBy (·.name) (known ++ known.flatMap Marker.ancestors)).map
        Marker.shortName)⟩ := by
  unfold ofKnown at h
  cases hv : known.forM Marker.validate with
  | error error =>
      rw [hv] at h
      cases h
  | ok _ =>
      rw [hv] at h
      cases h
      rfl

theorem Registry.generated_of_ofKnown (h : ofKnown known = .ok start) : start.generated = [] := by
  rw [eq_of_ofKnown h]

theorem Registry.nodup_of_ofKnown (h : ofKnown known = .ok start) :
    (start.markers.map (·.name)).Nodup := by
  rw [eq_of_ofKnown h]
  exact nodup_distinctBy Marker.name _

-- What a session synthesizes is registered in both lists, after the markers it started with.
theorem Proceeds.markers_eq (opened : Registry.ofKnown known = .ok start)
    (h : Proceeds naming proposable start registry) :
    registry.markers = start.markers ++ registry.generated := by
  obtain ⟨added, hmarkers, hgenerated⟩ := h.growsFresh.added
  rw [hmarkers, hgenerated, Registry.generated_of_ofKnown opened, List.nil_append]

-- The synthesized markers have different names, and all of these are in use.
structure Registry.Tracks (registry : Registry) : Prop where
  names : (registry.generated.map (·.name)).Nodup
  used : ∀ marker ∈ registry.generated, registry.names.contains marker.name

theorem Registry.tracks_of_ofKnown (h : ofKnown known = .ok start) : start.Tracks := by
  constructor <;> simp [generated_of_ofKnown h]

theorem Synthesis.tracks_steps (naming : Naming) (proposal : Proposal) :
    Steps naming proposal (fun _ => True) fun before after => before.Tracks → after.Tracks where
  nested _ _ := trivial
  refl _ := id
  trans h h' := h' ∘ h
  allocate registry h :=
    ⟨h.names, fun marker hm => (Registry.Grows.allocate registry _).names (h.used marker hm)⟩
  reuse _ _ _ h := ⟨h.names, h.used⟩
  create {schema before within marker} _ creation hw hb := by
    have hwithin : within.Tracks := hw ⟨hb.names, fun other ho =>
      (Registry.Grows.allocate before _).names (hb.used other ho)⟩
    refine ⟨?_, fun other ho => ?_⟩
    · rw [Registry.choose, Registry.register, List.map_append]
      exact hwithin.names.append (List.nodup_singleton _)
        (by simpa using creation.name_fresh hb.used)
    · rcases List.mem_append.mp ho with ho | ho
      · exact hwithin.used other ho
      · obtain rfl := List.mem_singleton.mp ho
        exact creation.name_used

theorem Proceeds.tracks (opened : Registry.ofKnown known = .ok start)
    (h : Proceeds naming proposable start registry) : registry.Tracks :=
  h.relation (R := fun before after => before.Tracks → after.Tracks) id
    (fun proposal _ => tracks_steps naming proposal) (Registry.tracks_of_ofKnown opened)

-- If every marker that a call makes has a property, all synthesized markers have it.
theorem Proceeds.of_creation {P : Marker → Prop} (opened : Registry.ofKnown known = .ok start)
    (h : Proceeds naming proposable start registry)
    (made : ∀ {proposal : Proposal} {schema : Schema} {before within : Registry} {marker : Marker},
      proposable proposal.name → Creation naming proposal schema before marker within → P marker)
    (hm : marker ∈ registry.generated) : P marker := by
  have hadded := h.relation (fun _ hm => .inl hm) fun proposal named =>
    added_steps fun creation => made named creation
  refine (hadded marker hm).resolve_left fun hs => ?_
  rw [Registry.generated_of_ofKnown opened] at hs
  exact List.not_mem_nil hs

theorem Proceeds.valid (opened : Registry.ofKnown known = .ok start)
    (h : Proceeds naming proposable start registry) (hm : marker ∈ registry.generated) :
    marker.validate = .ok () :=
  h.of_creation opened (fun _ creation => creation.valid) hm

end FrameMarkers
