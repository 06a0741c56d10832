import FrameMarkers.Proofs.Session.Known

namespace FrameMarkers

namespace Synthesis

-- A single change of the registry while calls run.
inductive Change (naming : Naming) : Registry → Registry → Prop where
  | allocate (registry : Registry) (proposed : String) :
      Change naming registry (registry.allocate proposed).2
  | reuse {proposal : Proposal} {schema : Schema} {registry : Registry} {marker : Marker}
      (unseen : registry.choice? schema = none)
      (met : registry.reusable? schema (registry.required schema) proposal.isOpen = some marker) :
      Change naming registry (registry.choose schema marker)
  | create {proposal : Proposal} {schema : Schema} {before within : Registry} {marker : Marker}
      (creation : Creation naming proposal schema before marker within) :
      Change naming within ((within.register marker).choose schema marker)

-- The second registry is a later one: any number of changes lead to it.
def Leads (naming : Naming) : Registry → Registry → Prop :=
  Relation.ReflTransGen (Change naming)

variable {naming : Naming} {proposal other : Proposal} {schema : Schema}
  {start registry before after later : Registry} {marker marker' : Marker}

theorem Change.grows (h : Change naming before after) : before.Grows after := by
  cases h with
  | allocate _ proposed => exact .allocate before proposed
  | reuse unseen _ => exact .choose unseen _
  | create creation => exact creation.grows_after

theorem Leads.grows (h : Leads naming before after) : before.Grows after := by
  induction h with
  | refl => exact .refl before
  | tail _ hchange ih => exact ih.trans hchange.grows

theorem leads_steps (naming : Naming) (proposal : Proposal) :
    Steps naming proposal (fun _ => True) (Leads naming) where
  nested _ _ := trivial
  refl _ := .refl
  trans h h' := h.trans h'
  allocate registry := .single (.allocate registry proposal.name)
  reuse _ unseen met := .single (.reuse unseen met)
  create _ creation hw := (hw.head (.allocate _ _)).tail (.create creation)

-- Once the fields of a new marker are computed, all that is left to do is to make it.
theorem leads_of_runFields (unseen : before.choice? schema = none)
    (unmet : before.reusable? schema (before.required schema) proposal.isOpen = none) :
    Leads naming (runFields naming proposal schema before).2
      ((process naming proposal schema).run before).2 := by
  have houtcome := process_outcome naming proposal schema before
  generalize (process naming proposal schema).run before = outcome at houtcome ⊢
  cases houtcome with
  | chosen seen => rw [unseen] at seen; contradiction
  | reused _ met => rw [unmet] at met; contradiction
  | created creation =>
      rw [creation.fields]
      exact .single (.create creation)
  | abandoned fields =>
      rw [fields]
      exact .refl

-- A call goes on after the calls that it makes.
theorem Calls.leads {inner : Schema} (h : Calls naming proposal schema before inner start) :
    Leads naming ((process naming proposal inner).run start).2
      ((process naming proposal schema).run before).2 := by
  induction h with
  | self => exact .refl
  | @nested schema nested inner before middle start name column used declares holds _ ih =>
      have hfields : Leads naming ((process naming proposal nested).run middle).2
          (runFields naming proposal schema before).2 := by
        rw [← run_resolve_registry holds]
        exact (leads_steps naming proposal).after_arrives declares.2.2 fun _ _ _ _ _ => trivial
      exact ih.trans (hfields.trans (leads_of_runFields declares.1 declares.2.1))

theorem run_process_of_choice (h : registry.choice? schema = some marker) :
    (process naming proposal schema).run registry = (.ok marker, registry) := by
  rw [run_process, h]

theorem run_process_later (h : (process naming proposal schema).run before = (.ok marker, after))
    (hl : Leads naming after later) :
    (process naming other schema).run later = (.ok marker, later) :=
  run_process_of_choice (hl.grows.choices (choice_of_run h))

-- Between the two registries, a call for the schema has made the marker.
def Made (naming : Naming) (start registry : Registry) (schema : Schema) (marker : Marker) : Prop :=
  ∃ proposal before after, Leads naming start before ∧
    Makes naming proposal schema before marker after ∧ Leads naming after registry

theorem Made.choice (h : Made naming start registry schema marker) :
    registry.choice? schema = some marker := by
  obtain ⟨proposal, before, after, -, hmakes, hlater⟩ := h
  exact hlater.grows.choices (choice_of_run hmakes.1)

theorem Made.eq (h : Made naming start registry schema marker)
    (h' : Made naming start registry schema marker') : marker = marker' :=
  Option.some.inj (h.choice.symm.trans h'.choice)

theorem made_steps (naming : Naming) (proposal : Proposal) :
    Steps naming proposal (fun _ => True) fun before after => Leads naming before after ∧
      ∀ marker ∈ after.generated, marker ∈ before.generated ∨
        ∃ schema, Made naming before after schema marker where
  nested _ _ := trivial
  refl _ := ⟨.refl, fun _ hm => .inl hm⟩
  trans := by
    rintro first second third ⟨hfirst, hmade⟩ ⟨hsecond, hmade'⟩
    refine ⟨hfirst.trans hsecond, fun marker hm => ?_⟩
    rcases hmade' marker hm with hs | ⟨schema, proposal, before, after, hb, hmakes, ha⟩
    · refine (hmade marker hs).imp_right ?_
      rintro ⟨schema, proposal, before, after, hb, hmakes, ha⟩
      exact ⟨schema, proposal, before, after, hb, hmakes, ha.trans hsecond⟩
    · exact .inr ⟨schema, proposal, before, after, hfirst.trans hb, hmakes, ha⟩
  allocate registry := ⟨(leads_steps naming proposal).allocate registry, fun _ hm => .inl hm⟩
  reuse hd unseen met :=
    ⟨(leads_steps naming proposal).reuse hd unseen met, fun _ hm => .inl hm⟩
  create {schema before within marker} hd creation hw := by
    refine ⟨(leads_steps naming proposal).create hd creation hw.1, fun other ho => ?_⟩
    rcases List.mem_append.mp ho with ho | ho
    · refine (hw.2 other ho).imp_right ?_
      rintro ⟨schema', proposal', first, last, hf, hmakes, hl⟩
      exact ⟨schema', proposal', first, last, hf.head (.allocate before proposal.name), hmakes,
        hl.tail (.create creation)⟩
    · obtain rfl := List.mem_singleton.mp ho
      exact .inr ⟨schema, proposal, before, _, .refl, makes_iff.mpr ⟨within, creation, rfl⟩, .refl⟩

end Synthesis

open Synthesis

variable {naming : Naming} {proposable : String → Prop} {known : List Marker}
  {start registry : Registry} {marker : Marker}

theorem Proceeds.exists_made (opened : Registry.ofKnown known = .ok start)
    (h : Proceeds naming proposable start registry) (hm : marker ∈ registry.generated) :
    ∃ schema, Made naming start registry schema marker := by
  have hmade := (h.relation ⟨.refl, fun _ hm => .inl hm⟩ fun proposal _ =>
    made_steps naming proposal).2
  refine (hmade marker hm).resolve_left fun hs => ?_
  rw [Registry.generated_of_ofKnown opened] at hs
  exact List.not_mem_nil hs

theorem made_once (opened : Registry.ofKnown known = .ok start)
    (session : Proceeds naming proposable start registry) :
    (∀ proposal schema marker after,
        (process naming proposal schema).run registry = (.ok marker, after) →
        ∀ later, Leads naming after later → ∀ other,
          (process naming other schema).run later = (.ok marker, later)) ∧
      (∀ marker ∈ registry.generated, ∃ schema, Made naming start registry schema marker) ∧
      registry.generated.Pairwise fun marker other => ∀ schema schema',
        Made naming start registry schema marker → Made naming start registry schema' other →
          schema ≠ schema' := by
  refine ⟨fun _ _ _ _ hrun _ hl _ => run_process_later hrun hl,
    fun _ hm => session.exists_made opened hm, ?_⟩
  refine (List.pairwise_map.mp (session.tracks opened).names).imp ?_
  rintro marker other hne schema schema' hmade hother rfl
  exact hne (congrArg (·.name) (hmade.eq hother))

-- A call for a record, and a session that goes on with a call for a record around it.
def innerRecord : Schema :=
  .ofList [("x", .value ⟨"kotlin.Int", false⟩)]

def innerSession : Registry :=
  ((process ⟨.asWritten, .suffix⟩ ⟨"Record", true, .implicitPublic⟩ innerRecord).run
    ⟨[], [], [], .ofList []⟩).2

def outerSession : Registry :=
  ((process ⟨.asWritten, .suffix⟩ ⟨"Record", true, .implicitPublic⟩
    (.ofList [("g", .group innerRecord false)])).run innerSession).2

theorem proceeds_inner :
    Proceeds ⟨.asWritten, .suffix⟩ (fun _ => True) ⟨[], [], [], .ofList []⟩ innerSession :=
  .process _ _ trivial .start

theorem made_once_outer :
    (∃ marker, ∀ other,
        (process ⟨.asWritten, .suffix⟩ other innerRecord).run outerSession =
          (.ok marker, outerSession)) ∧
      outerSession.generated.length = 2 ∧
      outerSession.generated.Pairwise fun marker other => ∀ schema schema',
        Made ⟨.asWritten, .suffix⟩ ⟨[], [], [], .ofList []⟩ outerSession schema marker →
          Made ⟨.asWritten, .suffix⟩ ⟨[], [], [], .ofList []⟩ outerSession schema' other →
            schema ≠ schema' := by
  have opened : Registry.ofKnown [] = .ok ⟨[], [], [], .ofList []⟩ := rfl
  have hlater : Leads ⟨.asWritten, .suffix⟩ innerSession outerSession :=
    (leads_steps _ _).process trivial innerSession
  obtain ⟨marker, hmarker⟩ : ∃ marker,
      (process ⟨.asWritten, .suffix⟩ ⟨"Record", true, .implicitPublic⟩ innerRecord).run
        innerSession = (.ok marker, innerSession) := by
    obtain ⟨marker, hchoice⟩ := Option.isSome_iff_exists.mp
      (by decide +kernel : (innerSession.choice? innerRecord).isSome)
    exact ⟨marker, run_process_of_choice hchoice⟩
  refine ⟨⟨marker, ?_⟩, by decide +kernel, ?_⟩
  · exact (made_once opened proceeds_inner).1 _ _ _ _ hmarker _ hlater
  · exact (made_once opened (.process _ _ trivial proceeds_inner)).2.2

end FrameMarkers
