import FrameMarkers.Proofs.Synthesis.Creation

namespace FrameMarkers

open Synthesis

theorem Registry.eq_of_ofKnown_nil {registry : Registry} (h : ofKnown [] = .ok registry) :
    registry = ⟨[], [], [], .ofList []⟩ := by
  cases h
  rfl

-- The registries that single steps lead to, from the one without markers.
inductive Reached (naming : Naming) : Registry → Prop where
  | start {registry : Registry} (empty : Registry.ofKnown [] = .ok registry) :
      Reached naming registry
  | allocated {registry : Registry} (proposed : String) (earlier : Reached naming registry) :
      Reached naming (registry.allocate proposed).2
  | reused {proposal : Proposal} {schema : Schema} {registry : Registry} {marker : Marker}
      (earlier : Reached naming registry) (unseen : registry.choice? schema = none)
      (met : registry.reusable? schema (registry.required schema) proposal.isOpen = some marker) :
      Reached naming (registry.choose schema marker)
  | created {proposal : Proposal} {schema : Schema} {before within : Registry} {marker : Marker}
      (earlier : Reached naming before) (later : Reached naming within)
      (creation : Creation naming proposal schema before marker within) :
      Reached naming ((within.register marker).choose schema marker)

-- The registries between the calls. A call may fail.
inductive Session (naming : Naming) : Registry → Prop where
  | start {registry : Registry} (empty : Registry.ofKnown [] = .ok registry) :
      Session naming registry
  | call {registry : Registry} (proposal : Proposal) (schema : Schema)
      (earlier : Session naming registry) :
      Session naming ((process naming proposal schema).run registry).2

theorem reached_steps (naming : Naming) (proposal : Proposal) :
    Steps naming proposal (fun _ => True)
      (fun before after => Reached naming before → Reached naming after) where
  nested _ _ := trivial
  refl _ := id
  trans h h' := h' ∘ h
  allocate _ hb := .allocated _ hb
  reuse _ unseen met hb := .reused hb unseen met
  create _ creation hw hb := .created hb (hw (.allocated _ hb)) creation

theorem Session.reached {naming : Naming} {registry : Registry} (h : Session naming registry) :
    Reached naming registry := by
  induction h with
  | start empty => exact .start empty
  | call proposal schema _ ih => exact (reached_steps naming proposal).process trivial _ ih

-- The registry after calls for the schemas in turn.
def Synthesis.callAll (naming : Naming) (proposal : Proposal) (schemas : List Schema)
    (registry : Registry) : Registry :=
  schemas.foldl (fun registry schema => ((process naming proposal schema).run registry).2) registry

theorem Session.callAll {naming : Naming} {registry : Registry} (h : Session naming registry)
    (proposal : Proposal) (schemas : List Schema) :
    Session naming (callAll naming proposal schemas registry) := by
  induction schemas generalizing registry with
  | nil => exact h
  | cons schema rest ih => exact ih (h.call proposal schema)

-- What holds of the markers and choices of such a registry.
structure Registry.Sound (registry : Registry) : Prop where
  markers_eq : registry.markers = registry.generated
  names : (registry.generated.map (·.name)).Nodup
  used : ∀ marker ∈ registry.generated, registry.names.contains marker.name
  supers : ∀ marker ∈ registry.generated, ∀ upper ∈ marker.supers,
    upper ∈ registry.generated ∧ upper.isOpen = true
  chosen : ∀ {schema : Schema} {marker : Marker}, registry.choice? schema = some marker →
    marker ∈ registry.generated
  types : ∀ marker ∈ registry.generated, ∀ field ∈ marker.ownFields,
    registry.Assigns field.shape field.type

namespace Registry.Sound

theorem family {registry : Registry} (h : registry.Sound) :
    Marker.Family (· ∈ registry.generated) :=
  .of_closed h.names fun lower hl upper hu => (h.supers lower hl upper hu).1

-- What holds of all own fields, holds of all fields.
theorem of_mem_fields {registry : Registry} (h : registry.Sound) {P : Field → Prop}
    (hown : ∀ marker ∈ registry.generated, ∀ field ∈ marker.ownFields, P field) {marker : Marker}
    (hm : marker ∈ registry.generated) {field : Field} (hf : field ∈ marker.fields) : P field := by
  obtain ⟨upper, he, ho⟩ := Marker.exists_own_of_mem_fields hf
  exact hown upper (h.family.of_extends hm he) field ho

theorem of_mem_required {registry : Registry} (h : registry.Sound) {P : Field → Prop}
    (hown : ∀ marker ∈ registry.generated, ∀ field ∈ marker.ownFields, P field) {schema : Schema} :
    ∀ field ∈ (Marker.leaves (registry.required schema)).flatMap Marker.fields, P field := by
  intro field hf
  obtain ⟨upper, hu, hfield⟩ := List.mem_flatMap.mp hf
  have hm := (Registry.mem_required.mp (Marker.mem_of_mem_leaves hu)).1
  rw [h.markers_eq] at hm
  exact h.of_mem_fields hown hm hfield

theorem find?_eq {registry : Registry} (h : registry.Sound) {marker : Marker}
    (hm : marker ∈ registry.generated) : registry.find? marker.name = some marker := by
  rw [find?, h.markers_eq]
  cases hf : registry.generated.find? (·.name == marker.name) with
  | none => exact absurd (List.find?_eq_none.mp hf marker hm) (by simp)
  | some found =>
      have hname : found.name = marker.name := by simpa using List.find?_some hf
      rw [h.family.names (List.mem_of_find?_eq_some hf) hm hname]

theorem empty {registry : Registry} (h : ofKnown [] = .ok registry) : registry.Sound := by
  obtain rfl := eq_of_ofKnown_nil h
  exact ⟨rfl, List.nodup_nil, by simp, by simp, by simp [choice?], by simp⟩

theorem allocate {registry : Registry} (h : registry.Sound) (proposed : String) :
    (registry.allocate proposed).2.Sound :=
  ⟨h.markers_eq, h.names,
    fun marker hm => (contains_allocate registry proposed _).mpr (.inr (h.used marker hm)),
    h.supers, h.chosen, h.types⟩

theorem choose {registry : Registry} (h : registry.Sound) {schema : Schema}
    (unseen : registry.choice? schema = none) {marker : Marker}
    (hm : marker ∈ registry.generated) : (registry.choose schema marker).Sound := by
  refine ⟨h.markers_eq, h.names, h.used, h.supers, fun {key chosen} hc => ?_,
    fun other ho field hf => (h.types other ho field hf).mono (.choose unseen marker)⟩
  rw [choice?_choose] at hc
  by_cases hk : key = schema
  · rw [if_pos hk] at hc
    cases hc
    exact hm
  · rw [if_neg hk] at hc
    exact h.chosen hc

theorem register {registry : Registry} (h : registry.Sound) {marker : Marker}
    (hfresh : marker.name ∉ registry.generated.map (·.name))
    (hused : registry.names.contains marker.name)
    (hsupers : ∀ upper ∈ marker.supers, upper ∈ registry.generated ∧ upper.isOpen = true)
    (htypes : ∀ field ∈ marker.ownFields, registry.Assigns field.shape field.type) :
    (registry.register marker).Sound := by
  refine ⟨congrArg (· ++ [marker]) h.markers_eq, ?_, ?_, ?_,
    fun hc => List.mem_append_left _ (h.chosen hc), ?_⟩
  · rw [Registry.register, List.map_append]
    exact h.names.append (List.nodup_singleton _) (by simpa using hfresh)
  · intro other ho
    rcases List.mem_append.mp ho with ho | ho
    · exact h.used other ho
    · obtain rfl := List.mem_singleton.mp ho
      exact hused
  · intro other ho upper hu
    rcases List.mem_append.mp ho with ho | ho
    · exact ⟨List.mem_append_left _ (h.supers other ho upper hu).1, (h.supers other ho upper hu).2⟩
    · obtain rfl := List.mem_singleton.mp ho
      exact ⟨List.mem_append_left _ (hsupers upper hu).1, (hsupers upper hu).2⟩
  · intro other ho field hf
    rcases List.mem_append.mp ho with ho | ho
    · exact h.types other ho field hf
    · obtain rfl := List.mem_singleton.mp ho
      exact htypes field hf

end Registry.Sound

variable {naming : Naming} {proposal : Proposal} {schema : Schema}
  {registry before within : Registry} {marker : Marker}

theorem mem_of_reusable? {required : List Marker} {isOpen : Bool}
    (h : registry.reusable? schema required isOpen = some marker) :
    marker ∈ registry.markers ∧ ∀ other ∈ required, marker.implements other := by
  have hs := List.find?_some h
  simp only [Bool.and_eq_true, List.all_eq_true] at hs
  exact ⟨List.mem_of_find?_eq_some h, hs.1.2⟩

-- The name of a new marker was taken before its fields were computed, so no marker made since then
-- has it.
theorem Synthesis.Creation.name_fresh
    (creation : Creation naming proposal schema before marker within)
    (hb : ∀ other ∈ before.generated, before.names.contains other.name) :
    marker.name ∉ within.generated.map (·.name) := by
  intro hm
  obtain ⟨other, ho, hname⟩ := List.mem_map.mp hm
  rcases creation.grows_within.fresh other ho with hg | hunused
  · have hused := hb other hg
    rw [hname, creation.name, before.allocate_free] at hused
    contradiction
  · have hused := (before.contains_allocate proposal.name other.name).mpr
      (.inl (hname.trans creation.name))
    rw [hunused] at hused
    contradiction

theorem Synthesis.Creation.name_used
    (creation : Creation naming proposal schema before marker within) :
    within.names.contains marker.name := by
  rw [creation.name]
  exact creation.grows_within.names ((before.contains_allocate proposal.name _).mpr (.inl rfl))

theorem Synthesis.Creation.sound (creation : Creation naming proposal schema before marker within)
    (hb : before.Sound) (hw : within.Sound) :
    ((within.register marker).choose schema marker).Sound := by
  have hregister : (within.register marker).Sound := by
    apply hw.register (creation.name_fresh hb.used)
    · exact creation.name_used
    · intro upper hu
      obtain ⟨hm, hopen, -⟩ := creation.of_mem_supers hu
      rw [hb.markers_eq] at hm
      exact ⟨creation.grows.generated.subset hm, hopen⟩
    · exact fun field hf => (creation.of_mem_own hf).2
  have hunseen : (within.register marker).choice? schema = none := creation.within_unseen
  exact hregister.choose hunseen (List.mem_append_right _ List.mem_cons_self)

namespace Reached

theorem sound (h : Reached naming registry) : registry.Sound := by
  induction h with
  | start empty => exact .empty empty
  | allocated proposed _ ih => exact ih.allocate proposed
  | reused _ unseen met ih =>
      apply ih.choose unseen
      rw [← ih.markers_eq]
      exact (mem_of_reusable? met).1
  | created _ _ creation hb hw => exact creation.sound hb hw

-- Every marker was made at some point that the session has reached before.
theorem exists_creation (h : Reached naming registry) (hm : marker ∈ registry.generated) :
    ∃ proposal schema before within, Reached naming before ∧
      Creation naming proposal schema before marker within ∧
      ((within.register marker).choose schema marker).Grows registry := by
  induction h with
  | start empty =>
      rw [Registry.eq_of_ofKnown_nil empty] at hm
      simp at hm
  | allocated proposed _ ih =>
      obtain ⟨proposal, schema, before, within, hb, creation, hgrows⟩ := ih hm
      exact ⟨proposal, schema, before, within, hb, creation, hgrows.trans (.allocate _ proposed)⟩
  | reused _ unseen _ ih =>
      obtain ⟨proposal, schema, before, within, hb, creation, hgrows⟩ := ih hm
      exact ⟨proposal, schema, before, within, hb, creation, hgrows.trans (.choose unseen _)⟩
  | created earlier _ creation _ ih =>
      rcases List.mem_append.mp hm with hm | hm
      · obtain ⟨proposal, schema, before, within, hb, origin, hgrows⟩ := ih hm
        exact ⟨proposal, schema, before, within, hb, origin, hgrows.trans creation.grows_after⟩
      · obtain rfl := List.mem_singleton.mp hm
        exact ⟨_, _, _, _, earlier, creation, .refl _⟩

end Reached

-- The marker was found by the call that met the schema first, on the registry `first`.
structure FirstMet (naming : Naming) (registry : Registry) (schema : Schema) (first : Registry)
    (marker : Marker) : Prop where
  reached : Reached naming first
  unseen : first.choice? schema = none
  call : ∃ proposal after,
    (process naming proposal schema).run first = (.ok marker, after) ∧ after.Grows registry

theorem FirstMet.mono {first later : Registry} (h : FirstMet naming registry schema first marker)
    (hgrows : registry.Grows later) : FirstMet naming later schema first marker := by
  obtain ⟨proposal, after, hrun, hafter⟩ := h.call
  exact ⟨h.reached, h.unseen, proposal, after, hrun, hafter.trans hgrows⟩

theorem FirstMet.grows {first : Registry} (h : FirstMet naming registry schema first marker) :
    first.Grows registry := by
  obtain ⟨proposal, after, hrun, hafter⟩ := h.call
  have hcall := (growsFresh_process naming proposal schema first).toGrows
  rw [hrun] at hcall
  exact hcall.trans hafter

theorem FirstMet.choice {first : Registry} (h : FirstMet naming registry schema first marker) :
    registry.choice? schema = some marker := by
  obtain ⟨proposal, after, hrun, hafter⟩ := h.call
  exact hafter.choices (choice_of_run hrun)

theorem FirstMet.mem_generated {first : Registry}
    (h : FirstMet naming registry schema first marker) {other : Marker}
    (ho : other ∈ first.markers) : other ∈ registry.generated := by
  rw [h.reached.sound.markers_eq] at ho
  exact h.grows.generated.subset ho

-- The call reused a marker that was there, or made a new one.
theorem FirstMet.reused_or_created {first : Registry}
    (h : FirstMet naming registry schema first marker) :
    (marker ∈ first.markers ∧ ∀ required ∈ first.required schema, marker.implements required) ∨
      ∃ proposal within, Creation naming proposal schema first marker within := by
  obtain ⟨proposal, after, hrun, -⟩ := h.call
  have houtcome := process_outcome naming proposal schema first
  rw [hrun] at houtcome
  cases houtcome with
  | chosen seen =>
      rw [h.unseen] at seen
      contradiction
  | reused _ met => exact .inl (mem_of_reusable? met)
  | created creation => exact .inr ⟨proposal, _, creation⟩

-- Every choice goes back to such a call.
theorem Reached.exists_firstMet (h : Reached naming registry)
    (hc : registry.choice? schema = some marker) :
    ∃ first, FirstMet naming registry schema first marker := by
  induction h with
  | start empty =>
      rw [Registry.eq_of_ofKnown_nil empty] at hc
      simp [Registry.choice?] at hc
  | @allocated earlier proposed _ ih =>
      obtain ⟨first, hfirst⟩ := ih hc
      exact ⟨first, hfirst.mono (.allocate earlier proposed)⟩
  | @reused proposal key registry chosen earlier unseen met ih =>
      rw [Registry.choice?_choose] at hc
      by_cases hk : schema = key
      · subst hk
        rw [if_pos rfl] at hc
        cases hc
        refine ⟨registry, earlier, unseen, proposal, _, ?_, .refl _⟩
        rw [run_process, unseen]
        dsimp only
        rw [met]
      · rw [if_neg hk] at hc
        obtain ⟨first, hfirst⟩ := ih hc
        exact ⟨first, hfirst.mono (.choose unseen chosen)⟩
  | @created proposal key before within made earlier _ creation _ ih =>
      rw [Registry.choice?_choose] at hc
      by_cases hk : schema = key
      · subst hk
        rw [if_pos rfl] at hc
        cases hc
        exact ⟨before, earlier, creation.unseen, proposal, _, creation.run, .refl _⟩
      · rw [if_neg hk] at hc
        obtain ⟨first, hfirst⟩ := ih hc
        exact ⟨first, hfirst.mono creation.grows_after⟩

end FrameMarkers
