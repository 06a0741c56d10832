import FrameMarkers.Proofs.Session.Memory

namespace FrameMarkers

open Synthesis

-- The registries of a session without known markers in which every call is closed: between the
-- calls, and where a call makes another one for a nested schema. Calls may fail.
inductive ClosedSession (naming : Naming) : Registry → Prop where
  | start {registry : Registry} (empty : Registry.ofKnown [] = .ok registry) :
      ClosedSession naming registry
  | process {registry : Registry} (proposal : Proposal) (schema : Schema)
      (closed : proposal.isOpen = false) (earlier : ClosedSession naming registry) :
      ClosedSession naming ((process naming proposal schema).run registry).2
  | resolve {registry : Registry} (proposal : Proposal) (column : Column)
      (closed : proposal.isOpen = false) (earlier : ClosedSession naming registry) :
      ClosedSession naming ((resolve naming proposal column).run registry).2
  | nested {registry within : Registry} {proposal : Proposal} {schema inner : Schema}
      (closed : proposal.isOpen = false) (earlier : ClosedSession naming registry)
      (calls : Calls naming proposal schema registry inner within) : ClosedSession naming within

-- A call of a closed session has returned the marker for the schema, and the session has come to
-- the registry since.
def ClosedSession.Returned (naming : Naming) (registry : Registry) (schema : Schema)
    (marker : Marker) : Prop :=
  ∃ proposal before after, proposal.isOpen = false ∧ ClosedSession naming before ∧
    (Synthesis.process naming proposal schema).run before = (.ok marker, after) ∧
      Leads naming after registry

-- The marker extends nothing, and has one new field for each column of the schema, in their order.
structure Marker.Exact (marker : Marker) (schema : Schema) : Prop where
  supers : marker.supers = []
  describes : marker.schema = schema
  columns : marker.ownFields.map (·.column) = schema.names
  identifiers : (marker.ownFields.map (·.identifier.text)).Nodup
  new : ∀ field ∈ marker.ownFields, field.overrides = false

-- The markers of the registry are closed, and each is chosen for the schema that it describes.
structure Registry.Exact (registry : Registry) : Prop where
  markers_eq : registry.markers = registry.generated
  closed : ∀ marker ∈ registry.generated, marker.isOpen = false
  chosen : ∀ {schema : Schema} {marker : Marker}, registry.choice? schema = some marker →
    marker.Exact schema
  remembered : ∀ marker ∈ registry.generated, ∃ schema, registry.choice? schema = some marker

variable {naming : Naming} {proposal : Proposal} {schema other : Schema}
  {registry before within after : Registry} {marker found : Marker}

theorem Registry.exact_of_ofKnown_nil (h : ofKnown [] = .ok registry) : registry.Exact := by
  obtain rfl := eq_of_ofKnown_nil h
  exact ⟨rfl, by simp, by simp [choice?], by simp⟩

namespace Registry.Exact

theorem required_eq_nil (h : registry.Exact) (schema : Schema) : registry.required schema = [] := by
  refine List.eq_nil_iff_forall_not_mem.mpr fun candidate hc => ?_
  obtain ⟨hm, hopen, -⟩ := mem_required.mp hc
  rw [h.markers_eq] at hm
  rw [h.closed candidate hm] at hopen
  contradiction

-- A marker that describes the schema was chosen for it, so nothing is found that was not chosen.
theorem reusable?_eq_none (h : registry.Exact) (unseen : registry.choice? schema = none)
    (required : List Marker) (isOpen : Bool) :
    registry.reusable? schema required isOpen = none := by
  refine List.find?_eq_none.mpr fun candidate hm => ?_
  rw [h.markers_eq] at hm
  obtain ⟨described, hc⟩ := h.remembered candidate hm
  simp only [Bool.and_eq_true, beq_iff_eq, not_and]
  rintro - he
  rw [(h.chosen hc).describes] at he
  rw [he, unseen] at hc
  contradiction

end Registry.Exact

namespace Synthesis

theorem Creation.exact (creation : Creation naming proposal schema before marker within)
    (h : before.required schema = []) : marker.Exact schema := by
  obtain ⟨hentries, hnew⟩ := creation.own_of_no_required h
  refine ⟨creation.supers_of_no_required h, creation.schema_of_no_required h, ?_, creation.keys.1,
    hnew⟩
  rw [Columns.names, ← hentries, List.map_map]
  rfl

theorem exact_steps (naming : Naming) (closed : proposal.isOpen = false) :
    Steps naming proposal (fun _ => True) fun before after => before.Exact → after.Exact where
  nested _ _ := trivial
  refl _ := id
  trans h h' := h' ∘ h
  allocate _ h := ⟨h.markers_eq, h.closed, h.chosen, h.remembered⟩
  reuse _ unseen met h := by
    rw [h.reusable?_eq_none unseen] at met
    contradiction
  create {schema before within marker} _ creation hw hb := by
    have hwithin : within.Exact := hw ⟨hb.markers_eq, hb.closed, hb.chosen, hb.remembered⟩
    refine ⟨congrArg (· ++ [marker]) hwithin.markers_eq, fun other ho => ?_,
      fun {key chosen} hc => ?_, fun other ho => ?_⟩
    · rcases List.mem_append.mp ho with ho | ho
      · exact hwithin.closed other ho
      · obtain rfl := List.mem_singleton.mp ho
        rw [creation.isOpen, closed]
    · rw [Registry.choice?_choose] at hc
      by_cases hk : key = schema
      · rw [if_pos hk] at hc
        cases hc
        rw [hk]
        exact creation.exact (hb.required_eq_nil schema)
      · rw [if_neg hk] at hc
        exact hwithin.chosen hc
    · rcases List.mem_append.mp ho with ho | ho
      · obtain ⟨key, hc⟩ := hwithin.remembered other ho
        exact ⟨key, creation.grows_after.choices hc⟩
      · obtain rfl := List.mem_singleton.mp ho
        exact ⟨schema, by rw [Registry.choice?_choose, if_pos rfl]⟩

end Synthesis

namespace ClosedSession

theorem exact (h : ClosedSession naming registry) : registry.Exact := by
  induction h with
  | start empty => exact Registry.exact_of_ofKnown_nil empty
  | process proposal schema closed _ ih =>
      exact (exact_steps naming closed).process trivial _ ih
  | resolve proposal column closed _ ih =>
      exact (exact_steps naming closed).resolve (fun _ _ => trivial) _ ih
  | nested closed _ calls ih => exact ((exact_steps naming closed).calls calls trivial).2 ih

theorem Returned.exact (h : Returned naming registry schema marker) : marker.Exact schema := by
  obtain ⟨proposal, before, after, closed, session, hrun, -⟩ := h
  have hafter := (session.process proposal schema closed).exact
  rw [hrun] at hafter
  exact hafter.chosen (choice_of_run hrun)

theorem Returned.choice (h : Returned naming registry schema marker) :
    registry.choice? schema = some marker := by
  obtain ⟨_, _, _, -, -, hrun, hl⟩ := h
  exact hl.grows.choices (choice_of_run hrun)

-- Schemas are told apart by their markers, and markers by their schemas.
theorem Returned.eq_iff (h : Returned naming registry schema marker)
    (h' : Returned naming registry other found) : marker = found ↔ schema = other := by
  constructor
  · rintro rfl
    rw [← h.exact.describes, h'.exact.describes]
  · rintro rfl
    exact Option.some.inj (h.choice.symm.trans h'.choice)

end ClosedSession

theorem closed_exact (session : ClosedSession naming before) (closed : proposal.isOpen = false)
    (returned : (process naming proposal schema).run before = (.ok marker, after)) :
    marker.Exact schema ∧
      (∀ inner start, Calls naming proposal schema before inner start →
        ∃ nested, ClosedSession.Returned naming after inner nested) ∧
      ∀ registry, Leads naming after registry → ∀ other found,
        ClosedSession.Returned naming registry other found → (marker = found ↔ schema = other) := by
  have hreturned : ∀ registry, Leads naming after registry →
      ClosedSession.Returned naming registry schema marker := fun registry hl =>
    ⟨proposal, before, after, closed, session, returned, hl⟩
  refine ⟨(hreturned after .refl).exact, fun inner start hcalls => ?_,
    fun registry hl other found h =>
    (hreturned registry hl).eq_iff h⟩
  obtain ⟨nested, later, hrun⟩ := hcalls.exists_ok returned
  have hl := hcalls.leads
  rw [hrun, returned] at hl
  exact ⟨nested, proposal, start, later, closed, session.nested closed hcalls, hrun, hl⟩

-- A record, and a call for a record and a table of such records around it.
def closedProposal : Proposal :=
  ⟨"Row", false, .implicitPublic⟩

def closedSchema : Schema :=
  .ofList [("first", .group innerRecord false), ("others", .frame innerRecord true false)]

def closedBefore : Registry :=
  ((process ⟨.asWritten, .suffix⟩ closedProposal innerRecord).run ⟨[], [], [], .ofList []⟩).2

def closedAfter : Registry :=
  ((process ⟨.asWritten, .suffix⟩ closedProposal closedSchema).run closedBefore).2

theorem closed_exact_record :
    ∃ marker found,
      (process ⟨.asWritten, .suffix⟩ closedProposal closedSchema).run closedBefore =
        (.ok marker, closedAfter) ∧
      marker.Exact closedSchema ∧
      ClosedSession.Returned ⟨.asWritten, .suffix⟩ closedAfter innerRecord found ∧
      marker ≠ found := by
  have hstart : ClosedSession ⟨.asWritten, .suffix⟩ ⟨[], [], [], .ofList []⟩ := .start rfl
  have hbefore : ClosedSession ⟨.asWritten, .suffix⟩ closedBefore := .process _ _ rfl hstart
  have hfirst : ((process ⟨.asWritten, .suffix⟩ closedProposal innerRecord).run
      ⟨[], [], [], .ofList []⟩).1.isOk = true := by decide +kernel
  have hsecond : ((process ⟨.asWritten, .suffix⟩ closedProposal closedSchema).run
      closedBefore).1.isOk = true := by decide +kernel
  obtain ⟨found, hfound⟩ := exists_ok hfirst
  obtain ⟨marker, hmarker⟩ := exists_ok hsecond
  have hreturned : ClosedSession.Returned ⟨.asWritten, .suffix⟩ closedAfter innerRecord found :=
    ⟨_, _, _, rfl, hstart, hfound, (leads_steps _ _).process trivial closedBefore⟩
  obtain ⟨hexact, -, hiff⟩ := closed_exact hbefore rfl hmarker
  refine ⟨marker, found, hmarker, hexact, hreturned, fun he => ?_⟩
  have hsame : closedSchema = innerRecord := (hiff closedAfter .refl _ _ hreturned).mp he
  exact absurd hsame (by decide +kernel)

end FrameMarkers
