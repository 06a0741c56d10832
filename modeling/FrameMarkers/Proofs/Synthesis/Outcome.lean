import FrameMarkers.Proofs.Synthesis.Recursion

namespace FrameMarkers.Synthesis

variable {naming : Naming} {proposal : Proposal}

-- The scope in which the fields of a new marker for the schema are named.
def newScope (proposal : Proposal) (schema : Schema) (before : Registry) : Scope :=
  ⟨(before.allocate proposal.name).1,
    distinctBy (·.column) ((Marker.leaves (before.required schema)).flatMap Marker.fields)⟩

-- The run that computes the own fields of a new marker. Its name is taken by then.
def runFields (naming : Naming) (proposal : Proposal) (schema : Schema) (before : Registry) :
    Except Error (List Field) × Registry :=
  (ownFields naming proposal (newScope proposal schema before) schema.entries
    (newScope proposal schema before).identifiers).run (before.allocate proposal.name).2

-- The marker is made for the schema by a call on the registry `before`; `within` is the registry
-- when its fields are known and it is not yet registered.
structure Creation (naming : Naming) (proposal : Proposal) (schema : Schema) (before : Registry)
    (marker : Marker) (within : Registry) : Prop where
  unseen : before.choice? schema = none
  unmet : before.reusable? schema (before.required schema) proposal.isOpen = none
  fields : runFields naming proposal schema before = (.ok marker.ownFields, within)
  name : marker.name = (before.allocate proposal.name).1
  supers : marker.supers = Marker.leaves (before.required schema)
  isOpen : marker.isOpen = proposal.isOpen
  visibility : marker.visibility = proposal.visibility
  valid : marker.validate = .ok ()

-- The results that a call on the registry can have, with the registry it leaves.
inductive Outcome (naming : Naming) (proposal : Proposal) (schema : Schema) (before : Registry) :
    Except Error Marker × Registry → Prop where
  | chosen {marker : Marker} (seen : before.choice? schema = some marker) :
      Outcome naming proposal schema before (.ok marker, before)
  | reused {marker : Marker} (unseen : before.choice? schema = none)
      (met : before.reusable? schema (before.required schema) proposal.isOpen = some marker) :
      Outcome naming proposal schema before (.ok marker, before.choose schema marker)
  | created {marker : Marker} {within : Registry}
      (creation : Creation naming proposal schema before marker within) :
      Outcome naming proposal schema before
        (.ok marker, (within.register marker).choose schema marker)
  | abandoned {result : Except Error (List Field)} {error : Error} {within : Registry}
      (fields : runFields naming proposal schema before = (result, within)) :
      Outcome naming proposal schema before (.error error, within)

theorem run_create (schema : Schema) (before : Registry) :
    (create proposal schema (before.required schema) fun scope =>
        ownFields naming proposal scope schema.entries scope.identifiers).run before =
      match runFields naming proposal schema before with
      | (.error error, within) => (.error error, within)
      | (.ok own, within) =>
        match Marker.make (before.allocate proposal.name).1 own
            (Marker.leaves (before.required schema)) proposal.isOpen proposal.visibility with
        | .error error => (.error error, within)
        | .ok marker => (.ok marker, (within.register marker).choose schema marker) := by
  simp only [create, run_bind, run_modifyGet, run_ofExcept, run_modify, run_pure, runFields,
    newScope]
  rcases (ownFields naming proposal _ schema.entries _).run _ with ⟨error | own, within⟩
  · rfl
  · dsimp only
    cases Marker.make (before.allocate proposal.name).1 own
      (Marker.leaves (before.required schema)) proposal.isOpen proposal.visibility <;> rfl

theorem run_process (schema : Schema) (before : Registry) :
    (process naming proposal schema).run before =
      match before.choice? schema with
      | some marker => (.ok marker, before)
      | none =>
        match before.reusable? schema (before.required schema) proposal.isOpen with
        | some marker => (.ok marker, before.choose schema marker)
        | none =>
          (create proposal schema (before.required schema) fun scope =>
            ownFields naming proposal scope schema.entries scope.identifiers).run before := by
  simp only [process_eq, obtain, run_bind, run_get]
  cases before.choice? schema with
  | some marker => rfl
  | none =>
      dsimp only
      cases before.reusable? schema (before.required schema) proposal.isOpen <;> rfl

theorem Creation.run {schema : Schema} {before within : Registry} {marker : Marker}
    (creation : Creation naming proposal schema before marker within) :
    (process naming proposal schema).run before =
      (.ok marker, (within.register marker).choose schema marker) := by
  have hmake : Marker.make (before.allocate proposal.name).1 marker.ownFields
      (Marker.leaves (before.required schema)) proposal.isOpen proposal.visibility =
        .ok marker := by
    refine Marker.make_eq_ok.mpr ⟨?_, creation.valid⟩
    rw [← creation.name, ← creation.supers, ← creation.isOpen, ← creation.visibility]
    cases marker
    rfl
  rw [run_process, creation.unseen]
  dsimp only
  rw [creation.unmet]
  dsimp only
  rw [run_create, creation.fields]
  dsimp only
  rw [hmake]

theorem process_outcome (naming : Naming) (proposal : Proposal) (schema : Schema)
    (before : Registry) :
    Outcome naming proposal schema before ((process naming proposal schema).run before) := by
  rw [run_process]
  cases hc : before.choice? schema with
  | some marker => exact .chosen hc
  | none =>
      dsimp only
      cases hr : before.reusable? schema (before.required schema) proposal.isOpen with
      | some marker => exact .reused hc hr
      | none =>
          dsimp only
          rw [run_create]
          rcases hf : runFields naming proposal schema before with ⟨error | own, within⟩
          · exact .abandoned hf
          · dsimp only
            cases hm : Marker.make (before.allocate proposal.name).1 own
                (Marker.leaves (before.required schema)) proposal.isOpen proposal.visibility with
            | error error => exact .abandoned hf
            | ok marker =>
                obtain ⟨rfl, hv⟩ := Marker.make_eq_ok.mp hm
                exact .created ⟨hc, hr, hf, rfl, rfl, rfl, rfl, hv⟩

end FrameMarkers.Synthesis
