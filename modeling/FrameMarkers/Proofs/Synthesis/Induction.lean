import FrameMarkers.Proofs.Synthesis.OwnFields

namespace FrameMarkers.Synthesis

variable {naming : Naming} {proposal : Proposal}

theorem run_resolve_of_value {column : Column} (h : column.nested? = none) (registry : Registry) :
    (resolve naming proposal column).run registry = (.ok (column.typeWith ""), registry) := by
  rw [resolve_of_value naming proposal h, run_pure]

theorem run_resolve_of_nested {column : Column} {nested : Schema}
    (h : column.nested? = some nested) (registry : Registry) :
    (resolve naming proposal column).run registry =
      match (process naming proposal nested).run registry with
      | (.ok marker, after) => (.ok (column.typeWith marker.name), after)
      | (.error error, after) => (.error error, after) := by
  rw [resolve_of_nested naming proposal h, run_bind]
  rcases (process naming proposal nested).run registry with ⟨error | marker, after⟩ <;> rfl

theorem run_resolve_registry {column : Column} {nested : Schema}
    (h : column.nested? = some nested) (registry : Registry) :
    ((resolve naming proposal column).run registry).2 =
      ((process naming proposal nested).run registry).2 := by
  rw [run_resolve_of_nested h]
  rcases (process naming proposal nested).run registry with ⟨error | marker, after⟩ <;> rfl

-- The relation holds over every single step that a run can take for a schema in the domain: taking
-- a name, choosing a marker that is there, and making one. The domain contains the nested schemas
-- of its schemas.
structure Steps (naming : Naming) (proposal : Proposal) (domain : Schema → Prop)
    (relation : Registry → Registry → Prop) : Prop where
  nested : ∀ {schema nested : Schema}, domain schema → schema.Nests nested → domain nested
  refl : ∀ registry, relation registry registry
  trans : ∀ {first second third}, relation first second → relation second third →
    relation first third
  allocate : ∀ registry, relation registry (registry.allocate proposal.name).2
  reuse : ∀ {schema : Schema} {before : Registry} {marker : Marker}, domain schema →
    before.choice? schema = none →
    before.reusable? schema (before.required schema) proposal.isOpen = some marker →
    relation before (before.choose schema marker)
  create : ∀ {schema : Schema} {before within : Registry} {marker : Marker}, domain schema →
    Creation naming proposal schema before marker within →
    relation (before.allocate proposal.name).2 within →
    relation before ((within.register marker).choose schema marker)

namespace Steps

variable {domain : Schema → Prop} {relation : Registry → Registry → Prop}

theorem resolve_of_nested (steps : Steps naming proposal domain relation) {column : Column}
    (h : ∀ nested, column.nested? = some nested →
      ∀ registry, relation registry ((process naming proposal nested).run registry).2)
    (registry : Registry) :
    relation registry ((resolve naming proposal column).run registry).2 := by
  cases hn : column.nested? with
  | none =>
      rw [run_resolve_of_value hn]
      exact steps.refl registry
  | some nested =>
      rw [run_resolve_registry hn]
      exact h nested hn registry

-- The registry goes from column to column, through the runs for their nested schemas.
theorem ownFields_of_nested (steps : Steps naming proposal domain relation)
    {columns : List (String × Column)}
    (h : ∀ name column nested, (name, column) ∈ columns → column.nested? = some nested →
      ∀ registry, relation registry ((process naming proposal nested).run registry).2)
    (scope : Scope) (used : NamePool) (registry : Registry) :
    relation registry ((ownFields naming proposal scope columns used).run registry).2 := by
  induction columns generalizing used registry with
  | nil => exact steps.refl registry
  | cons entry rest ih =>
      obtain ⟨name, column⟩ := entry
      have hfirst := steps.resolve_of_nested
        (fun nested hn => h name column nested List.mem_cons_self hn) registry
      have hrest := ih fun name column nested hm => h name column nested (List.mem_cons_of_mem _ hm)
      rw [run_ownFields_cons]
      rcases hr : (resolve naming proposal column).run registry with ⟨error | type, later⟩
      · rw [hr] at hfirst
        exact hfirst
      · rw [hr] at hfirst
        dsimp only
        rcases naming.declare scope name column type used with error | ⟨field?, used'⟩
        · exact hfirst
        · dsimp only
          have hlater := steps.trans hfirst (hrest used' later)
          rcases hf : (ownFields naming proposal scope rest used').run later with
            ⟨error | fields, after⟩ <;>
          · rw [hf] at hlater
            exact hlater

theorem process (steps : Steps naming proposal domain relation) {schema : Schema}
    (hd : domain schema) (registry : Registry) :
    relation registry ((process naming proposal schema).run registry).2 := by
  induction schema using Schema.nesting_induction generalizing registry with
  | step schema ih =>
      have hfields : relation (registry.allocate proposal.name).2
          (runFields naming proposal schema registry).2 := by
        refine steps.ownFields_of_nested (fun name column nested hm hn => ?_) _ _ _
        have hnests : schema.Nests nested := ⟨name, column, hm, hn⟩
        exact ih nested hnests (steps.nested hd hnests)
      have houtcome := process_outcome naming proposal schema registry
      generalize (Synthesis.process naming proposal schema).run registry = outcome at houtcome ⊢
      cases houtcome with
      | chosen _ => exact steps.refl registry
      | reused unseen met => exact steps.reuse hd unseen met
      | created creation =>
          rw [creation.fields] at hfields
          exact steps.create hd creation hfields
      | abandoned fields =>
          rw [fields] at hfields
          exact steps.trans (steps.allocate registry) hfields

theorem resolve (steps : Steps naming proposal domain relation) {column : Column}
    (hd : ∀ nested, column.nested? = some nested → domain nested) (registry : Registry) :
    relation registry ((resolve naming proposal column).run registry).2 :=
  steps.resolve_of_nested (fun nested hn => steps.process (hd nested hn)) registry

theorem ownFields (steps : Steps naming proposal domain relation)
    {columns : List (String × Column)}
    (hd : ∀ name column nested, (name, column) ∈ columns → column.nested? = some nested →
      domain nested)
    (scope : Scope) (used : NamePool) (registry : Registry) :
    relation registry ((ownFields naming proposal scope columns used).run registry).2 :=
  steps.ownFields_of_nested
    (fun name column nested hm hn => steps.process (hd name column nested hm hn))
    scope used registry

-- While the fields of a new marker are computed, only nested schemas are run for.
theorem within (steps : Steps naming proposal domain relation) {schema : Schema}
    {before within : Registry} {marker : Marker}
    (creation : Creation naming proposal schema before marker within)
    (hd : ∀ nested, schema.Nests nested → domain nested) :
    relation (before.allocate proposal.name).2 within := by
  have hfields : relation (before.allocate proposal.name).2
      (runFields naming proposal schema before).2 :=
    steps.ownFields (fun name column nested hm hn => hd nested ⟨name, column, hm, hn⟩) _ _ _
  rw [creation.fields] at hfields
  exact hfields

end Steps

end FrameMarkers.Synthesis
