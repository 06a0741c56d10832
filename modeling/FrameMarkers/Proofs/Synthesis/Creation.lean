import FrameMarkers.Proofs.Synthesis.Growth

namespace FrameMarkers

theorem Registry.mem_required {registry : Registry} {schema : Schema} {marker : Marker} :
    marker ∈ registry.required schema ↔
      marker ∈ registry.markers ∧ marker.isOpen = true ∧ marker.accepts schema = true := by
  unfold required
  rw [List.mem_mergeSort, List.mem_filter, Bool.and_eq_true]

theorem Registry.required_eq_filter {registry : Registry} {schema : Schema}
    (h : (registry.markers.filter fun marker => marker.isOpen && marker.accepts schema).Pairwise
      fun first second => second.fields.length ≤ first.fields.length) :
    registry.required schema =
      registry.markers.filter fun marker => marker.isOpen && marker.accepts schema := by
  unfold required
  apply List.mergeSort_of_pairwise
  exact h.imp fun hle => by simpa using hle

-- The type is one for the column, with the marker chosen for the nested schema.
def Registry.Assigns (registry : Registry) (column : Column) (type : FieldType) : Prop :=
  ∃ name, type = column.typeWith name ∧ ∀ nested, column.nested? = some nested →
    ∃ marker, registry.choice? nested = some marker ∧ marker.name = name

theorem Registry.Assigns.mono {before after : Registry} (h : before.Grows after) {column : Column}
    {type : FieldType} (ha : before.Assigns column type) : after.Assigns column type := by
  obtain ⟨name, htype, hchoice⟩ := ha
  refine ⟨name, htype, fun nested hn => ?_⟩
  obtain ⟨marker, hc, hname⟩ := hchoice nested hn
  exact ⟨marker, h.choices hc, hname⟩

namespace Synthesis

variable {naming : Naming} {proposal : Proposal} {schema : Schema}
  {before within : Registry} {marker : Marker}

theorem choice_of_run {registry later : Registry}
    (h : (process naming proposal schema).run registry = (.ok marker, later)) :
    later.choice? schema = some marker := by
  have houtcome := process_outcome naming proposal schema registry
  rw [h] at houtcome
  cases houtcome with
  | chosen seen => exact seen
  | reused _ _ => rw [Registry.choice?_choose, if_pos rfl]
  | created _ => rw [Registry.choice?_choose, if_pos rfl]

theorem assigns_of_run {column : Column} {type : FieldType} {registry later : Registry}
    (h : (resolve naming proposal column).run registry = (.ok type, later)) :
    later.Assigns column type := by
  cases hn : column.nested? with
  | none =>
      rw [run_resolve_of_value hn] at h
      cases h
      exact ⟨"", rfl, by simp [hn]⟩
  | some nested =>
      rw [run_resolve_of_nested hn] at h
      rcases hp : (process naming proposal nested).run registry with ⟨error | found, last⟩
      · rw [hp] at h
        cases h
      · rw [hp] at h
        cases h
        refine ⟨found.name, rfl, fun other ho => ?_⟩
        rw [hn] at ho
        cases ho
        exact ⟨found, choice_of_run hp, rfl⟩

-- Each own field has the type that its column was resolved to at some point of the run.
theorem exists_run_of_mem_own {scope : Scope} {columns : List (String × Column)} {used : NamePool}
    {registry after : Registry} {own : List Field}
    (h : (ownFields naming proposal scope columns used).run registry = (.ok own, after))
    {field : Field} (hf : field ∈ own) :
    ∃ middle later, (resolve naming proposal field.shape).run middle = (.ok field.type, later) ∧
      ∀ {domain : Schema → Prop} {relation : Registry → Registry → Prop},
        Steps naming proposal domain relation →
        (∀ name column nested, (name, column) ∈ columns → column.nested? = some nested →
          domain nested) →
        relation registry middle ∧ relation later after := by
  induction columns generalizing used registry own with
  | nil =>
      cases h
      simp at hf
  | cons entry rest ih =>
      obtain ⟨name, column⟩ := entry
      obtain ⟨type, later, field?, used', fields, hr, hd, hrest, rfl⟩ := ownFields_cons_ok h
      rcases List.mem_append.mp hf with hf | hf
      · obtain rfl : field? = some field := Option.mem_toList.mp hf
        obtain ⟨-, rfl, rfl⟩ := (Scope.declares_of_declare hd).of_some
        refine ⟨registry, later, hr, fun steps hdom => ⟨steps.refl registry, ?_⟩⟩
        have hafter := steps.ownFields
          (fun name column nested hm => hdom name column nested (List.mem_cons_of_mem _ hm))
          scope used' later
        rwa [hrest] at hafter
      · obtain ⟨middle, last, hrun, hrel⟩ := ih hrest hf
        refine ⟨middle, last, hrun, fun {domain relation} steps hdom => ?_⟩
        obtain ⟨hbefore, hlast⟩ := hrel steps
          fun name column nested hm => hdom name column nested (List.mem_cons_of_mem _ hm)
        have hfirst := steps.resolve (hdom name column · List.mem_cons_self) registry
        rw [hr] at hfirst
        exact ⟨steps.trans hfirst hbefore, hlast⟩

-- An override has the column and the identifier of an inherited field.
theorem exists_overridden_of_run {own : List Field}
    (h : runFields naming proposal schema before = (.ok own, within)) {field : Field}
    (hf : field ∈ own) (ho : field.overrides = true) :
    ∃ source ∈ (Marker.leaves (before.required schema)).flatMap Marker.fields,
      source.column = field.column ∧ source.identifier = field.identifier := by
  obtain ⟨types, -, hdecl⟩ := ownFields_ok h
  obtain ⟨source, hs, hid⟩ := (hdecl.of_mem_own hf).2.2.of_overrides ho
  exact ⟨source, mem_of_mem_distinctBy (List.mem_of_find?_eq_some hs),
    by simpa using List.find?_some hs, hid.symm⟩

namespace Creation

theorem of_mem_supers (creation : Creation naming proposal schema before marker within)
    {upper : Marker} (h : upper ∈ marker.supers) :
    upper ∈ before.markers ∧ upper.isOpen = true ∧ upper.accepts schema = true := by
  rw [creation.supers] at h
  exact Registry.mem_required.mp (Marker.mem_of_mem_leaves h)

theorem inherited?_eq (creation : Creation naming proposal schema before marker within)
    (column : String) :
    (newScope proposal schema before).inherited? column =
      marker.inheritedFields.find? (·.column == column) := by
  unfold Marker.inheritedFields
  rw [creation.supers]
  exact find?_distinctBy _ column

theorem declared (creation : Creation naming proposal schema before marker within) :
    ∃ types, (resolveAll naming proposal schema.entries).run (before.allocate proposal.name).2 =
        (.ok types, within) ∧
      (newScope proposal schema before).Declared schema.entries types marker.ownFields :=
  ownFields_ok creation.fields

theorem keys (creation : Creation naming proposal schema before marker within) :
    (marker.ownFields.map Marker.key).Nodup ∧
      ∀ field ∈ marker.ownFields, field.overrides = false →
        Marker.key field ∉ marker.inheritedFields.map Marker.key :=
  Marker.conflicting?_eq_none.mp (Marker.validate_eq_ok.mp creation.valid).2

theorem fields_eq (creation : Creation naming proposal schema before marker within) :
    marker.fields = marker.ownFields ++ marker.keptFields :=
  Marker.fields_eq_append_kept creation.keys.1

-- Everything inherited fits the schema, since each super marker accepts it.
theorem inherited_accepts (creation : Creation naming proposal schema before marker within)
    {field : Field} (h : field ∈ marker.inheritedFields) :
    ∃ column, schema.get? field.column = some column ∧ field.accepts column := by
  obtain ⟨upper, hu, hf⟩ := Marker.mem_inheritedFields.mp h
  exact Marker.accepts_iff.mp (creation.of_mem_supers hu).2.2 field hf

theorem of_mem_own (creation : Creation naming proposal schema before marker within)
    {field : Field} (h : field ∈ marker.ownFields) :
    schema.get? field.column = some field.shape ∧ within.Assigns field.shape field.type := by
  obtain ⟨types, -, hdecl⟩ := creation.declared
  obtain ⟨hm, -, -⟩ := hdecl.of_mem_own h
  obtain ⟨middle, later, hrun, hrel⟩ := exists_run_of_mem_own creation.fields h
  obtain ⟨-, hlater⟩ := hrel (growsFresh_steps naming proposal) fun _ _ _ _ _ => trivial
  exact ⟨(Columns.get?_eq_some_iff schema).mpr hm, (assigns_of_run hrun).mono hlater.toGrows⟩

-- When nothing is required for the schema, the new marker describes exactly the schema.
theorem supers_of_no_required (creation : Creation naming proposal schema before marker within)
    (h : before.required schema = []) : marker.supers = [] := by
  rw [creation.supers, h]
  rfl

theorem own_of_no_required (creation : Creation naming proposal schema before marker within)
    (h : before.required schema = []) :
    marker.ownFields.map (fun field => (field.column, field.shape)) = schema.entries ∧
      ∀ field ∈ marker.ownFields, field.overrides = false := by
  obtain ⟨types, -, hdecl⟩ := creation.declared
  refine hdecl.of_no_inherited ?_
  rw [newScope, h]
  rfl

theorem schema_of_no_required (creation : Creation naming proposal schema before marker within)
    (h : before.required schema = []) : marker.schema = schema := by
  have hinherited : marker.inheritedFields = [] := by
    rw [Marker.inheritedFields, creation.supers_of_no_required h]
    rfl
  have hfields : marker.fields = marker.ownFields := by
    rw [creation.fields_eq, Marker.keptFields, hinherited]
    exact List.append_nil _
  rw [Marker.schema, hfields, (creation.own_of_no_required h).1, Schema.ofList_entries]

-- Whatever was required for the schema stands above the new marker.
theorem extends_required (creation : Creation naming proposal schema before marker within)
    {member : Marker → Prop} (family : Marker.Family member)
    (hc : ∀ candidate ∈ before.required schema, member candidate) {required : Marker}
    (hr : required ∈ before.required schema) : marker.Extends required := by
  obtain ⟨leaf, hl, he⟩ := family.exists_leaf hc hr
  rw [← creation.supers] at hl
  exact (Marker.Extends.of_mem_supers hl).trans he

end Creation

end Synthesis

end FrameMarkers
