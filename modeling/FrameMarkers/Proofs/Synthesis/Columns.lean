import FrameMarkers.Proofs.Synthesis.Creation

namespace FrameMarkers

namespace Marker

-- The column is bound by a field of the type.
def Binds (marker : Marker) (column : String) (type : FieldType) : Prop :=
  ∃ field, marker.field? column = some field ∧ field.type = type

-- The marker binds the columns of those names with those types, and no others.
def Describes (marker : Marker) (types : List (String × FieldType)) : Prop :=
  (∀ column, (∃ field ∈ marker.fields, field.column = column) ↔ column ∈ types.map Prod.fst) ∧
    ∀ column type, (column, type) ∈ types → marker.Binds column type

-- When the column is left to an inherited field of the type, such a field is visible.
def Keeps (marker : Marker) (column : String) (type : FieldType) : Prop :=
  ∀ parent, marker.inheritedFields.find? (·.column == column) = some parent → parent.type = type →
    ∃ kept, marker.keptFields.find? (·.column == column) = some kept ∧ kept.type = type

end Marker

namespace Synthesis

variable {naming : Naming} {proposal : Proposal} {schema : Schema}
  {before within after : Registry} {marker : Marker}

namespace Creation

theorem column_mem_names (creation : Creation naming proposal schema before marker within)
    {field : Field} (h : field ∈ marker.fields) : field.column ∈ schema.names := by
  have hget : ∃ column, schema.get? field.column = some column := by
    rw [creation.fields_eq] at h
    rcases List.mem_append.mp h with ho | hk
    · exact ⟨_, (creation.of_mem_own ho).1⟩
    · obtain ⟨column, hc, -⟩ :=
        creation.inherited_accepts (Marker.mem_inheritedFields_of_mem_kept hk)
      exact ⟨column, hc⟩
  obtain ⟨column, hc⟩ := hget
  exact Columns.mem_names.mpr ⟨column, (Columns.get?_eq_some_iff schema).mp hc⟩

variable {types : List (String × FieldType)}

theorem binds_iff (creation : Creation naming proposal schema before marker within)
    (hdecl : (newScope proposal schema before).Declared schema.entries types marker.ownFields)
    {column : String} {type : FieldType} (ht : (column, type) ∈ types) :
    marker.Binds column type ↔ marker.Keeps column type := by
  unfold Marker.Binds Marker.Keeps
  rw [Marker.field?, creation.fields_eq, List.find?_append]
  have hown := hdecl.find?_own (Columns.names_nodup schema) ht
  simp only [creation.inherited?_eq] at hown
  rcases hown with ⟨hnone, parent, hp, hs⟩ | ⟨⟨field, hf, hs⟩, hdiffer⟩
  · rw [hnone, Option.none_or]
    constructor
    · exact fun h _ _ _ => h
    · exact fun h => h parent hp hs
  · rw [hf, Option.some_or]
    constructor
    · exact fun _ parent hp hs => absurd hs (hdiffer parent hp)
    · exact fun _ => ⟨field, rfl, hs⟩

-- The first inherited field of a column stays visible when its identifier stands for that column in
-- all super markers: no own field takes the identifier then, as the column is not declared again.
theorem keeps_of_unclashed (creation : Creation naming proposal schema before marker within)
    (hdecl : (newScope proposal schema before).Declared schema.entries types marker.ownFields)
    {column : String} {type : FieldType} (ht : (column, type) ∈ types)
    (hk : ∀ first ∈ marker.inheritedFields, ∀ second ∈ marker.inheritedFields,
      first.column = column → Marker.key first = Marker.key second → second.column = column) :
    marker.Keeps column type := by
  intro parent hp hs
  have hcolumn : parent.column = column := by simpa using List.find?_some hp
  have hmem := List.mem_of_find?_eq_some hp
  have hfirst : (distinctBy Marker.key marker.inheritedFields).find? (·.column == column) =
      some parent := by
    apply find?_distinctBy_of_key hp
    intro other ho he
    simpa using hk parent hmem other ho hcolumn he.symm
  refine ⟨parent, find?_filter_of_find? hfirst ?_, hs⟩
  rw [decide_eq_true_iff]
  intro htaken
  obtain ⟨own, ho, he⟩ := List.mem_map.mp htaken
  obtain ⟨-, -, hd⟩ := hdecl.of_mem_own ho
  cases hover : own.overrides with
  | false => exact creation.keys.2 own ho hover (he ▸ List.mem_map_of_mem hmem)
  | true =>
      obtain ⟨source, hsource, hid⟩ := hd.of_overrides hover
      rw [creation.inherited?_eq] at hsource
      have hsame : source.column = column := by
        apply hk parent hmem source (List.mem_of_find?_eq_some hsource) hcolumn
        rw [← he, Marker.key, hid]
      have howncolumn : own.column = column := by
        have hs := List.find?_some hsource
        rw [← hsame]
        exact (beq_iff_eq.mp hs).symm
      -- The column was left to its inherited field, so it has no own field.
      rcases hdecl.find?_own (Columns.names_nodup schema) ht with ⟨hnone, -⟩ | ⟨-, hdiffer⟩
      · exact absurd howncolumn (by simpa using List.find?_eq_none.mp hnone own ho)
      · exact hdiffer parent (by rw [creation.inherited?_eq]; exact hp) hs

end Creation

theorem describes_iff (h : Makes naming proposal schema before marker after) :
    ∃ types within, (resolveAll naming proposal schema.entries).run
        (before.allocate proposal.name).2 = (.ok types, within) ∧
      after = (within.register marker).choose schema marker ∧
      types.map Prod.fst = schema.names ∧
      (marker.Describes types ↔
        ∀ column type, (column, type) ∈ types → marker.Keeps column type) ∧
      ∀ column type, (column, type) ∈ types → marker.Binds column type ∨
        ∃ first ∈ marker.inheritedFields, ∃ second ∈ marker.inheritedFields,
          first.column = column ∧ second.column ≠ column ∧
            Marker.key first = Marker.key second := by
  obtain ⟨within, creation, rfl⟩ := makes_iff.mp h
  obtain ⟨types, hrun, hdecl⟩ := creation.declared
  refine ⟨types, within, hrun, rfl, hdecl.names, ⟨?_, ?_⟩, fun column type ht => ?_⟩
  · exact fun hb column type ht => (creation.binds_iff hdecl ht).mp (hb.2 column type ht)
  · intro hkeeps
    have hbinds : ∀ column type, (column, type) ∈ types → marker.Binds column type :=
      fun column type ht => (creation.binds_iff hdecl ht).mpr (hkeeps column type ht)
    refine ⟨fun column => ⟨?_, ?_⟩, hbinds⟩
    · rintro ⟨field, hf, rfl⟩
      rw [hdecl.names]
      exact creation.column_mem_names hf
    · intro hm
      obtain ⟨⟨name, type⟩, ht, rfl⟩ := List.mem_map.mp hm
      obtain ⟨field, hf, -⟩ := hbinds name type ht
      exact ⟨field, List.mem_of_find?_eq_some hf, by simpa using List.find?_some hf⟩
  · by_contra hnot
    push Not at hnot
    refine hnot.1 ((creation.binds_iff hdecl ht).mpr (creation.keeps_of_unclashed hdecl ht ?_))
    intro first hf second hs hc he
    by_contra hne
    exact hnot.2 first hf second hs hc hne he

-- Two known markers that use one identifier for columns of different names.
def clashingKnown : List Marker :=
  let field (column : String) : Field := ⟨⟨"firstName", false⟩, column,
    .value "kotlin.Int" false, false, .value ⟨"kotlin.Int", false⟩⟩
  [⟨"Spaced", [field "first name"], [], true, .implicitPublic⟩,
    ⟨"Underscored", [field "first_name"], [], true, .implicitPublic⟩]

def clashingSchema : Schema :=
  let number : Column := .value ⟨"kotlin.Int", false⟩
  .ofList [("first name", number), ("first_name", number)]

def clashingSession : Registry :=
  ⟨clashingKnown, [], [], .ofList ["Spaced", "Underscored"]⟩

-- The marker made for both columns. It inherits both fields, and one hides the other.
def clashingMarker : Marker :=
  ⟨"DataType", [], clashingKnown, true, .implicitPublic⟩

theorem ofKnown_clashing : Registry.ofKnown clashingKnown = .ok clashingSession := by
  simp [Registry.ofKnown, clashingKnown, Marker.ancestors, Marker.levels, distinctBy]
  rfl

theorem required_clashing : clashingSession.required clashingSchema = clashingKnown := by
  have hfilter : (clashingSession.markers.filter fun marker =>
      marker.isOpen && marker.accepts clashingSchema) = clashingKnown := by
    rfl
  rw [Registry.required_eq_filter, hfilter]
  rw [hfilter]
  simp only [clashingKnown]
  decide

theorem leaves_clashing : Marker.leaves clashingKnown = clashingKnown := by
  simp [Marker.leaves, clashingKnown, Marker.implements, Marker.ancestors, Marker.levels]

theorem makes_clashing :
    Makes ⟨.asWritten, .suffix⟩ ⟨"DataType", true, .implicitPublic⟩ clashingSchema clashingSession
      clashingMarker
      (((clashingSession.allocate "DataType").2.register clashingMarker).choose clashingSchema
        clashingMarker) := by
  refine makes_iff.mpr ⟨_, ?_, rfl⟩
  exact {
    unseen := rfl
    unmet := by
      rw [required_clashing, ← Option.isNone_iff_eq_none]
      decide +kernel
    fields := by
      rw [runFields, newScope, required_clashing, leaves_clashing]
      rfl
    name := rfl
    supers := by rw [required_clashing, leaves_clashing]; rfl
    isOpen := rfl
    visibility := rfl
    valid := rfl }

theorem describes_iff_clashing :
    ∃ after, Makes ⟨.asWritten, .suffix⟩ ⟨"DataType", true, .implicitPublic⟩ clashingSchema
        clashingSession clashingMarker after ∧
      ∃ types : List (String × FieldType), types.map Prod.fst = clashingSchema.names ∧
        (clashingMarker.Describes types ↔
          ∀ column type, (column, type) ∈ types → clashingMarker.Keeps column type) := by
  obtain ⟨types, _, _, _, hnames, hiff, _⟩ := describes_iff makes_clashing
  exact ⟨_, makes_clashing, types, hnames, hiff⟩

theorem not_describes_clashing :
    ∃ before marker after types within, Registry.ofKnown clashingKnown = .ok before ∧
      Makes ⟨.asWritten, .suffix⟩ ⟨"DataType", true, .implicitPublic⟩ clashingSchema before marker
        after ∧
      (resolveAll ⟨.asWritten, .suffix⟩ ⟨"DataType", true, .implicitPublic⟩
        clashingSchema.entries).run (before.allocate "DataType").2 = (.ok types, within) ∧
      after = (within.register marker).choose clashingSchema marker ∧ ¬marker.Describes types := by
  refine ⟨_, _, _, _, _, ofKnown_clashing, makes_clashing, rfl, rfl, ?_⟩
  intro hdescribes
  obtain ⟨field, hf, -⟩ := hdescribes.2 "first_name" (.value "kotlin.Int" false) (by decide +kernel)
  have hnone : clashingMarker.field? "first_name" = none := by rfl
  rw [hnone] at hf
  contradiction

end Synthesis

end FrameMarkers
