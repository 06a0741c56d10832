import FrameMarkers.Proofs.Schema.Cover
import FrameMarkers.Proofs.Session.Reached

namespace FrameMarkers

open Synthesis

-- The type fits where the other one is declared, markers apart.
def FieldType.narrows : FieldType → FieldType → Bool
  | .value name nullable, .value other otherNullable =>
    (other == ValueType.any || other == name) && (otherNullable || !nullable)
  | .group _ nullable, .group _ otherNullable => otherNullable || !nullable
  | .frame _ nullable, .frame _ otherNullable => otherNullable || !nullable
  | _, _ => false

-- The marker that the first type refers to implements the one that the second refers to.
def Registry.links (registry : Registry) (type other : FieldType) : Bool :=
  match type.marker?, other.marker? with
  | some name, some otherName => (registry.find? name).any fun marker =>
      (registry.find? otherName).any marker.implements
  | _, _ => true

-- The field may be declared in place of the other one.
def Registry.narrows (registry : Registry) (field parent : Field) : Bool :=
  parent.column == field.column && field.type.narrows parent.type &&
    registry.links field.type parent.type

namespace FieldType

theorem narrows_of_sameKind {type : FieldType} {column : Column} {name : String}
    (hk : Field.sameKind type column) (hn : (type.nullable || !column.nullable) = true) :
    (column.typeWith name).narrows type := by
  cases type <;> cases column <;> simp only [Field.sameKind, Bool.false_eq_true] at hk <;> exact hn

theorem narrows_of_covers {column other : Column} (name otherName : String)
    (h : column.covers other) : (other.typeWith otherName).narrows (column.typeWith name) := by
  have hnullable : (column.nullable || !other.nullable) = true := by
    have himp := Column.nullable_of_covers h
    cases ho : other.nullable with
    | false => simp
    | true => simp [himp ho]
  cases column with
  | value type =>
      obtain ⟨type', rfl, ht⟩ := Column.covers_value_iff.mp h
      rw [ValueType.covers, Bool.and_comm] at ht
      exact ht
  | group schema nullable =>
      obtain ⟨schema', nullable', rfl, -, -⟩ := Column.covers_group_iff.mp h
      exact hnullable
  | frame schema nullable elementsNullable =>
      obtain ⟨schema', nullable', elements', rfl, -, -⟩ := Column.covers_frame_iff.mp h
      exact hnullable

theorem narrows_of_accepts {field : Field} {column : Column} {name otherName : String}
    (htype : field.type = field.shape.typeWith name) (h : field.accepts column) :
    (column.typeWith otherName).narrows field.type := by
  rw [Field.accepts] at h
  by_cases hw : field.isWildcard
  · rw [if_pos hw, Bool.and_eq_true] at h
    exact narrows_of_sameKind h.2 h.1
  · rw [if_neg hw] at h
    rw [htype]
    exact narrows_of_covers name otherName h

end FieldType

-- The marker found for the schema is the other one, or the registry in which it was found has a
-- marker that leads to the other one: the marker itself, or one required for the schema.
def Registry.Linked (first : Registry) (schema : Schema) (found other : Marker) : Prop :=
  found.name = other.name ∨ ∃ required ∈ first.markers, (required.name = found.name ∨
    required.isOpen = true ∧ required.accepts schema = true) ∧ required.implements other

variable {naming : Naming} {registry first : Registry} {proposal : Proposal}
  {schema : Schema} {marker other : Marker}

-- Whatever was required for the schema stands above the marker found for it.
theorem FirstMet.extends_required (hr : registry.Sound)
    (h : FirstMet naming registry schema first marker) {required : Marker}
    (hrequired : required ∈ first.required schema) : marker.Extends required := by
  have hm : marker ∈ registry.generated := hr.chosen h.choice
  have hcandidates : ∀ candidate ∈ first.required schema, candidate ∈ registry.generated :=
    fun candidate hc => h.mem_generated (Registry.mem_required.mp hc).1
  rcases h.reused_or_created with ⟨-, himplements⟩ | ⟨_, _, creation⟩
  · exact (hr.family.implements_iff hm (hcandidates required hrequired)).mp
      (himplements required hrequired)
  · exact creation.extends_required hr.family hcandidates hrequired

theorem FirstMet.implements_iff (hr : registry.Sound)
    (h : FirstMet naming registry schema first marker) (ho : other ∈ registry.generated) :
    marker.implements other ↔ first.Linked schema marker other := by
  have hm : marker ∈ registry.generated := hr.chosen h.choice
  constructor
  · intro himplements
    rcases h.reused_or_created with ⟨hmarkers, -⟩ | ⟨_, _, creation⟩
    · exact .inr ⟨marker, hmarkers, .inl rfl, himplements⟩
    · have hextends := (hr.family.implements_iff hm ho).mp himplements
      rcases Relation.ReflTransGen.cases_head hextends with rfl | ⟨upper, hu, hrest⟩
      · exact .inl rfl
      · obtain ⟨hmarkers, haccepts⟩ := creation.of_mem_supers hu
        exact .inr ⟨upper, hmarkers, .inr haccepts,
          (hr.family.implements_iff (h.mem_generated hmarkers) ho).mpr hrest⟩
  · rintro (hname | ⟨required, hmarkers, hname | haccepts, himplements⟩)
    · rw [hr.family.names hm ho hname]
      exact (hr.family.implements_iff ho ho).mpr (.refl other)
    · rwa [hr.family.names (h.mem_generated hmarkers) hm hname] at himplements
    · have hupper : marker.Extends required :=
        h.extends_required hr (Registry.mem_required.mpr ⟨hmarkers, haccepts⟩)
      have hrest := (hr.family.implements_iff (h.mem_generated hmarkers) ho).mp himplements
      exact (hr.family.implements_iff hm ho).mpr (hupper.trans hrest)

theorem Registry.links_iff {type parentType : FieldType} (hr : registry.Sound)
    (hm : marker ∈ registry.generated) (ho : other ∈ registry.generated)
    (htype : type.marker? = some marker.name) (hparent : parentType.marker? = some other.name) :
    registry.links type parentType ↔ marker.implements other := by
  simp [links, htype, hparent, hr.find?_eq hm, hr.find?_eq ho]

theorem Registry.links_of_value {type parentType : FieldType} (h : type.marker? = none) :
    registry.links type parentType := by
  simp [links, h]

theorem Registry.Sound.assigns_of_mem_fields (hr : registry.Sound)
    (hm : marker ∈ registry.generated) {field : Field} (hf : field ∈ marker.fields) :
    registry.Assigns field.shape field.type :=
  hr.of_mem_fields hr.types hm hf

theorem Column.marker?_typeWith_of_value {column : Column} (h : column.nested? = none)
    (name : String) : (column.typeWith name).marker? = none := by
  cases column with
  | value type => rfl
  | group schema nullable => simp [nested?] at h
  | frame schema nullable elementsNullable => simp [nested?] at h

theorem Column.marker?_typeWith_of_nested {column : Column} {nested : Schema}
    (h : column.nested? = some nested) (name : String) :
    (column.typeWith name).marker? = some name := by
  cases column with
  | value type => simp [nested?] at h
  | group schema nullable => rfl
  | frame schema nullable elementsNullable => rfl

theorem Synthesis.Creation.narrows_type (hr : registry.Sound) {before within : Registry}
    (creation : Creation naming proposal schema before marker within)
    (hm : marker ∈ registry.generated) {field parent : Field} (hf : field ∈ marker.ownFields)
    (hp : parent ∈ marker.inheritedFields) (hcolumn : parent.column = field.column) :
    field.type.narrows parent.type := by
  obtain ⟨upper, hu, hpu⟩ := Marker.mem_inheritedFields.mp hp
  obtain ⟨hget, name, htype, -⟩ := creation.of_mem_own hf
  obtain ⟨column, hget', haccepts⟩ := creation.inherited_accepts hp
  rw [hcolumn, hget] at hget'
  cases hget'
  obtain ⟨name', htype', -⟩ := hr.assigns_of_mem_fields (hr.supers marker hm upper hu).1 hpu
  rw [htype]
  exact FieldType.narrows_of_accepts htype' haccepts

theorem FieldType.marker?_isSome_of_narrows {type parentType : FieldType}
    (h : type.narrows parentType) : parentType.marker?.isSome = type.marker?.isSome := by
  cases type <;> cases parentType <;> simp only [narrows, Bool.false_eq_true] at h <;> rfl

-- A field that describes records or tables refers to a marker of the session.
theorem Registry.Sound.exists_marker (hr : registry.Sound) (hm : marker ∈ registry.generated)
    {field : Field} (hf : field ∈ marker.fields) (h : field.type.marker?.isSome) :
    ∃ found ∈ registry.generated, field.type.marker? = some found.name := by
  obtain ⟨name, htype, hchoice⟩ := hr.assigns_of_mem_fields hm hf
  cases hn : field.shape.nested? with
  | none =>
      rw [htype, Column.marker?_typeWith_of_value hn] at h
      contradiction
  | some nested =>
      obtain ⟨found, hc, rfl⟩ := hchoice nested hn
      refine ⟨found, hr.chosen hc, ?_⟩
      rw [htype]
      exact Column.marker?_typeWith_of_nested hn found.name

-- An override has the identifier of the field that it stands for, so it hides a field of another
-- column only where super fields share an identifier.
theorem Synthesis.Creation.exists_overridden {before within : Registry}
    (creation : Creation naming proposal schema before marker within) {field : Field}
    (hf : field ∈ marker.ownFields) (ho : field.overrides = true) :
    ∃ source ∈ marker.inheritedFields, source.column = field.column ∧
      source.identifier = field.identifier := by
  have hsource := exists_overridden_of_run creation.fields hf ho
  rwa [← creation.supers] at hsource

theorem Synthesis.Creation.narrows_iff_links (hr : registry.Sound) {before within : Registry}
    (creation : Creation naming proposal schema before marker within)
    (hm : marker ∈ registry.generated) {field parent : Field} (hf : field ∈ marker.ownFields)
    (hp : parent ∈ marker.inheritedFields) :
    registry.narrows field parent ↔
      parent.column = field.column ∧ registry.links field.type parent.type := by
  have hnarrows : parent.column = field.column → field.type.narrows parent.type :=
    creation.narrows_type hr hm hf hp
  rw [Registry.narrows, Bool.and_eq_true, Bool.and_eq_true, beq_iff_eq]
  exact ⟨fun h => ⟨h.1.1, h.2⟩, fun h => ⟨⟨h.1, hnarrows h.1⟩, h.2⟩⟩

-- The marker of the super field is one of the session, since the field is of a kind that has one.
theorem FirstMet.links_iff {nested : Schema} {found : Marker} (hr : registry.Sound)
    (h : FirstMet naming registry nested first found) (hfound : found ∈ registry.generated)
    {upper : Marker} (hu : upper ∈ registry.generated) {parent : Field} (hp : parent ∈ upper.fields)
    {type : FieldType} (htype : type.marker? = some found.name)
    (hnarrows : type.narrows parent.type) :
    registry.links type parent.type ↔
      ∀ other ∈ registry.generated, parent.type.marker? = some other.name →
        first.Linked nested found other := by
  obtain ⟨other, hother, hparent⟩ : ∃ other ∈ registry.generated,
      parent.type.marker? = some other.name := by
    apply hr.exists_marker hu hp
    rw [FieldType.marker?_isSome_of_narrows hnarrows, htype]
    rfl
  rw [Registry.links_iff hr hfound hother htype hparent, h.implements_iff hr hother]
  constructor
  · intro hlinked another ha hname
    rw [hparent, Option.some.injEq] at hname
    rwa [hr.family.names ha hother hname.symm]
  · exact fun hlinked => hlinked other hother hparent

theorem narrows_iff (hs : Session naming registry) (hm : marker ∈ registry.generated)
    {field : Field} (hf : field ∈ marker.ownFields) (hover : field.overrides = true)
    {upper : Marker} (hu : upper ∈ marker.supers) {parent : Field} (hp : parent ∈ upper.fields)
    (hid : parent.identifier.text = field.identifier.text) :
    (parent.column = field.column ∨ ∃ source ∈ marker.inheritedFields,
        source.identifier.text = parent.identifier.text ∧ source.column ≠ parent.column) ∧
      (field.shape.nested? = none →
        (registry.narrows field parent ↔ parent.column = field.column)) ∧
      ∀ nested, field.shape.nested? = some nested →
        ∃ first found, FirstMet naming registry nested first found ∧
          field.type.marker? = some found.name ∧
          (registry.narrows field parent ↔ parent.column = field.column ∧
            ∀ other ∈ registry.generated, parent.type.marker? = some other.name →
              first.Linked nested found other) := by
  have hreached := hs.reached
  have hr := hreached.sound
  obtain ⟨_, _, before, within, -, creation, -⟩ := hreached.exists_creation hm
  have hpi : parent ∈ marker.inheritedFields := Marker.mem_inheritedFields.mpr ⟨upper, hu, hp⟩
  have hiff := creation.narrows_iff_links hr hm hf hpi
  obtain ⟨name, htype, hchoice⟩ := hr.types marker hm field hf
  refine ⟨?_, fun hn => ?_, fun nested hn => ?_⟩
  · obtain ⟨source, hsource, hcolumn, hident⟩ := creation.exists_overridden hf hover
    by_cases he : parent.column = field.column
    · exact .inl he
    · refine .inr ⟨source, hsource, by rw [hident, hid], ?_⟩
      rw [hcolumn]
      exact fun h => he h.symm
  · rw [hiff]
    have hvalue : registry.links field.type parent.type := by
      apply Registry.links_of_value
      rw [htype]
      exact Column.marker?_typeWith_of_value hn name
    exact ⟨fun h => h.1, fun h => ⟨h, hvalue⟩⟩
  · obtain ⟨found, hfound, rfl⟩ := hchoice nested hn
    obtain ⟨first, hfirst⟩ := hreached.exists_firstMet hfound
    have hfieldMarker : field.type.marker? = some found.name := by
      rw [htype]
      exact Column.marker?_typeWith_of_nested hn found.name
    refine ⟨first, found, hfirst, hfieldMarker, ?_⟩
    rw [hiff]
    refine and_congr_right fun hcolumn => ?_
    exact hfirst.links_iff hr (hr.chosen hfound) (hr.supers marker hm upper hu).1 hp hfieldMarker
      (creation.narrows_type hr hm hf hpi hcolumn)

-- A session that meets records of numbers before the wider records of nullable numbers. A later
-- schema has the narrow records where an earlier one has the wide ones.
def rememberedSession : Registry :=
  let numbers (nullable : Bool) : Column :=
    .group (Schema.ofList [("x", .value ⟨"kotlin.Int", nullable⟩)]) false
  callAll ⟨.asWritten, .suffix⟩ ⟨"Record", true, .implicitPublic⟩
    [.ofList [("x", .value ⟨"kotlin.Int", false⟩)],
      .ofList [("g", numbers true)],
      .ofList [("g", numbers false), ("h", .value ⟨"kotlin.Int", false⟩)]]
    ⟨[], [], [], .ofList []⟩

theorem session_remembered : Session ⟨.asWritten, .suffix⟩ rememberedSession := by
  apply Session.callAll
  exact .start rfl

theorem narrows_iff_remembered :
    ∃ marker ∈ rememberedSession.generated, ∃ field ∈ marker.ownFields,
      ∃ upper ∈ marker.supers, ∃ parent ∈ upper.fields, field.overrides = true ∧
        parent.identifier.text = field.identifier.text ∧
        ∀ nested, field.shape.nested? = some nested →
          ∃ first found, FirstMet ⟨.asWritten, .suffix⟩ rememberedSession nested first found ∧
            field.type.marker? = some found.name ∧
            (rememberedSession.narrows field parent ↔ parent.column = field.column ∧
              ∀ other ∈ rememberedSession.generated, parent.type.marker? = some other.name →
                first.Linked nested found other) := by
  have hoverride : ∃ marker ∈ rememberedSession.generated, ∃ field ∈ marker.ownFields,
      ∃ upper ∈ marker.supers, ∃ parent ∈ upper.fields, field.overrides = true ∧
        parent.identifier.text = field.identifier.text := by
    decide +kernel
  obtain ⟨marker, hm, field, hf, upper, hu, parent, hp, ho, hid⟩ := hoverride
  have hiff := narrows_iff session_remembered hm hf ho hu hp hid
  exact ⟨marker, hm, field, hf, upper, hu, parent, hp, ho, hid, hiff.2.2⟩

theorem not_narrows_remembered :
    ∃ registry, Session ⟨.asWritten, .suffix⟩ registry ∧ ∃ marker ∈ registry.generated,
      ∃ field ∈ marker.ownFields, ∃ upper ∈ marker.supers, ∃ parent ∈ upper.fields,
        field.overrides = true ∧ parent.identifier.text = field.identifier.text ∧
          ¬registry.narrows field parent := by
  refine ⟨rememberedSession, session_remembered, ?_⟩
  decide +kernel

end FrameMarkers
