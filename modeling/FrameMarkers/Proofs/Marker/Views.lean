import FrameMarkers.Proofs.Marker.Fields
import FrameMarkers.Proofs.Schema.Entries

namespace FrameMarkers.Marker

variable {marker : Marker} {column : String} {field first last : Field}

-- The first visible field that binds the column.
def BindsFirst (marker : Marker) (column : String) (field : Field) : Prop :=
  ∃ earlier later, marker.fields = earlier ++ field :: later ∧ field.column = column ∧
    ∀ other ∈ earlier, other.column ≠ column

-- The last visible field that binds the column.
def BindsLast (marker : Marker) (column : String) (field : Field) : Prop :=
  ∃ earlier later, marker.fields = earlier ++ field :: later ∧ field.column = column ∧
    ∀ other ∈ later, other.column ≠ column

theorem find?_column_eq_some_iff {fields : List Field} :
    fields.find? (·.column == column) = some field ↔ ∃ earlier later,
      fields = earlier ++ field :: later ∧ field.column = column ∧
        ∀ other ∈ earlier, other.column ≠ column := by
  rw [List.find?_eq_some_iff_append, beq_iff_eq]
  simp only [Bool.not_eq_true', beq_eq_false_iff_ne]
  constructor
  · rintro ⟨hc, earlier, later, he, hother⟩
    exact ⟨earlier, later, he, hc, hother⟩
  · rintro ⟨earlier, later, he, hc, hother⟩
    exact ⟨hc, earlier, later, he, hother⟩

theorem field?_eq_some_iff : marker.field? column = some field ↔ marker.BindsFirst column field :=
  find?_column_eq_some_iff

-- Building the schema replaces the shape of a column whenever it comes again.
theorem schema_get? (marker : Marker) (column : String) :
    marker.schema.get? column =
      (marker.fields.reverse.find? (·.column == column)).map Field.shape := by
  rw [schema, Schema.get?_ofList, ← List.map_reverse, List.find?_map, Option.map_map]
  rfl

theorem reverse_find?_eq_some_iff :
    marker.fields.reverse.find? (·.column == column) = some field ↔
      marker.BindsLast column field := by
  rw [find?_column_eq_some_iff]
  constructor
  · rintro ⟨later, earlier, he, hc, hother⟩
    refine ⟨earlier.reverse, later.reverse, ?_, hc, by simpa using hother⟩
    simpa using congrArg List.reverse he
  · rintro ⟨earlier, later, he, hc, hother⟩
    exact ⟨later.reverse, earlier.reverse, by simp [he], hc, by simpa using hother⟩

theorem isSome_views (marker : Marker) (column : String) :
    (marker.fields.reverse.find? (·.column == column)).isSome = (marker.field? column).isSome := by
  rw [Bool.eq_iff_iff, field?, List.find?_isSome, List.find?_isSome]
  simp only [List.mem_reverse]

theorem BindsFirst.mem (h : marker.BindsFirst column field) :
    field ∈ marker.fields ∧ field.column = column := by
  obtain ⟨earlier, later, he, hc, -⟩ := h
  exact ⟨he ▸ List.mem_append_right _ List.mem_cons_self, hc⟩

theorem BindsLast.mem (h : marker.BindsLast column field) :
    field ∈ marker.fields ∧ field.column = column := by
  obtain ⟨earlier, later, he, hc, -⟩ := h
  exact ⟨he ▸ List.mem_append_right _ List.mem_cons_self, hc⟩

-- Visible fields have different identifiers.
theorem eq_of_mem_fields (hf : first ∈ marker.fields) (hl : last ∈ marker.fields)
    (h : key first = key last) : first = last :=
  List.inj_on_of_nodup_map (nodup_distinctBy key marker.declaredFields) hf hl h

-- Either no field binds the column, or both views find one.
theorem views_cases (marker : Marker) (column : String) :
    (marker.field? column = none ∧ marker.schema.get? column = none) ∨
      ∃ first last, marker.BindsFirst column first ∧ marker.BindsLast column last ∧
        marker.field? column = some first ∧ marker.schema.get? column = some last.shape := by
  rw [schema_get?]
  have hsome := isSome_views marker column
  cases hf : marker.field? column with
  | none =>
      rw [hf, Option.isSome_none, Option.isSome_eq_false_iff, Option.isNone_iff_eq_none] at hsome
      exact .inl ⟨rfl, by rw [hsome, Option.map_none]⟩
  | some first =>
      rw [hf, Option.isSome_some, Option.isSome_iff_exists] at hsome
      obtain ⟨last, hl⟩ := hsome
      exact .inr ⟨first, last, field?_eq_some_iff.mp hf, reverse_find?_eq_some_iff.mp hl, rfl,
        by rw [hl, Option.map_some]⟩

theorem BindsFirst.unique (h : marker.BindsFirst column first)
    (h' : marker.BindsFirst column field) : first = field :=
  Option.some.inj ((field?_eq_some_iff.mpr h).symm.trans (field?_eq_some_iff.mpr h'))

theorem BindsLast.unique (h : marker.BindsLast column last)
    (h' : marker.BindsLast column field) : last = field :=
  Option.some.inj
    ((reverse_find?_eq_some_iff.mpr h).symm.trans (reverse_find?_eq_some_iff.mpr h'))

theorem views_agree_iff (marker : Marker) (column : String) :
    ((marker.schema.get? column).isSome = (marker.field? column).isSome) ∧
    (marker.schema.get? column = (marker.field? column).map Field.shape ↔
      ∀ first last, marker.BindsFirst column first → marker.BindsLast column last →
        first.shape = last.shape) ∧
    (marker.schema.get? column ≠ (marker.field? column).map Field.shape →
      ∃ first ∈ marker.declaredFields, ∃ last ∈ marker.declaredFields,
        first.column = column ∧ last.column = column ∧
          first.identifier.text ≠ last.identifier.text ∧ first.shape ≠ last.shape) := by
  rcases views_cases marker column with ⟨hf, hs⟩ | ⟨first, last, hfirst, hlast, hf, hs⟩
  · rw [hf, hs]
    refine ⟨rfl, ⟨fun _ first _ hfirst => ?_, fun _ => rfl⟩, fun h => absurd rfl h⟩
    have hnone := field?_eq_some_iff.mpr hfirst
    rw [hf] at hnone
    contradiction
  · rw [hf, hs, Option.map_some]
    refine ⟨rfl, ⟨fun h other other' ho ho' => ?_, fun h => ?_⟩, fun h => ?_⟩
    · rw [← hfirst.unique ho, ← hlast.unique ho']
      exact (Option.some.inj h).symm
    · exact congrArg some (h first last hfirst hlast).symm
    · have hshape : first.shape ≠ last.shape := fun he => h (congrArg some he.symm)
      obtain ⟨hf, hfc⟩ := hfirst.mem
      obtain ⟨hl, hlc⟩ := hlast.mem
      refine ⟨first, mem_of_mem_distinctBy hf, last, mem_of_mem_distinctBy hl, hfc, hlc, ?_, hshape⟩
      exact fun he => hshape (congrArg Field.shape (eq_of_mem_fields hf hl he))

-- The column of a super marker under another identifier and with a narrower type.
def keyed : Marker :=
  ⟨"Keyed", [{ Field.value "id" ⟨ValueType.any, false⟩ with identifier := .ofName "key" }], [],
    true,
    .implicitPublic⟩

def rebound : Marker :=
  ⟨"Rebound", [.value "id" ⟨"kotlin.Int", false⟩], [keyed], true, .implicitPublic⟩

theorem validate_rebound (marker : Marker) (h : rebound.Extends marker) :
    marker.validate = .ok () := by
  rcases Relation.ReflTransGen.cases_head h with rfl | ⟨upper, hu, hrest⟩
  · decide +kernel
  · obtain rfl := List.mem_singleton.mp hu
    rcases Relation.ReflTransGen.cases_head hrest with rfl | ⟨_, hnone, -⟩
    · decide +kernel
    · exact absurd hnone List.not_mem_nil

theorem views_rebound :
    rebound.schema.get? "id" = some (.value ⟨ValueType.any, false⟩) ∧
      (rebound.field? "id").map Field.shape = some (.value ⟨"kotlin.Int", false⟩) := by
  decide +kernel

theorem views_agree_iff_rebound :
    rebound.schema.get? "id" ≠ (rebound.field? "id").map Field.shape ∧
      (∃ first last, rebound.BindsFirst "id" first ∧ rebound.BindsLast "id" last ∧
        first.shape ≠ last.shape) ∧
      ∃ first ∈ rebound.declaredFields, ∃ last ∈ rebound.declaredFields,
        first.column = "id" ∧ last.column = "id" ∧
          first.identifier.text ≠ last.identifier.text ∧ first.shape ≠ last.shape := by
  have hdiffer : rebound.schema.get? "id" ≠ (rebound.field? "id").map Field.shape := by
    rw [views_rebound.1, views_rebound.2]
    decide
  obtain ⟨-, hiff, hdeclared⟩ := views_agree_iff rebound "id"
  have hbinds := mt hiff.mpr hdiffer
  simp only [not_forall, exists_prop] at hbinds
  exact ⟨hdiffer, hbinds, hdeclared hdiffer⟩

-- All of its markers are valid.
theorem not_views_agree_rebound :
    (∀ marker, rebound.Extends marker → marker.validate = .ok ()) ∧
      ¬∀ column, rebound.schema.get? column = (rebound.field? column).map Field.shape := by
  refine ⟨validate_rebound, fun h => ?_⟩
  have hid := h "id"
  rw [views_rebound.1, views_rebound.2] at hid
  exact absurd hid (by decide)

end FrameMarkers.Marker
