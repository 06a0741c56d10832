import FrameMarkers.Marker.Validity
import FrameMarkers.Proofs.Distinct
import FrameMarkers.Proofs.Marker.Inheritance

namespace FrameMarkers.Marker

-- The text by which a field is told apart from others of its marker.
abbrev key (field : Field) : String :=
  field.identifier.text

-- The visible fields of the super markers, one super marker after the other.
def inheritedFields (marker : Marker) : List Field :=
  marker.supers.flatMap fields

-- The inherited fields that stay visible: those whose identifier is not taken by an own field or
-- by an inherited field before them.
def keptFields (marker : Marker) : List Field :=
  (distinctBy key marker.inheritedFields).filter fun field => key field ∉ marker.ownFields.map key

theorem declaredFieldsOf_eq (markers : List Marker) :
    declaredFieldsOf markers = markers.flatMap declaredFields := by
  induction markers with
  | nil => rfl
  | cons marker rest ih => simp [declaredFieldsOf, ih]

theorem declaredFields_eq (marker : Marker) :
    marker.declaredFields = marker.ownFields ++ marker.supers.flatMap declaredFields := by
  cases marker
  rw [declaredFields, declaredFieldsOf_eq]

theorem fields_eq (marker : Marker) :
    marker.fields = distinctBy key (marker.ownFields ++ marker.inheritedFields) := by
  unfold inheritedFields
  rw [fields, declaredFields_eq]
  exact (distinctBy_flatMap declaredFields marker.ownFields marker.supers).symm

theorem fields_eq_append_kept {marker : Marker} (h : (marker.ownFields.map key).Nodup) :
    marker.fields = marker.ownFields ++ marker.keptFields := by
  rw [fields_eq, distinctBy_append, distinctBy_eq_self h, keptFields]

theorem mem_own_or_inherited {marker : Marker} {field : Field} (h : field ∈ marker.fields) :
    field ∈ marker.ownFields ∨ ∃ upper ∈ marker.supers, field ∈ upper.fields := by
  rw [fields_eq] at h
  rcases List.mem_append.mp (mem_of_mem_distinctBy h) with ho | hi
  · exact .inl ho
  · exact .inr (List.mem_flatMap.mp hi)

theorem mem_inheritedFields {marker : Marker} {field : Field} :
    field ∈ marker.inheritedFields ↔ ∃ upper ∈ marker.supers, field ∈ upper.fields :=
  List.mem_flatMap

theorem mem_inheritedFields_of_mem_kept {marker : Marker} {field : Field}
    (h : field ∈ marker.keptFields) : field ∈ marker.inheritedFields :=
  mem_of_mem_distinctBy (List.mem_filter.mp h).1

-- Every declared field is an own field of a marker somewhere above.
theorem exists_own_of_mem_declared (marker : Marker) {field : Field}
    (h : field ∈ marker.declaredFields) :
    ∃ upper, marker.Extends upper ∧ field ∈ upper.ownFields := by
  induction marker using supers_induction with
  | step marker ih =>
      rw [declaredFields_eq] at h
      rcases List.mem_append.mp h with ho | hd
      · exact ⟨marker, .refl marker, ho⟩
      · obtain ⟨parent, hp, hf⟩ := List.mem_flatMap.mp hd
        obtain ⟨upper, he, ho⟩ := ih parent hp hf
        exact ⟨upper, (Extends.of_mem_supers hp).trans he, ho⟩

theorem declaredFields_subset {marker upper : Marker} (h : marker.Extends upper) :
    upper.declaredFields ⊆ marker.declaredFields := by
  induction h with
  | refl => exact List.Subset.refl _
  | @tail middle upper _ hs ih =>
      intro field hf
      refine ih ?_
      rw [declaredFields_eq]
      exact List.mem_append_right _ (List.mem_flatMap.mpr ⟨upper, hs, hf⟩)

theorem mem_declaredFields_iff {marker : Marker} {field : Field} :
    field ∈ marker.declaredFields ↔ ∃ upper, marker.Extends upper ∧ field ∈ upper.ownFields := by
  constructor
  · exact exists_own_of_mem_declared marker
  · rintro ⟨upper, he, ho⟩
    refine declaredFields_subset he ?_
    rw [declaredFields_eq]
    exact List.mem_append_left _ ho

-- Fields may be hidden, identifiers are not lost.
theorem key_mem_fields {marker : Marker} {text : String} :
    text ∈ marker.fields.map key ↔
      ∃ upper, marker.Extends upper ∧ text ∈ upper.ownFields.map key := by
  rw [fields, key_mem_distinctBy, List.mem_map]
  simp only [mem_declaredFields_iff, List.mem_map]
  constructor
  · rintro ⟨field, ⟨upper, he, ho⟩, hk⟩
    exact ⟨upper, he, field, ho, hk⟩
  · rintro ⟨upper, he, field, ho, hk⟩
    exact ⟨field, ⟨upper, he, ho⟩, hk⟩

theorem exists_own_of_mem_fields {marker : Marker} {field : Field} (h : field ∈ marker.fields) :
    ∃ upper, marker.Extends upper ∧ field ∈ upper.ownFields :=
  exists_own_of_mem_declared marker (mem_of_mem_distinctBy h)

theorem accepts_iff {marker : Marker} {schema : Schema} :
    marker.accepts schema ↔ ∀ field ∈ marker.fields,
      ∃ column, schema.get? field.column = some column ∧ field.accepts column := by
  simp [accepts, List.all_eq_true, Option.any_eq_true]

theorem conflicting?_eq_none {marker : Marker} :
    marker.conflicting? = none ↔
      (marker.ownFields.map key).Nodup ∧ ∀ field ∈ marker.ownFields, field.overrides = false →
        key field ∉ marker.inheritedFields.map key := by
  have hr : firstRepeated key [] marker.ownFields = none ↔ (marker.ownFields.map key).Nodup := by
    simp [firstRepeated_eq_none]
  rw [← hr, conflicting?]
  cases hf : firstRepeated key [] marker.ownFields with
  | some field => simp
  | none =>
      simp only [true_and, List.find?_eq_none, Bool.and_eq_true, Bool.not_eq_true', not_and,
        List.contains_iff_mem]
      rfl

theorem validate_eq_ok {marker : Marker} :
    marker.validate = .ok () ↔
      repeatedAbove [marker.name] marker = none ∧ marker.conflicting? = none := by
  unfold validate
  cases repeatedAbove [marker.name] marker with
  | some name => simp
  | none => cases marker.conflicting? <;> simp

theorem make_eq_ok {name : String} {ownFields : List Field} {supers : List Marker} {isOpen : Bool}
    {visibility : Visibility} {marker : Marker} :
    make name ownFields supers isOpen visibility = .ok marker ↔
      marker = ⟨name, ownFields, supers, isOpen, visibility⟩ ∧ marker.validate = .ok () := by
  cases hv : validate ⟨name, ownFields, supers, isOpen, visibility⟩ with
  | error error =>
      simp only [make, hv, bind, Except.bind, reduceCtorEq, false_iff, not_and]
      rintro rfl
      simp [hv]
  | ok =>
      simp only [make, hv, bind, Except.bind, pure, Except.pure, Except.ok.injEq]
      constructor
      · rintro rfl
        exact ⟨rfl, hv⟩
      · exact fun h => h.1.symm

end FrameMarkers.Marker
