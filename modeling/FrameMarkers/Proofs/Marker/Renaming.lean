import FrameMarkers.Proofs.Correspondence
import FrameMarkers.Proofs.Marker.Fields
import Mathlib.Logic.Relator

namespace FrameMarkers

open List (Forall₂)

-- Different names stand for different ones, and the wildcard only for itself.
structure Consistent (rename : String → String → Prop) : Prop where
  unique : Relator.BiUnique rename
  wildcard : ∀ {name name'}, rename name name' →
    (name = FieldType.wildcard ↔ name' = FieldType.wildcard)

inductive FieldType.Renamed (rename : String → String → Prop) : FieldType → FieldType → Prop
  | value (name : String) (nullable : Bool) :
      FieldType.Renamed rename (.value name nullable) (.value name nullable)
  | group {marker marker' : String} (h : rename marker marker') (nullable : Bool) :
      FieldType.Renamed rename (.group marker nullable) (.group marker' nullable)
  | frame {marker marker' : String} (h : rename marker marker') (nullable : Bool) :
      FieldType.Renamed rename (.frame marker nullable) (.frame marker' nullable)

structure Field.Renamed (rename : String → String → Prop) (field field' : Field) : Prop where
  identifier : field.identifier = field'.identifier
  column : field.column = field'.column
  type : field.type.Renamed rename field'.type
  overrides : field.overrides = field'.overrides
  shape : field.shape = field'.shape

inductive Marker.Renamed (rename : String → String → Prop) : Marker → Marker → Prop
  | intro {marker marker' : Marker} (name : rename marker.name marker'.name)
      (ownFields : Forall₂ (Field.Renamed rename) marker.ownFields marker'.ownFields)
      (supers : Forall₂ (Marker.Renamed rename) marker.supers marker'.supers)
      (isOpen : marker.isOpen = marker'.isOpen)
      (visibility : marker.visibility = marker'.visibility) :
      Marker.Renamed rename marker marker'

variable {rename rename' : String → String → Prop}

theorem Consistent.beq_eq (consistent : Consistent rename) {first first' second second' : String}
    (h : rename first first') (h' : rename second second') :
    (first == second) = (first' == second') := by
  rw [Bool.eq_iff_iff, beq_iff_eq, beq_iff_eq]
  constructor
  · rintro rfl
    exact consistent.unique.2 h h'
  · rintro rfl
    exact consistent.unique.1 h h'

namespace FieldType.Renamed

variable {type type' other other' : FieldType}

theorem mono (hr : ∀ {name name'}, rename name name' → rename' name name')
    (h : type.Renamed rename type') : type.Renamed rename' type' := by
  cases h with
  | value name nullable => exact .value name nullable
  | group h nullable => exact .group (hr h) nullable
  | frame h nullable => exact .frame (hr h) nullable

theorem nullable_eq (h : type.Renamed rename type') : type.nullable = type'.nullable := by
  cases h <;> rfl

theorem isWildcard_eq (consistent : Consistent rename) (h : type.Renamed rename type') :
    type.isWildcard = type'.isWildcard := by
  cases h with
  | value => rfl
  | group h | frame h =>
      rw [isWildcard, isWildcard, marker?, marker?, Bool.eq_iff_iff, beq_iff_eq, beq_iff_eq,
        Option.some_inj, Option.some_inj]
      exact consistent.wildcard h

theorem sameKind_eq (h : type.Renamed rename type') :
    Field.sameKind type = Field.sameKind type' := by
  funext column
  cases h <;> cases column <;> rfl

theorem eq_iff (consistent : Consistent rename) (h : type.Renamed rename type')
    (h' : other.Renamed rename other') : type = other ↔ type' = other' := by
  cases h <;> cases h'
  case value.value => rfl
  case group.group hname _ _ _ hname' _ =>
    have hiff := Relator.rel_eq consistent.unique hname hname'
    simp [hiff]
  case frame.frame hname _ _ _ hname' _ =>
    have hiff := Relator.rel_eq consistent.unique hname hname'
    simp [hiff]
  all_goals simp

end FieldType.Renamed

namespace Field.Renamed

variable {field field' : Field}

theorem mono (hr : ∀ {name name'}, rename name name' → rename' name name')
    (h : field.Renamed rename field') : field.Renamed rename' field' :=
  ⟨h.identifier, h.column, h.type.mono hr, h.overrides, h.shape⟩

theorem key_eq (h : field.Renamed rename field') : Marker.key field = Marker.key field' :=
  congrArg Identifier.text h.identifier

theorem accepts_eq (consistent : Consistent rename) (h : field.Renamed rename field') :
    field.accepts = field'.accepts := by
  funext column
  rw [accepts, accepts, isWildcard, isWildcard, h.type.isWildcard_eq consistent,
    h.type.nullable_eq, h.type.sameKind_eq, h.shape]

end Field.Renamed

namespace Marker.Renamed

variable {marker marker' other other' : Marker} {markers markers' : List Marker}

theorem name (h : marker.Renamed rename marker') : rename marker.name marker'.name := by
  cases h
  assumption

theorem ownFields (h : marker.Renamed rename marker') :
    Forall₂ (Field.Renamed rename) marker.ownFields marker'.ownFields := by
  cases h
  assumption

theorem supers (h : marker.Renamed rename marker') :
    Forall₂ (Marker.Renamed rename) marker.supers marker'.supers := by
  cases h
  assumption

theorem isOpen (h : marker.Renamed rename marker') : marker.isOpen = marker'.isOpen := by
  cases h
  assumption

theorem visibility (h : marker.Renamed rename marker') :
    marker.visibility = marker'.visibility := by
  cases h
  assumption

theorem mono (hr : ∀ {name name'}, rename name name' → rename' name name')
    (h : marker.Renamed rename marker') : marker.Renamed rename' marker' := by
  induction marker using supers_induction generalizing marker' with
  | step marker ih =>
      have hsupers : Forall₂ (Marker.Renamed rename') marker.supers marker'.supers :=
        forall₂_of_mem h.supers fun upper hu _ hr' => ih upper hu hr'
      exact ⟨hr h.name, h.ownFields.imp fun _ _ hf => hf.mono hr, hsupers, h.isOpen, h.visibility⟩

theorem declaredFields (h : marker.Renamed rename marker') :
    Forall₂ (Field.Renamed rename) marker.declaredFields marker'.declaredFields := by
  induction marker using supers_induction generalizing marker' with
  | step marker ih =>
      have hsupers := forall₂_of_mem h.supers fun upper hu _ hr => ih upper hu hr
      rw [declaredFields_eq, declaredFields_eq]
      exact List.rel_append h.ownFields (List.rel_flatMap hsupers fun _ _ hf => hf)

theorem fields (h : marker.Renamed rename marker') :
    Forall₂ (Field.Renamed rename) marker.fields marker'.fields :=
  distinctBy_forall₂ h.declaredFields fun _ _ hf => hf.key_eq

theorem inheritedFields (h : Forall₂ (Marker.Renamed rename) markers markers') :
    Forall₂ (Field.Renamed rename) (markers.flatMap Marker.fields)
      (markers'.flatMap Marker.fields) :=
  List.rel_flatMap h fun _ _ hm => hm.fields

theorem schema_eq (h : marker.Renamed rename marker') : marker.schema = marker'.schema :=
  congrArg Schema.ofList (map_eq_of_forall₂ h.fields fun _ _ hf => by rw [hf.column, hf.shape])

theorem accepts_eq (consistent : Consistent rename) (h : marker.Renamed rename marker')
    (schema : Schema) : marker.accepts schema = marker'.accepts schema :=
  all_eq_of_forall₂ h.fields fun _ _ hf => by rw [hf.column, hf.accepts_eq consistent]

-- The search goes on in the same way on both sides, since a name was visited on both or on neither.
theorem levels (consistent : Consistent rename) {visited visited' : List String}
    (hv : Forall₂ rename visited visited')
    (h : Forall₂ (Marker.Renamed rename) markers markers') :
    Forall₂ (Marker.Renamed rename) (Marker.levels visited markers)
      (Marker.levels visited' markers') := by
  fun_induction Marker.levels visited markers generalizing visited' markers' with
  | case1 visited =>
      cases h
      rw [Marker.levels]
      exact .nil
  | case2 visited marker queue hmem ih =>
      cases h with
      | cons hfirst hrest =>
          have hmem' := (List.rel_mem consistent.unique hfirst.name hv).mp hmem
          rw [Marker.levels, if_pos hmem']
          exact ih hv hrest
  | case3 visited marker queue hmem ih =>
      cases h with
      | cons hfirst hrest =>
          have hmem' := mt (List.rel_mem consistent.unique hfirst.name hv).mpr hmem
          rw [Marker.levels, if_neg hmem']
          exact .cons hfirst (ih (.cons hfirst.name hv) (List.rel_append hrest hfirst.supers))

theorem implements_eq (consistent : Consistent rename) (h : marker.Renamed rename marker')
    (h' : other.Renamed rename other') : marker.implements other = marker'.implements other' := by
  have hancestors := levels consistent (.cons h.name .nil) h.supers
  unfold implements ancestors
  rw [consistent.beq_eq h.name h'.name]
  exact congrArg _ (any_eq_of_forall₂ hancestors fun _ _ ha => consistent.beq_eq ha.name h'.name)

theorem leaves (consistent : Consistent rename)
    (h : Forall₂ (Marker.Renamed rename) markers markers') :
    Forall₂ (Marker.Renamed rename) (Marker.leaves markers) (Marker.leaves markers') := by
  refine filter_forall₂ h fun marker marker' hm => congrArg (!·) ?_
  refine any_eq_of_forall₂ h fun other other' ho => ?_
  rw [bne, bne, consistent.beq_eq ho.name hm.name, ho.implements_eq consistent hm]

theorem repeatedAbove_eq_none_iff (consistent : Consistent rename) {path path' : List String}
    (hp : Forall₂ rename path path') (h : marker.Renamed rename marker') :
    repeatedAbove path marker = none ↔ repeatedAbove path' marker' = none := by
  induction marker using supers_induction generalizing marker' path path' with
  | step marker ih =>
      have hsupers := forall₂_of_mem h.supers fun upper hu upper' hr =>
        And.intro hr.name (ih upper hu (.cons hr.name hp) hr)
      rw [repeatedAbove_eq, repeatedAbove_eq, repeatedAmong_eq_none_iff, repeatedAmong_eq_none_iff]
      refine forall_mem_iff_of_forall₂ hsupers fun upper upper' ⟨hname, habove⟩ => ?_
      exact and_congr (not_congr (List.rel_mem consistent.unique hname hp)) habove

theorem conflicting?_eq_none_iff (h : marker.Renamed rename marker') :
    marker.conflicting? = none ↔ marker'.conflicting? = none := by
  have hown : marker.ownFields.map key = marker'.ownFields.map key :=
    map_eq_of_forall₂ h.ownFields fun _ _ hf => hf.key_eq
  have hinherited : marker.inheritedFields.map key = marker'.inheritedFields.map key :=
    map_eq_of_forall₂ (inheritedFields h.supers) fun _ _ hf => hf.key_eq
  rw [conflicting?_eq_none, conflicting?_eq_none, hown, hinherited]
  refine and_congr_right fun _ => forall_mem_iff_of_forall₂ h.ownFields fun _ _ hf => ?_
  rw [hf.overrides, hf.key_eq]

theorem validate_iff (consistent : Consistent rename) (h : marker.Renamed rename marker') :
    marker.validate = .ok () ↔ marker'.validate = .ok () := by
  rw [validate_eq_ok, validate_eq_ok, h.conflicting?_eq_none_iff,
    h.repeatedAbove_eq_none_iff consistent (.cons h.name .nil)]

end Marker.Renamed

theorem Marker.make_corresponds {r : Marker → Marker → Prop} {name name' : String}
    {own own' : List Field} {supers supers' : List Marker} {isOpen : Bool} {visibility : Visibility}
    (h : r ⟨name, own, supers, isOpen, visibility⟩ ⟨name', own', supers', isOpen, visibility⟩)
    (hv : validate ⟨name, own, supers, isOpen, visibility⟩ = .ok () ↔
      validate ⟨name', own', supers', isOpen, visibility⟩ = .ok ()) :
    Corresponds r (make name own supers isOpen visibility)
      (make name' own' supers' isOpen visibility) := by
  cases hm : make name own supers isOpen visibility with
  | ok marker =>
      obtain ⟨rfl, hvalid⟩ := make_eq_ok.mp hm
      rw [make_eq_ok.mpr ⟨rfl, hv.mp hvalid⟩]
      exact .ok h
  | error error =>
      cases hm' : make name' own' supers' isOpen visibility with
      | error error' => exact .error
      | ok marker' =>
          obtain ⟨rfl, hvalid⟩ := make_eq_ok.mp hm'
          rw [make_eq_ok.mpr ⟨rfl, hv.mpr hvalid⟩] at hm
          cases hm

end FrameMarkers
