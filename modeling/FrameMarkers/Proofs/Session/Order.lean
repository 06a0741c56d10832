import FrameMarkers.Proofs.Session.Overrides
import FrameMarkers.Proofs.Session.Required

namespace FrameMarkers

open Synthesis

namespace Marker

-- What the marker's own declaration refers to is among the markers.
structure Grounded (markers : List Marker) (marker : Marker) : Prop where
  supers : ∀ upper ∈ marker.supers, upper ∈ markers
  fields : ∀ field ∈ marker.ownFields, ∀ name, field.type.marker? = some name →
    ∃ other ∈ markers, other.name = name

-- The markers can be declared one after the other when the first ones are declared.
inductive Ordered (first : List Marker) : List Marker → Prop
  | nil : Ordered first []
  | concat {markers : List Marker} {marker : Marker} (earlier : Ordered first markers)
      (grounded : Grounded (first ++ markers) marker) : Ordered first (markers ++ [marker])

theorem Ordered.grounded {first markers earlier later : List Marker} {marker : Marker}
    (h : Ordered first markers) (he : markers = earlier ++ marker :: later) :
    Grounded (first ++ earlier) marker := by
  induction h generalizing later with
  | nil => simp at he
  | concat _ grounded ih =>
      rcases List.eq_nil_or_concat later with rfl | ⟨rest, last, rfl⟩
      · obtain ⟨rfl, hlast⟩ := List.append_inj' he rfl
        rwa [List.singleton_inj.mp hlast] at grounded
      · rw [List.concat_eq_append, ← List.cons_append, ← List.append_assoc] at he
        exact ih (List.append_inj' he rfl).1

end Marker

variable {naming : Naming} {proposable : String → Prop} {known first : List Marker}
  {start registry before within : Registry} {proposal : Proposal} {schema : Schema}
  {marker : Marker}

-- A choice is one of the markers. These are the first ones, and then the synthesized ones in the
-- order of their declarations.
structure Registry.InOrder (first : List Marker) (registry : Registry) : Prop where
  chosen : ∀ {schema : Schema} {marker : Marker}, registry.choice? schema = some marker →
    marker ∈ registry.markers
  markers_eq : registry.markers = first ++ registry.generated
  ordered : Marker.Ordered first registry.generated

theorem Registry.inOrder_of_ofKnown (opened : ofKnown known = .ok start) :
    start.InOrder start.markers := by
  rw [eq_of_ofKnown opened]
  exact ⟨fun hc => (nomatch hc), (List.append_nil _).symm, .nil⟩

theorem FieldType.marker?_of_assigns {column : Column} {type : FieldType} {name : String}
    (h : registry.Assigns column type) (hname : type.marker? = some name) :
    ∃ nested marker, registry.choice? nested = some marker ∧ marker.name = name := by
  obtain ⟨given, rfl, hchoice⟩ := h
  cases hn : column.nested? with
  | none =>
      rw [Column.marker?_typeWith_of_value hn] at hname
      contradiction
  | some nested =>
      rw [Column.marker?_typeWith_of_nested hn, Option.some_inj] at hname
      subst hname
      exact ⟨nested, hchoice nested hn⟩

-- A new marker refers to what was there before its fields were computed, and to what was chosen
-- while they were.
theorem Synthesis.Creation.grounded
    (creation : Creation naming proposal schema before marker within) (h : within.InOrder first) :
    marker.Grounded within.markers where
  supers _ hu := creation.grows.markers_subset (creation.of_mem_supers hu).1
  fields _ hf _ hname := by
    obtain ⟨nested, other, hchoice, hother⟩ :=
      FieldType.marker?_of_assigns (creation.of_mem_own hf).2 hname
    exact ⟨other, h.chosen hchoice, hother⟩

theorem Synthesis.inOrder_steps (naming : Naming) (proposal : Proposal) (first : List Marker) :
    Steps naming proposal (fun _ => True) fun before after =>
      before.InOrder first → after.InOrder first where
  nested _ _ := trivial
  refl _ := id
  trans h h' := h' ∘ h
  allocate _ h := ⟨h.chosen, h.markers_eq, h.ordered⟩
  reuse {schema before marker} _ _ met h := by
    refine ⟨fun {key chosen} hc => ?_, h.markers_eq, h.ordered⟩
    rw [Registry.choice?_choose] at hc
    split at hc
    · cases hc
      exact (mem_of_reusable? met).1
    · exact h.chosen hc
  create {schema before within marker} _ creation hw hb := by
    have hwithin : within.InOrder first := hw ⟨hb.chosen, hb.markers_eq, hb.ordered⟩
    have hgrounded := creation.grounded hwithin
    rw [hwithin.markers_eq] at hgrounded
    refine ⟨fun {key chosen} hc => ?_, ?_, .concat hwithin.ordered hgrounded⟩
    · rw [Registry.choice?_choose] at hc
      split at hc
      · cases hc
        exact List.mem_append_right _ List.mem_cons_self
      · exact List.mem_append_left _ (hwithin.chosen hc)
    · calc within.markers ++ [marker] = first ++ within.generated ++ [marker] := by
            rw [hwithin.markers_eq]
        _ = first ++ (within.generated ++ [marker]) := List.append_assoc _ _ _

theorem Proceeds.inOrder (opened : Registry.ofKnown known = .ok start)
    (h : Proceeds naming proposable start registry) : registry.InOrder start.markers :=
  h.relation (R := fun before after =>
      before.InOrder start.markers → after.InOrder start.markers) id
    (fun proposal _ => inOrder_steps naming proposal start.markers)
    (Registry.inOrder_of_ofKnown opened)

theorem declared_in_order (opened : Registry.ofKnown known = .ok start)
    (session : Proceeds naming proposable start registry) :
    registry.markers = start.markers ++ registry.generated ∧
      ∀ earlier marker later, registry.generated = earlier ++ marker :: later →
        (∀ upper ∈ marker.supers, upper ∈ start.markers ++ earlier) ∧
        ∀ field ∈ marker.ownFields, ∀ name, field.type.marker? = some name →
          ∃ other ∈ start.markers ++ earlier, other.name = name := by
  have horder := session.inOrder opened
  refine ⟨horder.markers_eq, fun earlier marker later he => ?_⟩
  have hgrounded := horder.ordered.grounded he
  exact ⟨hgrounded.supers, hgrounded.fields⟩

-- A record with the column of a known marker, and in it another one with that column.
def groundedSchema : Schema :=
  let number : Column := .value ⟨"kotlin.Int", false⟩
  .ofList [("a", number), ("inner", .group (Schema.ofList [("a", number), ("b", number)]) false)]

def groundedStart : Registry :=
  ⟨[layeredBase], [], [], .ofList ["Base"]⟩

def groundedSession : Registry :=
  ((process ⟨.asWritten, .suffix⟩ ⟨"DataType", true, .implicitPublic⟩ groundedSchema).run
    groundedStart).2

theorem ofKnown_grounded : Registry.ofKnown [layeredBase] = .ok groundedStart := by
  simp [Registry.ofKnown, layeredBase, Marker.ancestors, Marker.levels, distinctBy]
  rfl

-- The outer marker comes last. It extends the known one and has a field of the inner one.
theorem declared_in_order_grounded :
    ∃ inner outer, groundedSession.markers = [layeredBase, inner, outer] ∧
      outer.supers.map (·.name) = ["Base"] ∧
      outer.ownFields.map (·.type.marker?) = [some "DataType1"] ∧
      (∀ upper ∈ outer.supers, upper ∈ [layeredBase, inner]) ∧
      ∀ field ∈ outer.ownFields, ∀ name, field.type.marker? = some name →
        ∃ other ∈ [layeredBase, inner], other.name = name := by
  have hsession : Proceeds ⟨.asWritten, .suffix⟩ (· = "DataType") groundedStart groundedSession :=
    .process _ _ rfl .start
  have hgenerated : groundedSession.generated.map (fun marker =>
      (marker.supers.map (·.name), marker.ownFields.map (·.type.marker?))) =
      [(["Base"], [none]), (["Base"], [some "DataType1"])] := by
    decide +kernel
  obtain ⟨inner, rest, hall, -, hrest⟩ := List.map_eq_cons_iff.mp hgenerated
  obtain ⟨outer, last, rfl, houter, hlast⟩ := List.map_eq_cons_iff.mp hrest
  obtain rfl := List.map_eq_nil_iff.mp hlast
  obtain ⟨hmarkers, horder⟩ := declared_in_order ofKnown_grounded hsession
  rw [hall] at hmarkers
  obtain ⟨hsupers, htypes⟩ := Prod.mk.inj houter
  exact ⟨inner, outer, hmarkers, hsupers, htypes, horder [inner] outer [] hall⟩

end FrameMarkers
