import FrameMarkers.Proofs.Generation.Rendering
import FrameMarkers.Proofs.Identifier.Renderable

namespace FrameMarkers

open Synthesis

variable {naming : Naming} {proposal : Proposal} {scope : Scope} {schema : Schema}
  {columns : List (String × Column)} {used : NamePool} {known : List Marker}
  {registry start before within after : Registry} {own : List Field} {marker : Marker}
  {field : Field}

-- All that is declared in a marker or above it can be written.
def Marker.Renderable (marker : Marker) : Prop :=
  ∀ field ∈ marker.declaredFields, field.identifier.Renderable

theorem Marker.Renderable.of_mem_fields (h : marker.Renderable) (hf : field ∈ marker.fields) :
    field.identifier.Renderable :=
  h field (mem_of_mem_distinctBy hf)

theorem Marker.Renderable.of_extends {upper : Marker} (h : marker.Renderable)
    (he : marker.Extends upper) : upper.Renderable :=
  fun field hf => h field (declaredFields_subset he hf)

namespace Synthesis

-- An own field was declared for one of the columns.
theorem exists_declare_of_mem_own
    (h : (ownFields naming proposal scope columns used).run registry = (.ok own, after))
    (hf : field ∈ own) :
    ∃ name column type last next, naming.declare scope name column type last =
      .ok (some field, next) := by
  induction columns generalizing used registry own with
  | nil =>
      cases h
      exact absurd hf List.not_mem_nil
  | cons entry rest ih =>
      obtain ⟨name, column⟩ := entry
      obtain ⟨type, later, field?, used', fields, -, hd, hrest, rfl⟩ := ownFields_cons_ok h
      rcases List.mem_append.mp hf with hf | hf
      · obtain rfl : field? = some field := Option.mem_toList.mp hf
        exact ⟨name, column, type, used, used', hd⟩
      · exact ih hrest hf

theorem Creation.renderable (creation : Creation naming proposal schema before marker within)
    (h : ∀ upper ∈ before.markers, upper.Renderable) : marker.Renderable := by
  have hsupers : ∀ upper ∈ marker.supers, upper.Renderable :=
    fun upper hu => h upper (creation.of_mem_supers hu).1
  intro field hf
  rw [Marker.declaredFields_eq] at hf
  rcases List.mem_append.mp hf with hf | hf
  · obtain ⟨_, _, _, _, _, hd⟩ := exists_declare_of_mem_own creation.fields hf
    refine Naming.renderable_of_declare (fun parent hp => ?_) hd
    obtain ⟨upper, hu, hp⟩ := List.mem_flatMap.mp (mem_of_mem_distinctBy hp)
    rw [← creation.supers] at hu
    exact (hsupers upper hu).of_mem_fields hp
  · obtain ⟨upper, hu, hf⟩ := List.mem_flatMap.mp hf
    exact hsupers upper hu field hf

theorem renderable_steps (naming : Naming) (proposal : Proposal) :
    Steps naming proposal (fun _ => True) fun before after =>
      (∀ marker ∈ before.markers, marker.Renderable) →
        ∀ marker ∈ after.markers, marker.Renderable :=
  preserved_steps (fun _ _ => trivial) fun _ creation hb => creation.renderable hb

end Synthesis

theorem Registry.renderable_of_ofKnown (opened : ofKnown known = .ok start)
    (h : ∀ marker ∈ known, marker.Renderable) : ∀ marker ∈ start.markers, marker.Renderable := by
  intro marker hm
  rw [eq_of_ofKnown opened] at hm
  rcases List.mem_append.mp (mem_of_mem_distinctBy hm) with hm | hm
  · exact h marker hm
  · obtain ⟨lower, hl, ha⟩ := List.mem_flatMap.mp hm
    exact (h lower hl).of_extends (Marker.exists_of_mem_ancestors ha)

variable {options : GenerationOptions} {result : Generated}

-- Without known markers there is nothing to ask for.
theorem identifiers_renderable (hknown : ∀ marker ∈ options.known, marker.Renderable)
    (h : generate options schema = .ok result) :
    ∀ marker ∈ result.newMarkers, ∀ field ∈ marker.ownFields, field.identifier.Renderable := by
  obtain ⟨root, hs⟩ := synthesize_of_generate h
  obtain ⟨start, after, opened, -, session, hmarkers⟩ := GenerationOptions.exists_session hs
  have hall : ∀ marker ∈ after.markers, marker.Renderable :=
    session.relation (R := fun before after => (∀ marker ∈ before.markers, marker.Renderable) →
        ∀ marker ∈ after.markers, marker.Renderable) id
      (fun proposal _ => renderable_steps options.naming proposal)
      (Registry.renderable_of_ofKnown opened hknown)
  intro marker hm field hf
  have hmember : marker ∈ after.markers := by
    rw [session.markers_eq opened, ← hmarkers]
    exact List.mem_append_right _ hm
  refine hall marker hmember field ?_
  rw [Marker.declaredFields_eq]
  exact List.mem_append_left _ hf

-- Names that become equal, with and without quotation marks, and a field that two markers declare.
def renderableOptions : GenerationOptions :=
  { normalize := .ofDelimiters ['_'], accessors := false }

def renderableSchema : Schema :=
  let number : Column := .value ⟨"kotlin.Int", false⟩
  .ofList [("first name", number), ("first.name", number), ("max_1", number), ("max1", number),
    ("area", .group (Schema.ofList [("x.y", .value ⟨"kotlin.Any", true⟩)]) false),
    ("point", .group (Schema.ofList [("x.y", number)]) false)]

theorem identifiers_renderable_numbered :
    ∃ result, generate renderableOptions renderableSchema = .ok result ∧
      result.newMarkers.map (·.ownFields.map (·.identifier.declared)) =
        [["`x y`"], ["`x y`"],
          ["area", "`first name`", "`first name1`", "max1", "max11", "point"]] ∧
      ∀ marker ∈ result.newMarkers, ∀ field ∈ marker.ownFields, field.identifier.Renderable := by
  have hdeclared : (generate renderableOptions renderableSchema).toOption.map
      (·.newMarkers.map (·.ownFields.map (·.identifier.declared))) =
        some [["`x y`"], ["`x y`"],
          ["area", "`first name`", "`first name1`", "max1", "max11", "point"]] := by
    decide +kernel
  cases h : generate renderableOptions renderableSchema with
  | error error =>
      rw [h] at hdeclared
      cases hdeclared
  | ok result =>
      rw [h] at hdeclared
      refine ⟨result, rfl, Option.some.inj hdeclared, ?_⟩
      exact identifiers_renderable (fun _ hm => absurd hm List.not_mem_nil) h

end FrameMarkers
