import FrameMarkers.Proofs.Generation.Rendering
import FrameMarkers.Proofs.Generation.Root
import FrameMarkers.Proofs.Synthesis.Renaming

namespace FrameMarkers

open List (Forall₂)
open NamePool Synthesis

variable {options : GenerationOptions} {first second : String} {schema : Schema}

-- The registry of a session without known markers.
def Registry.initial : Registry :=
  ⟨[], [], [], .ofList []⟩

theorem Registry.renamed_initial (first second : String) :
    (Registry.initial.allocate first).2.Renamed first second
      (Registry.initial.allocate second).2 where
  markers := .nil
  generated := .nil
  chosen _ := .none
  names := ⟨.cons (.inl ⟨rfl, rfl⟩) .nil, List.mem_cons_self⟩

theorem Registry.required_initial (schema : Schema) : Registry.initial.required schema = [] :=
  required_of_no_markers rfl schema

-- Nothing can be reused or extended, so that a marker of the proposed name is made.
theorem Synthesis.run_process_initial (naming : Naming) (proposal : Proposal) (schema : Schema) :
    (process naming proposal schema).run .initial =
      match runFields naming proposal schema .initial with
      | (.error error, within) => (.error error, within)
      | (.ok own, within) =>
        match Marker.make proposal.name own [] proposal.isOpen proposal.visibility with
        | .error error => (.error error, within)
        | .ok marker => (.ok marker, (within.register marker).choose schema marker) := by
  have hunseen : Registry.initial.choice? schema = none := rfl
  have hunmet : Registry.initial.reusable? schema (Registry.initial.required schema)
      proposal.isOpen = none := rfl
  have hname : (Registry.initial.allocate proposal.name).1 = proposal.name := rfl
  rw [run_process, hunseen]
  dsimp only
  rw [hunmet]
  dsimp only
  rw [run_create, Registry.required_initial, hname]
  rfl

-- The root marker extends nothing, so that nothing is above it under any name.
theorem Synthesis.process_initial_corresponds (naming : Naming) (isOpen : Bool)
    (visibility : Visibility) (first second : String) (schema : Schema) :
    Corresponds (fun made made' : Marker × List Marker =>
        Forall₂ (Marker.Renamed (Renames first second)) made.2 made'.2)
      (((process naming ⟨first, isOpen, visibility⟩ schema).run .initial).1.map fun root =>
        (root, ((process naming ⟨first, isOpen, visibility⟩ schema).run .initial).2.generated))
      (((process naming ⟨second, isOpen, visibility⟩ schema).run .initial).1.map fun root =>
        (root,
          ((process naming ⟨second, isOpen, visibility⟩ schema).run .initial).2.generated)) := by
  have hrequired : Forall₂ (Marker.Renamed (Numbered first second))
      (Registry.initial.required schema) (Registry.initial.required schema) := by
    rw [Registry.required_initial]
    exact .nil
  have hfields := runFields_follows
    (fun nested _ => process_alike naming isOpen visibility first second nested) hrequired
    (Registry.renamed_initial first second)
  rw [run_process_initial, run_process_initial]
  generalize runFields naming ⟨first, isOpen, visibility⟩ schema .initial = outcome at hfields ⊢
  generalize runFields naming ⟨second, isOpen, visibility⟩ schema .initial = outcome' at hfields ⊢
  cases hfields with
  | error => exact .error
  | @ok own own' within within' hown hwithin =>
      have hown' : Forall₂ (Field.Renamed (Renames first second)) own own' :=
        hown.imp fun _ _ hf => hf.mono .inr
      have hroot : Marker.Renamed (Renames first second) ⟨first, own, [], isOpen, visibility⟩
          ⟨second, own', [], isOpen, visibility⟩ := ⟨.inl ⟨rfl, rfl⟩, hown', .nil, rfl, rfl⟩
      have hvalid : Marker.validate ⟨first, own, [], isOpen, visibility⟩ = .ok () ↔
          Marker.validate ⟨second, own', [], isOpen, visibility⟩ = .ok () := by
        rw [Marker.validate_eq_ok, Marker.validate_eq_ok, hroot.conflicting?_eq_none_iff]
        rfl
      have hgenerated : Forall₂ (Marker.Renamed (Renames first second)) within.generated
          within'.generated := hwithin.generated.imp fun _ _ hm => hm.mono .inr
      have hmake := Marker.make_corresponds hroot hvalid
      dsimp only
      generalize Marker.make first own [] isOpen visibility = made at hmake ⊢
      generalize Marker.make second own' [] isOpen visibility = made' at hmake ⊢
      cases hmake with
      | error => exact .error
      | ok hm => exact .ok (List.rel_append hgenerated (.cons hm .nil))

namespace GenerationOptions

theorem synthesize_corresponds (hk : options.known = []) (other : String) (schema : Schema) :
    Corresponds (fun made made' : Marker × List Marker =>
        Forall₂ (Marker.Renamed (Renames options.rootName other)) made.2 made'.2)
      (options.synthesize schema)
      ({ options with rootName := other : GenerationOptions }.synthesize schema) := by
  have hopened : Registry.ofKnown options.known = .ok .initial := by
    rw [hk]
    rfl
  have hother : { options with rootName := other : GenerationOptions }.synthesize schema =
      ((process options.naming ⟨other, options.isOpen, options.visibility⟩ schema).run
        .initial).1.map fun root => (root, ((process options.naming
          ⟨other, options.isOpen, options.visibility⟩ schema).run .initial).2.generated) :=
    synthesize_eq hopened
  rw [synthesize_eq hopened, hother]
  exact process_initial_corresponds options.naming options.isOpen options.visibility
    options.rootName other schema

end GenerationOptions

theorem generates_renamed (hk : options.known = []) (other : String) (schema : Schema) :
    ((∃ result, generate options schema = .ok result) ↔
        ∃ result, generate { options with rootName := other } schema = .ok result) ∧
      ∀ result result', generate options schema = .ok result →
        generate { options with rootName := other } schema = .ok result' →
          Forall₂ (Marker.Renamed (Renames options.rootName other)) result.newMarkers
            result'.newMarkers := by
  have hcorresponds := GenerationOptions.synthesize_corresponds hk other schema
  constructor
  · rw [exists_generate_ok_iff, exists_generate_ok_iff]
    refine and_congr_right fun _ => ?_
    generalize options.synthesize schema = made at hcorresponds ⊢
    generalize { options with rootName := other : GenerationOptions }.synthesize schema = made'
      at hcorresponds ⊢
    cases hcorresponds with
    | ok => exact iff_of_true ⟨_, rfl⟩ ⟨_, rfl⟩
    | error => exact iff_of_false (fun ⟨_, he⟩ => nomatch he) fun ⟨_, he⟩ => nomatch he
  · intro result result' h h'
    obtain ⟨root, hs⟩ := synthesize_of_generate h
    obtain ⟨root', hs'⟩ := synthesize_of_generate h'
    rw [hs, hs'] at hcorresponds
    cases hcorresponds with
    | ok hmarkers => exact hmarkers

-- A record and a table that has a column more.
def nestedSchema : Schema :=
  let text : Column := .value ⟨"kotlin.String", false⟩
  .ofList [("one", .group (Schema.ofList [("x", text)]) false),
    ("two", .frame (Schema.ofList [("x", text), ("y", text)]) false false)]

def nestedOptions (rootName : String) : GenerationOptions :=
  { rootName, accessors := false }

-- One of the names stands for any marker where a field refers to it, which none does. The other one
-- looks like one with a number.
theorem generates_renamed_wildcard :
    ∃ result result', generate (nestedOptions "*") nestedSchema = .ok result ∧
      generate (nestedOptions "Row1") nestedSchema = .ok result' ∧
      Forall₂ (Marker.Renamed (Renames "*" "Row1")) result.newMarkers result'.newMarkers ∧
      result.newMarkers.map (·.name) = ["*1", "*2", "*"] ∧
      result'.newMarkers.map (·.name) = ["Row11", "Row12", "Row1"] := by
  have hnames : (generate (nestedOptions "*") nestedSchema).map (·.newMarkers.map (·.name)) =
      .ok ["*1", "*2", "*"] := by decide +kernel
  have hnames' : (generate (nestedOptions "Row1") nestedSchema).map (·.newMarkers.map (·.name)) =
      .ok ["Row11", "Row12", "Row1"] := by decide +kernel
  cases h : generate (nestedOptions "*") nestedSchema with
  | error error =>
      rw [h] at hnames
      cases hnames
  | ok result =>
      cases h' : generate (nestedOptions "Row1") nestedSchema with
      | error error =>
          rw [h'] at hnames'
          cases hnames'
      | ok result' =>
          rw [h] at hnames
          rw [h'] at hnames'
          have hknown : (nestedOptions "*").known = [] := rfl
          have hrenamed := (generates_renamed hknown "Row1" nestedSchema).2 result result' h h'
          exact ⟨result, result', rfl, rfl, hrenamed, Except.ok.inj hnames, Except.ok.inj hnames'⟩

end FrameMarkers
