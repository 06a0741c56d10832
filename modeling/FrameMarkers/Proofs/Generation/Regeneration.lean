import FrameMarkers.Proofs.Generation.Parts
import FrameMarkers.Proofs.Generation.Root

namespace FrameMarkers

open Synthesis

variable {naming : Naming} {proposal : Proposal} {schema : Schema} {registry within : Registry}
  {root marker other : Marker}

namespace Synthesis

-- The second run takes the root again when it is the only candidate for its schema.
theorem run_again (hr : Reached naming ((within.register root).choose schema root))
    {before : Registry} (creation : Creation naming proposal schema before root within)
    (hb : before.markers = [])
    (h : ∀ marker ∈ within.generated ++ [root], marker.isOpen = true →
      marker.accepts schema = true → marker.name = root.name) :
    (process naming proposal schema).run (.knowing (within.generated ++ [root])) =
      (.ok root, (Registry.knowing (within.generated ++ [root])).choose schema root) := by
  have hroot : root ∈ within.generated ++ [root] := List.mem_append_right _ List.mem_cons_self
  have hnone := Registry.required_of_no_markers hb schema
  have hsuitable : ((root.isOpen || !proposal.isOpen) &&
      ((Registry.knowing (within.generated ++ [root])).required schema).all root.implements &&
        root.schema == schema) = true := by
    rw [Bool.and_eq_true, Bool.and_eq_true, creation.isOpen, Bool.or_not_self, List.all_eq_true]
    refine ⟨⟨rfl, fun required hrequired => ?_⟩, ?_⟩
    · obtain ⟨hm, hopen, haccepts⟩ := Registry.mem_required.mp hrequired
      exact (Marker.implements_of_no_supers (creation.supers_of_no_required hnone)).mpr
        (h required hm hopen haccepts).symm
    · rw [creation.schema_of_no_required hnone]
      exact beq_self_eq_true schema
  rw [run_process]
  have hunseen : (Registry.knowing (within.generated ++ [root])).choice? schema = none := rfl
  rw [hunseen]
  dsimp only
  cases hreuse : (Registry.knowing (within.generated ++ [root])).reusable? schema
      ((Registry.knowing (within.generated ++ [root])).required schema) proposal.isOpen with
  | none =>
      rw [Registry.reusable?, List.find?_eq_none] at hreuse
      exact absurd hsuitable (hreuse root hroot)
  | some found =>
      have hs := List.find?_some hreuse
      have hm := List.mem_of_find?_eq_some hreuse
      rw [Bool.and_eq_true, beq_iff_eq] at hs
      have hmarkers : within.markers ++ [root] = within.generated ++ [root] := hr.sound.markers_eq
      rw [creation.eq_root_of_schema_eq hb (hmarkers ▸ hm) hs.2]

-- When the second run makes nothing new and returns the root, every candidate is the root.
theorem name_eq_of_run_again (hr : Reached naming ((within.register root).choose schema root))
    {before : Registry} (creation : Creation naming proposal schema before root within)
    (hb : before.markers = []) {found : Marker} {after : Registry}
    (hrun : (process naming proposal schema).run (.knowing (within.generated ++ [root])) =
      (.ok found, after))
    (hnone : after.generated = []) (hname : found.name = root.name)
    (hm : marker ∈ within.generated ++ [root]) (hopen : marker.isOpen = true)
    (haccepts : marker.accepts schema = true) : marker.name = root.name := by
  have houtcome := process_outcome naming proposal schema
    (Registry.knowing (within.generated ++ [root]))
  rw [hrun] at houtcome
  cases houtcome with
  | chosen seen => cases seen
  | reused _ met =>
      obtain ⟨hfound, himplements⟩ := mem_of_reusable? met
      have hroot : root ∈ within.generated ++ [root] :=
        List.mem_append_right _ List.mem_cons_self
      obtain rfl : found = root := hr.sound.family.names hfound hroot hname
      have hrequired :
          marker ∈ (Registry.knowing (within.generated ++ [found])).required schema :=
        Registry.mem_required.mpr ⟨hm, hopen, haccepts⟩
      have hi := himplements marker hrequired
      have hsupers := creation.supers_of_no_required (Registry.required_of_no_markers hb schema)
      exact ((Marker.implements_of_no_supers hsupers).mp hi).symm
  | created _ => simp [Registry.choose, Registry.register] at hnone

end Synthesis

namespace GenerationOptions

variable {options : GenerationOptions}

-- Without known markers, the root is made in a registry without markers, and comes last.
theorem exists_creation_of_synthesize (hk : options.known = []) {markers : List Marker}
    (h : options.synthesize schema = .ok (root, markers)) :
    ∃ before within, before.markers = [] ∧
      Creation options.naming options.proposal schema before root within ∧
      Reached options.naming ((within.register root).choose schema root) ∧
      markers = within.generated ++ [root] := by
  have hempty : Registry.ofKnown options.known = .ok ⟨[], [], [], .ofList []⟩ := by
    rw [hk]
    rfl
  obtain ⟨after, hrun, rfl⟩ := (synthesize_eq_ok_iff hempty).mp h
  have hsession : Session options.naming
      ((process options.naming options.proposal schema).run ⟨[], [], [], .ofList []⟩).2 :=
    .call _ _ (.start rfl)
  have houtcome := process_outcome options.naming options.proposal schema
    ⟨[], [], [], .ofList []⟩
  rw [hrun] at houtcome hsession
  cases houtcome with
  | chosen seen => cases seen
  | reused _ met => cases met
  | created creation => exact ⟨_, _, rfl, creation, hsession.reached, rfl⟩

end GenerationOptions

variable {options : GenerationOptions} {result again : Generated}

-- With nothing to declare, the second run only casts to the root.
theorem generate_again (hk : options.known = []) (h : generate options schema = .ok result)
    (hroot : ∀ marker ∈ result.newMarkers, marker.isOpen = true → marker.accepts schema = true →
      result.code.castTo = [marker.name]) :
    generate { options with known := result.newMarkers } schema =
      .ok ⟨⟨"", result.code.castTo⟩, []⟩ := by
  obtain ⟨hmode, root, markers, blocks, hs, -, rfl⟩ := generate_eq_ok_iff.mp h
  obtain ⟨before, within, hb, creation, hr, rfl⟩ :=
    GenerationOptions.exists_creation_of_synthesize hk hs
  have hrun := run_again hr creation hb fun marker hm hopen haccepts =>
    (List.singleton_inj.mp (hroot marker hm hopen haccepts)).symm
  refine generate_eq_ok_iff.mpr ⟨hmode, root, [], [], ?_, rfl, rfl⟩
  exact (GenerationOptions.synthesize_eq_ok_iff (Registry.ofKnown_generated hr)).mpr
    ⟨_, hrun, rfl⟩

theorem castTo_eq_of_generate_again (hk : options.known = [])
    (h : generate options schema = .ok result)
    (ha : generate { options with known := result.newMarkers } schema = .ok again)
    (hnone : again.newMarkers = []) (hcast : again.code.castTo = result.code.castTo)
    (hm : marker ∈ result.newMarkers) (hopen : marker.isOpen = true)
    (haccepts : marker.accepts schema = true) : result.code.castTo = [marker.name] := by
  obtain ⟨-, root, markers, blocks, hs, -, rfl⟩ := generate_eq_ok_iff.mp h
  obtain ⟨before, within, hb, creation, hr, rfl⟩ :=
    GenerationOptions.exists_creation_of_synthesize hk hs
  obtain ⟨-, found, markers, blocks', hs', -, rfl⟩ := generate_eq_ok_iff.mp ha
  obtain ⟨after, hrun, rfl⟩ :=
    (GenerationOptions.synthesize_eq_ok_iff (Registry.ofKnown_generated hr)).mp hs'
  have hname : found.name = root.name := List.singleton_inj.mp hcast
  have hroot : marker.name = root.name :=
    name_eq_of_run_again hr creation hb hrun hnone hname hm hopen haccepts
  rw [hroot]

theorem regenerates_iff (hk : options.known = []) (h : generate options schema = .ok result) :
    (∃ again, generate { options with known := result.newMarkers } schema = .ok again ∧
        again.newMarkers = [] ∧ again.code.hasDeclarations = false ∧
        again.code.castTo = result.code.castTo) ↔
      ∀ marker ∈ result.newMarkers, marker.isOpen = true → marker.accepts schema = true →
        result.code.castTo = [marker.name] := by
  constructor
  · rintro ⟨again, ha, hnone, -, hcast⟩ marker hm hopen haccepts
    exact castTo_eq_of_generate_again hk h ha hnone hcast hm hopen haccepts
  · intro hroot
    exact ⟨_, generate_again hk h hroot, rfl, rfl, rfl⟩

-- A record with a name, and in it one whose only column has the given name.
def recordWithin (inner : String) : Schema :=
  let text : Column := .value ⟨"kotlin.String", false⟩
  .ofList [("name", text), ("child", .group (Schema.ofList [(inner, text)]) false)]

theorem regenerates_iff_login :
    ∃ result, generate { accessors := false } (recordWithin "login") = .ok result ∧
      ((∃ again, generate { accessors := false, known := result.newMarkers }
          (recordWithin "login") = .ok again ∧ again.newMarkers = [] ∧
          again.code.hasDeclarations = false ∧ again.code.castTo = result.code.castTo) ↔
        ∀ marker ∈ result.newMarkers, marker.isOpen = true →
          marker.accepts (recordWithin "login") = true → result.code.castTo = [marker.name]) := by
  have hok : (generate { accessors := false } (recordWithin "login")).isOk = true := by
    decide +kernel
  cases hg : generate { accessors := false } (recordWithin "login") with
  | error error =>
      rw [hg] at hok
      cases hok
  | ok result => exact ⟨result, rfl, regenerates_iff rfl hg⟩

-- The outer record has the only column of the inner one, so that the marker of the inner one
-- becomes a super marker the second time.
theorem not_regenerates_name :
    ∃ result, generate { accessors := false } (recordWithin "name") = .ok result ∧
      ¬∃ again, generate { accessors := false, known := result.newMarkers }
          (recordWithin "name") = .ok again ∧ again.newMarkers = [] ∧
          again.code.hasDeclarations = false ∧ again.code.castTo = result.code.castTo := by
  have hother : (match generate { accessors := false } (recordWithin "name") with
      | .ok result => result.newMarkers.any fun marker => marker.isOpen &&
          marker.accepts (recordWithin "name") && decide (result.code.castTo ≠ [marker.name])
      | .error _ => false) = true := by
    decide +kernel
  cases hg : generate { accessors := false } (recordWithin "name") with
  | error error =>
      rw [hg] at hother
      cases hother
  | ok result =>
      rw [hg] at hother
      obtain ⟨marker, hm, hmarker⟩ := List.any_eq_true.mp hother
      simp only [Bool.and_eq_true, decide_eq_true_eq] at hmarker
      refine ⟨result, rfl, ?_⟩
      rintro ⟨again, ha, hnone, -, hcast⟩
      exact hmarker.2 (castTo_eq_of_generate_again rfl hg ha hnone hcast hm hmarker.1.1 hmarker.1.2)

end FrameMarkers
