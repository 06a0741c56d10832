import FrameMarkers.Proofs.Declaration.Bindings
import FrameMarkers.Proofs.Generation.Parts
import FrameMarkers.Proofs.Session.Names

namespace FrameMarkers

open Synthesis

namespace GenerationOptions

variable {options other : GenerationOptions} {schema : Schema} {root : Marker}
  {markers : List Marker} {error : Error}

-- The options ask for the same markers. How these are declared may differ.
structure SameMarkers (options other : GenerationOptions) : Prop where
  rootName : options.rootName = other.rootName
  known : options.known = other.known
  normalize : options.normalize = other.normalize
  isOpen : options.isOpen = other.isOpen
  visibility : options.visibility = other.visibility
  onConflict : options.onConflict = other.onConflict

-- Why there are no markers to declare: a known one is not valid, or the call for the schema fails.
def Refuses (options : GenerationOptions) (schema : Schema) (error : Error) : Prop :=
  Registry.ofKnown options.known = .error error ∨
    ∃ registry, Registry.ofKnown options.known = .ok registry ∧
      ((process options.naming options.proposal schema).run registry).1 = .error error

theorem SameMarkers.synthesize_eq (same : options.SameMarkers other) (schema : Schema) :
    options.synthesize schema = other.synthesize schema := by
  obtain ⟨rootName, known, normalize, isOpen, visibility, onConflict⟩ := same
  unfold synthesize
  rw [rootName, known, normalize, isOpen, visibility, onConflict]

theorem synthesize_error_iff :
    options.synthesize schema = .error error ↔ options.Refuses schema error := by
  unfold Refuses
  cases hopened : Registry.ofKnown options.known with
  | error error' => simp [synthesize, hopened, bind, Except.bind]
  | ok registry =>
      rw [GenerationOptions.synthesize_eq hopened]
      cases hrun : ((process options.naming options.proposal schema).run registry).1 <;>
        simp [Except.map, hrun]

-- The synthesized markers are those of a session that makes the one call.
theorem exists_session (h : options.synthesize schema = .ok (root, markers)) :
    ∃ start after, Registry.ofKnown options.known = .ok start ∧
      (process options.naming options.proposal schema).run start = (.ok root, after) ∧
      Proceeds options.naming (· = options.rootName) start after ∧ markers = after.generated := by
  cases hopened : Registry.ofKnown options.known with
  | error error => simp [synthesize, hopened, bind, Except.bind] at h
  | ok start =>
      obtain ⟨after, hrun, rfl⟩ := (synthesize_eq_ok_iff hopened).mp h
      have session : Proceeds options.naming (· = options.rootName) start
          ((process options.naming options.proposal schema).run start).2 :=
        .process options.proposal schema rfl .start
      rw [hrun] at session
      exact ⟨start, after, rfl, hrun, session, rfl⟩

-- The synthesized markers have different names, all made from the one that was proposed.
theorem names_of_synthesize (h : options.synthesize schema = .ok (root, markers)) :
    (markers.map (·.name)).Nodup ∧
      ∀ marker ∈ markers, NamePool.Derived options.rootName marker.name := by
  obtain ⟨start, after, hopened, -, session, rfl⟩ := exists_session h
  refine ⟨(session.tracks hopened).names, fun marker hm => ?_⟩
  obtain ⟨_, rfl, hderived⟩ := session.derived hopened hm
  exact hderived

theorem valid_of_synthesize (h : options.synthesize schema = .ok (root, markers)) :
    ∀ marker ∈ markers, marker.validate = .ok () := by
  obtain ⟨start, after, hopened, -, session, rfl⟩ := exists_session h
  exact fun marker hm => session.valid hopened hm

-- If anything is synthesized, the root marker is, under the name that is free at first.
theorem root_of_synthesize {start : Registry} (hopened : Registry.ofKnown options.known = .ok start)
    (h : options.synthesize schema = .ok (root, markers)) (hne : markers ≠ []) :
    root ∈ markers ∧ root.name = (start.allocate options.rootName).1 := by
  obtain ⟨after, hrun, rfl⟩ := (synthesize_eq_ok_iff hopened).mp h
  have hnone := Registry.generated_of_ofKnown hopened
  have houtcome := process_outcome options.naming options.proposal schema start
  rw [hrun] at houtcome
  cases houtcome with
  | chosen _ => exact absurd hnone hne
  | reused _ _ => exact absurd hnone hne
  | created creation => exact ⟨List.mem_append_right _ List.mem_cons_self, creation.name⟩

theorem exists_blocks (h : options.synthesize schema = .ok (root, markers)) :
    ∃ blocks, options.blocks root.name (Marker.nullableReferences markers) markers .empty =
      .ok blocks :=
  blocks_eq_ok (names_of_synthesize h).1 (names_of_synthesize h).2

end GenerationOptions

variable {options other : GenerationOptions} {schema : Schema} {error : Error}

theorem synthesize_of_generate {result : Generated} (h : generate options schema = .ok result) :
    ∃ root, options.synthesize schema = .ok (root, result.newMarkers) := by
  obtain ⟨-, root, markers, blocks, hs, -, rfl⟩ := generate_eq_ok_iff.mp h
  exact ⟨root, hs⟩

-- What is synthesized can be declared.
theorem exists_generate_ok_iff : (∃ result, generate options schema = .ok result) ↔
    options.mode.supportsSchemas = true ∧ ∃ made, options.synthesize schema = .ok made := by
  constructor
  · rintro ⟨result, h⟩
    obtain ⟨root, hs⟩ := synthesize_of_generate h
    exact ⟨(generate_eq_ok_iff.mp h).1, _, hs⟩
  · rintro ⟨hmode, ⟨root, markers⟩, hs⟩
    obtain ⟨blocks, hblocks⟩ := GenerationOptions.exists_blocks hs
    exact ⟨_, generate_eq_ok_iff.mpr ⟨hmode, root, markers, blocks, hs, hblocks, rfl⟩⟩

theorem generate_eq_error_iff (hm : options.mode.supportsSchemas = true) :
    generate options schema = .error error ↔ options.Refuses schema error := by
  rw [← GenerationOptions.synthesize_error_iff]
  unfold generate
  rw [if_pos hm]
  cases hs : options.synthesize schema with
  | error error' => simp [bind, Except.bind]
  | ok made =>
      obtain ⟨root, markers⟩ := made
      obtain ⟨blocks, hblocks⟩ := GenerationOptions.exists_blocks hs
      simp [bind, Except.bind, pure, Except.pure, hblocks]

theorem generates_alike (same : options.SameMarkers other)
    (hm : options.mode.supportsSchemas = true) (hm' : other.mode.supportsSchemas = true) :
    ((∃ error, options.Refuses schema error ∧ generate options schema = .error error ∧
        generate other schema = .error error) ∨
      ∃ result result', generate options schema = .ok result ∧
        generate other schema = .ok result' ∧ result.newMarkers = result'.newMarkers ∧
        result.code.castTo = result'.code.castTo) ∧
      ∀ root markers, options.synthesize schema = .ok (root, markers) →
        ∃ blocks, options.blocks root.name (Marker.nullableReferences markers) markers .empty =
          .ok blocks := by
  refine ⟨?_, fun _ _ => GenerationOptions.exists_blocks⟩
  cases hs : options.synthesize schema with
  | error error =>
      have hs' := hs
      rw [same.synthesize_eq] at hs'
      have hrefuses := GenerationOptions.synthesize_error_iff.mp hs
      exact .inl ⟨error, hrefuses, (generate_eq_error_iff hm).mpr hrefuses,
        (generate_eq_error_iff hm').mpr (GenerationOptions.synthesize_error_iff.mp hs')⟩
  | ok made =>
      obtain ⟨root, markers⟩ := made
      have hs' := hs
      rw [same.synthesize_eq] at hs'
      obtain ⟨blocks, hblocks⟩ := GenerationOptions.exists_blocks hs
      obtain ⟨blocks', hblocks'⟩ := GenerationOptions.exists_blocks hs'
      exact .inr ⟨_, _, generate_eq_ok_iff.mpr ⟨hm, root, markers, blocks, hs, hblocks, rfl⟩,
        generate_eq_ok_iff.mpr ⟨hm', root, markers, blocks', hs', hblocks', rfl⟩, rfl, rfl⟩

-- Markers that are named like accessors on nullable markers, for a record that may be absent.
def nullableOptions : GenerationOptions :=
  { rootName := "Nullable", nullableAccessors := true }

def nullableSchema : Schema :=
  let number : Column := .value ⟨"kotlin.Int", false⟩
  .ofList [("inner", .group (Schema.ofList [("x", number), ("y", number)]) true)]

theorem generates_alike_nullable :
    ∃ result result', generate nullableOptions nullableSchema = .ok result ∧
      generate { nullableOptions with mode := .none, accessors := false, types := .short }
        nullableSchema = .ok result' ∧
      result.newMarkers = result'.newMarkers ∧ result.code.castTo = result'.code.castTo := by
  have hok : (generate { nullableOptions with mode := .none, accessors := false, types := .short }
      nullableSchema).isOk = true := by decide +kernel
  have hsame : nullableOptions.SameMarkers
      { nullableOptions with mode := .none, accessors := false, types := .short } :=
    ⟨rfl, rfl, rfl, rfl, rfl, rfl⟩
  obtain ⟨⟨error, -, -, herror⟩ | hresults, -⟩ := generates_alike hsame rfl rfl
  · rw [herror] at hok
    cases hok
  · exact hresults

end FrameMarkers
