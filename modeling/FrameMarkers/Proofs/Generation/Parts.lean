import FrameMarkers.Generation
import FrameMarkers.Proofs.Synthesis.Outcome

namespace FrameMarkers

open Synthesis

namespace GenerationOptions

def naming (options : GenerationOptions) : Naming :=
  ⟨options.normalize, options.onConflict⟩

def proposal (options : GenerationOptions) : Proposal :=
  ⟨options.rootName, options.isOpen, options.visibility⟩

variable {options : GenerationOptions} {schema : Schema} {registry : Registry} {root : Marker}

-- Known markers that can be opened leave the outcome to the call for the schema.
theorem synthesize_eq (h : Registry.ofKnown options.known = .ok registry) :
    options.synthesize schema =
      ((process options.naming options.proposal schema).run registry).1.map fun root =>
        (root, ((process options.naming options.proposal schema).run registry).2.generated) := by
  unfold synthesize naming proposal
  rw [h]
  rfl

theorem synthesize_eq_ok_iff {markers : List Marker}
    (h : Registry.ofKnown options.known = .ok registry) :
    options.synthesize schema = .ok (root, markers) ↔
      ∃ after, (process options.naming options.proposal schema).run registry = (.ok root, after) ∧
        markers = after.generated := by
  rw [synthesize_eq h]
  rcases (process options.naming options.proposal schema).run registry with
    ⟨error | found, after⟩
  · constructor
    · intro he
      cases he
    · rintro ⟨_, he, -⟩
      cases he
  · constructor
    · intro he
      cases he
      exact ⟨after, rfl, rfl⟩
    · rintro ⟨_, he, rfl⟩
      cases he
      rfl

theorem blocks_cons_eq_ok_iff {name : String} {nullable blocks : List String} {marker : Marker}
    {rest : List Marker} {table : BindingTable} :
    options.blocks name nullable (marker :: rest) table = .ok blocks ↔
      ∃ accessors next others, options.accessors? nullable marker table = .ok (accessors, next) ∧
        options.blocks name nullable rest next = .ok others ∧
        blocks = (options.interface? name marker).toList ++ accessors.toList ++ others := by
  rw [GenerationOptions.blocks]
  cases ha : options.accessors? nullable marker table with
  | error error => simp [bind, Except.bind]
  | ok made =>
      obtain ⟨accessors, next⟩ := made
      cases ho : options.blocks name nullable rest next with
      | error error => simp [bind, Except.bind, ho]
      | ok others => simp [bind, Except.bind, pure, Except.pure, ho, eq_comm]

end GenerationOptions

variable {options : GenerationOptions} {schema : Schema} {result : Generated}

theorem generate_eq_ok_iff :
    generate options schema = .ok result ↔ options.mode.supportsSchemas = true ∧
      ∃ root markers blocks, options.synthesize schema = .ok (root, markers) ∧
        options.blocks root.name (Marker.nullableReferences markers) markers .empty = .ok blocks ∧
        result = ⟨⟨"\n\n".intercalate blocks, [root.name]⟩, markers⟩ := by
  unfold generate
  by_cases hmode : options.mode.supportsSchemas
  · rw [if_pos hmode]
    cases hs : options.synthesize schema with
    | error error => simp [bind, Except.bind]
    | ok made =>
        obtain ⟨root, markers⟩ := made
        cases hb : options.blocks root.name (Marker.nullableReferences markers) markers .empty with
        | error error => simp [bind, Except.bind, hb]
        | ok blocks =>
            simp only [bind, Except.bind, pure, Except.pure, hb, Except.ok.injEq, hmode, true_and]
            constructor
            · rintro rfl
              exact ⟨root, markers, blocks, rfl, hb, rfl⟩
            · rintro ⟨_, _, blocks', hmade, hblocks, rfl⟩
              cases hmade
              rw [hb] at hblocks
              cases hblocks
              rfl
  · rw [if_neg hmode]
    simp [hmode]

end FrameMarkers
