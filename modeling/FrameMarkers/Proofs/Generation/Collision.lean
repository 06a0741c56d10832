import FrameMarkers.Proofs.Generation.Parts
import FrameMarkers.Proofs.Synthesis.Collision

namespace FrameMarkers

open Synthesis

namespace GenerationOptions

def strict (options : GenerationOptions) : GenerationOptions :=
  { options with onConflict := .fail }

def lenient (options : GenerationOptions) : GenerationOptions :=
  { options with onConflict := .suffix }

-- The call for the schema comes to a column whose identifier is in use.
def Collides (options : GenerationOptions) (schema : Schema) : Prop :=
  ∃ registry, Registry.ofKnown options.known = .ok registry ∧
    Synthesis.Collides options.strict.naming options.proposal schema registry

variable {options : GenerationOptions} {schema : Schema} {made : Marker × List Marker}

theorem synthesize_strict_ok_iff :
    options.strict.synthesize schema = .ok made ↔
      options.lenient.synthesize schema = .ok made ∧ ¬options.Collides schema := by
  obtain ⟨root, markers⟩ := made
  cases hopened : Registry.ofKnown options.known with
  | error error =>
      have hstrict : options.strict.synthesize schema = .error error := by
        simp [synthesize, strict, hopened, bind, Except.bind]
      have hlenient : options.lenient.synthesize schema = .error error := by
        simp [synthesize, lenient, hopened, bind, Except.bind]
      simp [hstrict, hlenient]
  | ok registry =>
      have hcollides : options.Collides schema ↔
          Synthesis.Collides options.strict.naming options.proposal schema registry := by
        simp [Collides, hopened]
      have hstrict : Registry.ofKnown options.strict.known = .ok registry := hopened
      have hlenient : Registry.ofKnown options.lenient.known = .ok registry := hopened
      have hprocess := fun after => @process_strict_ok_iff options.normalize options.proposal schema
        registry after root
      rw [synthesize_eq_ok_iff hstrict, synthesize_eq_ok_iff hlenient, hcollides]
      constructor
      · rintro ⟨after, hrun, rfl⟩
        obtain ⟨hrun', hnot⟩ := (hprocess after).mp hrun
        exact ⟨⟨after, hrun', rfl⟩, hnot⟩
      · rintro ⟨⟨after, hrun, rfl⟩, hnot⟩
        exact ⟨after, (hprocess after).mpr ⟨hrun, hnot⟩, rfl⟩

-- How conflicts are dealt with does not matter for declarations.
theorem blocks_strict (options : GenerationOptions) (root : String) (nullable : List String)
    (markers : List Marker) (table : BindingTable) :
    options.strict.blocks root nullable markers table =
      options.lenient.blocks root nullable markers table := by
  induction markers generalizing table with
  | nil => rfl
  | cons marker rest ih =>
      have haccessors : options.strict.accessors? nullable marker table =
          options.lenient.accessors? nullable marker table := rfl
      have hinterface : options.strict.interface? root marker =
          options.lenient.interface? root marker := rfl
      simp only [blocks, haccessors, hinterface, ih]

end GenerationOptions

variable {options : GenerationOptions} {schema : Schema} {result : Generated}

theorem generate_strict_ok_iff :
    generate options.strict schema = .ok result ↔
      generate options.lenient schema = .ok result ∧ ¬options.Collides schema := by
  simp only [generate_eq_ok_iff, GenerationOptions.synthesize_strict_ok_iff,
    GenerationOptions.blocks_strict]
  constructor
  · rintro ⟨hmode, root, markers, blocks, ⟨hs, hnot⟩, hblocks, rfl⟩
    exact ⟨⟨hmode, root, markers, blocks, hs, hblocks, rfl⟩, hnot⟩
  · rintro ⟨⟨hmode, root, markers, blocks, hs, hblocks, rfl⟩, hnot⟩
    exact ⟨hmode, root, markers, blocks, ⟨hs, hnot⟩, hblocks, rfl⟩

-- A record that may be absent, with the same identifier as a column beside it.
def interfaceOptions : GenerationOptions :=
  { accessors := false }

def textColumn : Column :=
  .value ⟨"kotlin.String", false⟩

def ownedSchema : Schema :=
  .ofList [("full name", textColumn),
    ("owner", .group (Schema.ofList [("full.name", textColumn), ("id", textColumn)]) true)]

theorem generate_strict_ok_iff_owned :
    ∃ result, generate interfaceOptions.strict ownedSchema = .ok result ∧
      generate interfaceOptions.lenient ownedSchema = .ok result ∧
      ¬interfaceOptions.Collides ownedSchema := by
  have hok : (generate interfaceOptions.strict ownedSchema).isOk = true := by decide +kernel
  cases h : generate interfaceOptions.strict ownedSchema with
  | error error =>
      rw [h] at hok
      cases hok
  | ok result =>
      obtain ⟨hlenient, hnot⟩ := generate_strict_ok_iff.mp h
      exact ⟨result, rfl, hlenient, hnot⟩

-- In one marker, only a number keeps them apart.
example :
    let schema := Schema.ofList [("full name", textColumn), ("full.name", textColumn)]
    (generate interfaceOptions.strict schema).isOk = false ∧
      (generate interfaceOptions.lenient schema).isOk = true := by
  decide +kernel

end FrameMarkers
