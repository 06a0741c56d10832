import FrameMarkers.Proofs.Session.Traced

namespace FrameMarkers

open Synthesis

-- No column inside the column has a blank name.
def Column.Named (column : Column) : Prop :=
  ∀ name ∈ column.allNames, Text.isBlank name.toList = false

-- No column at any depth has a blank name.
def Schema.Named (schema : Schema) : Prop :=
  ∀ name ∈ schema.allNames, Text.isBlank name.toList = false

-- The schemas that have a marker are named, and so are the fields of the markers.
structure Registry.Named (registry : Registry) : Prop where
  chosen : ∀ {schema : Schema} {marker : Marker}, registry.choice? schema = some marker →
    schema.Named
  fields : ∀ marker ∈ registry.generated, ∀ field ∈ marker.ownFields,
    Text.isBlank field.column.toList = false ∧ field.shape.Named

variable {naming : Naming} {proposal : Proposal} {schema : Schema}
  {registry before after : Registry} {marker : Marker}

theorem Reached.named (h : Reached naming registry) (hblank : naming.KeepsBlank) :
    registry.Named := by
  have hbound : ∀ name, registry.Binds name → Text.isBlank name.toList = false := by
    rintro name ⟨marker, hm, field, hf, rfl⟩
    rw [← Naming.isBlank_source hblank]
    exact (h.traced marker hm field hf).visible
  have hchosen {schema : Schema} {marker : Marker} (hc : registry.choice? schema = some marker) :
      schema.Named :=
    fun name hm => hbound name (h.binds_allNames hc name hm)
  refine ⟨hchosen, fun marker hm field hf => ⟨hbound _ ⟨marker, hm, field, hf, rfl⟩, ?_⟩⟩
  intro name hname
  obtain ⟨nested, hnested, hname⟩ := Column.exists_nested_of_mem_allNames hname
  obtain ⟨_, -, hchoice⟩ := h.sound.types marker hm field hf
  obtain ⟨chosen, hc, -⟩ := hchoice nested hnested
  exact hchosen hc name hname

theorem Reached.named_of_run (h : Reached naming before) (hblank : naming.KeepsBlank)
    (hrun : (process naming proposal schema).run before = (.ok marker, after)) :
    schema.Named := by
  have hafter : Reached naming ((process naming proposal schema).run before).2 :=
    (reached_steps naming proposal).process trivial before h
  rw [hrun] at hafter
  exact (hafter.named hblank).chosen (choice_of_run hrun)

end FrameMarkers
