import FrameMarkers.Proofs.Synthesis.Creation

namespace FrameMarkers

-- Every field describes a column of lesser height.
def Marker.Below (height : Nat) (marker : Marker) : Prop :=
  0 < height ∧ ∀ field ∈ marker.fields, field.shape.height < height

theorem Marker.exists_shape_of_mem_schema {marker : Marker} {name : String} {column : Column}
    (h : (name, column) ∈ marker.schema.entries) :
    ∃ field ∈ marker.fields, field.column = name ∧ field.shape = column := by
  have hget := (Columns.get?_eq_some_iff marker.schema).mpr h
  rw [schema, Schema.get?_ofList, Option.map_eq_some_iff] at hget
  obtain ⟨⟨name', column'⟩, hf, rfl⟩ := hget
  have hname : name' = name := by simpa using List.find?_some hf
  obtain ⟨field, hm, he⟩ := List.mem_map.mp (List.mem_reverse.mp (List.mem_of_find?_eq_some hf))
  cases he
  exact ⟨field, hm, hname, rfl⟩

theorem Marker.Below.height_lt {height : Nat} {marker : Marker} (h : marker.Below height) :
    marker.schema.height < height := by
  by_cases hz : marker.schema.height = 0
  · rw [hz]
    exact h.1
  · obtain ⟨name, column, hm, he⟩ :=
      Columns.exists_mem_height marker.schema (Nat.pos_of_ne_zero hz)
    obtain ⟨field, hf, -, rfl⟩ := exists_shape_of_mem_schema hm
    rw [← he]
    exact h.2 field hf

namespace Synthesis

variable {naming : Naming} {proposal : Proposal} {schema : Schema}
  {before within : Registry} {marker : Marker}

-- Own fields describe columns of the schema. Inherited ones come from markers that were there.
theorem Creation.below (creation : Creation naming proposal schema before marker within)
    {height : Nat} (hs : schema.height < height)
    (hb : ∀ upper ∈ before.markers, upper.Below height) : marker.Below height := by
  refine ⟨by omega, fun field hf => ?_⟩
  rcases Marker.mem_own_or_inherited hf with ho | ⟨upper, hu, hi⟩
  · have hm := (Columns.get?_eq_some_iff schema).mp (creation.of_mem_own ho).1
    have hle := Columns.height_le_of_mem schema hm
    omega
  · exact (hb upper (creation.of_mem_supers hu).1).2 field hi

theorem below_steps (naming : Naming) (proposal : Proposal) (height : Nat) :
    Steps naming proposal (fun schema => schema.height < height) fun before after =>
      (∀ marker ∈ before.markers, marker.Below height) →
        ∀ marker ∈ after.markers, marker.Below height :=
  preserved_steps (fun hd hn => Nat.lt_trans hn.height_lt hd)
    fun hd creation hb => creation.below hd hb

-- Only the fields of a new marker are as high as its schema.
theorem Creation.within_below (creation : Creation naming proposal schema before marker within)
    (hb : before.markers = []) : ∀ other ∈ within.markers, other.Below schema.height := by
  have h := (below_steps naming proposal schema.height).within creation fun _ hn => hn.height_lt
  have hnone : (before.allocate proposal.name).2.markers = [] := hb
  rw [hnone] at h
  exact h (by simp)

end Synthesis

end FrameMarkers
