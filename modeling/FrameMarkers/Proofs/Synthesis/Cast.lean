import FrameMarkers.Proofs.Schema.Cover
import FrameMarkers.Proofs.Synthesis.Creation

namespace FrameMarkers

theorem Column.nullable_typeWith (column : Column) (name : String) :
    (column.typeWith name).nullable = column.nullable := by
  cases column <;> rfl

-- A wildcard field stands for records and tables only, and a plain column has a plain type.
theorem Field.sameKind_of_wildcard {column : Column} {name : String}
    (h : (column.typeWith name).isWildcard) : sameKind (column.typeWith name) column := by
  cases column with
  | value type => simp [Column.typeWith, FieldType.ofValueType, FieldType.isWildcard,
      FieldType.marker?] at h
  | group schema nullable => rfl
  | frame schema nullable elementsNullable => rfl

theorem Field.accepts_shape {field : Field} {name : String}
    (h : field.type = field.shape.typeWith name) : field.accepts field.shape := by
  unfold accepts
  by_cases hw : field.isWildcard
  · rw [if_pos hw, h, Column.nullable_typeWith, Bool.and_eq_true]
    rw [isWildcard, h] at hw
    refine ⟨?_, sameKind_of_wildcard hw⟩
    cases field.shape.nullable <;> rfl
  · rw [if_neg hw]
    exact field.shape.covers_refl

namespace Synthesis

variable {naming : Naming} {proposal : Proposal} {schema : Schema}
  {before within after : Registry} {marker : Marker}

theorem Creation.accepts (creation : Creation naming proposal schema before marker within) :
    marker.accepts schema := by
  refine Marker.accepts_iff.mpr fun field hf => ?_
  rcases Marker.mem_own_or_inherited hf with ho | hi
  · obtain ⟨hget, name, htype, -⟩ := creation.of_mem_own ho
    exact ⟨field.shape, hget, Field.accepts_shape htype⟩
  · exact creation.inherited_accepts (Marker.mem_inheritedFields.mpr hi)

theorem accepts_of_makes (h : Makes naming proposal schema before marker after) :
    marker.accepts schema = true ∧
      ∀ upper ∈ marker.supers, upper.isOpen = true ∧ upper.accepts schema = true := by
  obtain ⟨within, creation, rfl⟩ := makes_iff.mp h
  exact ⟨creation.accepts, fun upper hu => (creation.of_mem_supers hu).2⟩

-- A known marker that any record in its column fits, and a schema with a record there.
def recordSession : Registry :=
  ⟨[⟨"Holder", [Field.anyGroup "data" false], [], true, .implicitPublic⟩], [], [],
    .ofList ["Holder"]⟩

def recordSchema : Schema :=
  .ofList [("data", .group (Schema.ofList [("x", .value ⟨"kotlin.Int", false⟩)]) false)]

theorem accepts_of_makes_record :
    ∃ marker after, Makes ⟨.asWritten, .suffix⟩ ⟨"DataType", true, .implicitPublic⟩ recordSchema
        recordSession marker after ∧
      marker.accepts recordSchema = true ∧
        ∀ upper ∈ marker.supers, upper.isOpen = true ∧ upper.accepts recordSchema = true := by
  have hmakes : ∃ marker after, Makes ⟨.asWritten, .suffix⟩ ⟨"DataType", true, .implicitPublic⟩
      recordSchema recordSession marker after :=
    exists_makes (by decide +kernel) (by decide +kernel)
  obtain ⟨marker, after, h⟩ := hmakes
  exact ⟨marker, after, h, accepts_of_makes h⟩

end Synthesis

end FrameMarkers
