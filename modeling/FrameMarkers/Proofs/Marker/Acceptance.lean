import FrameMarkers.Proofs.Marker.Fields
import FrameMarkers.Proofs.Schema.Cover

namespace FrameMarkers

namespace Field

-- The field has the type of a field for any record, and a shape that goes with it.
def HoldsAny (field : Field) : Prop :=
  ∃ nullable, field.type = .group FieldType.wildcard nullable ∧
    field.shape = .group Schema.empty nullable

theorem holdsAny_anyGroup (column : String) (nullable : Bool) :
    (anyGroup column nullable).HoldsAny :=
  ⟨nullable, rfl, rfl⟩

-- Every schema is covered by the one without columns.
theorem accepts_iff_of_holdsAny {field : Field} (h : field.HoldsAny) (column : Column) :
    field.accepts column ↔ field.shape.covers column := by
  obtain ⟨nullable, htype, hshape⟩ := h
  have hwildcard : field.isWildcard := by
    rw [isWildcard, htype]
    rfl
  have hempty : ∀ schema : Schema, Schema.empty.covers schema := fun schema =>
    Columns.covers_iff.mpr fun name column hm => absurd hm List.not_mem_nil
  rw [accepts, if_pos hwildcard, htype, hshape, Column.covers_group_iff]
  cases column with
  | group schema nullable' =>
      cases nullable <;> cases nullable' <;>
        simp [FieldType.nullable, Column.nullable, sameKind, hempty]
  | value type => simp [sameKind]
  | frame schema nullable' elementsNullable => simp [sameKind]

theorem accepts_iff_shape_covers {field : Field} (h : field.isWildcard → field.HoldsAny)
    (column : Column) : field.accepts column ↔ field.shape.covers column := by
  by_cases hw : field.isWildcard
  · exact accepts_iff_of_holdsAny (h hw) column
  · rw [accepts, if_neg hw]

-- A wildcard asks for the kind and for nothing absent, and covering changes neither for the worse.
theorem sameKind_of_covers {type : FieldType} {column other : Column} (h : column.covers other)
    (hk : sameKind type column) : sameKind type other := by
  cases column with
  | value type' => cases type <;> exact absurd hk Bool.false_ne_true
  | group schema nullable =>
      obtain ⟨schema', nullable', rfl, -⟩ := Column.covers_group_iff.mp h
      cases type <;> exact hk
  | frame schema nullable elementsNullable =>
      obtain ⟨schema', nullable', elements', rfl, -⟩ := Column.covers_frame_iff.mp h
      cases type <;> exact hk

theorem accepts_of_covers {field : Field} {column other : Column} (h : column.covers other)
    (ha : field.accepts column) : field.accepts other := by
  by_cases hw : field.isWildcard
  · simp only [accepts, hw, if_true, Bool.and_eq_true, Bool.or_eq_true, Bool.not_eq_true'] at ha ⊢
    obtain ⟨hn, hk⟩ := ha
    refine ⟨hn.imp_right fun hn => eq_false_of_ne_true fun ho => ?_, sameKind_of_covers h hk⟩
    rw [Column.nullable_of_covers h ho] at hn
    contradiction
  · rw [accepts, if_neg hw] at ha ⊢
    exact Column.covers_trans ha h

end Field

namespace Marker

-- With different columns no field hides the column of another one.
theorem mem_schema_entries {marker : Marker} (h : (marker.fields.map (·.column)).Nodup)
    {name : String} {column : Column} :
    (name, column) ∈ marker.schema.entries ↔
      ∃ field ∈ marker.fields, field.column = name ∧ field.shape = column := by
  have hnodup : ((marker.fields.map fun field => (field.column, field.shape)).map
      Prod.fst).Nodup := by
    rw [List.map_map]
    exact h
  rw [← Columns.get?_eq_some_iff, schema, Schema.get?_ofList_eq_some_iff hnodup, List.mem_map]
  simp only [Prod.mk.injEq]

theorem accepts_iff_schema_covers {marker : Marker}
    (columns : (marker.fields.map (·.column)).Nodup)
    (wildcards : ∀ field ∈ marker.fields, field.isWildcard → field.HoldsAny) (schema : Schema) :
    marker.accepts schema ↔ marker.schema.covers schema := by
  rw [accepts_iff, Columns.covers_iff]
  constructor
  · intro h name column hm
    obtain ⟨field, hf, rfl, rfl⟩ := (mem_schema_entries columns).mp hm
    obtain ⟨found, hg, ha⟩ := h field hf
    exact ⟨found, hg, (Field.accepts_iff_shape_covers (wildcards field hf) found).mp ha⟩
  · intro h field hf
    obtain ⟨found, hg, hc⟩ := h field.column field.shape
      ((mem_schema_entries columns).mpr ⟨field, hf, rfl, rfl⟩)
    exact ⟨found, hg, (Field.accepts_iff_shape_covers (wildcards field hf) found).mpr hc⟩

-- A plain column, and a record of any shape that the super marker asks for.
def holder : Marker :=
  ⟨"Holder", [Field.anyGroup "data" true], [], true, .implicitPublic⟩

def entry : Marker :=
  ⟨"Entry", [Field.value "id" ⟨ValueType.any, false⟩], [holder], true, .implicitPublic⟩

def entrySchema : Schema :=
  .ofList [("data", .group (Schema.ofList [("x", .value ⟨"kotlin.Int", false⟩)]) false),
    ("id", .value ⟨"kotlin.Int", false⟩)]

theorem accepts_iff_schema_covers_entry :
    entry.fields = [Field.value "id" ⟨ValueType.any, false⟩, Field.anyGroup "data" true] ∧
      (entry.fields.map (·.column)).Nodup ∧
      (∀ field ∈ entry.fields, field.isWildcard → field.HoldsAny) ∧
      entry.accepts entrySchema ∧ entry.schema.covers entrySchema := by
  have hfields : entry.fields =
      [Field.value "id" ⟨ValueType.any, false⟩, Field.anyGroup "data" true] := by decide +kernel
  have hcolumns : (entry.fields.map (·.column)).Nodup := by
    rw [hfields]
    decide
  have hwildcards : ∀ field ∈ entry.fields, field.isWildcard → field.HoldsAny := by
    rw [hfields]
    intro field hf hw
    rcases List.mem_pair.mp hf with rfl | rfl
    · exact absurd hw (by decide)
    · exact Field.holdsAny_anyGroup "data" true
  have haccepts : entry.accepts entrySchema := by decide +kernel
  exact ⟨hfields, hcolumns, hwildcards, haccepts,
    (accepts_iff_schema_covers hcolumns hwildcards entrySchema).mp haccepts⟩

-- A marker that asks for one column and nothing else.
def asking (name : String) (column : Column) : Marker :=
  ⟨"Asking", [⟨.ofName name, name, .value ValueType.any true, false, column⟩], [], true,
    .implicitPublic⟩

theorem accepts_asking_iff {name : String} {column : Column} {schema : Schema} :
    (asking name column).accepts schema ↔
      ∃ found, schema.get? name = some found ∧ column.covers found := by
  have hfields : (asking name column).fields = (asking name column).ownFields :=
    distinctBy_eq_self (List.nodup_singleton _)
  rw [accepts_iff, hfields]
  exact List.forall_mem_singleton

theorem accepts_of_covers {marker : Marker} {schema other : Schema} (h : schema.covers other)
    (ha : marker.accepts schema) : marker.accepts other := by
  refine accepts_iff.mpr fun field hf => ?_
  obtain ⟨column, hg, hc⟩ := accepts_iff.mp ha field hf
  obtain ⟨found, hfound, hcovers⟩ := Columns.covers_iff.mp h field.column column
    ((Columns.get?_eq_some_iff schema).mp hg)
  exact ⟨found, hfound, Field.accepts_of_covers hcovers hc⟩

-- Each column of a schema is asked for by a marker of its own.
theorem covers_of_accepts {schema other : Schema}
    (h : ∀ marker : Marker, marker.accepts schema → marker.accepts other) :
    schema.covers other := by
  refine Columns.covers_iff.mpr fun name column hm => ?_
  refine accepts_asking_iff.mp (h (asking name column) (accepts_asking_iff.mpr ?_))
  exact ⟨column, (Columns.get?_eq_some_iff schema).mpr hm, column.covers_refl⟩

theorem covers_iff_forall_accepts {schema other : Schema} :
    schema.covers other ↔ ∀ marker : Marker, marker.accepts schema → marker.accepts other :=
  ⟨fun h _ => accepts_of_covers h, covers_of_accepts⟩

-- A table of numbers beside the record that an inherited wildcard stands for.
def journal : Marker :=
  let amounts : Schema := .ofList [("amount", .value ⟨"kotlin.Int", true⟩)]
  ⟨"Journal", [⟨.ofName "lines", "lines", .frame "Line" true, false, .frame amounts true false⟩],
    [holder], true, .implicitPublic⟩

def looseJournal : Schema :=
  let amounts : Schema := .ofList [("amount", .value ⟨"kotlin.Int", false⟩)]
  .ofList [("data", .group Schema.empty true), ("lines", .frame amounts true true)]

def strictJournal : Schema :=
  let amounts : Schema :=
    .ofList [("amount", .value ⟨"kotlin.Int", false⟩), ("note", .value ⟨"kotlin.String", true⟩)]
  .ofList [("data", .group amounts false), ("lines", .frame amounts false false),
    ("title", .value ⟨"kotlin.String", false⟩)]

theorem covers_iff_forall_accepts_journal :
    looseJournal.covers strictJournal ∧ journal.accepts looseJournal ∧
      journal.accepts strictJournal ∧ ¬journal.accepts entrySchema ∧
      ¬looseJournal.covers entrySchema := by
  have hcovers : looseJournal.covers strictJournal := by decide +kernel
  have haccepts : journal.accepts looseJournal := by decide +kernel
  have hnot : ¬journal.accepts entrySchema := by decide +kernel
  exact ⟨hcovers, haccepts, covers_iff_forall_accepts.mp hcovers journal haccepts, hnot,
    fun h => hnot (covers_iff_forall_accepts.mp h journal haccepts)⟩

end Marker

end FrameMarkers
