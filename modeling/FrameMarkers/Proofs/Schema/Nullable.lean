import FrameMarkers.Proofs.Schema.Cover

namespace FrameMarkers

namespace Column

variable {column other : Column}

theorem nullable_toNullable (column : Column) : column.toNullable.nullable := by
  cases column <;> rfl

theorem toNullable_toNullable (column : Column) :
    column.toNullable.toNullable = column.toNullable := by
  cases column <;> rfl

theorem toNullable_covers (column : Column) : column.toNullable.covers column := by
  cases column with
  | value type =>
      exact covers_value_iff.mpr ⟨type, rfl, ValueType.covers_iff.mpr ⟨fun _ => rfl, .inr rfl⟩⟩
  | group schema nullable =>
      exact covers_group_iff.mpr ⟨schema, nullable, rfl, fun _ => rfl, schema.covers_refl⟩
  | frame schema nullable elementsNullable =>
      exact covers_frame_iff.mpr
        ⟨schema, nullable, elementsNullable, rfl, fun _ => rfl, Columns.covers_refl _⟩

-- Absence in the covered column is all that a nullable column allows in addition.
theorem covers_toNullable_of_nullable (hn : column.nullable) (h : column.covers other) :
    column.covers other.toNullable := by
  cases column with
  | value type =>
      obtain ⟨type', rfl, ht⟩ := covers_value_iff.mp h
      obtain ⟨-, hname⟩ := ValueType.covers_iff.mp ht
      exact covers_value_iff.mpr
        ⟨type'.toNullable, rfl, ValueType.covers_iff.mpr ⟨fun _ => hn, hname⟩⟩
  | group schema nullable =>
      obtain ⟨schema', nullable', rfl, -, hc⟩ := covers_group_iff.mp h
      exact covers_group_iff.mpr ⟨schema', true, rfl, fun _ => hn, hc⟩
  | frame schema nullable elementsNullable =>
      obtain ⟨schema', nullable', elements', rfl, -, hc⟩ := covers_frame_iff.mp h
      exact covers_frame_iff.mpr ⟨schema', true, elements', rfl, fun _ => hn, hc⟩

theorem covers_toNullable_iff :
    column.covers other.toNullable ↔ column.nullable ∧ column.covers other := by
  constructor
  · intro h
    exact ⟨nullable_of_covers h other.nullable_toNullable, covers_trans h other.toNullable_covers⟩
  · rintro ⟨hn, h⟩
    exact covers_toNullable_of_nullable hn h

end Column

namespace Columns

variable {schema other : Schema}

-- Every column may be absent in the way of its kind.
def AllNullable {low : Option String} (columns : Columns low) : Prop :=
  ∀ name column, (name, column) ∈ columns.entries → column.nullable

theorem allNullable_toNullable {low : Option String} (columns : Columns low) :
    columns.toNullable.AllNullable := by
  intro name column hm
  rw [entries_toNullable] at hm
  obtain ⟨⟨_, inner⟩, -, he⟩ := List.mem_map.mp hm
  cases he
  exact inner.nullable_toNullable

theorem toNullable_toNullable {low : Option String} (columns : Columns low) :
    columns.toNullable.toNullable = columns.toNullable := by
  refine ext_get? fun name => ?_
  simp only [get?_toNullable, Option.map_map, Function.comp_def, Column.toNullable_toNullable]

theorem covers_toNullable_iff :
    schema.covers other.toNullable ↔ schema.AllNullable ∧ schema.covers other := by
  simp only [covers_iff, AllNullable, get?_toNullable, Option.map_eq_some_iff]
  constructor
  · intro h
    refine ⟨fun name column hm => ?_, fun name column hm => ?_⟩
    · obtain ⟨_, ⟨found, -, rfl⟩, hc⟩ := h name column hm
      exact (Column.covers_toNullable_iff.mp hc).1
    · obtain ⟨_, ⟨found, hg, rfl⟩, hc⟩ := h name column hm
      exact ⟨found, hg, (Column.covers_toNullable_iff.mp hc).2⟩
  · rintro ⟨hn, h⟩ name column hm
    obtain ⟨found, hg, hc⟩ := h name column hm
    exact ⟨_, ⟨found, hg, rfl⟩, Column.covers_toNullable_iff.mpr ⟨hn name column hm, hc⟩⟩

-- What covers the result covers the schema, and the result covers itself.
theorem toNullable_covers (schema : Schema) : schema.toNullable.covers schema :=
  (covers_toNullable_iff.mp (covers_refl schema.toNullable)).2

theorem toNullable_mono (h : schema.covers other) : schema.toNullable.covers other.toNullable :=
  covers_toNullable_iff.mpr
    ⟨schema.allNullable_toNullable, covers_trans schema.toNullable_covers h⟩

end Columns

theorem Column.frame_covers_frame (schema : Schema) (nullable : Bool) :
    (frame schema nullable true).covers (frame schema nullable false) :=
  covers_frame_iff.mpr ⟨schema, nullable, false, rfl, id, schema.toNullable_covers⟩

theorem toNullable_least (schema : Schema) :
    schema.toNullable.toNullable = schema.toNullable ∧
    schema.toNullable.covers schema ∧
    (∀ other : Schema, schema.covers other → schema.toNullable.covers other.toNullable) ∧
    (schema.toNullable.AllNullable ∧ ∀ upper : Schema, upper.AllNullable →
      (upper.covers schema.toNullable ↔ upper.covers schema)) ∧
    ∀ nullable, (Column.frame schema nullable true).covers (.frame schema nullable false) := by
  refine ⟨schema.toNullable_toNullable, schema.toNullable_covers,
    fun other => Columns.toNullable_mono, ⟨schema.allNullable_toNullable, fun upper hn => ?_⟩,
    Column.frame_covers_frame schema⟩
  rw [Columns.covers_toNullable_iff, and_iff_right hn]

-- A column of each kind, between what is seen of it and what is known of it.
def visits : Schema :=
  .ofList [("guest", .group (Schema.ofList [("name", .value ⟨"kotlin.String", false⟩)]) false),
    ("nights", .value ⟨"kotlin.Int", false⟩),
    ("rooms", .frame (Schema.ofList [("number", .value ⟨"kotlin.Int", false⟩)]) false true)]

def someVisits : Schema :=
  Columns.toNullable (Schema.ofList [("nights", .value ⟨ValueType.any, false⟩),
    ("rooms", .frame (Schema.ofList [("number", .value ⟨"kotlin.Int", true⟩)]) false false)])

def paidVisits : Schema :=
  .ofList [("guest", .group (Schema.ofList [("name", .value ⟨"kotlin.String", false⟩)]) false),
    ("nights", .value ⟨"kotlin.Int", false⟩), ("paid", .value ⟨"kotlin.Int", false⟩),
    ("rooms", .frame (Schema.ofList [("number", .value ⟨"kotlin.Int", false⟩)]) false false)]

theorem toNullable_least_visits :
    someVisits.AllNullable ∧ someVisits.covers visits ∧ someVisits.covers visits.toNullable ∧
      visits.covers paidVisits ∧ visits.toNullable.covers paidVisits.toNullable ∧
      ¬visits.covers paidVisits.toNullable := by
  have hall : someVisits.AllNullable := Columns.allNullable_toNullable _
  have hsome : someVisits.covers visits := by decide +kernel
  have hpaid : visits.covers paidVisits := by decide +kernel
  have hnot : ¬visits.covers paidVisits.toNullable := by decide +kernel
  obtain ⟨-, -, hmono, ⟨-, hleast⟩, -⟩ := toNullable_least visits
  exact ⟨hall, hsome, (hleast someVisits hall).mpr hsome, hpaid, hmono paidVisits hpaid, hnot⟩

end FrameMarkers
