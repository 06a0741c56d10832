import FrameMarkers.Proofs.Schema.Nesting
import FrameMarkers.Schema.Cover

namespace FrameMarkers

theorem ValueType.covers_iff {type other : ValueType} :
    type.covers other ↔
      (other.nullable → type.nullable) ∧ (type.name = any ∨ type.name = other.name) := by
  cases ht : type.nullable <;> cases ho : other.nullable <;> simp [covers, ht, ho]

-- Taking the covering column as nullable is the same as making it nullable first.
theorem Column.coversLifted_eq (lift : Bool) (column other : Column) :
    column.coversLifted lift other = (column.lifted lift).covers other := by
  cases lift with
  | false => rfl
  | true =>
      cases column <;> cases other <;>
        simp [Column.covers, Column.lifted, Column.toNullable, Column.coversLifted,
          ValueType.toNullable]

namespace Columns

theorem coversLifted_iff {low : Option String} (lift : Bool) (other : Schema) :
    (columns : Columns low) →
      (columns.coversLifted lift other ↔ ∀ name column, (name, column) ∈ columns.entries →
        ∃ found, other.get? name = some found ∧ (column.lifted lift).covers found)
  | .nil => by simp [coversLifted, entries]
  | .cons name column _ rest => by
      simp only [coversLifted, Bool.and_eq_true, coversLifted_iff lift other rest, entries,
        Option.any_eq_true_iff_get, Column.coversLifted_eq]
      constructor
      · rintro ⟨⟨hs, hc⟩, hr⟩ name' column' hm
        rcases List.mem_cons.mp hm with he | hm
        · cases he
          exact ⟨_, (Option.some_get hs).symm, hc⟩
        · exact hr name' column' hm
      · intro h
        refine ⟨?_, fun name' column' hm => h name' column' (List.mem_cons_of_mem _ hm)⟩
        obtain ⟨found, hf, hc⟩ := h name column List.mem_cons_self
        exact ⟨by simp [hf], by simpa [hf] using hc⟩

theorem coversLifted_eq (lift : Bool) (schema other : Schema) :
    schema.coversLifted lift other = (schema.lifted lift).covers other := by
  rw [Bool.eq_iff_iff, covers, coversLifted_iff, coversLifted_iff, entries_lifted]
  constructor
  · intro h name column hm
    obtain ⟨⟨name', inner⟩, hi, he⟩ := List.mem_map.mp hm
    cases he
    simpa [Column.lifted] using h _ inner hi
  · intro h name column hm
    simpa [Column.lifted] using h name _ (List.mem_map.mpr ⟨(name, column), hm, rfl⟩)

theorem covers_iff {schema other : Schema} :
    schema.covers other ↔ ∀ name column, (name, column) ∈ schema.entries →
      ∃ found, other.get? name = some found ∧ column.covers found := by
  rw [covers, coversLifted_iff]
  simp [Column.lifted]

end Columns

namespace Column

theorem covers_value_iff {type : ValueType} {other : Column} :
    (Column.value type).covers other ↔ ∃ type', other = .value type' ∧ type.covers type' := by
  cases other <;> simp [covers, coversLifted]

theorem covers_group_iff {schema : Schema} {nullable : Bool} {other : Column} :
    (Column.group schema nullable).covers other ↔
      ∃ schema' nullable', other = .group schema' nullable' ∧ (nullable' → nullable) ∧
        schema.covers schema' := by
  cases other with
  | group schema' nullable' =>
      cases nullable <;> cases nullable' <;> simp [covers, coversLifted, Columns.covers]
  | value type => simp [covers, coversLifted]
  | frame schema' nullable' elementsNullable' => simp [covers, coversLifted]

theorem covers_frame_iff {schema : Schema} {nullable elementsNullable : Bool} {other : Column} :
    (Column.frame schema nullable elementsNullable).covers other ↔
      ∃ schema' nullable' elementsNullable', other = .frame schema' nullable' elementsNullable' ∧
        (nullable' → nullable) ∧
        (schema.lifted elementsNullable).covers (schema'.lifted elementsNullable') := by
  cases other with
  | frame schema' nullable' elementsNullable' =>
      cases nullable <;> cases nullable' <;> cases elementsNullable' <;>
        simp [covers, coversLifted, Columns.coversLifted_eq]
  | value type => simp [covers, coversLifted]
  | group schema' nullable' => simp [covers, coversLifted]

theorem nullable_of_covers {column other : Column} (h : column.covers other) :
    other.nullable → column.nullable := by
  cases column with
  | value type =>
      obtain ⟨type', rfl, ht⟩ := covers_value_iff.mp h
      exact (ValueType.covers_iff.mp ht).1
  | group schema nullable =>
      obtain ⟨schema', nullable', rfl, hn, _⟩ := covers_group_iff.mp h
      exact hn
  | frame schema nullable elementsNullable =>
      obtain ⟨schema', nullable', elements', rfl, hn, _⟩ := covers_frame_iff.mp h
      exact hn

-- A column covers itself when its nested schema does.
theorem covers_refl_of_nested {column : Column}
    (h : ∀ nested, column.nested? = some nested → nested.covers nested) :
    column.covers column := by
  cases column with
  | value type => exact covers_value_iff.mpr ⟨type, rfl, by simp [ValueType.covers_iff]⟩
  | group schema nullable => exact covers_group_iff.mpr ⟨schema, nullable, rfl, id, h _ rfl⟩
  | frame schema nullable elementsNullable =>
      exact covers_frame_iff.mpr ⟨schema, nullable, elementsNullable, rfl, id, h _ rfl⟩

theorem covers_trans_of_nested {first second third : Column}
    (h : ∀ nested, first.nested? = some nested →
      ∀ {inner other : Schema}, nested.covers inner → inner.covers other → nested.covers other)
    (hfirst : first.covers second) (hsecond : second.covers third) : first.covers third := by
  cases first with
  | value type =>
      obtain ⟨type', rfl, ht⟩ := covers_value_iff.mp hfirst
      obtain ⟨type'', rfl, ht'⟩ := covers_value_iff.mp hsecond
      rw [ValueType.covers_iff] at ht ht'
      refine covers_value_iff.mpr ⟨type'', rfl, ValueType.covers_iff.mpr ⟨ht.1 ∘ ht'.1, ?_⟩⟩
      rcases ht.2 with hany | hname
      · exact .inl hany
      · rw [hname]; exact ht'.2
  | group schema nullable =>
      obtain ⟨schema', nullable', rfl, hn, hc⟩ := covers_group_iff.mp hfirst
      obtain ⟨schema'', nullable'', rfl, hn', hc'⟩ := covers_group_iff.mp hsecond
      exact covers_group_iff.mpr ⟨schema'', nullable'', rfl, hn ∘ hn', h _ rfl hc hc'⟩
  | frame schema nullable elementsNullable =>
      obtain ⟨schema', nullable', elements', rfl, hn, hc⟩ := covers_frame_iff.mp hfirst
      obtain ⟨schema'', nullable'', elements'', rfl, hn', hc'⟩ := covers_frame_iff.mp hsecond
      exact covers_frame_iff.mpr ⟨schema'', nullable'', elements'', rfl, hn ∘ hn', h _ rfl hc hc'⟩

end Column

theorem Columns.covers_refl (schema : Schema) : schema.covers schema := by
  induction schema using Schema.nesting_induction with
  | step schema ih =>
      exact Columns.covers_iff.mpr fun name column hm =>
        ⟨column, (Columns.get?_eq_some_iff schema).mpr hm,
          Column.covers_refl_of_nested fun nested hn => ih nested ⟨name, column, hm, hn⟩⟩

theorem Columns.covers_trans {first second third : Schema} (hfirst : first.covers second)
    (hsecond : second.covers third) : first.covers third := by
  induction first using Schema.nesting_induction generalizing second third with
  | step first ih =>
      refine Columns.covers_iff.mpr fun name column hm => ?_
      obtain ⟨column', hg, hc⟩ := Columns.covers_iff.mp hfirst name column hm
      obtain ⟨column'', hg', hc'⟩ :=
        Columns.covers_iff.mp hsecond name column' ((Columns.get?_eq_some_iff second).mp hg)
      exact ⟨column'', hg', Column.covers_trans_of_nested
        (fun nested hn {_ _} h h' => ih nested ⟨name, column, hm, hn⟩ h h') hc hc'⟩

theorem Column.covers_refl (column : Column) : column.covers column :=
  covers_refl_of_nested fun nested _ => Columns.covers_refl nested

theorem Column.covers_trans {first second third : Column} (hfirst : first.covers second)
    (hsecond : second.covers third) : first.covers third :=
  covers_trans_of_nested (fun _ _ {_ _} => Columns.covers_trans) hfirst hsecond

end FrameMarkers
