import FrameMarkers.Marker.Basic
import Mathlib.Data.List.Nodup

namespace FrameMarkers

variable {α β : Type} [DecidableEq β] {key : α → β}

theorem distinctBy_sublist (key : α → β) (entries : List α) :
    (distinctBy key entries).Sublist entries := by
  induction entries with
  | nil => exact List.Sublist.refl _
  | cons entry rest ih => exact (List.filter_sublist.trans ih).cons_cons entry

theorem mem_of_mem_distinctBy {entry : α} {entries : List α}
    (h : entry ∈ distinctBy key entries) : entry ∈ entries :=
  (distinctBy_sublist key entries).mem h

-- No key is lost, only later entries of a key that is there already.
theorem key_mem_distinctBy {k : β} {entries : List α} :
    k ∈ (distinctBy key entries).map key ↔ k ∈ entries.map key := by
  constructor
  · exact fun h => ((distinctBy_sublist key entries).map key).mem h
  · intro h
    induction entries with
    | nil => exact h
    | cons entry rest ih =>
        simp only [distinctBy, List.map_cons, List.mem_cons] at h ⊢
        by_cases he : k = key entry
        · exact .inl he
        · obtain ⟨other, hm, ho⟩ := List.mem_map.mp (ih (h.resolve_left he))
          refine .inr (List.mem_map.mpr ⟨other, List.mem_filter.mpr ⟨hm, ?_⟩, ho⟩)
          simpa [ho] using he

theorem nodup_distinctBy (key : α → β) (entries : List α) :
    ((distinctBy key entries).map key).Nodup := by
  induction entries with
  | nil => exact List.nodup_nil
  | cons entry rest ih =>
      refine List.nodup_cons.mpr ⟨?_, (List.filter_sublist.map key).nodup ih⟩
      intro h
      obtain ⟨other, hm, ho⟩ := List.mem_map.mp h
      simp [ho] at hm

theorem distinctBy_eq_self {entries : List α} (h : (entries.map key).Nodup) :
    distinctBy key entries = entries := by
  induction entries with
  | nil => rfl
  | cons entry rest ih =>
      obtain ⟨hn, hr⟩ := List.nodup_cons.mp h
      rw [distinctBy, ih hr, List.filter_eq_self.mpr]
      intro other hm
      have hne : key other ≠ key entry := fun he => hn (he ▸ List.mem_map_of_mem hm)
      simpa using hne

-- After an earlier list, the entries whose key stands there already are left out as well.
theorem distinctBy_append (first second : List α) :
    distinctBy key (first ++ second) =
      distinctBy key first ++
        (distinctBy key second).filter fun other => key other ∉ first.map key := by
  induction first with
  | nil => simp [distinctBy]
  | cons entry rest ih =>
      simp only [List.cons_append, distinctBy, ih, List.filter_append, List.filter_filter]
      congr 3
      funext other
      by_cases ho : key other = key entry <;> simp [ho]

theorem distinctBy_idem_append (first second : List α) :
    distinctBy key (distinctBy key first ++ second) = distinctBy key (first ++ second) := by
  rw [distinctBy_append, distinctBy_append, distinctBy_eq_self (nodup_distinctBy key first)]
  simp only [key_mem_distinctBy]

theorem distinctBy_append_idem (first second : List α) :
    distinctBy key (first ++ distinctBy key second) = distinctBy key (first ++ second) := by
  rw [distinctBy_append, distinctBy_append, distinctBy_eq_self (nodup_distinctBy key second)]

-- Parts may be thinned out on their own before they are put together.
theorem distinctBy_flatMap {γ : Type} (parts : γ → List α) (first : List α) (sources : List γ) :
    distinctBy key (first ++ sources.flatMap fun source => distinctBy key (parts source)) =
      distinctBy key (first ++ sources.flatMap parts) := by
  induction sources generalizing first with
  | nil => rfl
  | cons source rest ih =>
      simp only [List.flatMap_cons, ← List.append_assoc]
      rw [ih, ← distinctBy_idem_append, distinctBy_append_idem, distinctBy_idem_append]

theorem find?_distinctBy (entries : List α) (k : β) :
    (distinctBy key entries).find? (fun entry => key entry == k) =
      entries.find? fun entry => key entry == k := by
  induction entries with
  | nil => rfl
  | cons entry rest ih =>
      by_cases he : key entry = k
      · simp [distinctBy, he]
      · have hp : (fun other : α => decide (decide (key other ≠ key entry) = true ∧
            (key other == k) = true)) = fun other => key other == k := by
          funext other
          by_cases ho : key other = k
          · simp [ho, Ne.symm he]
          · simp [ho]
        simp only [distinctBy, List.find?_cons, List.find?_filter, hp, ih]

-- With different keys there is at most one entry to find.
theorem find?_key_eq_some_iff {entries : List α} (h : (entries.map key).Nodup) {k : β} {entry : α} :
    entries.find? (fun other => key other == k) = some entry ↔ entry ∈ entries ∧ key entry = k := by
  constructor
  · intro hf
    have hk := List.find?_some hf
    exact ⟨List.mem_of_find?_eq_some hf, beq_iff_eq.mp hk⟩
  · rintro ⟨hm, rfl⟩
    cases hf : entries.find? fun other => key other == key entry with
    | none => simpa using List.find?_eq_none.mp hf entry hm
    | some other =>
        have hk := List.find?_some hf
        have he := List.inj_on_of_nodup_map h (List.mem_of_find?_eq_some hf) hm (beq_iff_eq.mp hk)
        rw [he]

theorem find?_filter_of_find? {p q : α → Bool} {entries : List α} {entry : α}
    (h : entries.find? p = some entry) (hq : q entry) :
    (entries.filter q).find? p = some entry := by
  obtain ⟨hp, earlier, later, rfl, hnot⟩ := List.find?_eq_some_iff_append.mp h
  refine List.find?_eq_some_iff_append.mpr ⟨hp, earlier.filter q, later.filter q, ?_, ?_⟩
  · simp [hq]
  · exact fun other hm => hnot other (List.mem_filter.mp hm).1

-- The first entry of a kind stays first when every entry with its key is of that kind.
theorem find?_distinctBy_of_key {p : α → Bool} {entries : List α} {entry : α}
    (h : entries.find? p = some entry)
    (hk : ∀ other ∈ entries, key other = key entry → p other) :
    (distinctBy key entries).find? p = some entry := by
  induction entries with
  | nil => simp at h
  | cons first rest ih =>
      by_cases hp : p first
      · rw [List.find?_cons_of_pos hp] at h
        rw [distinctBy, List.find?_cons_of_pos hp, h]
      · rw [List.find?_cons_of_neg hp] at h
        have hne : key entry ≠ key first := fun he => hp (hk first List.mem_cons_self he.symm)
        rw [distinctBy, List.find?_cons_of_neg hp]
        apply find?_filter_of_find? (ih h fun other hm => hk other (List.mem_cons_of_mem _ hm))
        simpa using hne

-- Along a list with different keys, each entry adds its key to those that may not come again.
theorem nodup_unseen_cons {seen : List β} {entry : α} {rest : List α} :
    ((entry :: rest).map key).Nodup ∧ (∀ other ∈ entry :: rest, key other ∉ seen) ↔
      key entry ∉ seen ∧ (rest.map key).Nodup ∧ ∀ other ∈ rest, key other ∉ key entry :: seen := by
  have hrest : (∀ other ∈ rest, key other ∉ key entry :: seen) ↔
      key entry ∉ rest.map key ∧ ∀ other ∈ rest, key other ∉ seen := by
    simp only [List.mem_cons, not_or, List.mem_map, not_exists, not_and]
    exact ⟨fun h => ⟨fun other hm => (h other hm).1, fun other hm => (h other hm).2⟩,
      fun h other hm => ⟨h.1 other hm, h.2 other hm⟩⟩
  rw [hrest, List.map_cons, List.nodup_cons, List.forall_mem_cons]
  tauto

theorem firstRepeated_eq_none {seen : List β} {entries : List α} :
    firstRepeated key seen entries = none ↔
      (entries.map key).Nodup ∧ ∀ entry ∈ entries, key entry ∉ seen := by
  induction entries generalizing seen with
  | nil => simp [firstRepeated]
  | cons entry rest ih =>
      rw [nodup_unseen_cons]
      by_cases hs : key entry ∈ seen
      · simp [firstRepeated, hs]
      · rw [firstRepeated, if_neg hs, ih]
        exact (and_iff_right hs).symm

-- After an earlier list, its keys are among those that have been seen.
theorem firstRepeated_append (seen : List β) (first second : List α) :
    firstRepeated key seen (first ++ second) = (firstRepeated key seen first).or
      (firstRepeated key ((first.map key).reverse ++ seen) second) := by
  induction first generalizing seen with
  | nil => rfl
  | cons entry rest ih =>
      by_cases hs : key entry ∈ seen
      · simp [firstRepeated, hs]
      · simp only [List.cons_append, firstRepeated, if_neg hs, ih, List.map_cons,
          List.reverse_cons, List.append_assoc, List.nil_append]

theorem firstRepeated_map {γ : Type} (f : γ → α) (seen : List β) (sources : List γ) :
    firstRepeated key seen (sources.map f) =
      (firstRepeated (fun source => key (f source)) seen sources).map f := by
  induction sources generalizing seen with
  | nil => rfl
  | cons source rest ih =>
      by_cases hs : key (f source) ∈ seen
      · simp [firstRepeated, hs]
      · rw [List.map_cons, firstRepeated, firstRepeated, if_neg hs, if_neg hs, ih]

-- What is found is the first entry with the key of an earlier one.
theorem exists_of_firstRepeated {seen : List β} {entries : List α} {entry : α}
    (h : firstRepeated key seen entries = some entry) :
    ∃ earlier later, entries = earlier ++ entry :: later ∧
      ((earlier.map key).Nodup ∧ ∀ other ∈ earlier, key other ∉ seen) ∧
        (key entry ∈ seen ∨ key entry ∈ earlier.map key) := by
  induction entries generalizing seen with
  | nil => simp [firstRepeated] at h
  | cons first rest ih =>
      by_cases hs : key first ∈ seen
      · rw [firstRepeated, if_pos hs] at h
        cases h
        exact ⟨[], rest, rfl, ⟨List.nodup_nil, by simp⟩, .inl hs⟩
      · rw [firstRepeated, if_neg hs] at h
        obtain ⟨earlier, later, rfl, hunseen, hrepeated⟩ := ih h
        refine ⟨first :: earlier, later, rfl, nodup_unseen_cons.mpr ⟨hs, hunseen⟩, ?_⟩
        rw [List.map_cons, List.mem_cons]
        rcases hrepeated with hm | hm
        · exact (List.mem_cons.mp hm).elim (fun he => .inr (.inl he)) .inl
        · exact .inr (.inr hm)

theorem firstRepeated_eq_some {seen : List β} {entries : List α} {entry : α}
    (h : firstRepeated key seen entries = some entry) :
    entry ∈ entries ∧ (key entry ∈ seen ∨ 1 < (entries.map key).count (key entry)) := by
  obtain ⟨earlier, later, rfl, -, hrepeated⟩ := exists_of_firstRepeated h
  refine ⟨List.mem_append_right _ List.mem_cons_self, hrepeated.imp_right fun hm => ?_⟩
  have hpos := List.count_pos_iff.mpr hm
  rw [List.map_append, List.count_append, List.map_cons, List.count_cons_self]
  omega

end FrameMarkers
