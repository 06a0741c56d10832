import FrameMarkers.Identifier.Pool
import Mathlib.Data.List.Perm.Subperm
import Mathlib.Data.List.Range
import Mathlib.Data.List.Nodup
import Mathlib.Order.Bounds.Basic

namespace FrameMarkers.NamePool

theorem numbered_injective (proposed : String) : Function.Injective (numbered proposed) := by
  intro first second h
  have hd : Nat.toDigits 10 first = Nat.toDigits 10 second := by
    have hl := congrArg String.toList h
    simpa [numbered] using hl
  rw [← Nat.ofDigitChars_ten_toDigits (n := first), hd, Nat.ofDigitChars_ten_toDigits]

theorem exists_free_number (pool : NamePool) (proposed : String) :
    ∃ number ∈ List.range' 1 (pool.used.length + 1), !pool.contains (numbered proposed number) := by
  by_contra hn
  push Not at hn
  have hsub : (List.range' 1 (pool.used.length + 1)).map (numbered proposed) ⊆ pool.used := by
    intro name hm
    obtain ⟨number, hr, rfl⟩ := List.mem_map.mp hm
    simpa [contains] using hn number hr
  have hnodup : ((List.range' 1 (pool.used.length + 1)).map (numbered proposed)).Nodup :=
    List.Nodup.map (numbered_injective proposed) (List.nodup_range' 1)
  have hlen := (List.subperm_of_subset hnodup hsub).length_le
  simp only [List.length_map, List.length_range'] at hlen
  omega

-- The numbers, from one, that make the proposed name free.
def freeNumbers (pool : NamePool) (proposed : String) : Set Nat :=
  {number | 1 ≤ number ∧ pool.contains (numbered proposed number) = false}

theorem exists_isLeast_firstFree (pool : NamePool) (proposed : String) :
    ∃ number, IsLeast (pool.freeNumbers proposed) number ∧
      pool.firstFree proposed = numbered proposed number := by
  obtain ⟨free, hm, hf⟩ := pool.exists_free_number proposed
  cases h : (List.range' 1 (pool.used.length + 1)).find? fun number =>
      !pool.contains (numbered proposed number) with
  | none => exact absurd hf (List.find?_eq_none.mp h free hm)
  | some number =>
      refine ⟨number, ?_, by rw [firstFree, h]; rfl⟩
      obtain ⟨hfree, hrange, hbefore⟩ := List.find?_range'_eq_some.mp h
      refine ⟨⟨(List.mem_range'_1.mp hrange).1, by simpa using hfree⟩, ?_⟩
      rintro other ⟨hone, hother⟩
      by_contra hlt
      have htaken := hbefore other hone (Nat.lt_of_not_le hlt)
      rw [hother] at htaken
      contradiction

theorem firstFree_free (pool : NamePool) (proposed : String) :
    pool.contains (pool.firstFree proposed) = false := by
  obtain ⟨number, hleast, hname⟩ := pool.exists_isLeast_firstFree proposed
  rw [hname]
  exact hleast.1.2

theorem fresh_free (pool : NamePool) (proposed : String) :
    pool.contains (pool.fresh proposed) = false := by
  by_cases h : pool.contains proposed
  · rw [fresh, if_pos h]
    exact pool.firstFree_free proposed
  · rw [fresh, if_neg h]
    exact eq_false_of_ne_true h

@[simp] theorem contains_insert (pool : NamePool) (added name : String) :
    (pool.insert added).contains name ↔ name = added ∨ pool.contains name := by
  by_cases h : pool.contains added
  · rw [insert, if_pos h]
    exact ⟨.inr, fun hn => hn.elim (fun he => he ▸ h) id⟩
  · rw [insert, if_neg h]
    simp [contains]

-- The name is the proposed one, or the proposed one with a number behind it.
def Derived (proposed name : String) : Prop :=
  name = proposed ∨ ∃ number, name = numbered proposed number

theorem fresh_derived (pool : NamePool) (proposed : String) :
    Derived proposed (pool.fresh proposed) := by
  by_cases h : pool.contains proposed
  · rw [fresh, if_pos h]
    exact .inr ⟨_, rfl⟩
  · rw [fresh, if_neg h]
    exact .inl rfl

theorem Derived.exists_digits {proposed name : String} (h : Derived proposed name) :
    ∃ digits : List Char, (∀ c ∈ digits, c.isDigit) ∧ name.toList = proposed.toList ++ digits := by
  rcases h with rfl | ⟨number, rfl⟩
  · exact ⟨[], by simp, by simp⟩
  · refine ⟨Nat.toDigits 10 number, fun c hc => ?_, by simp [numbered]⟩
    exact Nat.isDigit_of_mem_toDigits (by decide) (by decide) hc

-- A character that is no digit comes from the proposed name.
theorem Derived.mem_of_mem {proposed name : String} (h : Derived proposed name) {c : Char}
    (hd : c.isDigit = false) (hc : c ∈ name.toList) : c ∈ proposed.toList := by
  obtain ⟨digits, hdigits, hname⟩ := h.exists_digits
  rw [hname, List.mem_append] at hc
  refine hc.resolve_right fun hm => ?_
  rw [hdigits c hm] at hd
  contradiction

end FrameMarkers.NamePool
