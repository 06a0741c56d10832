import FrameMarkers.Identifier.CamelCase
import Mathlib.Data.List.Infix

namespace FrameMarkers

namespace Text

theorem ne_underscore_of_ofNat {code : Nat} (h : code ≠ 0x5F) : Char.ofNat code ≠ '_' := by
  by_cases hvalid : code.isValidChar
  · intro he
    have hcode : (Char.ofNat code).toNat = code := by
      rw [Char.ofNat, dif_pos hvalid]
      rfl
    rw [he] at hcode
    exact h hcode.symm
  · rw [Char.ofNat, dif_neg hvalid]
    decide

-- The run has no underscore among its images.
def CaseRun.spares (run : CaseRun) : Bool :=
  0x5F < run.image || run.image + (run.run.last - run.run.first) < 0x5F

theorem CaseRun.lookup_ne_underscore {runs : List CaseRun} (h : runs.all spares = true)
    {c image : Char} (hl : lookup runs c = some image) : image ≠ '_' := by
  obtain ⟨run, hf, rfl⟩ := Option.map_eq_some_iff.mp hl
  have hhas := List.find?_some hf
  have hrun := List.all_eq_true.mp h run (List.mem_of_find?_eq_some hf)
  simp only [CodeRange.has, Bool.and_eq_true, decide_eq_true_eq] at hhas
  simp only [spares, Bool.or_eq_true, decide_eq_true_eq] at hrun
  refine ne_underscore_of_ofNat ?_
  omega

theorem notMem_upperOf {c : Char} (h : c ≠ '_') : '_' ∉ upperOf c := by
  unfold upperOf
  split
  · rename_i codes hl
    obtain ⟨before, after, htable, -⟩ := List.lookup_eq_some_iff.mp hl
    have hmem : (c.toNat, codes) ∈ upperExpansions := by simp [htable]
    have hall : upperExpansions.all (fun entry => entry.2.all (· != 0x5F)) = true := by
      decide +kernel
    have hcodes := List.all_eq_true.mp (List.all_eq_true.mp hall _ hmem)
    intro hm
    obtain ⟨code, hc, he⟩ := List.mem_map.mp hm
    exact ne_underscore_of_ofNat (by simpa using hcodes code hc) he
  · cases hl : CaseRun.lookup upperRuns c with
    | none => simpa using h.symm
    | some image =>
        have hne := CaseRun.lookup_ne_underscore (by decide +kernel) hl
        simpa using hne.symm

theorem count_upperOf (c : Char) : (upperOf c).count '_' = [c].count '_' := by
  by_cases h : c = '_'
  · subst h
    decide +kernel
  · rw [List.count_eq_zero_of_not_mem (notMem_upperOf h), List.count_singleton,
      if_neg (by simpa using h)]

theorem count_capitalize (word : List Char) :
    (capitalize word).count '_' = word.count '_' := by
  cases word with
  | nil => rfl
  | cons c rest =>
      rw [capitalize, List.count_append, count_upperOf, ← List.count_append]
      rfl

theorem capitalize_append_underscore (first second : List Char) :
    capitalize (first ++ '_' :: second) = capitalize first ++ '_' :: second := by
  cases first with
  | nil =>
      have hunderscore : upperOf '_' = ['_'] := by decide +kernel
      change upperOf '_' ++ second = '_' :: second
      rw [hunderscore]
      rfl
  | cons c rest => simp [capitalize]

end Text

namespace Identifier

-- The words that follow a word: a number after a number behind an underscore, all others with a
-- capital.
def spacedAfter (before : List Char) : List (List Char) → List Char
  | [] => []
  | word :: rest =>
    (if isNumber before && isNumber word then '_' :: word else Text.capitalize word) ++
      spacedAfter word rest

-- The words written as one, with an underscore between any two numbers that meet.
def joinSpaced : List (List Char) → List Char
  | [] => []
  | first :: rest => first ++ spacedAfter first rest

-- Three numbers meet among the words.
def ThreeMeet (row : List (List Char)) : Prop :=
  ∃ first second third, [first, second, third] <:+: row ∧ isNumber first = true ∧
    isNumber second = true ∧ isNumber third = true

-- The word is a number, and the first of the others is one too.
def Meets (before : List Char) (row : List (List Char)) : Prop :=
  isNumber before = true ∧ ∃ word rest, row = word :: rest ∧ isNumber word = true

variable {before first second : List Char} {row rest : List (List Char)}

theorem not_meets_nil : ¬Meets before [] := by
  rintro ⟨-, _, _, h, -⟩
  cases h

theorem meets_cons_iff : Meets before (first :: rest) ↔
    isNumber before = true ∧ isNumber first = true := by
  simp [Meets]

theorem not_threeMeet_nil : ¬ThreeMeet [] := by
  rintro ⟨_, _, _, h, -⟩
  cases List.eq_nil_of_infix_nil h

theorem threeMeet_cons_iff : ThreeMeet (first :: rest) ↔
    (isNumber first = true ∧ ∃ second others, rest = second :: others ∧ Meets second others) ∨
      ThreeMeet rest := by
  constructor
  · rintro ⟨a, b, c, hinfix, ha, hb, hc⟩
    rcases List.infix_cons_iff.mp hinfix with ⟨tail, heq⟩ | hinfix
    · cases heq
      exact .inl ⟨ha, b, c :: tail, rfl, hb, c, tail, rfl, hc⟩
    · exact .inr ⟨a, b, c, hinfix, ha, hb, hc⟩
  · rintro (⟨ha, b, _, rfl, hb, c, tail, rfl, hc⟩ | ⟨a, b, c, hinfix, hnumbers⟩)
    · exact ⟨first, b, c, ⟨[], tail, rfl⟩, ha, hb, hc⟩
    · exact ⟨a, b, c, hinfix.trans (List.suffix_cons first rest).isInfix, hnumbers⟩

theorem not_threeMeet_singleton : ¬ThreeMeet [first] := by
  rw [threeMeet_cons_iff]
  rintro (⟨-, _, _, h, -⟩ | h)
  · cases h
  · exact not_threeMeet_nil h

theorem threeMeet_of_numbers (hf : isNumber first = true) (hs : isNumber second = true) :
    ThreeMeet (first :: second :: rest) ↔ ThreeMeet rest ∨ Meets second rest := by
  rw [threeMeet_cons_iff, threeMeet_cons_iff]
  constructor
  · rintro (⟨-, _, _, heq, hmeets⟩ | ⟨-, third, _, rfl, hthird, -⟩ | hthree)
    · cases heq
      exact .inr hmeets
    · exact .inr (meets_cons_iff.mpr ⟨hs, hthird⟩)
    · exact .inl hthree
  · rintro (hthree | hmeets)
    · exact .inr (.inr hthree)
    · exact .inl ⟨hf, second, rest, rfl, hmeets⟩

theorem threeMeet_of_apart (h : ¬(isNumber first = true ∧ isNumber second = true)) :
    ThreeMeet (first :: second :: rest) ↔ ThreeMeet (second :: rest) := by
  rw [threeMeet_cons_iff, or_iff_right]
  rintro ⟨hfirst, _, _, heq, hmeets⟩
  cases heq
  exact h ⟨hfirst, hmeets.1⟩

theorem spacedAfter_of_numbers (hb : isNumber before = true) (hf : isNumber first = true) :
    spacedAfter before (first :: rest) = '_' :: first ++ spacedAfter first rest := by
  rw [spacedAfter, hb, hf]
  rfl

theorem spacedAfter_of_apart (h : ¬(isNumber before = true ∧ isNumber first = true)) :
    spacedAfter before (first :: rest) = Text.capitalize first ++ spacedAfter first rest := by
  rw [spacedAfter, if_neg (by simpa using h)]

-- While no three numbers meet, pairs are all there is.
theorem flatMap_joinNumbers (hthree : ¬ThreeMeet row) (hmeets : ¬Meets before row) :
    (joinNumbers row).flatMap Text.capitalize = spacedAfter before row := by
  fun_induction joinNumbers row generalizing before with
  | case1 first second rest hpair ih =>
      rw [Bool.and_eq_true] at hpair
      rw [threeMeet_of_numbers hpair.1 hpair.2, not_or] at hthree
      rw [meets_cons_iff] at hmeets
      rw [List.flatMap_cons, Text.capitalize_append_underscore, ih hthree.1 hthree.2,
        spacedAfter_of_apart hmeets, spacedAfter_of_numbers hpair.1 hpair.2, List.append_assoc]
  | case2 first second rest hapart ih =>
      rw [Bool.and_eq_true] at hapart
      rw [threeMeet_of_apart hapart] at hthree
      rw [meets_cons_iff] at hmeets
      rw [List.flatMap_cons, ih hthree (mt meets_cons_iff.mp hapart), spacedAfter_of_apart hmeets]
  | case3 word =>
      rw [meets_cons_iff] at hmeets
      rw [spacedAfter_of_apart hmeets]
      rfl
  | case4 => rfl

theorem count_spacedAfter_cons : (spacedAfter before (first :: rest)).count '_' =
    (if isNumber before && isNumber first then 1 else 0) + first.count '_' +
      (spacedAfter first rest).count '_' := by
  rw [spacedAfter, List.count_append]
  split
  · rw [List.count_cons_self, Nat.add_comm 1]
  · rw [Text.count_capitalize, Nat.zero_add]

-- Every underscore of a pair is one that should be there. Where three numbers meet, one is missing.
theorem count_joinNumbers_lt (h : ThreeMeet row ∨ Meets before row) :
    ((joinNumbers row).flatMap Text.capitalize).count '_' <
      (spacedAfter before row).count '_' := by
  have hle {before : List Char} {row : List (List Char)}
      (ih : ThreeMeet row ∨ Meets before row →
        ((joinNumbers row).flatMap Text.capitalize).count '_' <
          (spacedAfter before row).count '_') :
      ((joinNumbers row).flatMap Text.capitalize).count '_' ≤
        (spacedAfter before row).count '_' := by
    by_cases hwords : ThreeMeet row ∨ Meets before row
    · exact Nat.le_of_lt (ih hwords)
    · rw [not_or] at hwords
      rw [flatMap_joinNumbers hwords.1 hwords.2]
  fun_induction joinNumbers row generalizing before with
  | case1 first second rest hpair ih =>
      have hrest := hle (@ih second)
      have hnumbers := Bool.and_eq_true_iff.mp hpair
      rw [threeMeet_of_numbers hnumbers.1 hnumbers.2] at h
      rw [List.flatMap_cons, Text.capitalize_append_underscore, List.count_append,
        List.count_append, Text.count_capitalize, List.count_cons_self, count_spacedAfter_cons,
        count_spacedAfter_cons, if_pos hpair]
      rcases h with hlater | hmeets
      · have hlt := ih hlater
        omega
      · rw [if_pos (by simpa using meets_cons_iff.mp hmeets)]
        omega
  | case2 first second rest hapart ih =>
      have hrest := hle (@ih first)
      rw [Bool.and_eq_true] at hapart
      rw [threeMeet_of_apart hapart] at h
      rw [List.flatMap_cons, List.count_append, Text.count_capitalize, count_spacedAfter_cons]
      rcases h with hthree | hmeets
      · have hlt := @ih first (.inl hthree)
        omega
      · rw [if_pos (by simpa using meets_cons_iff.mp hmeets)]
        omega
  | case3 word =>
      have hmeets := h.resolve_left not_threeMeet_singleton
      rw [List.flatMap_cons, List.count_append, Text.count_capitalize, count_spacedAfter_cons,
        if_pos (by simpa using meets_cons_iff.mp hmeets)]
      simp [spacedAfter]
  | case4 => exact absurd h (by simp [not_threeMeet_nil, not_meets_nil])

theorem flatMap_joinNumbers_eq_iff : (joinNumbers row).flatMap Text.capitalize =
    spacedAfter before row ↔ ¬(ThreeMeet row ∨ Meets before row) := by
  constructor
  · intro heq h
    have hlt := count_joinNumbers_lt h
    rw [heq] at hlt
    exact Nat.lt_irrefl _ hlt
  · intro h
    rw [not_or] at h
    exact flatMap_joinNumbers h.1 h.2

theorem joinCapitalized_eq_iff (row : List (List Char)) :
    joinCapitalized (joinNumbers row) = joinSpaced row ↔ ¬ThreeMeet row := by
  fun_cases joinNumbers row with
  | case1 first second rest hpair =>
      rw [Bool.and_eq_true] at hpair
      rw [threeMeet_of_numbers hpair.1 hpair.2, ← flatMap_joinNumbers_eq_iff, joinCapitalized,
        joinSpaced, spacedAfter_of_numbers hpair.1 hpair.2, List.append_assoc,
        List.append_right_inj, List.append_right_inj]
  | case2 first second rest hapart =>
      rw [Bool.and_eq_true] at hapart
      rw [threeMeet_of_apart hapart, joinCapitalized, joinSpaced, List.append_right_inj,
        flatMap_joinNumbers_eq_iff, or_iff_left (mt meets_cons_iff.mp hapart)]
  | case3 word => simp [joinCapitalized, joinSpaced, spacedAfter, not_threeMeet_singleton]
  | case4 => simp [joinCapitalized, joinSpaced, not_threeMeet_nil]

theorem ofDelimiters_spaced_iff (delimiters : List Char) (name : String) (hd : delimiters ≠ [])
    (hn : name.toList.any Text.isAlphanumeric = true) :
    Normalizer.ofDelimiters delimiters name =
        String.ofList (joinSpaced (words delimiters name.toList)) ↔
      ∀ first second third, [first, second, third] <:+: words delimiters name.toList →
        ¬(isNumber first = true ∧ isNumber second = true ∧ isNumber third = true) := by
  have hcamel : Normalizer.ofDelimiters delimiters name =
      String.ofList (joinCapitalized (joinNumbers (words delimiters name.toList))) := by
    rw [Normalizer.ofDelimiters, if_neg (by simpa using hd), camelCase, if_pos hn]
  rw [hcamel, String.ofList_inj, joinCapitalized_eq_iff, ThreeMeet]
  simp only [not_exists, not_and]

-- Two numbers meet in a version, and three in a date.
theorem ofDelimiters_spaced_iff_version :
    (∀ first second third, [first, second, third] <:+: words ['_'] "v_1_2".toList →
      ¬(isNumber first = true ∧ isNumber second = true ∧ isNumber third = true)) ∧
      Normalizer.ofDelimiters ['_'] "v_1_2" = "v1_2" ∧
      Normalizer.ofDelimiters ['-'] "2024-05-17" = "2024_0517" ∧
      String.ofList (joinSpaced (words ['-'] "2024-05-17".toList)) = "2024_05_17" ∧
      ¬∀ first second third, [first, second, third] <:+: words ['-'] "2024-05-17".toList →
        ¬(isNumber first = true ∧ isNumber second = true ∧ isNumber third = true) := by
  have hversion := ofDelimiters_spaced_iff ['_'] "v_1_2" (by simp) (by decide +kernel)
  have hdate := ofDelimiters_spaced_iff ['-'] "2024-05-17" (by simp) (by decide +kernel)
  have hjoined : Normalizer.ofDelimiters ['-'] "2024-05-17" = "2024_0517" := by decide +kernel
  have hspaced : String.ofList (joinSpaced (words ['-'] "2024-05-17".toList)) = "2024_05_17" := by
    decide +kernel
  refine ⟨hversion.mp (by decide +kernel), by decide +kernel, hjoined, hspaced, fun hnone => ?_⟩
  have heq := hdate.mpr hnone
  rw [hjoined, hspaced] at heq
  exact absurd heq (by decide)

theorem not_spaced_row : ¬∀ delimiters name, delimiters ≠ [] →
    name.toList.any Text.isAlphanumeric = true →
      Normalizer.ofDelimiters delimiters name =
        String.ofList (joinSpaced (words delimiters name.toList)) := by
  intro h
  exact absurd (h ['_'] "1_2_3" (by simp) (by decide +kernel)) (by decide +kernel)

end Identifier

end FrameMarkers
