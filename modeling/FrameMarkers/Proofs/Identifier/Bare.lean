import FrameMarkers.Identifier.Basic
import FrameMarkers.Proofs.Identifier.Blank
import Mathlib.Data.List.Basic

namespace FrameMarkers

namespace Text

-- White space and the punctuation of the basic alphabet, the underscore apart.
def separators : CodeTable :=
  whiteSpace ++
    [⟨0x21, 0x2F, 1⟩, ⟨0x3A, 0x40, 1⟩, ⟨0x5B, 0x5E, 1⟩, ⟨0x60, 0x60, 1⟩, ⟨0x7B, 0x7E, 1⟩]

theorem separators_has_of_whiteSpace {c : Char} (h : whiteSpace.has c) : separators.has c := by
  rw [separators, CodeTable.has, List.any_append]
  exact Bool.or_eq_true_iff.mpr (.inl h)

theorem not_isWordChar_of_separator {c : Char} (h : separators.has c) :
    Identifier.isWordChar c = false := by
  have hnot {table : CodeTable} (ha : separators.apart table) : table.has c = false :=
    CodeTable.not_has_of_apart ha h
  rw [Identifier.isWordChar, isCasedOrModifierLetter, isDecimalDigit, hnot (by decide +kernel),
    hnot (by decide +kernel), hnot (by decide +kernel), hnot (by decide +kernel),
    hnot (by decide +kernel)]
  rfl

end Text

namespace Identifier

-- The characters that bare names are made of.
def isBareChar (c : Char) : Bool :=
  c == '_' || isWordChar c

theorem not_isBareChar_of_separator {c : Char} (h : Text.separators.has c) :
    isBareChar c = false := by
  have hne : c ≠ '_' := by
    rintro rfl
    exact absurd h (by decide)
  rw [isBareChar, Text.not_isWordChar_of_separator h, beq_false_of_ne hne]
  rfl

theorem not_isBareChar_of_quoting {c : Char} (h : c ∈ quotingChars) : isBareChar c = false := by
  have hall : quotingChars.all Text.separators.has = true := by decide
  exact not_isBareChar_of_separator (List.all_eq_true.mp hall c h)

theorem not_isBareChar_of_forbidden {c : Char} (h : c ∈ forbiddenChars) : isBareChar c = false := by
  have hall : forbiddenChars.all Text.separators.has = true := by decide
  exact not_isBareChar_of_separator (List.all_eq_true.mp hall c h)

-- What these tests ask rules out blank names and the characters that force quoting.
theorem needsQuoting_eq_false_iff {name : String} :
    needsQuoting name = false ↔
      (∀ c ∈ name.toList, isBareChar c) ∧ name.toList.head?.any Text.isDecimalDigit = false ∧
        (∃ c ∈ name.toList, c ≠ '_') ∧ isReserved name = false := by
  have hbare (c : Char) : ¬(c != '_' && !isWordChar c) = true ↔ isBareChar c := by
    simp [isBareChar, or_iff_not_imp_left]
  have hword (c : Char) : ¬(c == '_') = true ↔ c ≠ '_' := by simp
  simp only [needsQuoting, Bool.or_eq_false_iff, List.any_eq_false, List.all_eq_false, hbare, hword]
  constructor
  · rintro ⟨⟨⟨⟨⟨-, hhead⟩, -⟩, hreserved⟩, hletter⟩, hchars⟩
    exact ⟨hchars, hhead, hletter, hreserved⟩
  · rintro ⟨hchars, hhead, ⟨c, hc, hne⟩, hreserved⟩
    refine ⟨⟨⟨⟨⟨?_, hhead⟩, fun other ho hquoting => ?_⟩, hreserved⟩, c, hc, hne⟩, hchars⟩
    · refine List.all_eq_false.mpr ⟨c, hc, fun hspace => ?_⟩
      have hnot := not_isBareChar_of_separator (Text.separators_has_of_whiteSpace hspace)
      exact ne_true_of_eq_false hnot (hchars c hc)
    · have hnot := not_isBareChar_of_quoting (List.contains_iff_mem.mp hquoting)
      exact ne_true_of_eq_false hnot (hchars other ho)

-- Of the tests, the one for reserved words alone looks at the whole name.
theorem needsQuoting_of_append {name longer : String} {tail : List Char}
    (h : needsQuoting name = false) (htail : ∀ c ∈ tail, isBareChar c)
    (hl : longer.toList = name.toList ++ tail) : needsQuoting longer = isReserved longer := by
  obtain ⟨hchars, hhead, ⟨c, hc, hne⟩, -⟩ := needsQuoting_eq_false_iff.mp h
  cases hreserved : isReserved longer with
  | true =>
      refine eq_true_of_ne_false fun hbare => ?_
      rw [(needsQuoting_eq_false_iff.mp hbare).2.2.2] at hreserved
      contradiction
  | false =>
      refine needsQuoting_eq_false_iff.mpr ?_
      rw [hl, List.head?_append_of_ne_nil _ (List.ne_nil_of_mem hc)]
      exact ⟨List.forall_mem_append.mpr ⟨hchars, htail⟩, hhead,
        ⟨c, List.mem_append_left tail hc, hne⟩, hreserved⟩

end Identifier

end FrameMarkers
