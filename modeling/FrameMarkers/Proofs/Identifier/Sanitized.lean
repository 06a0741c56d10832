import FrameMarkers.Proofs.Identifier.Joined
import FrameMarkers.Proofs.Identifier.Substitutions

namespace FrameMarkers.Identifier

theorem substitute_eq_self_of_allowed {c : Char} (h : c ∉ forbiddenChars) : substitute c = c := by
  unfold substitute
  split
  case h_12 => rfl
  all_goals exact absurd (by decide) h

theorem sanitize_eq_self_of_allowed {text : List Char} (h : ∀ c ∈ text, c ∉ forbiddenChars) :
    sanitize text = text := by
  fun_induction sanitize text with
  | case1 => rfl
  | case2 rest ih => exact absurd (by decide) (h ':' List.mem_cons_self)
  | case3 rest ih => exact absurd (by decide) (h ':' List.mem_cons_self)
  | case4 rest _ _ ih => exact absurd (by decide) (h ':' List.mem_cons_self)
  | case5 c rest _ _ _ ih =>
      obtain ⟨hc, hrest⟩ := List.forall_mem_cons.mp h
      rw [substitute_eq_self_of_allowed hc, ih hrest]

-- Whatever is put in, forces quoting.
theorem substitute_eq_self_of_bare {c : Char} (h : isBareChar (substitute c)) :
    substitute c = c := by
  have hnot {d : Char} (hd : d ∈ quotingChars) : ¬isBareChar d :=
    ne_true_of_eq_false (not_isBareChar_of_quoting hd)
  unfold substitute at h ⊢
  split at h
  case h_12 => rfl
  all_goals exact absurd h (hnot (by decide))

theorem sanitize_eq_self_of_bare {text : List Char} (h : ∀ c ∈ sanitize text, isBareChar c) :
    sanitize text = text := by
  have hdash {rest : List Char} (hbare : ∀ c ∈ ' ' :: '-' :: ' ' :: sanitize rest, isBareChar c) :
      False := by
    have hspace := hbare ' ' List.mem_cons_self
    rw [not_isBareChar_of_quoting (by decide)] at hspace
    contradiction
  fun_induction sanitize text with
  | case1 => rfl
  | case2 rest ih => exact (hdash h).elim
  | case3 rest ih => exact (hdash h).elim
  | case4 rest _ _ ih => exact (hdash h).elim
  | case5 c rest _ _ _ ih =>
      obtain ⟨hc, hrest⟩ := List.forall_mem_cons.mp h
      rw [substitute_eq_self_of_bare hc, ih hrest]

-- A name that must be quoted does not become bare.
theorem needsQuoting_sanitize {name : String} (h : needsQuoting name = true) :
    needsQuoting (String.ofList (sanitize name.toList)) = true := by
  refine eq_true_of_ne_false fun hbare => ?_
  have hchars := (needsQuoting_eq_false_iff.mp hbare).1
  rw [String.toList_ofList] at hchars
  rw [sanitize_eq_self_of_bare hchars, String.ofList_toList, h] at hbare
  contradiction

theorem ofName_of_quoted {name : String} (h : needsQuoting name = true) :
    ofName name = ⟨String.ofList (sanitize name.toList), true⟩ := by
  rw [ofName, if_pos h]

theorem ofName_text (name : String) : ofName (ofName name).text = ofName name := by
  cases h : needsQuoting name with
  | false => rw [ofName_of_bare h, ofName_of_bare h]
  | true =>
      have hagain : sanitize (sanitize name.toList) = sanitize name.toList :=
        sanitize_eq_self_of_allowed (sanitize_not_forbidden name.toList)
      rw [ofName_of_quoted h, ofName_of_quoted (needsQuoting_sanitize h), String.toList_ofList,
        hagain]

-- The conditions on a bare name, by the categories of its characters.
structure Bare (name : String) : Prop where
  nonempty : name ≠ ""
  chars : ∀ c ∈ name.toList, c = '_' ∨ Text.uppercaseLetters.has c ∨ Text.lowercaseLetters.has c ∨
    Text.titlecaseLetters.has c ∨ Text.modifierLetters.has c ∨ Text.decimalDigits.has c
  first : ∀ c, name.toList.head? = some c → Text.decimalDigits.has c = false
  notUnderscores : ¬∀ c ∈ name.toList, c = '_'
  notHard : name ∉ hardKeywords
  notModifier : name ∉ modifierKeywords

theorem isBareChar_iff {c : Char} :
    isBareChar c ↔ c = '_' ∨ Text.uppercaseLetters.has c ∨ Text.lowercaseLetters.has c ∨
      Text.titlecaseLetters.has c ∨ Text.modifierLetters.has c ∨ Text.decimalDigits.has c := by
  simp only [isBareChar, isWordChar, Text.isCasedOrModifierLetter, Text.isDecimalDigit,
    Bool.or_eq_true, beq_iff_eq, or_assoc]

theorem needsQuoting_eq_false_iff_bare {name : String} :
    needsQuoting name = false ↔ Bare name := by
  have hfirst : name.toList.head?.any Text.isDecimalDigit = false ↔
      ∀ c, name.toList.head? = some c → Text.decimalDigits.has c = false := by
    cases name.toList.head? <;> simp [Text.isDecimalDigit]
  have hreserved : isReserved name = false ↔ name ∉ hardKeywords ∧ name ∉ modifierKeywords := by
    simp [isReserved]
  rw [needsQuoting_eq_false_iff, hfirst, hreserved]
  simp only [isBareChar_iff]
  constructor
  · rintro ⟨hchars, hdigit, ⟨c, hc, hne⟩, hhard, hmodifier⟩
    refine ⟨?_, hchars, hdigit, fun hall => hne (hall c hc), hhard, hmodifier⟩
    rintro rfl
    exact absurd hc (by simp)
  · intro h
    have hother := h.notUnderscores
    push Not at hother
    exact ⟨h.chars, h.first, hother, h.notHard, h.notModifier⟩

theorem ofName_exact (name : String) :
    ((ofName name).quoted = false ↔ Bare name) ∧
      ((ofName name).quoted = false → (ofName name).text = name) ∧
      ((ofName name).quoted = true → (ofName name).text = String.ofList (substituted name.toList)) ∧
      ofName (ofName name).text = ofName name := by
  rw [quoted_ofName, substituted_eq_sanitize]
  refine ⟨needsQuoting_eq_false_iff_bare, fun h => ?_, fun h => ?_, ofName_text name⟩
  · rw [ofName_of_bare h]
  · rw [ofName_of_quoted h]

example : ofName "a::b: c" = ⟨"a - b - c", true⟩ := by
  decide +kernel

end FrameMarkers.Identifier
