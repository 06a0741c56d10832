import FrameMarkers.Proofs.Identifier.Renderable

namespace FrameMarkers

namespace Identifier

-- Only white space is left of the text in an identifier.
def Fades (text : List Char) : Prop :=
  ∀ c ∈ text, Text.whiteSpace.has c ∨ c ∈ ['.', ';', '\\']

instance (text : List Char) : Decidable (Fades text) :=
  List.decidableBAll (fun c => Text.whiteSpace.has c ∨ c ∈ ['.', ';', '\\']) text

theorem whiteSpace_substitute_iff {c : Char} :
    Text.whiteSpace.has (substitute c) ↔ Text.whiteSpace.has c ∨ c ∈ ['.', ';', '\\'] := by
  unfold substitute
  split
  case h_12 => simp_all
  all_goals decide

-- A colon leaves a dash.
theorem isBlank_sanitize_iff (text : List Char) : Text.isBlank (sanitize text) ↔ Fades text := by
  have hdash {rest tail : List Char} :
      Text.isBlank (' ' :: '-' :: ' ' :: sanitize rest) ↔ Fades (':' :: tail) := by
    refine iff_of_false (fun h => ?_) fun h => ?_
    · exact absurd (List.all_eq_true.mp h '-' (by simp)) (by decide)
    · exact absurd (h ':' List.mem_cons_self) (by decide)
  fun_induction sanitize text with
  | case1 => exact iff_of_true rfl fun _ hc => absurd hc List.not_mem_nil
  | case2 rest ih => exact hdash
  | case3 rest ih => exact hdash
  | case4 rest _ _ ih => exact hdash
  | case5 c rest _ _ _ ih =>
      rw [Text.isBlank, List.all_cons, Bool.and_eq_true, whiteSpace_substitute_iff, Fades,
        List.forall_mem_cons]
      exact and_congr_right fun _ => ih

theorem sanitize_eq_nil_iff {text : List Char} : sanitize text = [] ↔ text = [] := by
  fun_cases sanitize text <;> simp

-- A bare name has a letter or a digit.
theorem not_fades_of_bare {name : String} (h : needsQuoting name = false) : ¬Fades name.toList := by
  obtain ⟨hchars, -, ⟨c, hc, -⟩, -⟩ := needsQuoting_eq_false_iff.mp h
  intro hfades
  have hseparator : Text.separators.has c := by
    rcases hfades c hc with hspace | hstop
    · exact Text.separators_has_of_whiteSpace hspace
    · have hall : ['.', ';', '\\'].all Text.separators.has = true := by decide
      exact List.all_eq_true.mp hall c hstop
  exact ne_true_of_eq_false (not_isBareChar_of_separator hseparator) (hchars c hc)

theorem isBlank_ofName_iff (name : String) :
    Text.isBlank (ofName name).text.toList ↔ Fades name.toList := by
  unfold ofName
  split
  · rw [String.toList_ofList]
    exact isBlank_sanitize_iff name.toList
  · rename_i hbare
    have hnot := not_fades_of_bare (eq_false_of_ne_true hbare)
    refine iff_of_false (fun hblank => hnot fun c hc => ?_) hnot
    exact .inl (List.all_eq_true.mp hblank c hc)

theorem ofName_text_ne_empty {name : String} (h : Text.isBlank name.toList = false) :
    (ofName name).text ≠ "" := by
  have hne : name ≠ "" := by
    rintro rfl
    contradiction
  unfold ofName
  split
  · intro hempty
    have hnil := congrArg String.toList hempty
    rw [String.toList_ofList] at hnil
    exact hne (String.toList_eq_nil_iff.mp (sanitize_eq_nil_iff.mp hnil))
  · exact hne

end Identifier

namespace NamePool.Derived

variable {proposed name : String}

theorem eq_of_isBlank (h : Derived proposed name) (hblank : Text.isBlank name.toList) :
    name = proposed := by
  obtain ⟨digits, hdigits, hname⟩ := h.exists_digits
  cases digits with
  | nil =>
      rw [List.append_nil] at hname
      exact String.toList_injective hname
  | cons digit rest =>
      have hmem : digit ∈ name.toList := by simp [hname]
      have hspace := Text.separators_has_of_whiteSpace (List.all_eq_true.mp hblank digit hmem)
      have hword := Identifier.isWordChar_of_isDigit (hdigits digit List.mem_cons_self)
      rw [Text.not_isWordChar_of_separator hspace] at hword
      contradiction

theorem ne_empty (h : Derived proposed name) (hne : proposed ≠ "") : name ≠ "" := by
  rintro rfl
  exact hne (h.eq_of_isBlank rfl).symm

end NamePool.Derived

end FrameMarkers
