import FrameMarkers.Synthesis.Naming

namespace FrameMarkers

namespace Text

-- No code point lies in both ranges.
def CodeRange.apart (first second : CodeRange) : Bool :=
  first.last < second.first || second.last < first.first

theorem CodeRange.not_has_of_apart {first second : CodeRange} (h : first.apart second) {c : Char}
    (hc : first.has c) : second.has c = false := by
  simp only [apart, has, Bool.or_eq_true, Bool.and_eq_true, decide_eq_true_eq] at h hc
  refine eq_false_of_ne_true fun hs => ?_
  simp only [has, Bool.and_eq_true, decide_eq_true_eq] at hs
  omega

def CodeTable.apart (first second : CodeTable) : Bool :=
  first.all fun range => second.all range.apart

theorem CodeTable.not_has_of_apart {first second : CodeTable} (h : first.apart second) {c : Char}
    (hc : first.has c) : second.has c = false := by
  obtain ⟨range, hr, hrange⟩ := List.any_eq_true.mp hc
  refine List.any_eq_false.mpr fun other ho => ?_
  have hapart := List.all_eq_true.mp (List.all_eq_true.mp h range hr) other ho
  rw [CodeRange.not_has_of_apart hapart hrange]
  exact Bool.false_ne_true

theorem whiteSpace_apart_alphabetic : whiteSpace.apart alphabetic := by
  decide +kernel

theorem whiteSpace_apart_numeric : whiteSpace.apart numeric := by
  decide +kernel

theorem not_isAlphanumeric_of_whiteSpace {c : Char} (h : whiteSpace.has c) :
    isAlphanumeric c = false := by
  rw [isAlphanumeric, isNumeric, CodeTable.not_has_of_apart whiteSpace_apart_alphabetic h,
    CodeTable.not_has_of_apart whiteSpace_apart_numeric h]
  rfl

end Text

theorem Normalizer.ofDelimiters_of_blank (delimiters : List Char) {name : String}
    (h : Text.isBlank name.toList) : ofDelimiters delimiters name = name := by
  have hnone : name.toList.any Text.isAlphanumeric = false := by
    refine List.any_eq_false.mpr fun c hc => ?_
    rw [Text.not_isAlphanumeric_of_whiteSpace (List.all_eq_true.mp h c hc)]
    exact Bool.false_ne_true
  unfold ofDelimiters
  split
  · rfl
  · simp [Identifier.camelCase, hnone]

namespace Naming

-- Nothing is made of nothing: the normalized form of a blank name is blank.
def KeepsBlank (naming : Naming) : Prop :=
  ∀ name : String, Text.isBlank name.toList → Text.isBlank (naming.normalize name).toList

theorem keepsBlank_ofDelimiters (delimiters : List Char) (onConflict : OnConflict) :
    KeepsBlank ⟨.ofDelimiters delimiters, onConflict⟩ := by
  intro name h
  change Text.isBlank (Normalizer.ofDelimiters delimiters name).toList
  rwa [Normalizer.ofDelimiters_of_blank delimiters h]

variable {naming : Naming} {scope : Scope} {name : String} {shape : Column} {type : FieldType}
  {used : NamePool} {error : Error}

theorem isBlank_source (h : naming.KeepsBlank) :
    Text.isBlank (naming.source name).toList = Text.isBlank name.toList := by
  unfold source
  dsimp only
  split
  · rfl
  · rename_i hn
    rw [eq_false_of_ne_true hn, eq_comm]
    exact eq_false_of_ne_true fun hname => hn (h name hname)

theorem identify_error_iff (h : naming.KeepsBlank) (hs : naming.onConflict = .suffix) :
    naming.identify scope name used = .error error ↔
      Text.isBlank name.toList = true ∧ error = .blankColumn name := by
  rw [identify, isBlank_source h, hs]
  by_cases hb : Text.isBlank name.toList
  · simp [hb, eq_comm]
  · rw [if_neg hb]
    dsimp only
    split <;> simp [hb]

-- When identifiers are kept apart by numbers, only a blank column cannot be declared.
theorem declare_error_iff (h : naming.KeepsBlank) (hs : naming.onConflict = .suffix) :
    naming.declare scope name shape type used = .error error ↔
      scope.inherited? name = none ∧ Text.isBlank name.toList = true ∧
        error = .blankColumn name := by
  unfold declare
  cases scope.inherited? name with
  | some field =>
      dsimp only
      split <;> simp
  | none =>
      rw [← identify_error_iff h hs]
      cases naming.identify scope name used <;> simp [bind, Except.bind, pure, Except.pure]

end Naming

end FrameMarkers
