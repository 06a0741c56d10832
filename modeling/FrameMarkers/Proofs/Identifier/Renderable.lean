import FrameMarkers.Proofs.Identifier.Bare
import FrameMarkers.Proofs.Identifier.Pool
import FrameMarkers.Synthesis.Naming

namespace FrameMarkers

namespace Identifier

-- A declaration can write the identifier, either bare or quoted.
def Renderable (identifier : Identifier) : Prop :=
  (identifier.quoted = false ∧ needsQuoting identifier.text = false) ∨
    (identifier.quoted = true ∧ ∀ c ∈ identifier.text.toList, c ∉ forbiddenChars)

theorem substitute_not_forbidden {c : Char} (h : c ≠ ':') : substitute c ∉ forbiddenChars := by
  unfold substitute
  split
  case h_12 => simp_all [forbiddenChars]
  all_goals decide

-- A colon, with what it takes along, becomes three characters that are all allowed.
theorem sanitize_not_forbidden (text : List Char) : ∀ c ∈ sanitize text, c ∉ forbiddenChars := by
  have hdash : ∀ c ∈ [' ', '-', ' '], c ∉ forbiddenChars := by simp [forbiddenChars]
  have hcolon {rest : List Char} (ih : ∀ c ∈ sanitize rest, c ∉ forbiddenChars) :
      ∀ c ∈ ' ' :: '-' :: ' ' :: sanitize rest, c ∉ forbiddenChars := by
    intro c hc
    change c ∈ [' ', '-', ' '] ++ sanitize rest at hc
    rcases List.mem_append.mp hc with hc | hc
    · exact hdash c hc
    · exact ih c hc
  fun_induction sanitize text with
  | case1 => simp
  | case2 rest ih => exact hcolon ih
  | case3 rest ih => exact hcolon ih
  | case4 rest _ _ ih => exact hcolon ih
  | case5 c rest _ _ hne ih =>
      intro other ho
      rcases List.mem_cons.mp ho with rfl | ho
      · exact substitute_not_forbidden hne
      · exact ih other ho

theorem renderable_ofName (name : String) : (ofName name).Renderable := by
  unfold ofName
  split
  · refine .inr ⟨rfl, fun c hc => ?_⟩
    rw [String.toList_ofList] at hc
    exact sanitize_not_forbidden name.toList c hc
  · exact .inl ⟨rfl, eq_false_of_ne_true ‹_›⟩

theorem not_isDigit_of_forbidden : ∀ c ∈ forbiddenChars, c.isDigit = false := by
  have hall : forbiddenChars.all (!·.isDigit) = true := by decide
  simpa using hall

theorem not_isDigit_of_reserved {word : String} (h : isReserved word = true) :
    ∀ c ∈ word.toList, c.isDigit = false := by
  have hall : (hardKeywords ++ modifierKeywords).all
      (fun keyword => keyword.toList.all (!·.isDigit)) = true := by decide +kernel
  have hword : word ∈ hardKeywords ++ modifierKeywords := by simpa [isReserved] using h
  simpa using List.all_eq_true.mp hall word hword

theorem isWordChar_of_isDigit {c : Char} (h : c.isDigit = true) : isWordChar c = true := by
  have hc : 48 ≤ c.toNat ∧ c.toNat ≤ 57 := by
    simpa [Char.isDigit, Char.le_def, UInt32.le_iff_toNat_le] using h
  have hrange : (Text.CodeRange.mk 0x30 0x39 1).has c = true := by
    simp [Text.CodeRange.has, hc, Nat.mod_one]
  have hdigit : Text.isDecimalDigit c = true := by
    rw [Text.isDecimalDigit, Text.decimalDigits, Text.CodeTable.has, List.any_cons, hrange,
      Bool.true_or]
  rw [isWordChar, hdigit, Bool.or_true]

theorem not_isReserved_of_append_digits {name longer : String} {digits : List Char}
    (hdigits : ∀ c ∈ digits, c.isDigit = true) (hl : longer.toList = name.toList ++ digits)
    (h : isReserved name = false) : isReserved longer = false := by
  cases digits with
  | nil =>
      rw [List.append_nil] at hl
      rwa [String.toList_injective hl]
  | cons digit rest =>
      refine eq_false_of_ne_true fun hr => ?_
      have hmem : digit ∈ longer.toList := by simp [hl]
      have hnot := not_isDigit_of_reserved hr digit hmem
      exact ne_true_of_eq_false hnot (hdigits digit List.mem_cons_self)

theorem not_needsQuoting_of_append_digits {name longer : String} {digits : List Char}
    (hdigits : ∀ c ∈ digits, c.isDigit = true) (hl : longer.toList = name.toList ++ digits)
    (h : needsQuoting name = false) : needsQuoting longer = false := by
  have hbare : ∀ c ∈ digits, isBareChar c := fun c hc => by
    rw [isBareChar, isWordChar_of_isDigit (hdigits c hc), Bool.or_true]
  rw [needsQuoting_of_append h hbare hl]
  exact not_isReserved_of_append_digits hdigits hl (needsQuoting_eq_false_iff.mp h).2.2.2

-- A number behind the text does not change how the identifier is to be written.
theorem Renderable.of_derived {identifier : Identifier} {text : String}
    (h : identifier.Renderable) (hd : NamePool.Derived identifier.text text) :
    Renderable { identifier with text } := by
  rcases h with ⟨hbare, hneeds⟩ | ⟨hquoted, hallowed⟩
  · obtain ⟨digits, hdigits, hl⟩ := hd.exists_digits
    exact .inl ⟨hbare, not_needsQuoting_of_append_digits hdigits hl hneeds⟩
  · refine .inr ⟨hquoted, fun c hc hf => ?_⟩
    exact hallowed c (hd.mem_of_mem (not_isDigit_of_forbidden c hf) hc) hf

end Identifier

namespace Naming

variable {naming : Naming} {scope : Scope} {name : String} {shape : Column} {type : FieldType}
  {used used' : NamePool} {identifier : Identifier} {field : Field}

-- The identifier is one made for the column. It is the one that the column's name leads to, unless
-- that is in use, and then has a number.
structure Identifies (naming : Naming) (name : String) (used : NamePool) (identifier : Identifier) :
    Prop where
  visible : Text.isBlank (naming.source name).toList = false
  quoted : identifier.quoted = (Identifier.ofName (naming.source name)).quoted
  derived : NamePool.Derived (Identifier.ofName (naming.source name)).text identifier.text
  taken : identifier.text = (Identifier.ofName (naming.source name)).text ∨
    used.contains (Identifier.ofName (naming.source name)).text

theorem identifies_of_identify (h : naming.identify scope name used = .ok (identifier, used')) :
    naming.Identifies name used identifier := by
  unfold identify at h
  dsimp only at h
  split at h
  · cases h
  · rename_i hvisible
    split at h
    · rename_i htaken
      split at h
      · cases h
      · cases h
        exact ⟨eq_false_of_ne_true hvisible, rfl, used.fresh_derived _, .inr htaken⟩
    · cases h
      exact ⟨eq_false_of_ne_true hvisible, rfl, .inl rfl, .inl rfl⟩

theorem Identifies.renderable (h : naming.Identifies name used identifier) :
    identifier.Renderable := by
  have hname := (Identifier.renderable_ofName (naming.source name)).of_derived h.derived
  rw [← h.quoted] at hname
  exact hname

-- An own field has an identifier made for its column, or that of an inherited field.
theorem declare_cases (h : naming.declare scope name shape type used = .ok (some field, used')) :
    (field.overrides = false ∧ naming.Identifies name used field.identifier) ∨
      (field.overrides = true ∧ ∃ parent ∈ scope.inherited,
        field.identifier = parent.identifier) := by
  unfold declare at h
  split at h
  · rename_i parent hbound
    split at h
    · cases h
    · cases h
      exact .inr ⟨rfl, parent, List.mem_of_find?_eq_some hbound, rfl⟩
  · cases hi : naming.identify scope name used with
    | error error =>
        rw [hi] at h
        cases h
    | ok result =>
        rw [hi] at h
        cases h
        exact .inl ⟨rfl, identifies_of_identify hi⟩

theorem identifies_of_declare
    (h : naming.declare scope name shape type used = .ok (some field, used'))
    (hnew : field.overrides = false) : naming.Identifies name used field.identifier := by
  rcases declare_cases h with ⟨-, hidentifies⟩ | ⟨hover, -⟩
  · exact hidentifies
  · rw [hover] at hnew
    contradiction

theorem renderable_of_declare
    (hinherited : ∀ parent ∈ scope.inherited, parent.identifier.Renderable)
    (h : naming.declare scope name shape type used = .ok (some field, used')) :
    field.identifier.Renderable := by
  rcases declare_cases h with ⟨-, hidentifies⟩ | ⟨-, parent, hp, hid⟩
  · exact hidentifies.renderable
  · rw [hid]
    exact hinherited parent hp

end Naming

end FrameMarkers
