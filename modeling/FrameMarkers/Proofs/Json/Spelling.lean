import FrameMarkers.Json.Printer
import FrameMarkers.Json.Token
import Mathlib.Data.List.TakeWhile

namespace FrameMarkers.Json

open Text (baseValue? scalarChar?)
open Quoted (isBody shortEscape? unescape)

-- How a control character is escaped.
def controlEscape (code : Nat) : List Char :=
  ['\\', 'u', '0', '0', Nat.digitChar (code / 16), Nat.digitChar (code % 16)]

theorem escapeChar_cases (c : Char) :
    (∃ e, escapeChar c = ['\\', e] ∧ e ≠ 'u' ∧ shortEscape? e = some c) ∨
      (escapeChar c = controlEscape c.toNat ∧ c.toNat < 0x20) ∨
      escapeChar c = [c] ∧ 0x20 ≤ c.toNat ∧ c ≠ '"' ∧ c ≠ '\\' := by
  unfold escapeChar
  split_ifs with hquote hslash hcontrol
  · subst hquote
    exact .inl ⟨_, rfl, by decide, rfl⟩
  · subst hslash
    exact .inl ⟨_, rfl, by decide, rfl⟩
  · exact .inr (.inl ⟨rfl, hcontrol⟩)
  · exact .inr (.inr ⟨rfl, Nat.le_of_not_lt hcontrol, hquote, hslash⟩)

theorem baseValue?_control : ∀ code < 0x20,
    baseValue? 16 ['0', '0', Nat.digitChar (code / 16), Nat.digitChar (code % 16)] =
      some code := by
  decide

theorem digitChar_control : ∀ code < 0x20,
    (Nat.digitChar (code / 16) ≠ '"' ∧ Nat.digitChar (code / 16) ≠ '\\') ∧
      Nat.digitChar (code % 16) ≠ '"' ∧ Nat.digitChar (code % 16) ≠ '\\' := by
  decide

theorem scalarChar?_control {c : Char} (h : c.toNat < 0x20) : scalarChar? c.toNat = some c := by
  rw [scalarChar?, if_pos (.inl (by omega)), Char.ofNat_toNat]

theorem unescape_escapeChar (c : Char) (rest : List Char) :
    unescape (escapeChar c ++ rest) = (unescape rest).map (c :: ·) := by
  rcases escapeChar_cases c with ⟨e, he, hu, hs⟩ | ⟨he, hc⟩ | ⟨he, hc, -, hslash⟩
  · rw [he, List.cons_append, List.cons_append, List.nil_append, unescape]
    · simp [hs]
    · exact fun _ _ _ _ _ he _ => hu he
  · rw [he, controlEscape, unescape.eq_def]
    simp only [List.cons_append, List.nil_append, baseValue?_control _ hc, Option.bind_some,
      scalarChar?_control hc]
  · rw [he, List.cons_append, List.nil_append, unescape]
    · simp [hslash, Nat.not_lt.mpr hc]
    all_goals simp_all

theorem isBody_escapeChar (c : Char) (rest : List Char) :
    isBody (escapeChar c ++ rest) = isBody rest := by
  rcases escapeChar_cases c with ⟨e, he, hu, hs⟩ | ⟨he, hc⟩ | ⟨he, hc, -, hslash⟩
  · rw [he, List.cons_append, List.cons_append, List.nil_append, isBody]
    · simp [hs]
    all_goals simp_all
  · rw [he]
    simp only [controlEscape, List.cons_append, List.nil_append, isBody, baseValue?_control _ hc,
      Option.isSome_some, Bool.true_and]
  · rw [he, List.cons_append, List.nil_append, isBody]
    · simp [hslash, hc]
    all_goals simp_all

theorem unescape_flatMap (text : List Char) :
    unescape (text.flatMap escapeChar) = some text := by
  induction text with
  | nil => rfl
  | cons c rest ih => rw [List.flatMap_cons, unescape_escapeChar, ih, Option.map_some]

theorem isBody_flatMap (text : List Char) : isBody (text.flatMap escapeChar) = true := by
  induction text with
  | nil => rfl
  | cons c rest ih => rw [List.flatMap_cons, isBody_escapeChar, ih]

namespace Token

theorem scanFrom_cons {position next : Position} {c : Char} {tokens : List Token}
    (h : step position c = some (tokens, next)) (rest : List Char) :
    scanFrom position (c :: rest) = (scanFrom next rest).map (tokens ++ ·) := by
  cases hrest : scanFrom next rest <;> simp [scanFrom, h, hrest]

theorem scanFrom_escapeChar (c : Char) (read rest : List Char) :
    scanFrom (.inString read) (escapeChar c ++ rest) =
      scanFrom (.inString ((escapeChar c).reverse ++ read)) rest := by
  rcases escapeChar_cases c with ⟨e, he, -, -⟩ | ⟨he, hc⟩ | ⟨he, -, hquote, hslash⟩
  · rw [he]
    simp [scanFrom, step]
  · obtain ⟨hhigh, hlow⟩ := digitChar_control c.toNat hc
    rw [he]
    simp [controlEscape, scanFrom, step, hhigh, hlow]
  · rw [he]
    simp [scanFrom, step, hquote, hslash]

theorem scanFrom_flatMap (text read rest : List Char) :
    scanFrom (.inString read) (text.flatMap escapeChar ++ rest) =
      scanFrom (.inString ((text.flatMap escapeChar).reverse ++ read)) rest := by
  induction text generalizing read with
  | nil => rfl
  | cons c text ih =>
      rw [List.flatMap_cons, List.append_assoc, scanFrom_escapeChar, ih, List.reverse_append,
        List.append_assoc]

theorem scanFrom_quote (text : String) (rest : List Char) :
    scanFrom .between ((quote text).toList ++ rest) =
      (scanFrom .between rest).map (.string (text.toList.flatMap escapeChar) :: ·) := by
  have hquote : (quote text).toList ++ rest =
      '"' :: (text.toList.flatMap escapeChar ++ '"' :: rest) := by
    simp [quote]
  have hopen : step .between '"' = some ([], .inString []) := by
    simp [step, start, blanks, marks]
  have hclose : step (.inString (text.toList.flatMap escapeChar).reverse) '"' =
      some ([.string (text.toList.flatMap escapeChar)], .between) := by
    simp [step, isBody_flatMap]
  rw [hquote, scanFrom_cons hopen, scanFrom_flatMap, List.append_nil, scanFrom_cons hclose,
    Option.map_map]
  rfl

end Token

namespace Numeral

-- What numbers are written with.
def isNumeralChar (c : Char) : Bool :=
  c.isDigit || ['-', '+', '.', 'e', 'E'].contains c

variable {word : List Char} {numeral : Numeral}

theorem isNumeralChar_of_isDigit {c : Char} (h : c.isDigit = true) : isNumeralChar c = true := by
  rw [isNumeralChar, h, Bool.true_or]

theorem isNumeralChar_of_isDigits (h : isDigits word = true) :
    ∀ c ∈ word, isNumeralChar c = true := by
  rw [isDigits, Bool.and_eq_true, List.all_eq_true] at h
  exact fun c hc => isNumeralChar_of_isDigit (h.2 c hc)

theorem isNumeralChar_of_exponent? {exponent : Int} (h : exponent? word = some exponent) :
    ∀ c ∈ word, isNumeralChar c = true := by
  unfold exponent? at h
  split at h <;> split_ifs at h with hdigits
  · exact List.forall_mem_cons.mpr ⟨by decide, isNumeralChar_of_isDigits hdigits⟩
  · exact List.forall_mem_cons.mpr ⟨by decide, isNumeralChar_of_isDigits hdigits⟩
  · exact isNumeralChar_of_isDigits hdigits

theorem isNumeralChar_of_exponentPart? {exponent : Int} (h : exponentPart? word = some exponent) :
    ∀ c ∈ word, isNumeralChar c = true := by
  cases word with
  | nil => exact fun _ hc => absurd hc List.not_mem_nil
  | cons c rest =>
      rw [exponentPart?] at h
      split_ifs at h with hc
      refine List.forall_mem_cons.mpr ⟨?_, isNumeralChar_of_exponent? h⟩
      rcases hc with rfl | rfl <;> decide

theorem isNumeralChar_of_mem_takeWhile {c : Char} (h : c ∈ word.takeWhile Char.isDigit) :
    isNumeralChar c = true :=
  isNumeralChar_of_isDigit (List.mem_takeWhile_imp h)

theorem isNumeralChar_of_ofUnsigned? (h : ofUnsigned? word = some numeral) :
    ∀ c ∈ word, isNumeralChar c = true := by
  rw [← List.takeWhile_append_dropWhile (p := Char.isDigit) (l := word)]
  refine List.forall_mem_append.mpr ⟨fun _ => isNumeralChar_of_mem_takeWhile, ?_⟩
  unfold ofUnsigned? at h
  dsimp only at h
  split_ifs at h
  split at h
  case h_1 rest hrest =>
    rw [hrest]
    split_ifs at h
    obtain ⟨exponent, he, -⟩ := Option.map_eq_some_iff.mp h
    rw [← List.takeWhile_append_dropWhile (p := Char.isDigit) (l := rest)]
    exact List.forall_mem_cons.mpr ⟨by decide, List.forall_mem_append.mpr
      ⟨fun _ => isNumeralChar_of_mem_takeWhile, isNumeralChar_of_exponentPart? he⟩⟩
  case h_2 =>
    obtain ⟨exponent, he, -⟩ := Option.map_eq_some_iff.mp h
    exact isNumeralChar_of_exponentPart? he

theorem isNumeralChar_of_ofWord? (h : ofWord? word = some numeral) :
    ∀ c ∈ word, isNumeralChar c = true := by
  unfold ofWord? at h
  split at h
  · exact List.forall_mem_cons.mpr ⟨by decide, isNumeralChar_of_ofUnsigned? h⟩
  · exact isNumeralChar_of_ofUnsigned? h

end Numeral

namespace Token

-- A mark comes next, or nothing.
def Ends (rest : List Char) : Prop :=
  ∀ c ∈ rest.head?, c ∈ marks

-- Before a mark or the end, the text is cut into the tokens.
def Scans (text : List Char) (tokens : List Token) : Prop :=
  ∀ rest, Ends rest →
    scanFrom .between (text ++ rest) = (scanFrom .between rest).map (tokens ++ ·)

variable {word rest : List Char} {value : Source}

theorem scanFrom_mark {c : Char} (h : c ∈ marks) (rest : List Char) :
    scanFrom .between (c :: rest) = (scanFrom .between rest).map (.mark c :: ·) := by
  have hstep : step .between c = some ([.mark c], .between) := by
    simp only [marks, List.mem_cons, List.not_mem_nil, or_false] at h
    rcases h with rfl | rfl | rfl | rfl | rfl | rfl <;> rfl
  exact scanFrom_cons hstep rest

-- No character of a word ends it.
def IsWord (word : List Char) : Prop :=
  ∀ c ∈ word, (blanks.contains c || marks.contains c || c == '"') = false

instance : DecidablePred IsWord := fun word => List.decidableBAll _ word

theorem scanFrom_inWord (h : IsWord word) (read rest : List Char) :
    scanFrom (.inWord read) (word ++ rest) = scanFrom (.inWord (word.reverse ++ read)) rest := by
  induction word generalizing read with
  | nil => rfl
  | cons c word ih =>
      obtain ⟨hc, hword⟩ := List.forall_mem_cons.mp h
      have hstep : step (.inWord read) c = some ([], .inWord (c :: read)) := by
        rw [step, hc]
        rfl
      rw [List.cons_append, scanFrom_cons hstep, ih hword]
      simp

theorem scanFrom_inWord_of_ends (h : Ends rest) (hvalue : word? word.reverse = some value) :
    scanFrom (.inWord word) rest = (scanFrom .between rest).map (.scalar value :: ·) := by
  cases rest with
  | nil => simp [scanFrom, hvalue]
  | cons c rest =>
      have hmark : c ∈ marks := h c rfl
      have hstep : step (.inWord word) c = some (.scalar value :: (start c).1, (start c).2) := by
        simp [step, hmark, hvalue]
      have hbetween : step .between c = some (start c) := rfl
      rw [scanFrom_cons hstep, scanFrom_cons hbetween, Option.map_map]
      rfl

theorem scans_word (h : IsWord word) (hvalue : word? word = some value) :
    Scans word [.scalar value] := by
  intro rest hrest
  cases word with
  | nil => cases hvalue
  | cons c word =>
      obtain ⟨hc, hword⟩ := List.forall_mem_cons.mp h
      simp only [Bool.or_eq_false_iff, beq_eq_false_iff_ne] at hc
      obtain ⟨⟨hblank, hmark⟩, hquote⟩ := hc
      have hstep : step .between c = some ([], .inWord [c]) := by
        simp only [step, start, hblank, hmark, hquote, if_false, Bool.false_eq_true]
      have hreverse : word? (word.reverse ++ [c]).reverse = some value := by
        simpa using hvalue
      rw [List.cons_append, scanFrom_cons hstep, scanFrom_inWord hword,
        scanFrom_inWord_of_ends hrest hreverse, Option.map_map]
      rfl

theorem isWord_of_numeral {numeral : Numeral} (h : Numeral.ofWord? word = some numeral) :
    IsWord word := by
  have hall : (blanks ++ marks ++ ['"']).all (!Numeral.isNumeralChar ·) = true := rfl
  have hends : ∀ c ∈ blanks ++ marks ++ ['"'], Numeral.isNumeralChar c = false := by
    simpa only [List.all_eq_true, Bool.not_eq_true'] using hall
  intro c hc
  have hnumeral := Numeral.isNumeralChar_of_ofWord? h c hc
  have hmem : c ∉ blanks ++ marks ++ ['"'] := by
    intro hm
    rw [hends c hm] at hnumeral
    cases hnumeral
  simpa [and_assoc] using hmem

theorem word?_of_numeral {literal : String} {numeral : Numeral}
    (h : Numeral.ofWord? literal.toList = some numeral) :
    word? literal.toList = some (.number literal numeral) := by
  unfold word?
  rw [String.ofList_toList]
  split
  case h_4 => rw [h, Option.map_some]
  all_goals cases h

end Token

end FrameMarkers.Json
