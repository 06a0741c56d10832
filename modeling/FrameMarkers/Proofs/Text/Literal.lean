import FrameMarkers.Text.Literal
import Mathlib.Data.List.Basic

namespace FrameMarkers.Text

variable {text front : List Char}

-- The text ends with a backslash that escapes what comes next. In a row of backslashes, every other
-- one is escaped by the one before it.
def EndsEscaping (front : List Char) : Prop :=
  (front.reverse.takeWhile (· == '\\')).length % 2 = 1

theorem escape_cons (c : Char) (text : List Char) :
    escape (c :: text) = escapeChar c ++ escape text :=
  List.flatMap_cons

-- What is escaped, and what stands for itself.
theorem escapeChar_cases (c : Char) :
    (∃ image, escapeChar c = ['\\', image] ∧ unescapeChar image = some c ∧
        (image = '\\' → c = '\\') ∧ image ≠ '\n' ∧ image ≠ '\r') ∨
      escapeChar c = [c] ∧ c ≠ '\\' ∧ c ≠ '$' ∧ c ≠ '"' ∧ c ≠ '\n' ∧ c ≠ '\r' := by
  by_cases hbackslash : c = '\\'
  · subst hbackslash
    exact .inl ⟨'\\', rfl, rfl, fun _ => rfl, by decide, by decide⟩
  by_cases hdollar : c = '$'
  · subst hdollar
    exact .inl ⟨'$', rfl, rfl, by decide, by decide, by decide⟩
  by_cases hquote : c = '"'
  · subst hquote
    exact .inl ⟨'"', rfl, rfl, by decide, by decide, by decide⟩
  by_cases hfeed : c = '\n'
  · subst hfeed
    exact .inl ⟨'n', rfl, rfl, by decide, by decide, by decide⟩
  by_cases hreturn : c = '\r'
  · subst hreturn
    exact .inl ⟨'r', rfl, rfl, by decide, by decide, by decide⟩
  refine .inr ⟨?_, hbackslash, hdollar, hquote, hfeed, hreturn⟩
  simp [escapeChar, hbackslash, hdollar, hquote, hfeed, hreturn]

theorem unescape_escaped {image c : Char} (h : unescapeChar image = some c) (rest : List Char) :
    unescape ('\\' :: image :: rest) = (unescape rest).map (c :: ·) := by
  rw [unescape, h]
  cases unescape rest <;> rfl

theorem unescape_plain {c : Char} (h : c ≠ '\\') (rest : List Char) :
    unescape (c :: rest) = (unescape rest).map (c :: ·) := by
  rw [unescape]
  · exact fun hc => absurd hc h
  · exact fun _ _ hc => absurd hc h

theorem unescape_escape (text : List Char) : unescape (escape text) = some text := by
  induction text with
  | nil => rfl
  | cons c rest ih =>
      rw [escape_cons]
      rcases escapeChar_cases c with ⟨image, he, hu, -⟩ | ⟨he, hc, -⟩
      · rw [he, List.cons_append, List.singleton_append, unescape_escaped hu, ih]
        rfl
      · rw [he, List.singleton_append, unescape_plain hc, ih]
        rfl

theorem not_line_end_escape {c : Char} (h : c ∈ escape text) : c ≠ '\n' ∧ c ≠ '\r' := by
  obtain ⟨source, -, hc⟩ := List.mem_flatMap.mp h
  rcases escapeChar_cases source with ⟨image, he, -, -, hfeed, hreturn⟩ | ⟨he, -, -, -, hends⟩
  · rw [he] at hc
    rcases List.mem_pair.mp hc with rfl | rfl
    · decide
    · exact ⟨hfeed, hreturn⟩
  · rw [he] at hc
    obtain rfl := List.mem_singleton.mp hc
    exact hends

-- An escaped character in front leaves open whether the next one is escaped: it ends with another
-- character than a backslash, or it is two backslashes.
theorem endsEscaping_append (c : Char) (front : List Char) :
    EndsEscaping (escapeChar c ++ front) ↔ EndsEscaping front := by
  have hunit : ((escapeChar c).reverse.takeWhile (· == '\\')).length % 2 = 0 := by
    rcases escapeChar_cases c with ⟨image, he, -, himage, -⟩ | ⟨he, hc, -⟩
    · by_cases hb : image = '\\'
      · simp [he, hb]
      · simp [he, hb]
    · simp [he, hc]
  unfold EndsEscaping
  rw [List.reverse_append, List.takeWhile_append]
  split
  case isTrue hall =>
    rw [List.length_append, hall]
    omega
  case isFalse => rfl

-- Within what stands for one character, such a mark is the second of two.
theorem endsEscaping_of_escapeChar {source c : Char} {back : List Char}
    (h : escapeChar source = front ++ c :: back) (hc : c = '"' ∨ c = '$') : EndsEscaping front := by
  have hbackslash : c ≠ '\\' := by rcases hc with rfl | rfl <;> decide
  rcases escapeChar_cases source with ⟨image, he, -⟩ | ⟨he, -, hdollar, hquote, -⟩
  · rw [he] at h
    cases front with
    | nil => exact absurd (List.cons.inj h).1.symm hbackslash
    | cons first others =>
        obtain ⟨rfl, hothers⟩ := List.cons.inj h
        cases others with
        | nil => rfl
        | cons second others => simp at hothers
  · rw [he] at h
    cases front with
    | nil =>
        obtain rfl := (List.cons.inj h).1
        exact (hc.elim hquote hdollar).elim
    | cons first others => simp at h

theorem endsEscaping_of_escape {c : Char} {back : List Char} (h : escape text = front ++ c :: back)
    (hc : c = '"' ∨ c = '$') : EndsEscaping front := by
  induction text generalizing front with
  | nil => simp [escape] at h
  | cons source rest ih =>
      rw [escape_cons] at h
      rcases List.append_eq_append_iff.mp h with ⟨front, rfl, hrest⟩ | ⟨within, hsource, hrest⟩
      · exact (endsEscaping_append source front).mpr (ih hrest)
      · cases within with
        | nil =>
            have hfront := (endsEscaping_append source []).mpr (@ih [] hrest.symm)
            rwa [hsource, List.append_nil, List.append_nil] at hfront
        | cons first others =>
            obtain ⟨rfl, -⟩ := List.cons.inj hrest
            exact endsEscaping_of_escapeChar hsource hc

theorem toList_literal (text : String) : (literal text).toList = escape text.toList :=
  String.toList_ofList

theorem literals_denote :
    (∀ text : String, '\n' ∉ (literal text).toList ∧ '\r' ∉ (literal text).toList ∧
      (∀ front c back, (literal text).toList = front ++ c :: back → c = '"' ∨ c = '$' →
        EndsEscaping front) ∧
      unescape (literal text).toList = some text.toList) ∧
    ∀ column other : String, column ≠ other → literal column ≠ literal other := by
  have hread : ∀ text : String, unescape (literal text).toList = some text.toList := fun text => by
    rw [toList_literal, unescape_escape]
  refine ⟨fun text => ?_, fun column other hne he => ?_⟩
  · rw [toList_literal]
    refine ⟨fun hm => (not_line_end_escape hm).1 rfl, fun hm => (not_line_end_escape hm).2 rfl,
      fun front c back => endsEscaping_of_escape, unescape_escape _⟩
  · have hsame := (hread column).symm.trans (he ▸ hread other)
    exact hne (String.toList_injective (Option.some.inj hsame))

-- A backslash before a quotation mark: each is escaped on its own.
theorem literals_denote_mark :
    (literal "\\\"").toList = ['\\', '\\', '\\'] ++ '"' :: [] ∧
      EndsEscaping ['\\', '\\', '\\'] ∧ literal "\\\"" ≠ literal "\"" := by
  have hliteral : (literal "\\\"").toList = ['\\', '\\', '\\'] ++ '"' :: [] := by decide
  obtain ⟨htext, hdifferent⟩ := literals_denote
  obtain ⟨-, -, hescaped, -⟩ := htext "\\\""
  exact ⟨hliteral, hescaped _ _ _ hliteral (.inl rfl), hdifferent _ _ (by decide)⟩

end FrameMarkers.Text
