import FrameMarkers.Proofs.Identifier.Renderable

namespace FrameMarkers

namespace Text

-- The text with the image in place of the pattern wherever that occurs, from the left. Occurrences
-- do not overlap, and none is looked for inside an image.
def replaceAll (pattern image : List Char) : List Char → List Char
  | [] => []
  | c :: rest =>
    if pattern.isPrefixOf (c :: rest) then
      image ++ replaceAll pattern image (rest.drop (pattern.length - 1))
    else c :: replaceAll pattern image rest
termination_by text => text.length
decreasing_by
  · simp only [List.length_drop, List.length_cons]
    omega
  · exact Nat.lt_succ_self _

section

variable (pattern image : List Char) {c d : Char} {rest : List Char}

@[simp] theorem replaceAll_nil : replaceAll pattern image [] = [] := by
  rw [replaceAll]

theorem replaceAll_occurrence :
    replaceAll (c :: pattern) image (c :: pattern ++ rest) =
      image ++ replaceAll (c :: pattern) image rest := by
  rw [List.cons_append, replaceAll, if_pos (by simp)]
  simp

theorem replaceAll_cons_of_ne (h : c ≠ d) :
    replaceAll (d :: pattern) image (c :: rest) = c :: replaceAll (d :: pattern) image rest := by
  have hnot : (d :: pattern).isPrefixOf (c :: rest) = false := by
    rw [List.isPrefixOf_cons_cons, beq_false_of_ne h.symm, Bool.false_and]
  rw [replaceAll, if_neg (ne_true_of_eq_false hnot)]

-- A pattern of two characters does not occur where the second is another one.
theorem replaceAll_pair_of_ne {e : Char} (h : rest.head? ≠ some e) :
    replaceAll [d, e] image (d :: rest) = d :: replaceAll [d, e] image rest := by
  have hnot : [d, e].isPrefixOf (d :: rest) = false := by
    cases rest with
    | nil => simp
    | cons head tail =>
        have hne : e ≠ head := by
          rintro rfl
          exact h rfl
        rw [List.isPrefixOf_cons_cons, List.isPrefixOf_cons_cons, beq_false_of_ne hne,
          Bool.false_and, Bool.and_false]
  rw [replaceAll, if_neg (ne_true_of_eq_false hnot)]

theorem replaceAll_char (text : List Char) :
    replaceAll [d] [c] text = text.map fun other => if other = d then c else other := by
  induction text with
  | nil => simp
  | cons head tail ih =>
      by_cases h : head = d
      · subst h
        change replaceAll [head] [c] ([head] ++ tail) = _
        rw [replaceAll_occurrence, ih]
        simp
      · rw [replaceAll_cons_of_ne [] [c] h, ih]
        simp [h]

end

end Text

namespace Identifier

-- What takes the place of a colon.
def dash : List Char :=
  [' ', '-', ' ']

-- What takes the place of what in a quoted identifier, in the order in which it does.
def substitutions : List (List Char × List Char) := [
  (['<'], ['\x7b']), (['>'], ['\x7d']), ([':', ':'], dash), ([':', ' '], dash), ([':'], dash),
  (['.'], [' ']), (['/'], ['-']), (['['], ['\x7b']), ([']'], ['\x7d']), (['\x60'], ['\'']),
  ([';'], [' ']), (['\\'], [' ']), (['\n'], [' ']), (['\r'], [' '])]

-- The text after all substitutions.
def substituted (text : List Char) : List Char :=
  substitutions.foldl (fun text entry => Text.replaceAll entry.1 entry.2 text) text

-- The single characters that the table replaces before colons, and after them.
def early (c : Char) : Char :=
  if c = '<' then '\x7b' else if c = '>' then '\x7d' else c

def late : Char → Char
  | '.' => ' '
  | '/' => '-'
  | '[' => '\x7b'
  | ']' => '\x7d'
  | '\x60' => '\''
  | ';' => ' '
  | '\\' => ' '
  | '\n' => ' '
  | '\r' => ' '
  | c => c

-- The text with its colons replaced, the longer patterns first.
def dashed (text : List Char) : List Char :=
  Text.replaceAll [':'] dash
    (Text.replaceAll [':', ' '] dash (Text.replaceAll [':', ':'] dash text))

theorem substituted_eq (text : List Char) :
    substituted text = (dashed (text.map early)).map late := by
  have hearly : (text.map fun c => if c = '<' then '\x7b' else c).map
      (fun c => if c = '>' then '\x7d' else c) = text.map early := by
    rw [List.map_map]
    refine List.map_congr_left fun c _ => ?_
    unfold early
    by_cases hc : c = '<' <;> simp [hc]
  simp only [substituted, substitutions, List.foldl_cons, List.foldl_nil, Text.replaceAll_char,
    hearly]
  rw [← dashed]
  simp only [List.map_map]
  refine List.map_congr_left fun c _ => ?_
  unfold late
  split
  case h_10 => simp_all
  all_goals decide

section

variable {c : Char} {rest : List Char}

-- There is no colon in a dash.
theorem replaceAll_dash (pattern : List Char) :
    Text.replaceAll (':' :: pattern) dash (dash ++ rest) =
      dash ++ Text.replaceAll (':' :: pattern) dash rest := by
  change Text.replaceAll (':' :: pattern) dash (' ' :: '-' :: ' ' :: rest) = _
  simp only [Text.replaceAll_cons_of_ne pattern dash (show ' ' ≠ ':' by decide),
    Text.replaceAll_cons_of_ne pattern dash (show '-' ≠ ':' by decide)]
  rfl

theorem dashed_cons (h : c ≠ ':') : dashed (c :: rest) = c :: dashed rest := by
  unfold dashed
  simp only [Text.replaceAll_cons_of_ne _ _ h]

theorem dashed_double : dashed (':' :: ':' :: rest) = dash ++ dashed rest := by
  have hfirst : Text.replaceAll [':', ':'] dash (':' :: ':' :: rest) =
      dash ++ Text.replaceAll [':', ':'] dash rest := Text.replaceAll_occurrence [':'] dash
  rw [dashed, hfirst, replaceAll_dash, replaceAll_dash, dashed]

theorem dashed_spaced : dashed (':' :: ' ' :: rest) = dash ++ dashed rest := by
  have hfirst : Text.replaceAll [':', ':'] dash (':' :: ' ' :: rest) =
      ':' :: ' ' :: Text.replaceAll [':', ':'] dash rest := by
    rw [Text.replaceAll_pair_of_ne dash (by simp), Text.replaceAll_cons_of_ne _ dash (by decide)]
  have hsecond (rest : List Char) : Text.replaceAll [':', ' '] dash (':' :: ' ' :: rest) =
      dash ++ Text.replaceAll [':', ' '] dash rest := Text.replaceAll_occurrence [' '] dash
  rw [dashed, hfirst, hsecond, replaceAll_dash, dashed]

theorem dashed_lone (hdouble : rest.head? ≠ some ':') (hspaced : rest.head? ≠ some ' ') :
    dashed (':' :: rest) = dash ++ dashed rest := by
  have hhead : (Text.replaceAll [':', ':'] dash rest).head? = rest.head? := by
    cases rest with
    | nil => simp
    | cons head tail =>
        have hne : head ≠ ':' := fun h => hdouble (congrArg some h)
        rw [Text.replaceAll_cons_of_ne _ dash hne]
        rfl
  have hthird (rest : List Char) : Text.replaceAll [':'] dash (':' :: rest) =
      dash ++ Text.replaceAll [':'] dash rest := Text.replaceAll_occurrence [] dash
  rw [dashed, Text.replaceAll_pair_of_ne dash hdouble,
    Text.replaceAll_pair_of_ne dash (hhead ▸ hspaced), hthird, dashed]

end

theorem late_early {c : Char} (h : c ≠ ':') : late (early c) = substitute c := by
  unfold substitute
  split
  case h_12 => simp_all [early, late]
  all_goals decide

theorem early_ne {c d : Char} (hd : d ≠ '\x7b') (hd' : d ≠ '\x7d') (h : c ≠ d) : early c ≠ d := by
  unfold early
  split
  · exact hd.symm
  · split
    · exact hd'.symm
    · exact h

-- A colon is met by the longest pattern of the three that fits.
theorem substituted_eq_sanitize (text : List Char) : substituted text = sanitize text := by
  rw [substituted_eq]
  fun_induction sanitize text with
  | case1 => simp [dashed]
  | case2 rest ih =>
      have h : dashed ((':' :: ':' :: rest).map early) = dash ++ dashed (rest.map early) :=
        dashed_double
      rw [h, List.map_append, ih]
      rfl
  | case3 rest ih =>
      have h : dashed ((':' :: ' ' :: rest).map early) = dash ++ dashed (rest.map early) :=
        dashed_spaced
      rw [h, List.map_append, ih]
      rfl
  | case4 rest hdouble hspaced ih =>
      have hhead {d : Char} (hd : d ≠ '\x7b') (hd' : d ≠ '\x7d')
          (hnot : ∀ tail, rest = d :: tail → False) : (rest.map early).head? ≠ some d := by
        cases rest with
        | nil => simp
        | cons head tail =>
            have hne : head ≠ d := by
              rintro rfl
              exact hnot tail rfl
            exact fun h => early_ne hd hd' hne (Option.some.inj h)
      have h : dashed ((':' :: rest).map early) = dash ++ dashed (rest.map early) :=
        dashed_lone (hhead (by decide) (by decide) hdouble) (hhead (by decide) (by decide) hspaced)
      rw [h, List.map_append, ih]
      rfl
  | case5 c rest hdouble hspaced hne ih =>
      have hearly : early c ≠ ':' := early_ne (by decide) (by decide) hne
      rw [List.map_cons, dashed_cons hearly, List.map_cons, late_early hne, ih]

end Identifier

end FrameMarkers
