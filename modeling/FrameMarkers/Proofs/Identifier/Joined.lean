import FrameMarkers.Proofs.Identifier.Renderable

namespace FrameMarkers.Identifier

-- The identifiers for the names, written together from the left.
def joined (first : String) (rest : List String) : Identifier :=
  (rest.map ofName).foldl (· ++ ·) (ofName first)

theorem foldl_append_quoted (identifier : Identifier) (others : List Identifier) :
    (others.foldl (· ++ ·) identifier).quoted = (identifier :: others).any quoted := by
  induction others generalizing identifier with
  | nil => simp
  | cons other rest ih =>
      rw [List.foldl_cons, ih, List.any_cons, List.any_cons, List.any_cons, ← Bool.or_assoc]
      rfl

theorem foldl_append_text (identifier : Identifier) (others : List Identifier) :
    (others.foldl (· ++ ·) identifier).text = String.join ((identifier :: others).map text) := by
  induction others generalizing identifier with
  | nil => simp
  | cons other rest ih =>
      rw [List.foldl_cons, ih]
      simp only [List.map_cons, String.join_cons, ← String.append_assoc]
      rfl

theorem quoted_ofName (name : String) : (ofName name).quoted = needsQuoting name := by
  unfold ofName
  split <;> simp [*]

theorem ofName_of_bare {name : String} (h : needsQuoting name = false) :
    ofName name = ⟨name, false⟩ := by
  rw [ofName, h]
  rfl

-- Bare identifiers have no forbidden characters either.
theorem Renderable.not_forbidden {identifier : Identifier} (h : identifier.Renderable) :
    ∀ c ∈ identifier.text.toList, c ∉ forbiddenChars := by
  rcases h with ⟨-, hbare⟩ | ⟨-, hallowed⟩
  · intro c hc hforbidden
    have hchar := (needsQuoting_eq_false_iff.mp hbare).1 c hc
    exact ne_true_of_eq_false (not_isBareChar_of_forbidden hforbidden) hchar
  · exact hallowed

section

variable (first : String) (rest : List String)

theorem quoted_joined : (joined first rest).quoted = (first :: rest).any needsQuoting := by
  rw [joined, foldl_append_quoted, ← List.map_cons, List.any_map]
  simp only [Function.comp_def, quoted_ofName]

theorem text_joined :
    (joined first rest).text =
      String.join ((first :: rest).map fun name => (ofName name).text) := by
  rw [joined, foldl_append_text, ← List.map_cons, List.map_map]
  rfl

theorem joined_not_forbidden : ∀ c ∈ (joined first rest).text.toList, c ∉ forbiddenChars := by
  intro c hc
  rw [text_joined, String.toList_join] at hc
  obtain ⟨text, ht, hc⟩ := List.mem_flatMap.mp hc
  obtain ⟨name, -, rfl⟩ := List.mem_map.mp ht
  exact (renderable_ofName name).not_forbidden c hc

end

section

variable {first : String} {rest : List String}
  (bare : ∀ name ∈ first :: rest, needsQuoting name = false)
include bare

theorem joined_of_bare : joined first rest = ⟨String.join (first :: rest), false⟩ := by
  have hquoted : (joined first rest).quoted = false := by
    rw [quoted_joined, List.any_eq_false]
    exact fun name hm => ne_true_of_eq_false (bare name hm)
  have htext : (joined first rest).text = String.join (first :: rest) := by
    rw [text_joined,
      List.map_congr_left fun name hm => congrArg text (ofName_of_bare (bare name hm)),
      List.map_id']
  rw [← hquoted, ← htext]

theorem needsQuoting_join :
    needsQuoting (String.join (first :: rest)) = isReserved (String.join (first :: rest)) := by
  obtain ⟨hfirst, hrest⟩ := List.forall_mem_cons.mp bare
  have htail : ∀ c ∈ (String.join rest).toList, isBareChar c := by
    intro c hc
    rw [String.toList_join] at hc
    obtain ⟨name, hm, hc⟩ := List.mem_flatMap.mp hc
    exact (needsQuoting_eq_false_iff.mp (hrest name hm)).1 c hc
  exact needsQuoting_of_append hfirst htail (by rw [String.join_cons, String.toList_append])

theorem renderable_joined_of_bare :
    (joined first rest).Renderable ↔ isReserved (String.join (first :: rest)) = false := by
  rw [joined_of_bare bare, ← needsQuoting_join bare]
  simp [Renderable]

end

theorem joined_renderable_iff (first : String) (rest : List String) :
    ((joined first rest).quoted = true → ∀ c ∈ (joined first rest).text.toList,
      c ∉ forbiddenChars) ∧
    ((joined first rest).quoted = false →
        joined first rest = ⟨String.join (first :: rest), false⟩) ∧
    (¬(joined first rest).Renderable ↔ (∀ name ∈ first :: rest, needsQuoting name = false) ∧
      isReserved (String.join (first :: rest)) = true) := by
  have hbare : (joined first rest).quoted = false ↔
      ∀ name ∈ first :: rest, needsQuoting name = false := by
    rw [quoted_joined, List.any_eq_false]
    simp only [Bool.not_eq_true]
  refine ⟨fun _ => joined_not_forbidden first rest, fun h => joined_of_bare (hbare.mp h), ?_⟩
  by_cases h : ∀ name ∈ first :: rest, needsQuoting name = false
  · rw [renderable_joined_of_bare h, Bool.not_eq_false, and_iff_right h]
  · have hquoted : (joined first rest).quoted = true := eq_true_of_ne_false (mt hbare.mp h)
    exact ⟨fun hnot => absurd (.inr ⟨hquoted, joined_not_forbidden first rest⟩) hnot,
      fun h' => absurd h'.1 h⟩

-- A keyword in two pieces.
theorem bare_pieces : ∀ name ∈ ["va", "l"], needsQuoting name = false := by
  decide +kernel

theorem joined_renderable_iff_pieces :
    (∀ name ∈ ["va", "l"], needsQuoting name = false) ∧
      isReserved (String.join ["va", "l"]) = true ∧ ¬(joined "va" ["l"]).Renderable ∧
      joined "va" ["l"] = ⟨"val", false⟩ ∧
      (joined "group" ["1st"]).quoted = true ∧ (joined "group" ["1st"]).Renderable := by
  have hreserved : isReserved (String.join ["va", "l"]) = true := by decide +kernel
  obtain ⟨-, htext, hiff⟩ := joined_renderable_iff "va" ["l"]
  have hpieces := htext (by decide +kernel)
  -- A digit at the start of the second name has the whole quoted.
  have hdigit : needsQuoting "1st" = true := by decide +kernel
  obtain ⟨-, -, hiff'⟩ := joined_renderable_iff "group" ["1st"]
  have hgroup : (joined "group" ["1st"]).Renderable := by
    by_contra hnot
    have hbare := (hiff'.mp hnot).1 "1st" (by simp)
    exact ne_true_of_eq_false hbare hdigit
  exact ⟨bare_pieces, hreserved, hiff.mpr ⟨bare_pieces, hreserved⟩, hpieces, by decide +kernel,
    hgroup⟩

theorem not_renderable_joined : ¬∀ first rest, (joined first rest).Renderable := by
  intro h
  have hfree := (renderable_joined_of_bare bare_pieces).mp (h "va" ["l"])
  exact absurd hfree (by decide +kernel)

end FrameMarkers.Identifier
