import FrameMarkers.Json.Record
import Mathlib.Data.List.Forall2
import Mathlib.Data.List.Nodup

namespace FrameMarkers.Json

-- The members that may be missing, each with its default.
def omissible : List (String × Json) := [
  ("nullable", .bool false), ("elements_nullable", .bool false), ("overrides", .bool false),
  ("own_fields", .array []), ("super_markers", .array []), ("is_open", .bool true),
  ("visibility", .string "implicit_public")]

-- The members of the first list with related values, less some that may be missing.
inductive Kept (related : Json → Json → Prop) :
    List (String × Json) → List (String × Json) → Prop where
  | nil : Kept related [] []
  | keep {name : String} {value value' : Json} {full short : List (String × Json)} :
      related value value' → Kept related full short →
        Kept related ((name, value) :: full) ((name, value') :: short)
  | drop {name : String} {value : Json} {full short : List (String × Json)} :
      (name, value) ∈ omissible → Kept related full short →
        Kept related ((name, value) :: full) short

-- The second document is the first with members left out that may be missing.
inductive Shortened : Json → Json → Prop where
  | null : Shortened .null .null
  | bool (value : Bool) : Shortened (.bool value) (.bool value)
  | number (literal : String) : Shortened (.number literal) (.number literal)
  | string (text : String) : Shortened (.string text) (.string text)
  | array {full short : List Json} :
      List.Forall₂ Shortened full short → Shortened (.array full) (.array short)
  | object {full short : List (String × Json)} :
      Kept Shortened full short → Shortened (.object full) (.object short)

mutual

theorem shortened_self : (json : Json) → Shortened json json
  | .null => .null
  | .bool value => .bool value
  | .number literal => .number literal
  | .string text => .string text
  | .array items => .array (forall₂_shortened_self items)
  | .object members => .object (kept_self members)

theorem forall₂_shortened_self : (items : List Json) → List.Forall₂ Shortened items items
  | [] => .nil
  | item :: rest => .cons (shortened_self item) (forall₂_shortened_self rest)

theorem kept_self : (members : List (String × Json)) → Kept Shortened members members
  | [] => .nil
  | (_, value) :: rest => .keep (shortened_self value) (kept_self rest)

end

-- What a reader finds under a key that has the value in the full document.
inductive Found (key : String) (value : Json) : Option Json → Prop where
  | present {value' : Json} : Shortened value value' → Found key value (some value')
  | missing : (key, value) ∈ omissible → Found key value none

section

variable {key : String} {value : Json} {held : Option Json} {full short : List (String × Json)}

theorem Kept.names_sublist {related : Json → Json → Prop} (h : Kept related full short) :
    (short.map Prod.fst).Sublist (full.map Prod.fst) := by
  induction h with
  | nil => exact List.Sublist.slnil
  | keep _ _ ih => exact ih.cons_cons _
  | drop _ _ ih => exact ih.cons _

theorem Kept.found (h : Kept Shortened full short) (hnames : (full.map Prod.fst).Nodup)
    (hm : (key, value) ∈ full) : Found key value (short.lookup key) := by
  induction h with
  | nil => cases hm
  | @keep name _ _ _ _ hs _ ih =>
      obtain ⟨hn, hr⟩ := List.nodup_cons.mp hnames
      rcases List.mem_cons.mp hm with he | hm
      · cases he
        rw [List.lookup_cons_self]
        exact .present hs
      · have hne : key ≠ name := fun he => hn (List.mem_map.mpr ⟨_, hm, he⟩)
        rw [List.lookup_cons, beq_false_of_ne hne]
        exact ih hr hm
  | @drop name _ _ short hd hk ih =>
      obtain ⟨hn, hr⟩ := List.nodup_cons.mp hnames
      rcases List.mem_cons.mp hm with he | hm
      · cases he
        have hl : short.lookup key = none := by
          refine List.lookup_eq_none_iff.mpr fun member hs => bne_iff_ne.mpr ?_
          exact fun he => hn (hk.names_sublist.mem (List.mem_map.mpr ⟨member, hs, he.symm⟩))
        rw [hl]
        exact .missing hd
      · exact ih hr hm

variable {α : Type} {read : Json → Option α} {result default : α}

theorem Found.required (h : Found key value held) (hkey : (key, value) ∉ omissible)
    (hread : ∀ json, Shortened value json → read json = some result) :
    Json.required read held = some result := by
  cases h with
  | present hs => exact hread _ hs
  | missing hm => exact absurd hm hkey

theorem Found.withDefault (h : Found key value held)
    (hdefault : (key, value) ∈ omissible → default = result)
    (hread : ∀ json, Shortened value json → read json = some result) :
    Json.withDefault default read held = some result := by
  cases h with
  | present hs => exact hread _ hs
  | missing hm => exact congrArg some (hdefault hm)

theorem string?_of_shortened {text : String} (json : Json) (h : Shortened (.string text) json) :
    json.string? = some text := by
  cases h
  rfl

theorem bool?_of_shortened {flag : Bool} (json : Json) (h : Shortened (.bool flag) json) :
    json.bool? = some flag := by
  cases h
  rfl

theorem string_not_omissible {text : String} (hkey : key ≠ "visibility") :
    (key, .string text) ∉ omissible := by
  simp [omissible, hkey]

-- Flags are not set where they are missing, except that markers are open.
theorem default_of_mem_omissible {flag : Bool} (h : (key, .bool flag) ∈ omissible) :
    decide (key = "is_open") = flag := by
  simp only [omissible, List.mem_cons, Prod.mk.injEq, bool.injEq, reduceCtorEq, and_false,
    List.not_mem_nil, or_false, false_or] at h
  rcases h with ⟨rfl, rfl⟩ | ⟨rfl, rfl⟩ | ⟨rfl, rfl⟩ | ⟨rfl, rfl⟩ <;> rfl

theorem Found.string {text : String} (h : Found key (.string text) held)
    (hkey : key ≠ "visibility") : Json.required string? held = some text :=
  h.required (string_not_omissible hkey) string?_of_shortened

theorem Found.flag {flag default : Bool} (h : Found key (.bool flag) held)
    (hdefault : default = decide (key = "is_open")) :
    Json.withDefault default bool? held = some flag :=
  h.withDefault (fun hm => hdefault.trans (default_of_mem_omissible hm)) bool?_of_shortened

end

theorem mapM_eq_of_forall₂ {α β : Type} {read : β → Option α} {values : List α} {items : List β}
    (h : List.Forall₂ (fun value item => read item = some value) values items) :
    items.mapM read = some values := by
  induction h with
  | nil => rfl
  | cons hv _ ih => rw [List.mapM_cons, hv, ih]; rfl

theorem listOf_of_shortened {α : Type} {write : α → Json} {read : Json → Option α}
    (hread : ∀ value json, Shortened (write value) json → read json = some value)
    {values : List α} (json : Json) (h : Shortened (.ofList write values) json) :
    listOf read json = some values := by
  cases h with
  | array h => exact mapM_eq_of_forall₂ ((List.forall₂_map_left_iff.mp h).imp fun _ _ => hread _ _)

section

variable {α : Type} {f : Json → α} {full short members : List (String × Json)}

-- The members with what each value means to a reader.
def withMeanings (f : Json → α) (members : List (String × Json)) :
    List (String × (Json × α)) :=
  members.map fun member => (member.1, (member.2, f member.2))

theorem foldMembers_eq (meaning : Layer α → α) :
    (members : List (String × Json)) →
      foldMembers meaning members = withMeanings (fold meaning) members
  | [] => rfl
  | (_, _) :: rest => congrArg (_ :: ·) (foldMembers_eq meaning rest)

theorem foldItems_eq (meaning : Layer α → α) :
    (items : List Json) →
      foldItems meaning items = items.map fun item => (item, fold meaning item)
  | [] => rfl
  | _ :: rest => congrArg (_ :: ·) (foldItems_eq meaning rest)

theorem fold_object (meaning : Layer α → α) (members : List (String × Json)) :
    (object members).fold meaning = meaning (.object (withMeanings (fold meaning) members)) := by
  rw [fold, foldMembers_eq]

theorem fold_array (meaning : Layer α → α) (items : List Json) :
    (array items).fold meaning =
      meaning (.array (items.map fun item => (item, fold meaning item))) := by
  rw [fold, foldItems_eq]

theorem names_withMeanings : (withMeanings f members).map Prod.fst = members.map Prod.fst :=
  List.map_map

theorem map_fst_withMeaning (held : Option Json) :
    (held.map fun value => (value, f value)).map Prod.fst = held := by
  cases held <;> rfl

theorem lookup_withMeanings (key : String) :
    (withMeanings f members).lookup key =
      (members.lookup key).map fun value => (value, f value) := by
  induction members with
  | nil => rfl
  | cons member rest ih =>
      rw [withMeanings, List.map_cons, List.lookup_cons, List.lookup_cons]
      cases key == member.1
      · exact ih
      · rfl

theorem countP_withMeanings_le_one (hnames : (members.map Prod.fst).Nodup) (key : String) :
    (withMeanings f members).countP (·.1 == key) ≤ 1 := by
  have hcount := List.nodup_iff_count_le_one.mp hnames key
  rw [List.count_eq_countP, ← names_withMeanings (f := f), List.countP_map] at hcount
  exact hcount

theorem record?_withMeanings (hnames : (members.map Prod.fst).Nodup) (keys : List String) :
    (Layer.object (withMeanings f members)).record? keys =
      some (keys.map fun key => (members.lookup key).map fun value => (value, f value)) := by
  have hany : (keys.any fun key => 1 < (withMeanings f members).countP (·.1 == key)) = false := by
    simp [countP_withMeanings_le_one hnames]
  simp only [Layer.record?, hany, lookup_withMeanings]
  rfl

theorem record?_of_kept {related : Json → Json → Prop} (h : Kept related full members)
    (hnames : (full.map Prod.fst).Nodup) (keys : List String) :
    (Layer.object (withMeanings f members)).record? keys =
      some (keys.map fun key => (members.lookup key).map fun value => (value, f value)) :=
  record?_withMeanings (h.names_sublist.nodup hnames) keys

theorem record?_object_of_kept {related : Json → Json → Prop} (h : Kept related full members)
    (hnames : (full.map Prod.fst).Nodup) (keys : List String) :
    (object members).record? keys = some (keys.map fun key => members.lookup key) := by
  change ((Layer.object (withMeanings (fun _ => ()) members)).record? keys).map _ = _
  rw [record?_of_kept h hnames]
  simp [Function.comp_def]

-- The tag is never left out, so its word tells the choice, and the other members are the record.
theorem tagged?_of_kept {tag word : String} (f : Json → α) (words : List String) (place : Nat)
    (inner : Bool)
    (h : Kept Shortened ((tag, .string word) :: full) members) (htag : tag ≠ "visibility")
    (hnames : tag ∉ full.map Prod.fst) (hplace : words.idxOf? word = some place) :
    ∃ short, Kept Shortened full short ∧
      (Layer.object (withMeanings f members)).tagged? tag words inner =
        some (place, .object (withMeanings f short)) := by
  cases h with
  | drop hd _ => exact absurd hd (string_not_omissible htag)
  | @keep _ _ value' _ short hs hk =>
      cases hs
      have hother : ∀ member ∈ withMeanings f short, member.1 ≠ tag := by
        rintro member hm rfl
        have hmem : member.1 ∈ short.map Prod.fst := by
          rw [← names_withMeanings (f := f)]
          exact List.mem_map_of_mem hm
        exact hnames (hk.names_sublist.mem hmem)
      have hcount : (withMeanings f short).countP (·.1 == tag) = 0 := by
        simpa [List.countP_eq_zero] using hother
      have hfilter : (withMeanings f short).filter (·.1 != tag) = withMeanings f short := by
        simpa [List.filter_eq_self] using hother
      refine ⟨short, hk, ?_⟩
      simp only [withMeanings, List.map_cons] at hcount hfilter ⊢
      simp [Layer.tagged?, hcount, hfilter, tagPlace?, hplace]

end

end FrameMarkers.Json
