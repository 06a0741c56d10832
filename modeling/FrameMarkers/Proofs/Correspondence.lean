import FrameMarkers.Marker.Basic
import Mathlib.Data.List.Forall2

namespace FrameMarkers

open List (Forall₂)

variable {α β γ : Type} {r : α → β → Prop} {xs : List α} {ys : List β}

-- Both computations succeed, with corresponding results, or both fail.
inductive Corresponds {ε : Type} (r : α → β → Prop) : Except ε α → Except ε β → Prop
  | ok {x : α} {y : β} (result : r x y) : Corresponds r (.ok x) (.ok y)
  | error {error error' : ε} : Corresponds r (.error error) (.error error')

-- Entries of the first list may be used to show that more holds of the pairs.
theorem forall₂_of_mem {s : α → β → Prop} (h : Forall₂ r xs ys)
    (hs : ∀ x ∈ xs, ∀ y, r x y → s x y) : Forall₂ s xs ys :=
  ((List.forall₂_and_left xs ys).mpr ⟨hs, h⟩).imp fun _ _ hx => hx.1 _ hx.2

theorem map_eq_of_forall₂ {f : α → γ} {g : β → γ} (h : Forall₂ r xs ys)
    (hf : ∀ x y, r x y → f x = g y) : xs.map f = ys.map g := by
  induction h with
  | nil => rfl
  | cons hr _ ih => rw [List.map_cons, List.map_cons, hf _ _ hr, ih]

theorem all_eq_of_forall₂ {p : α → Bool} {q : β → Bool} (h : Forall₂ r xs ys)
    (hp : ∀ x y, r x y → p x = q y) : xs.all p = ys.all q := by
  induction h with
  | nil => rfl
  | cons hr _ ih => rw [List.all_cons, List.all_cons, hp _ _ hr, ih]

theorem any_eq_of_forall₂ {p : α → Bool} {q : β → Bool} (h : Forall₂ r xs ys)
    (hp : ∀ x y, r x y → p x = q y) : xs.any p = ys.any q := by
  induction h with
  | nil => rfl
  | cons hr _ ih => rw [List.any_cons, List.any_cons, hp _ _ hr, ih]

theorem forall_mem_iff_of_forall₂ {p : α → Prop} {q : β → Prop} (h : Forall₂ r xs ys)
    (hp : ∀ x y, r x y → (p x ↔ q y)) : (∀ x ∈ xs, p x) ↔ ∀ y ∈ ys, q y := by
  induction h with
  | nil => simp
  | cons hr _ ih => rw [List.forall_mem_cons, List.forall_mem_cons, hp _ _ hr, ih]

theorem filter_forall₂ {p : α → Bool} {q : β → Bool} (h : Forall₂ r xs ys)
    (hp : ∀ x y, r x y → p x = q y) : Forall₂ r (xs.filter p) (ys.filter q) :=
  List.rel_filter (fun _ _ hr => iff_of_eq (congrArg (· = true) (hp _ _ hr))) h

theorem find?_forall₂ {p : α → Bool} {q : β → Bool} (h : Forall₂ r xs ys)
    (hp : ∀ x y, r x y → p x = q y) : Option.Rel r (xs.find? p) (ys.find? q) := by
  induction h with
  | nil => exact .none
  | @cons x y _ _ hr _ ih =>
      rw [List.find?_cons, List.find?_cons, hp x y hr]
      cases q y with
      | true => exact .some hr
      | false => exact ih

theorem distinctBy_forall₂ [DecidableEq γ] {key : α → γ} {key' : β → γ} (h : Forall₂ r xs ys)
    (hk : ∀ x y, r x y → key x = key' y) : Forall₂ r (distinctBy key xs) (distinctBy key' ys) := by
  induction h with
  | nil => exact .nil
  | cons hr _ ih =>
      exact .cons hr (filter_forall₂ ih fun _ _ hr' => by rw [hk _ _ hr, hk _ _ hr'])

-- The pairs are sorted as the entries on either side.
theorem mergeSort_forall₂ {le : α → α → Bool} {le' : β → β → Bool} (h : Forall₂ r xs ys)
    (hle : ∀ x y x' y', r x y → r x' y' → le x x' = le' y y') :
    Forall₂ r (xs.mergeSort le) (ys.mergeSort le') := by
  have hpairs : ∀ pair ∈ xs.zip ys, r pair.1 pair.2 := fun _ hm => List.forall₂_zip h hm
  let sorted := (xs.zip ys).mergeSort fun pair pair' => le pair.1 pair'.1
  have hfirst : sorted.map Prod.fst = xs.mergeSort le := by
    have hzip : (xs.zip ys).map Prod.fst = xs := List.map_fst_zip (Nat.le_of_eq h.length_eq)
    have hsort : sorted.map Prod.fst = ((xs.zip ys).map Prod.fst).mergeSort le :=
      List.map_mergeSort fun _ _ _ _ => rfl
    rw [hsort, hzip]
  have hsecond : sorted.map Prod.snd = ys.mergeSort le' := by
    have hzip : (xs.zip ys).map Prod.snd = ys := List.map_snd_zip (Nat.le_of_eq h.length_eq.symm)
    have hsort : sorted.map Prod.snd = ((xs.zip ys).map Prod.snd).mergeSort le' :=
      List.map_mergeSort fun pair hm pair' hm' =>
        hle _ _ _ _ (hpairs pair hm) (hpairs pair' hm')
    rw [hsort, hzip]
  rw [← hfirst, ← hsecond, List.forall₂_map_left_iff, List.forall₂_map_right_iff,
    List.forall₂_same]
  exact fun pair hm => hpairs pair (List.mem_mergeSort.mp hm)

end FrameMarkers
