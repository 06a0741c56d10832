import FrameMarkers.Proofs.Marker.Validity
import FrameMarkers.Registry

namespace FrameMarkers

namespace Marker

variable {marker ancestor : Marker} {known : List Marker} {first second third : String}

theorem ChainsDistinct.of_extends (h : marker.ChainsDistinct) (he : marker.Extends ancestor) :
    ancestor.ChainsDistinct := by
  induction he with
  | refl => exact h
  | tail _ hs ih => exact fun above hc => (List.nodup_cons.mp (ih _ (chain_cons.mpr ⟨hs, hc⟩))).2

theorem ChainsDistinct.name_ne (h : marker.ChainsDistinct) (he : marker.StrictlyExtends ancestor) :
    ancestor.name ≠ marker.name := by
  obtain ⟨parent, hp, he⟩ := strictlyExtends_iff.mp he
  have hrepeated := repeatedAbove_name_eq_none_iff.mpr h
  simpa using name_notMem_of_repeatedAbove hrepeated hp he

-- A marker of the first name has a super marker of the second one, at any depth.
def DirectlyAbove (known : List Marker) (first second : String) : Prop :=
  ∃ lower, Among known lower ∧ lower.name = first ∧ ∃ upper ∈ lower.supers, upper.name = second

-- A marker of the second name stands above one of the first name.
def StandsAbove (known : List Marker) (first second : String) : Prop :=
  ∃ lower, Among known lower ∧ lower.name = first ∧
    ∃ upper, lower.StrictlyExtends upper ∧ upper.name = second

-- The markers of this name have different super markers.
def Divided (known : List Marker) (name : String) : Prop :=
  ∃ lower other, Among known lower ∧ Among known other ∧ lower.name = name ∧ other.name = name ∧
    ∃ upper ∈ lower.supers, upper.name ∉ other.supers.map (·.name)

def Acyclic (step : String → String → Prop) : Prop :=
  ∀ name, ¬Relation.TransGen step name name

-- One name stands above the other, and for both it depends on the marker what stands above them.
def Spliced (known : List Marker) (first second : String) : Prop :=
  Divided known first ∧ Divided known second ∧ StandsAbove known first second

theorem Among.of_extends (h : Among known marker) (he : marker.Extends ancestor) :
    Among known ancestor := by
  obtain ⟨lower, hl, hm⟩ := h
  exact ⟨lower, hl, hm.trans he⟩

theorem DirectlyAbove.standsAbove (h : DirectlyAbove known first second) :
    StandsAbove known first second := by
  obtain ⟨lower, hl, hf, upper, hu, hs⟩ := h
  exact ⟨lower, hl, hf, upper, Relation.TransGen.single hu, hs⟩

theorem StandsAbove.transGen (h : StandsAbove known first second) :
    Relation.TransGen (DirectlyAbove known) first second := by
  obtain ⟨lower, hl, rfl, upper, hu, rfl⟩ := h
  induction hu with
  | single hs => exact .single ⟨lower, hl, rfl, _, hs, rfl⟩
  | @tail middle upper hm hs ih =>
      have hmiddle : Among known middle := hl.of_extends hm.to_reflTransGen
      exact ih.tail ⟨middle, hmiddle, rfl, upper, hs, rfl⟩

-- Where all markers of a name agree, the one that was come to has the next super marker too.
theorem StandsAbove.tail (h : StandsAbove known first second) (hd : ¬Divided known second)
    (hs : DirectlyAbove known second third) : StandsAbove known first third := by
  obtain ⟨lower, hl, hf, middle, hm, hn⟩ := h
  obtain ⟨other, ho, hon, upper, hu, ht⟩ := hs
  have hmiddle : Among known middle := hl.of_extends hm.to_reflTransGen
  by_contra hnot
  refine hd ⟨other, middle, ho, hmiddle, hon, hn, upper, hu, fun hmem => hnot ?_⟩
  obtain ⟨next, hnext, he⟩ := List.mem_map.mp hmem
  exact ⟨lower, hl, hf, next, hm.tail hnext, he.trans ht⟩

-- From a divided name, a path goes over divided names as long as it meets any.
theorem exists_last_divided (hd : Divided known first)
    (h : Relation.TransGen (DirectlyAbove known) first second) :
    ∃ last, Relation.ReflTransGen (Spliced known) first last ∧ Divided known last ∧
      StandsAbove known last second := by
  induction h with
  | single hs => exact ⟨first, .refl, hd, hs.standsAbove⟩
  | @tail middle next _ hs ih =>
      obtain ⟨last, hpath, hlast, habove⟩ := ih
      by_cases hm : Divided known middle
      · exact ⟨middle, hpath.tail ⟨hlast, hm, habove⟩, hm, hs.standsAbove⟩
      · exact ⟨last, hpath, hlast, habove.tail hm hs⟩

theorem standsAbove_or_divided (h : Relation.TransGen (DirectlyAbove known) first second) :
    StandsAbove known first second ∨ ∃ middle, Divided known middle ∧
      Relation.TransGen (DirectlyAbove known) first middle ∧
        Relation.TransGen (DirectlyAbove known) middle second := by
  induction h with
  | single hs => exact .inl hs.standsAbove
  | @tail middle next hpath hs ih =>
      rcases ih with habove | ⟨divided, hd, hto, hfrom⟩
      · by_cases hm : Divided known middle
        · exact .inr ⟨middle, hm, hpath, .single hs⟩
        · exact .inl (habove.tail hm hs)
      · exact .inr ⟨divided, hd, hto, hfrom.tail hs⟩

theorem acyclic_iff_spliced (h : ∀ name, ¬StandsAbove known name name) :
    Acyclic (DirectlyAbove known) ↔ Acyclic (Spliced known) := by
  constructor
  · intro hacyclic name hcycle
    exact hacyclic name (Relation.TransGen.closed (fun _ _ hs => hs.2.2.transGen) _ _ hcycle)
  · intro hacyclic name hcycle
    rcases standsAbove_or_divided hcycle with habove | ⟨divided, hd, hto, hfrom⟩
    · exact h name habove
    · obtain ⟨last, hpath, hlast, habove⟩ := exists_last_divided hd (hfrom.trans hto)
      exact hacyclic divided (.tail' hpath ⟨hlast, hd, habove⟩)

end Marker

open Marker

variable {known : List Marker}

theorem Registry.ofKnown_eq_error_iff {error : Error} :
    ofKnown known = .error error ↔ known.forM validate = .error error := by
  unfold ofKnown
  cases known.forM validate <;> simp [bind, Except.bind, pure, Except.pure]

theorem Registry.validate_of_ofKnown {start : Registry} (h : ofKnown known = .ok start)
    {marker : Marker} (hm : marker ∈ known) : marker.validate = .ok () := by
  refine forM_validate_eq_ok_iff.mp ?_ marker hm
  cases hv : known.forM validate with
  | ok _ => rfl
  | error error =>
      rw [Registry.ofKnown_eq_error_iff.mpr hv] at h
      contradiction

theorem Registry.not_standsAbove_of_ofKnown {start : Registry} (h : ofKnown known = .ok start)
    (name : String) : ¬StandsAbove known name name := by
  rintro ⟨marker, ⟨lower, hl, he⟩, rfl, ancestor, ha, hn⟩
  have hvalid := validate_eq_ok.mp (validate_of_ofKnown h hl)
  have hchains := repeatedAbove_name_eq_none_iff.mp hvalid.1
  exact (hchains.of_extends he).name_ne ha hn

theorem cycle_reported_iff (known : List Marker) :
    ((∃ name, Registry.ofKnown known = .error (.cycle name)) ↔
      ∃ earlier marker later, known = earlier ++ marker :: later ∧
        (∀ other ∈ earlier, other.validate = .ok ()) ∧ ¬marker.ChainsDistinct) ∧
    ∀ start, Registry.ofKnown known = .ok start →
      (∀ name, ¬StandsAbove known name name) ∧
        (Acyclic (DirectlyAbove known) ↔ Acyclic (Spliced known)) := by
  constructor
  · simp only [Registry.ofKnown_eq_error_iff, forM_validate_eq_error_iff, ← exists_cycle_iff]
    constructor
    · rintro ⟨name, earlier, marker, later, he, hok, hv⟩
      exact ⟨earlier, marker, later, he, hok, name, hv⟩
    · rintro ⟨earlier, marker, later, he, hok, name, hv⟩
      exact ⟨name, earlier, marker, later, he, hok, hv⟩
  · intro start h
    have habove := Registry.not_standsAbove_of_ofKnown h
    exact ⟨habove, acyclic_iff_spliced habove⟩

-- Each of the two extends what it takes for the other.
def crossedKnown : List Marker :=
  [⟨"A", [], [⟨"B", [], [], true, .implicitPublic⟩], true, .implicitPublic⟩,
    ⟨"B", [], [⟨"A", [], [], true, .implicitPublic⟩], true, .implicitPublic⟩]

theorem ofKnown_crossedKnown : ∃ start, Registry.ofKnown crossedKnown = .ok start :=
  ⟨_, rfl⟩

theorem cycle_crossedKnown : Relation.TransGen (DirectlyAbove crossedKnown) "A" "A" := by
  have hamong : ∀ marker ∈ crossedKnown, Among crossedKnown marker :=
    fun marker hm => ⟨marker, hm, .refl marker⟩
  obtain ⟨hfirst, hrest⟩ := List.forall_mem_cons.mp hamong
  have hsecond := List.forall_mem_singleton.mp hrest
  exact .tail (.single ⟨_, hfirst, rfl, _, List.mem_cons_self, rfl⟩)
    ⟨_, hsecond, rfl, _, List.mem_cons_self, rfl⟩

theorem cycle_reported_iff_crossed :
    (∃ start, Registry.ofKnown crossedKnown = .ok start) ∧
      (∀ name, ¬StandsAbove crossedKnown name name) ∧ ¬Acyclic (Spliced crossedKnown) := by
  obtain ⟨start, hstart⟩ := ofKnown_crossedKnown
  obtain ⟨habove, hiff⟩ := (cycle_reported_iff crossedKnown).2 start hstart
  exact ⟨⟨start, hstart⟩, habove, fun h => hiff.mpr h "A" cycle_crossedKnown⟩

theorem not_acyclic_crossed :
    (∃ start, Registry.ofKnown crossedKnown = .ok start) ∧
      ¬Acyclic (DirectlyAbove crossedKnown) :=
  ⟨ofKnown_crossedKnown, fun h => h "A" cycle_crossedKnown⟩

end FrameMarkers
