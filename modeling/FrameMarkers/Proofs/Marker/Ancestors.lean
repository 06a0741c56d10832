import FrameMarkers.Proofs.Distinct
import FrameMarkers.Proofs.Marker.Inheritance
import Mathlib.Order.Lattice.Nat

namespace FrameMarkers.Marker

variable {root marker other : Marker} {visited : List String} {front : List Marker} {length : Nat}

-- A chain of this many super markers leads from the marker to the other one.
inductive ExtendsIn (lower : Marker) : Nat → Marker → Prop where
  | refl : ExtendsIn lower 0 lower
  | step {length : Nat} {middle upper : Marker} (chain : ExtendsIn lower length middle)
      (above : upper ∈ middle.supers) : ExtendsIn lower (length + 1) upper

-- The length of a shortest chain.
noncomputable def distance (lower upper : Marker) : Nat :=
  sInf {length | lower.ExtendsIn length upper}

theorem ExtendsIn.extends (h : root.ExtendsIn length marker) : root.Extends marker := by
  induction h with
  | refl => exact .refl root
  | step _ above ih => exact ih.trans (.of_mem_supers above)

theorem ExtendsIn.distance_le (h : root.ExtendsIn length marker) : root.distance marker ≤ length :=
  Nat.sInf_le h

theorem extendsIn_distance (h : root.Extends marker) :
    root.ExtendsIn (root.distance marker) marker := by
  have hexists : ∃ length, root.ExtendsIn length marker := by
    induction h with
    | refl => exact ⟨0, .refl⟩
    | tail _ hs ih =>
        obtain ⟨length, hl⟩ := ih
        exact ⟨length + 1, hl.step hs⟩
  exact Nat.sInf_mem hexists

theorem distance_eq_zero_iff (h : root.Extends marker) :
    root.distance marker = 0 ↔ marker = root := by
  constructor
  · intro hzero
    have hchain := extendsIn_distance h
    rw [hzero] at hchain
    cases hchain
    rfl
  · rintro rfl
    exact Nat.le_zero.mp ExtendsIn.refl.distance_le

-- A last step of a shortest chain starts at a marker that is nearer by one.
theorem exists_nearer (h : root.Extends marker) (hd : root.distance marker = length + 1) :
    ∃ middle, root.Extends middle ∧ root.distance middle = length ∧ marker ∈ middle.supers := by
  have hchain := extendsIn_distance h
  rw [hd] at hchain
  obtain _ | ⟨hchain, hs⟩ := hchain
  rename_i middle
  have hle := hchain.distance_le
  have hmiddle := ((extendsIn_distance hchain.extends).step hs).distance_le
  exact ⟨middle, hchain.extends, by omega, hs⟩

-- What the search takes from a layer: one marker for each name that is new.
def fresh (visited : List String) (front : List Marker) : List Marker :=
  (distinctBy (·.name) front).filter fun marker => marker.name ∉ visited

theorem fresh_sublist (visited : List String) (front : List Marker) :
    (fresh visited front).Sublist front :=
  List.filter_sublist.trans (distinctBy_sublist (·.name) front)

theorem mem_of_mem_fresh (h : marker ∈ fresh visited front) :
    marker ∈ front ∧ marker.name ∉ visited := by
  obtain ⟨hm, hn⟩ := List.mem_filter.mp h
  exact ⟨mem_of_mem_distinctBy hm, of_decide_eq_true hn⟩

theorem exists_fresh_of_mem (h : marker ∈ front) (hn : marker.name ∉ visited) :
    ∃ found ∈ fresh visited front, found.name = marker.name := by
  obtain ⟨found, hf, he⟩ := List.mem_map.mp
    (key_mem_distinctBy.mpr (List.mem_map_of_mem (f := (·.name)) h))
  exact ⟨found, List.mem_filter.mpr ⟨hf, by simpa [he] using hn⟩, he⟩

theorem fresh_cons_of_mem (h : marker.name ∈ visited) :
    fresh visited (marker :: front) = fresh visited front := by
  rw [fresh, distinctBy, List.filter_cons_of_neg (by simpa using h), List.filter_filter, fresh]
  refine List.filter_congr fun other _ => ?_
  by_cases ho : other.name = marker.name <;> simp [ho, h]

theorem fresh_cons_of_notMem (h : marker.name ∉ visited) :
    fresh visited (marker :: front) = marker :: fresh (marker.name :: visited) front := by
  rw [fresh, distinctBy, List.filter_cons_of_pos (by simpa using h), List.filter_filter, fresh]
  congr 1
  refine List.filter_congr fun other _ => ?_
  by_cases ho : other.name = marker.name <;> simp [ho]

-- The names that were visited when the layer is done.
def visitedAfter (visited : List String) (front : List Marker) : List String :=
  ((fresh visited front).map (·.name)).reverse ++ visited

theorem levels_append (visited : List String) (front back : List Marker) :
    levels visited (front ++ back) =
      fresh visited front ++
        levels (visitedAfter visited front) (back ++ (fresh visited front).flatMap supers) := by
  induction front generalizing visited back with
  | nil => simp [fresh, visitedAfter, distinctBy]
  | cons marker front ih =>
      rw [List.cons_append, levels]
      by_cases hm : marker.name ∈ visited
      · rw [if_pos hm, visitedAfter, fresh_cons_of_mem hm]
        exact ih visited back
      · rw [if_neg hm, visitedAfter, fresh_cons_of_notMem hm, List.append_assoc, ih]
        simp [visitedAfter]

theorem levels_eq (visited : List String) (front : List Marker) :
    levels visited front = fresh visited front ++
      levels (visitedAfter visited front) ((fresh visited front).flatMap supers) := by
  have happend := levels_append visited front []
  rwa [List.append_nil, List.nil_append] at happend

theorem mem_visitedAfter {name : String} :
    name ∈ visitedAfter visited front ↔
      name ∈ visited ∨ ∃ found ∈ fresh visited front, found.name = name := by
  rw [visitedAfter, List.mem_append, List.mem_reverse, List.mem_map, or_comm]

-- The search has visited the markers nearer than this, and all markers at this distance are in the
-- frontier.
structure Frontier (root : Marker) (visited : List String) (front : List Marker) (length : Nat) :
    Prop where
  nearer : ∀ marker, root.Extends marker →
    (marker.name ∈ visited ↔ root.distance marker < length)
  chains : ∀ marker ∈ front, root.ExtendsIn length marker
  reached : ∀ marker, root.Extends marker → root.distance marker = length → marker ∈ front

theorem Frontier.distance_eq (frontier : Frontier root visited front length)
    (h : marker ∈ fresh visited front) : root.distance marker = length := by
  obtain ⟨hm, hn⟩ := mem_of_mem_fresh h
  have hchain := frontier.chains marker hm
  have hle := hchain.distance_le
  have hnot := mt (frontier.nearer marker hchain.extends).mpr hn
  omega

section

variable {member : Marker → Prop} (family : Family member) (hroot : member root)
include family hroot

theorem Frontier.eq_of_name (frontier : Frontier root visited front length) {found : Marker}
    (hf : found ∈ fresh visited front) (h : root.Extends marker) (he : found.name = marker.name) :
    found = marker :=
  have hextends := (frontier.chains found (mem_of_mem_fresh hf).1).extends
  family.names (family.of_extends hroot hextends) (family.of_extends hroot h) he

-- Under its name, a marker of the layer is taken itself.
theorem Frontier.mem_fresh (frontier : Frontier root visited front length) (h : root.Extends marker)
    (hd : root.distance marker = length) : marker ∈ fresh visited front := by
  have hn : marker.name ∉ visited := fun hm => by
    have hlt := (frontier.nearer marker h).mp hm
    omega
  obtain ⟨found, hf, he⟩ := exists_fresh_of_mem (frontier.reached marker h hd) hn
  rwa [frontier.eq_of_name family hroot hf h he] at hf

theorem Frontier.next (frontier : Frontier root visited front length) :
    Frontier root (visitedAfter visited front) ((fresh visited front).flatMap supers)
      (length + 1) where
  nearer marker h := by
    rw [mem_visitedAfter, frontier.nearer marker h]
    constructor
    · rintro (hlt | ⟨found, hf, he⟩)
      · omega
      · have hd := frontier.distance_eq hf
        rw [frontier.eq_of_name family hroot hf h he] at hd
        omega
    · intro hlt
      by_cases hd : root.distance marker = length
      · exact .inr ⟨marker, frontier.mem_fresh family hroot h hd, rfl⟩
      · exact .inl (by omega)
  chains marker hm := by
    obtain ⟨middle, hf, hs⟩ := List.mem_flatMap.mp hm
    exact (frontier.chains middle (mem_of_mem_fresh hf).1).step hs
  reached marker h hd := by
    obtain ⟨middle, hm, hd, hs⟩ := exists_nearer h hd
    exact List.mem_flatMap.mpr ⟨middle, frontier.mem_fresh family hroot hm hd, hs⟩

end

theorem treeSizeOf_flatMap_supers (markers : List Marker) :
    treeSizeOf (markers.flatMap supers) + markers.length = treeSizeOf markers := by
  induction markers with
  | nil => rfl
  | cons marker rest ih =>
      rw [List.flatMap_cons, treeSizeOf_append, treeSizeOf, treeSize_eq, ← ih, List.length_cons]
      omega

theorem treeSizeOf_le_of_sublist {markers others : List Marker} (h : markers.Sublist others) :
    treeSizeOf markers ≤ treeSizeOf others := by
  induction h with
  | slnil => exact Nat.le_refl _
  | cons marker _ ih => exact Nat.le_trans ih (Nat.le_add_left _ _)
  | cons_cons marker _ ih => exact Nat.add_le_add_left ih _

-- All that comes after a layer is farther away than what was taken from it.
theorem Frontier.pairwise {member : Marker → Prop} (family : Family member) (hroot : member root)
    (frontier : Frontier root visited front length) :
    (∀ marker ∈ levels visited front, length ≤ root.distance marker) ∧
      (levels visited front).Pairwise fun nearer farther =>
        root.distance nearer ≤ root.distance farther := by
  induction hsize : treeSizeOf front using Nat.strongRecOn generalizing visited front length with
  | ind size ih =>
      subst hsize
      rw [levels_eq]
      by_cases hnone : fresh visited front = []
      · simp [hnone, levels]
      · have hsmaller : treeSizeOf ((fresh visited front).flatMap supers) < treeSizeOf front := by
          have htaken := treeSizeOf_flatMap_supers (fresh visited front)
          have hle := treeSizeOf_le_of_sublist (fresh_sublist visited front)
          have hpos := List.length_pos_iff.mpr hnone
          omega
        obtain ⟨hlater, hrest⟩ := ih _ hsmaller (frontier.next family hroot) rfl
        constructor
        · intro marker hm
          rcases List.mem_append.mp hm with hf | hl
          · exact Nat.le_of_eq (frontier.distance_eq hf).symm
          · exact Nat.le_of_succ_le (hlater marker hl)
        · refine List.pairwise_append.mpr ⟨?_, hrest, fun nearer hf farther hl => ?_⟩
          · refine List.pairwise_of_forall_mem_list fun first hf second hs => ?_
            rw [frontier.distance_eq hf, frontier.distance_eq hs]
          · rw [frontier.distance_eq hf]
            exact Nat.le_of_succ_le (hlater farther hl)

theorem first_frontier {member : Marker → Prop} (family : Family member) (hroot : member root) :
    Frontier root [root.name] root.supers 1 where
  nearer marker h := by
    rw [List.mem_singleton, Nat.lt_one_iff, distance_eq_zero_iff h]
    exact ⟨family.names (family.of_extends hroot h) hroot, fun he => he ▸ rfl⟩
  chains marker hm := .step .refl hm
  reached marker h hd := by
    obtain ⟨middle, hm, hzero, hs⟩ := exists_nearer h hd
    rwa [(distance_eq_zero_iff hm).mp hzero] at hs

theorem Family.pairwise_ancestors {member : Marker → Prop} (family : Family member)
    (h : member marker) :
    (marker.ancestors.map marker.distance).Pairwise (· ≤ ·) :=
  List.pairwise_map.mpr ((first_frontier family h).pairwise family h).2

-- A name is passed over once it was visited.
theorem nodup_levels (visited : List String) (queue : List Marker) :
    ((levels visited queue).map (·.name)).Nodup ∧
      ∀ marker ∈ levels visited queue, marker.name ∉ visited := by
  fun_induction levels visited queue with
  | case1 => simp
  | case2 visited marker queue hv ih => exact ih
  | case3 visited marker queue hv ih => exact nodup_unseen_cons.mpr ⟨hv, ih⟩

theorem StrictlyExtends.ne (h : marker.StrictlyExtends other) : other ≠ marker := by
  rintro rfl
  obtain ⟨parent, hp, he⟩ := strictlyExtends_iff.mp h
  have hlt := treeSize_lt_of_mem_supers hp
  rcases he.eq_or_treeSize_lt with rfl | hle
  · exact Nat.lt_irrefl _ hlt
  · exact Nat.lt_asymm hlt hle

theorem Family.mem_ancestors_iff {member : Marker → Prop} (family : Family member)
    (h : member marker) : other ∈ marker.ancestors ↔ marker.StrictlyExtends other := by
  constructor
  · intro ha
    obtain ⟨parent, hp, he⟩ := exists_extends_of_mem_levels ha
    exact strictlyExtends_iff.mpr ⟨parent, hp, he⟩
  · intro ha
    have hextends : marker.Extends other := ha.to_reflTransGen
    have hother := family.of_extends h hextends
    rcases family.seen_of_extends h hextends with hn | ⟨found, hf, hn⟩
    · exact absurd (family.names hother h (List.mem_singleton.mp hn)) ha.ne
    · have hfound := family.of_extends h (exists_of_mem_ancestors hf)
      rwa [family.names hfound hother hn] at hf

-- Of the markers and those above them, two under one name are the same.
def Unambiguous (markers : List Marker) : Prop :=
  ∀ first second, Among markers first → Among markers second → first.name = second.name →
    first = second

theorem Unambiguous.family {markers : List Marker} (h : Unambiguous markers) :
    Family (Among markers) where
  supers := fun ⟨lower, hl, he⟩ hu => ⟨lower, hl, he.trans (.of_mem_supers hu)⟩
  names := h _ _

theorem Family.unambiguous {member : Marker → Prop} (family : Family member)
    {markers : List Marker} (h : ∀ marker ∈ markers, member marker) : Unambiguous markers := by
  rintro first second ⟨lower, hl, he⟩ ⟨lower', hl', he'⟩ hn
  exact family.names (family.of_extends (h lower hl) he) (family.of_extends (h lower' hl') he') hn

-- Searching by name finds all the markers above, then.
theorem Unambiguous.mem_ancestors {markers : List Marker} (h : Unambiguous markers) :
    marker ∈ distinctBy (·.name) (markers ++ markers.flatMap ancestors) ↔ Among markers marker := by
  constructor
  · intro hm
    rcases List.mem_append.mp (mem_of_mem_distinctBy hm) with hm | hm
    · exact ⟨marker, hm, .refl marker⟩
    · obtain ⟨lower, hl, ha⟩ := List.mem_flatMap.mp hm
      exact ⟨lower, hl, exists_of_mem_ancestors ha⟩
  · rintro ⟨lower, hl, he⟩
    have hlower : Among markers lower := ⟨lower, hl, .refl lower⟩
    -- A marker of that name is listed, and it can only be this one.
    have hlisted : ∃ found ∈ markers ++ markers.flatMap ancestors, found.name = marker.name := by
      rcases h.family.seen_of_extends hlower he with hn | ⟨found, hf, hn⟩
      · exact ⟨lower, List.mem_append_left _ hl, (List.mem_singleton.mp hn).symm⟩
      · exact ⟨found, List.mem_append_right _ (List.mem_flatMap.mpr ⟨lower, hl, hf⟩), hn⟩
    obtain ⟨found, hf, hn⟩ := List.mem_map.mp (key_mem_distinctBy.mpr (List.mem_map.mpr hlisted))
    have hfound : Among markers found := by
      rcases List.mem_append.mp (mem_of_mem_distinctBy hf) with hm | hm
      · exact ⟨found, hm, .refl found⟩
      · obtain ⟨other, ho, ha⟩ := List.mem_flatMap.mp hm
        exact ⟨other, ho, exists_of_mem_ancestors ha⟩
    rwa [h found marker hfound ⟨lower, hl, he⟩ hn] at hf

theorem ancestors_nearest_first {markers : List Marker} (unambiguous : Unambiguous markers) :
    (∀ marker, Among markers marker →
      marker.ancestors.Nodup ∧
      (∀ other, other ∈ marker.ancestors ↔ marker.StrictlyExtends other) ∧
      (marker.ancestors.map marker.distance).Pairwise (· ≤ ·)) ∧
    (∀ marker, Among markers marker → marker.implements marker) ∧
    (∀ first second third, Among markers first → Among markers second → Among markers third →
      first.implements second → second.implements third → first.implements third) ∧
    ∀ first second, Among markers first → Among markers second →
      first.implements second → second.implements first → first.name = second.name := by
  have family := unambiguous.family
  refine ⟨fun marker hm => ⟨?_, ?_, ?_⟩, fun marker hm => ?_, ?_, ?_⟩
  · exact List.Nodup.of_map _ (nodup_levels [marker.name] marker.supers).1
  · exact fun other => family.mem_ancestors_iff hm
  · exact family.pairwise_ancestors hm
  · exact (family.implements_iff hm hm).mpr (.refl marker)
  · intro first second third hf hs ht hfs hst
    have hfirst := (family.implements_iff hf hs).mp hfs
    have hsecond := (family.implements_iff hs ht).mp hst
    exact (family.implements_iff hf ht).mpr (hfirst.trans hsecond)
  · intro first second hf hs hfs hsf
    rcases ((family.implements_iff hf hs).mp hfs).eq_or_treeSize_lt with rfl | hlt
    · rfl
    · rcases ((family.implements_iff hs hf).mp hsf).eq_or_treeSize_lt with rfl | hgt
      · rfl
      · exact absurd hgt (Nat.lt_asymm hlt)

-- The top is two steps away on the right and three on the left.
def skewedTop : Marker :=
  ⟨"Top", [], [], true, .implicitPublic⟩

def skewedMiddle : Marker :=
  ⟨"Middle", [], [skewedTop], true, .implicitPublic⟩

def skewedLeft : Marker :=
  ⟨"Left", [], [skewedMiddle], true, .implicitPublic⟩

def skewedRight : Marker :=
  ⟨"Right", [], [skewedTop], true, .implicitPublic⟩

def skewedFoot : Marker :=
  ⟨"Foot", [], [skewedLeft, skewedRight], true, .implicitPublic⟩

theorem unambiguous_skewed : Unambiguous [skewedFoot] := by
  let members := [skewedFoot, skewedLeft, skewedRight, skewedMiddle, skewedTop]
  have family : Family (· ∈ members) := .of_closed (by decide) (by
    simp [members, skewedFoot, skewedLeft, skewedRight, skewedMiddle, skewedTop])
  exact family.unambiguous (by simp [members])

theorem ancestors_nearest_first_skewed :
    Unambiguous [skewedFoot] ∧
      skewedFoot.ancestors.map (·.name) = ["Left", "Right", "Middle", "Top"] ∧
      (∀ other, other ∈ skewedFoot.ancestors ↔ skewedFoot.StrictlyExtends other) ∧
      (skewedFoot.ancestors.map skewedFoot.distance).Pairwise (· ≤ ·) ∧
      skewedFoot.implements skewedRight ∧ skewedRight.implements skewedTop ∧
      skewedFoot.implements skewedTop := by
  have hright : skewedFoot.Extends skewedRight := .of_mem_supers (by simp [skewedFoot])
  have htop : skewedRight.Extends skewedTop := .of_mem_supers (by simp [skewedRight])
  have hamong : ∀ marker, skewedFoot.Extends marker → Among [skewedFoot] marker :=
    fun marker he => ⟨skewedFoot, List.mem_cons_self, he⟩
  have hnames : skewedFoot.ancestors.map (·.name) = ["Left", "Right", "Middle", "Top"] := by
    simp [ancestors, levels, skewedFoot, skewedLeft, skewedRight, skewedMiddle, skewedTop]
  have hrightImplements : skewedFoot.implements skewedRight := by
    simp [implements, ancestors, levels, skewedFoot, skewedLeft, skewedRight, skewedMiddle,
      skewedTop]
  have htopImplements : skewedRight.implements skewedTop := by
    simp [implements, ancestors, levels, skewedRight, skewedTop]
  obtain ⟨hancestors, -, htrans, -⟩ := ancestors_nearest_first unambiguous_skewed
  obtain ⟨-, hmem, hpairwise⟩ := hancestors skewedFoot (hamong _ (.refl _))
  exact ⟨unambiguous_skewed, hnames, hmem, hpairwise, hrightImplements, htopImplements,
    htrans _ _ _ (hamong _ (.refl _)) (hamong _ hright) (hamong _ (hright.trans htop))
      hrightImplements htopImplements⟩

end FrameMarkers.Marker
