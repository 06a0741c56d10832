import FrameMarkers.Registry
import Mathlib.Data.List.Nodup
import Mathlib.Logic.Relation

namespace FrameMarkers.Marker

-- The marker is the other one or has it above it, over any number of super markers.
def Extends : Marker → Marker → Prop :=
  Relation.ReflTransGen fun lower upper => upper ∈ lower.supers

theorem Extends.refl (marker : Marker) : marker.Extends marker :=
  Relation.ReflTransGen.refl

theorem Extends.of_mem_supers {lower upper : Marker} (h : upper ∈ lower.supers) :
    lower.Extends upper :=
  Relation.ReflTransGen.single h

theorem Extends.trans {first second third : Marker} (h : first.Extends second)
    (h' : second.Extends third) : first.Extends third :=
  Relation.ReflTransGen.trans h h'

-- The other one stands above the marker, over at least one super marker.
def StrictlyExtends : Marker → Marker → Prop :=
  Relation.TransGen fun lower upper => upper ∈ lower.supers

theorem strictlyExtends_iff {lower upper : Marker} :
    lower.StrictlyExtends upper ↔ ∃ parent ∈ lower.supers, parent.Extends upper :=
  Relation.TransGen.head'_iff

-- The marker is one of the markers or stands above one of them.
def Among (markers : List Marker) (marker : Marker) : Prop :=
  ∃ lower ∈ markers, lower.Extends marker

theorem treeSize_le_treeSizeOf {marker : Marker} {markers : List Marker} (h : marker ∈ markers) :
    marker.treeSize ≤ treeSizeOf markers := by
  induction markers with
  | nil => simp at h
  | cons first rest ih =>
      rcases List.mem_cons.mp h with rfl | h
      · exact Nat.le_add_right _ _
      · exact Nat.le_trans (ih h) (Nat.le_add_left _ _)

theorem treeSize_lt_of_mem_supers {lower upper : Marker} (h : upper ∈ lower.supers) :
    upper.treeSize < lower.treeSize := by
  rw [treeSize_eq lower]
  exact Nat.lt_succ_of_le (treeSize_le_treeSizeOf h)

theorem supers_induction {motive : Marker → Prop}
    (step : ∀ marker, (∀ upper ∈ marker.supers, motive upper) → motive marker) (marker : Marker) :
    motive marker := by
  induction hn : marker.treeSize using Nat.strongRecOn generalizing marker with
  | ind size ih =>
      subst hn
      exact step marker fun upper hu => ih _ (treeSize_lt_of_mem_supers hu) upper rfl

-- The trees get smaller on the way up, so nothing stands above itself.
theorem Extends.eq_or_treeSize_lt {lower upper : Marker} (h : lower.Extends upper) :
    lower = upper ∨ upper.treeSize < lower.treeSize := by
  induction h with
  | refl => exact .inl rfl
  | @tail middle upper _ hs ih =>
      have hlt := treeSize_lt_of_mem_supers hs
      rcases ih with rfl | ih
      · exact .inr hlt
      · exact .inr (Nat.lt_trans hlt ih)

-- Markers with everything above them, in which a name stands for one marker.
structure Family (member : Marker → Prop) : Prop where
  supers : ∀ {lower upper}, member lower → upper ∈ lower.supers → member upper
  names : ∀ {first second}, member first → member second → first.name = second.name →
    first = second

theorem Family.of_extends {member : Marker → Prop} (family : Family member) {lower upper : Marker}
    (hl : member lower) (h : lower.Extends upper) : member upper := by
  induction h with
  | refl => exact hl
  | tail _ hs ih => exact family.supers ih hs

theorem Family.of_closed {members : List Marker} (hnames : (members.map (·.name)).Nodup)
    (hclosed : ∀ lower ∈ members, ∀ upper ∈ lower.supers, upper ∈ members) :
    Family (· ∈ members) where
  supers hl hu := hclosed _ hl _ hu
  names hf hs he := List.inj_on_of_nodup_map hnames hf hs he

theorem exists_extends_of_mem_levels {visited : List String} {queue : List Marker} {found : Marker}
    (h : found ∈ levels visited queue) : ∃ start ∈ queue, start.Extends found := by
  fun_induction levels visited queue with
  | case1 => simp at h
  | case2 visited marker queue hv ih =>
      obtain ⟨start, hs, he⟩ := ih h
      exact ⟨start, List.mem_cons_of_mem _ hs, he⟩
  | case3 visited marker queue hv ih =>
      rcases List.mem_cons.mp h with rfl | h
      · exact ⟨found, List.mem_cons_self, .refl found⟩
      · obtain ⟨start, hs, he⟩ := ih h
        rcases List.mem_append.mp hs with hs | hs
        · exact ⟨start, List.mem_cons_of_mem _ hs, he⟩
        · exact ⟨marker, List.mem_cons_self, (Extends.of_mem_supers hs).trans he⟩

-- The name was visited before or is found in what the queue leads to.
def Seen (visited : List String) (queue : List Marker) (name : String) : Prop :=
  name ∈ visited ∨ ∃ found ∈ levels visited queue, found.name = name

theorem seen_skip {visited : List String} {marker : Marker} {queue : List Marker}
    (h : marker.name ∈ visited) (name : String) :
    Seen visited (marker :: queue) name ↔ Seen visited queue name := by
  simp only [Seen, levels, h, if_true]

theorem seen_take {visited : List String} {marker : Marker} {queue : List Marker}
    (h : marker.name ∉ visited) (name : String) :
    Seen visited (marker :: queue) name ↔
      Seen (marker.name :: visited) (queue ++ marker.supers) name := by
  simp only [Seen, levels, h, if_false, List.mem_cons, exists_eq_or_imp]
  constructor
  · rintro (hv | hm | hr)
    · exact .inl (.inr hv)
    · exact .inl (.inl hm.symm)
    · exact .inr hr
  · rintro ((hm | hv) | hr)
    · exact .inr (.inl hm.symm)
    · exact .inl hv
    · exact .inr (.inr hr)

-- The invariant of the search: what stands above a visited marker was visited or is still queued.
-- When the queue is empty, everything above a visited marker was visited.
theorem seen_closed {member : Marker → Prop} (family : Family member) (visited : List String)
    (queue : List Marker) (hqueue : ∀ marker ∈ queue, member marker)
    (hvisited : ∀ {lower upper}, member lower → lower.name ∈ visited → upper ∈ lower.supers →
      upper.name ∈ visited ∨ upper ∈ queue) :
    (∀ marker ∈ queue, Seen visited queue marker.name) ∧
      ∀ {lower upper}, member lower → Seen visited queue lower.name → upper ∈ lower.supers →
        Seen visited queue upper.name := by
  fun_induction levels visited queue with
  | case1 visited =>
      refine ⟨by simp, fun {lower upper} hl hs hu => ?_⟩
      rcases hs with hs | ⟨found, hf, _⟩
      · exact (hvisited hl hs hu).elim .inl (by simp)
      · simp [levels] at hf
  | case2 visited marker queue hv ih =>
      have hrest := ih (fun other ho => hqueue other (List.mem_cons_of_mem _ ho))
        (fun {lower upper} hl hn hu => by
          rcases hvisited hl hn hu with hn | hq
          · exact .inl hn
          · rcases List.mem_cons.mp hq with rfl | hq
            · exact .inl hv
            · exact .inr hq)
      simp only [seen_skip hv]
      refine ⟨fun other ho => ?_, hrest.2⟩
      rcases List.mem_cons.mp ho with rfl | ho
      · exact .inl hv
      · exact hrest.1 other ho
  | case3 visited marker queue hv ih =>
      have hmarker := hqueue marker List.mem_cons_self
      have hrest := ih
        (fun other ho => by
          rcases List.mem_append.mp ho with ho | ho
          · exact hqueue other (List.mem_cons_of_mem _ ho)
          · exact family.supers hmarker ho)
        (fun {lower upper} hl hn hu => by
          rcases List.mem_cons.mp hn with hn | hn
          · have he := family.names hl hmarker hn
            subst he
            exact .inr (List.mem_append_right _ hu)
          · rcases hvisited hl hn hu with hn | hq
            · exact .inl (List.mem_cons_of_mem _ hn)
            · rcases List.mem_cons.mp hq with rfl | hq
              · exact .inl List.mem_cons_self
              · exact .inr (List.mem_append_left _ hq))
      simp only [seen_take hv]
      refine ⟨fun other ho => ?_, hrest.2⟩
      rcases List.mem_cons.mp ho with rfl | ho
      · exact .inl List.mem_cons_self
      · exact hrest.1 other (List.mem_append_left _ ho)

theorem Family.seen_of_extends {member : Marker → Prop} (family : Family member)
    {lower upper : Marker} (hl : member lower) (h : lower.Extends upper) :
    Seen [lower.name] lower.supers upper.name := by
  have hclosed := seen_closed family [lower.name] lower.supers
    (fun _ hm => family.supers hl hm)
    (fun {marker upper} hm hn hu => by
      have he := family.names hm hl (List.mem_singleton.mp hn)
      subst he
      exact .inr hu)
  induction h with
  | refl => exact .inl List.mem_cons_self
  | tail hle hs ih => exact hclosed.2 (family.of_extends hl hle) ih hs

theorem exists_of_mem_ancestors {marker ancestor : Marker} (h : ancestor ∈ marker.ancestors) :
    marker.Extends ancestor := by
  obtain ⟨start, hs, he⟩ := exists_extends_of_mem_levels h
  exact (Extends.of_mem_supers hs).trans he

-- Comparing names finds exactly the markers above, as long as names are unambiguous.
theorem Family.implements_iff {member : Marker → Prop} (family : Family member)
    {marker other : Marker} (hm : member marker) (ho : member other) :
    marker.implements other ↔ marker.Extends other := by
  simp only [implements, Bool.or_eq_true, beq_iff_eq, List.any_eq_true]
  constructor
  · rintro (hn | ⟨ancestor, ha, hn⟩)
    · rw [family.names hm ho hn]
      exact .refl other
    · have he := exists_of_mem_ancestors ha
      rwa [family.names (family.of_extends hm he) ho hn] at he
  · intro h
    rcases family.seen_of_extends hm h with hn | ⟨found, hf, hn⟩
    · exact .inl (List.mem_singleton.mp hn).symm
    · exact .inr ⟨found, hf, hn⟩

theorem mem_of_mem_leaves {marker : Marker} {candidates : List Marker}
    (h : marker ∈ leaves candidates) : marker ∈ candidates :=
  (List.mem_filter.mp h).1

-- A candidate that is dropped stands above another one with a larger tree, so going down from it
-- ends at a leaf.
theorem Family.exists_leaf {member : Marker → Prop} (family : Family member)
    {candidates : List Marker} (hc : ∀ marker ∈ candidates, member marker) {marker : Marker}
    (hm : marker ∈ candidates) : ∃ leaf ∈ leaves candidates, leaf.Extends marker := by
  induction hn : treeSizeOf candidates - marker.treeSize using Nat.strongRecOn
    generalizing marker with
  | ind bound ih =>
      by_cases hleaf : marker ∈ leaves candidates
      · exact ⟨marker, hleaf, .refl marker⟩
      · simp only [leaves, List.mem_filter, hm, true_and, Bool.not_eq_true', Bool.not_eq_false,
          List.any_eq_true, Bool.and_eq_true, bne_iff_ne] at hleaf
        obtain ⟨other, ho, hne, hi⟩ := hleaf
        have he := (family.implements_iff (hc other ho) (hc marker hm)).mp hi
        have hlt := he.eq_or_treeSize_lt.resolve_left fun h => hne (congrArg name h)
        have hle := treeSize_le_treeSizeOf ho
        obtain ⟨leaf, hl, hel⟩ := ih _ (by omega) ho rfl
        exact ⟨leaf, hl, hel.trans he⟩

theorem repeatedAbove_eq (path : List String) (marker : Marker) :
    repeatedAbove path marker = repeatedAmong path marker.supers := by
  cases marker
  rw [repeatedAbove]

theorem repeatedAmong_eq_none_iff {path : List String} {markers : List Marker} :
    repeatedAmong path markers = none ↔ ∀ marker ∈ markers,
      marker.name ∉ path ∧ repeatedAbove (marker.name :: path) marker = none := by
  induction markers with
  | nil => simp [repeatedAmong]
  | cons marker rest ih =>
      rw [repeatedAmong, List.forall_mem_cons, ← ih]
      by_cases hname : marker.name ∈ path
      · simp [hname]
      · cases repeatedAbove (marker.name :: path) marker <;> simp [hname]

-- Nothing above a marker without repetitions has a name of the path that leads to it.
theorem name_notMem_of_repeatedAbove {path : List String} {marker upper other : Marker}
    (h : repeatedAbove path marker = none) (hu : upper ∈ marker.supers)
    (he : upper.Extends other) : other.name ∉ path := by
  induction marker using supers_induction generalizing path upper with
  | step marker ih =>
      rw [repeatedAbove_eq, repeatedAmong_eq_none_iff] at h
      obtain ⟨hname, habove⟩ := h upper hu
      rcases Relation.ReflTransGen.cases_head he with rfl | ⟨next, hn, hrest⟩
      · exact hname
      · exact fun hm => ih upper hu habove hn hrest (List.mem_cons_of_mem _ hm)

-- The markers of the path have larger trees than those above them, so no name comes twice.
theorem Family.repeatedAbove_eq_none {member : Marker → Prop} (family : Family member)
    {path : List String} {marker : Marker} (hm : member marker)
    (hpath : ∀ other, member other → other.name ∈ path → marker.treeSize ≤ other.treeSize) :
    repeatedAbove path marker = none := by
  induction marker using supers_induction generalizing path with
  | step marker ih =>
      rw [repeatedAbove_eq, repeatedAmong_eq_none_iff]
      intro upper hu
      have hupper := family.supers hm hu
      have hlt := treeSize_lt_of_mem_supers hu
      refine ⟨fun hname => ?_, ih upper hu hupper fun other ho hname => ?_⟩
      · exact absurd (hpath upper hupper hname) (Nat.not_le_of_lt hlt)
      · rcases List.mem_cons.mp hname with he | hname
        · exact Nat.le_of_eq (congrArg treeSize (family.names ho hupper he).symm)
        · exact Nat.le_trans (Nat.le_of_lt hlt) (hpath other ho hname)

end FrameMarkers.Marker
