import FrameMarkers.Generation
import FrameMarkers.Proofs.Distinct
import FrameMarkers.Proofs.Identifier.Pool
import FrameMarkers.Proofs.Marker.Fields

namespace FrameMarkers

-- A text that goes on like itself behind a word goes on with a character of that word.
theorem mem_of_append_eq {word text : List Char} {c : Char} {rest rest' : List Char}
    (hw : word ≠ []) (h : text ++ c :: rest = word ++ (text ++ rest')) : c ∈ word := by
  induction hn : text.length using Nat.strongRecOn generalizing text with
  | ind size ih =>
      subst hn
      rcases List.append_eq_append_iff.mp h with ⟨more, rfl, hmore⟩ | ⟨more, rfl, hmore⟩
      -- The text ends within the word.
      · cases more with
        | nil =>
            rw [List.append_nil] at hw ⊢
            obtain ⟨first, others, rfl⟩ := List.exists_cons_of_ne_nil hw
            cases hmore
            exact List.mem_cons_self
        | cons first others =>
            cases hmore
            exact List.mem_append_right _ List.mem_cons_self
      -- The text starts with the word, and what is left of it is shorter.
      · rw [List.append_assoc] at hmore
        refine ih more.length ?_ hmore.symm rfl
        rw [List.length_append]
        have hpos := List.length_pos_of_ne_nil hw
        omega

theorem digits_append_inj {digits digits' rest rest' : List Char}
    (h : ∀ c ∈ digits, c.isDigit) (h' : ∀ c ∈ digits', c.isDigit)
    (he : digits ++ '_' :: rest = digits' ++ '_' :: rest') : digits = digits' ∧ rest = rest' := by
  induction digits generalizing digits' with
  | nil =>
      cases digits' with
      | nil => exact ⟨rfl, (List.cons.inj he).2⟩
      | cons first others =>
          have hfirst := h' first List.mem_cons_self
          rw [← (List.cons.inj he).1] at hfirst
          exact absurd hfirst (by decide)
  | cons first others ih =>
      have hfirst := h first List.mem_cons_self
      cases digits' with
      | nil =>
          rw [(List.cons.inj he).1] at hfirst
          exact absurd hfirst (by decide)
      | cons first' others' =>
          obtain ⟨rfl, hrest⟩ := List.cons.inj he
          obtain ⟨rfl, rfl⟩ := ih (fun c hc => h c (List.mem_cons_of_mem _ hc))
            (fun c hc => h' c (List.mem_cons_of_mem _ hc)) hrest
          exact ⟨rfl, rfl⟩

namespace Marker

-- The short name for the proposed name.
def stem (proposed : String) : List Char :=
  (proposed.toList.reverse.takeWhile (· != '.')).reverse

theorem exists_number {proposed : String} {marker : Marker}
    (h : NamePool.Derived proposed marker.name) :
    ∃ digits : List Char, (∀ c ∈ digits, c.isDigit) ∧
      marker.name.toList = proposed.toList ++ digits ∧
      marker.shortName.toList = stem proposed ++ digits := by
  obtain ⟨digits, hdigits, hname⟩ := h.exists_digits
  refine ⟨digits, hdigits, hname, ?_⟩
  have hdots : ∀ c ∈ digits.reverse, (c != '.') = true := by
    intro c hc
    rw [bne_iff_ne]
    rintro rfl
    exact absurd (hdigits _ (List.mem_reverse.mp hc)) (by decide)
  rw [shortName, hname, List.reverse_append, List.takeWhile_append_of_pos hdots,
    List.reverse_append, List.reverse_reverse, String.toList_ofList, stem]

-- The binding of a field's accessors, on the marker or on the nullable marker.
def binding (nullable : Bool) (marker : Marker) (field : Field) : String :=
  (if nullable then "Nullable" else "") ++ marker.shortName ++ "_" ++ key field

variable {proposed : String} {marker other : Marker} {field field' : Field}
  {nullable nullable' : Bool} {front digits digits' : List Char}

theorem binding_ne (hdigits : ∀ c ∈ digits, c.isDigit)
    (h : marker.shortName.toList = front ++ digits)
    (h' : other.shortName.toList = front ++ digits') :
    binding false marker field ≠ binding true other field' := by
  intro he
  have hlist := congrArg String.toList he
  simp only [binding, String.toList_append, h, h', List.append_assoc] at hlist
  have hword : ∀ c ∈ "Nullable".toList, c.isDigit = false ∧ c ≠ '_' := by
    simp
  cases digits with
  | nil => exact (hword '_' (mem_of_append_eq (by decide) hlist)).2 rfl
  | cons first others =>
      have hfirst := hdigits first List.mem_cons_self
      rw [(hword first (mem_of_append_eq (by decide) hlist)).1] at hfirst
      exact Bool.false_ne_true hfirst

-- Markers whose short names differ by their numbers only are told apart by each binding.
theorem binding_inj_of_digits (hdigits : ∀ c ∈ digits, c.isDigit)
    (hdigits' : ∀ c ∈ digits', c.isDigit) (h : marker.shortName.toList = front ++ digits)
    (h' : other.shortName.toList = front ++ digits')
    (he : binding nullable marker field = binding nullable' other field') :
    nullable = nullable' ∧ digits = digits' ∧ key field = key field' := by
  have hnullable : nullable = nullable' := by
    cases nullable <;> cases nullable'
    · rfl
    · exact absurd he (binding_ne hdigits h h')
    · exact absurd he.symm (binding_ne hdigits' h' h)
    · rfl
  subst hnullable
  have hlist := congrArg String.toList he
  simp only [binding, String.toList_append, h, h', List.append_assoc,
    List.append_cancel_left_eq] at hlist
  obtain ⟨hd, hkey⟩ := digits_append_inj hdigits hdigits' hlist
  exact ⟨rfl, hd, String.toList_injective hkey⟩

-- On one marker, no field takes the binding of another one.
theorem binding_inj_self (he : binding nullable marker field = binding nullable' marker field') :
    nullable = nullable' ∧ key field = key field' := by
  have hnone : ∀ c ∈ ([] : List Char), c.isDigit := fun _ hc => nomatch hc
  have hname : marker.shortName.toList = marker.shortName.toList ++ [] := (List.append_nil _).symm
  obtain ⟨hnullable, -, hkey⟩ := binding_inj_of_digits hnone hnone hname hname he
  exact ⟨hnullable, hkey⟩

theorem binding_inj (h : NamePool.Derived proposed marker.name)
    (h' : NamePool.Derived proposed other.name)
    (he : binding nullable marker field = binding nullable' other field') :
    nullable = nullable' ∧ marker.name = other.name ∧ key field = key field' := by
  obtain ⟨digits, hdigits, hname, hshort⟩ := exists_number h
  obtain ⟨digits', hdigits', hname', hshort'⟩ := exists_number h'
  obtain ⟨hnullable, rfl, hkey⟩ := binding_inj_of_digits hdigits hdigits' hshort hshort' he
  exact ⟨hnullable, String.toList_injective (hname.trans hname'.symm), hkey⟩

end Marker

-- What an accessor claims.
def Accessor.slot (accessor : Accessor) : Receiver × String :=
  (accessor.receiver, accessor.binding)

-- Claims fail at the first slot that is asked for again.
theorem Accessor.claimAll_eq (owner : String) (accessors : List Accessor) (table : BindingTable) :
    claimAll owner accessors table =
      match firstRepeated slot table.claimed accessors with
      | some accessor => .error (.conflict owner accessor.binding)
      | none => .ok ⟨(accessors.map slot).reverse ++ table.claimed⟩ := by
  induction accessors generalizing table with
  | nil => rfl
  | cons accessor rest ih =>
      by_cases ht : accessor.slot ∈ table.claimed
      · have hclaim : table.claim accessor.receiver accessor.binding owner =
            .error (.conflict owner accessor.binding) :=
          if_pos (List.contains_iff_mem.mpr ht)
        rw [claimAll, hclaim, firstRepeated, if_pos ht]
        rfl
      · have hclaim : table.claim accessor.receiver accessor.binding owner =
            .ok ⟨accessor.slot :: table.claimed⟩ :=
          if_neg (mt List.contains_iff_mem.mp ht)
        rw [claimAll, hclaim, firstRepeated, if_neg ht, List.map_cons, List.reverse_cons,
          List.append_assoc, List.singleton_append]
        exact ih ⟨accessor.slot :: table.claimed⟩

-- Claims go through when no slot is asked for twice.
theorem Accessor.claimAll_eq_ok {owner : String} {accessors : List Accessor} {table : BindingTable}
    (h : (accessors.map slot).Nodup) (hfree : ∀ taken ∈ accessors.map slot, taken ∉ table.claimed) :
    claimAll owner accessors table = .ok ⟨(accessors.map slot).reverse ++ table.claimed⟩ := by
  have hnone : firstRepeated slot table.claimed accessors = none :=
    firstRepeated_eq_none.mpr ⟨h, fun _ ha => hfree _ (List.mem_map_of_mem ha)⟩
  rw [claimAll_eq, hnone]

namespace Marker

-- What the accessors of a field claim, on the columns and on a row.
def slots (nullable : Bool) (marker : Marker) (field : Field) : List (Receiver × String) :=
  [(.container, binding nullable marker field), (.row, binding nullable marker field)]

theorem slot_accessors (style : TypeStyle) (nullable : Bool) (marker : Marker) :
    (marker.accessors style nullable).map Accessor.slot =
      (if nullable then [false, true] else [false]).flatMap fun nullable =>
        marker.sortedFields.flatMap (slots nullable marker) := by
  have hslots : ∀ field, (marker.fieldAccessors style field).map Accessor.slot =
      slots false marker field := by
    intro field
    simp [fieldAccessors, slots, binding, Accessor.slot, key]
  have hnullable : ∀ field, (marker.nullableFieldAccessors style field).map Accessor.slot =
      slots true marker field := by
    intro field
    simp [nullableFieldAccessors, slots, binding, Accessor.slot, key]
  cases nullable <;> simp [accessors, List.map_flatMap, hslots, hnullable]

theorem mem_slots {nullable : Bool} {marker : Marker} {field : Field} {taken : Receiver × String}
    (h : taken ∈ slots nullable marker field) : taken.2 = binding nullable marker field := by
  rcases List.mem_pair.mp h with rfl | rfl <;> rfl

theorem nodup_slots (nullable : Bool) (marker : Marker) (field : Field) :
    (slots nullable marker field).Nodup := by
  simp [slots]

theorem nodup_sortedFields (marker : Marker) : (marker.sortedFields.map key).Nodup :=
  ((List.mergeSort_perm _ _).map key).nodup_iff.mpr (nodup_distinctBy key _)

variable {proposed : String} {marker other : Marker}

theorem nodup_slot_accessors (style : TypeStyle) (nullable : Bool) (marker : Marker) :
    ((marker.accessors style nullable).map Accessor.slot).Nodup := by
  rw [slot_accessors]
  refine List.nodup_flatMap.mpr ⟨fun flag _ => ?_, ?_⟩
  · refine List.nodup_flatMap.mpr ⟨fun field _ => nodup_slots flag marker field, ?_⟩
    refine (List.pairwise_map.mp marker.nodup_sortedFields).imp fun {field field'} hne => ?_
    intro taken hm hm'
    exact hne (binding_inj_self ((mem_slots hm).symm.trans (mem_slots hm'))).2
  · have hapart : ∀ flag flag' : Bool, flag ≠ flag' →
        (marker.sortedFields.flatMap (slots flag marker)).Disjoint
          (marker.sortedFields.flatMap (slots flag' marker)) := by
      intro flag flag' hne taken hm hm'
      obtain ⟨field, -, hs⟩ := List.mem_flatMap.mp hm
      obtain ⟨field', -, hs'⟩ := List.mem_flatMap.mp hm'
      exact hne (binding_inj_self ((mem_slots hs).symm.trans (mem_slots hs'))).1
    cases nullable
    · exact List.pairwise_singleton _ _
    · exact List.pairwise_pair.mpr (hapart false true (by decide))

-- Accessors of different markers claim different slots.
theorem disjoint_slot_accessors (h : NamePool.Derived proposed marker.name)
    (h' : NamePool.Derived proposed other.name) (hne : marker.name ≠ other.name)
    (style : TypeStyle) (nullable nullable' : Bool) :
    ((marker.accessors style nullable).map Accessor.slot).Disjoint
      ((other.accessors style nullable').map Accessor.slot) := by
  intro taken hm hm'
  rw [slot_accessors] at hm hm'
  obtain ⟨flag, -, hm⟩ := List.mem_flatMap.mp hm
  obtain ⟨field, -, hs⟩ := List.mem_flatMap.mp hm
  obtain ⟨flag', -, hm'⟩ := List.mem_flatMap.mp hm'
  obtain ⟨field', -, hs'⟩ := List.mem_flatMap.mp hm'
  exact hne (binding_inj h h' ((mem_slots hs).symm.trans (mem_slots hs'))).2.1

end Marker

namespace GenerationOptions

variable {options : GenerationOptions} {root : String} {nullable : List String}
  {markers : List Marker}

-- What the accessors of a marker claim when all markers are declared.
def claims (options : GenerationOptions) (nullable : List String) (marker : Marker) :
    List (Receiver × String) :=
  (marker.accessors options.types
    (options.nullableAccessors || nullable.contains marker.name)).map Accessor.slot

theorem accessors?_eq_ok {marker : Marker} {table : BindingTable}
    (h : (options.claims nullable marker).Nodup)
    (hfree : ∀ taken ∈ options.claims nullable marker, taken ∉ table.claimed) :
    ∃ text? after, options.accessors? nullable marker table = .ok (text?, after) ∧
      ∀ taken ∈ after.claimed, taken ∈ options.claims nullable marker ∨ taken ∈ table.claimed := by
  unfold accessors?
  by_cases ha : options.accessors
  · rw [if_pos ha, Marker.renderAccessors, Accessor.claimAll_eq_ok h hfree]
    refine ⟨_, _, rfl, fun taken hm => ?_⟩
    exact (List.mem_append.mp hm).imp_left List.mem_reverse.mp
  · rw [if_neg ha]
    exact ⟨none, table, rfl, fun _ => .inr⟩

theorem blocks_eq_ok_of_nodup {table : BindingTable}
    (h : (markers.flatMap (options.claims nullable)).Nodup)
    (hfree : ∀ taken ∈ markers.flatMap (options.claims nullable), taken ∉ table.claimed) :
    ∃ blocks, options.blocks root nullable markers table = .ok blocks := by
  induction markers generalizing table with
  | nil => exact ⟨[], rfl⟩
  | cons marker rest ih =>
      rw [List.flatMap_cons] at h hfree
      obtain ⟨hfirst, hrest, hapart⟩ := List.nodup_append.mp h
      obtain ⟨text?, after, hafter, hclaimed⟩ := accessors?_eq_ok hfirst
        fun taken hm => hfree taken (List.mem_append_left _ hm)
      have hlater : ∀ taken ∈ rest.flatMap (options.claims nullable), taken ∉ after.claimed := by
        intro taken hm ht
        rcases hclaimed taken ht with hs | hs
        · exact hapart taken hs taken hm rfl
        · exact hfree taken (List.mem_append_right _ hm) hs
      obtain ⟨others, hothers⟩ := ih hrest hlater
      rw [blocks, hafter]
      simp only [bind, Except.bind, hothers]
      exact ⟨_, rfl⟩

-- Markers made for one proposed name can always be declared together.
theorem blocks_eq_ok {proposed : String} (hnodup : (markers.map (·.name)).Nodup)
    (h : ∀ marker ∈ markers, NamePool.Derived proposed marker.name) :
    ∃ blocks, options.blocks root nullable markers .empty = .ok blocks := by
  refine blocks_eq_ok_of_nodup ?_ fun _ _ => List.not_mem_nil
  refine List.nodup_flatMap.mpr ⟨fun marker _ => ?_, ?_⟩
  · exact Marker.nodup_slot_accessors _ _ marker
  · refine (List.pairwise_map.mp hnodup).imp_of_mem fun {marker other} hm ho hne => ?_
    exact Marker.disjoint_slot_accessors (h marker hm) (h other ho) hne _ _ _

end GenerationOptions

end FrameMarkers
