import FrameMarkers.Proofs.Marker.Fields
import Mathlib.Data.List.Duplicate

namespace FrameMarkers.Marker

variable {marker : Marker} {path : List String} {name : String}

-- The markers stand above this one in a row, each a super marker of the one before.
def Chain (marker : Marker) (above : List Marker) : Prop :=
  (marker :: above).IsChain fun lower upper => upper ∈ lower.supers

theorem chain_nil (marker : Marker) : marker.Chain [] :=
  List.IsChain.singleton marker

theorem chain_cons {upper : Marker} {above : List Marker} :
    marker.Chain (upper :: above) ↔ upper ∈ marker.supers ∧ upper.Chain above :=
  List.isChain_cons_cons

-- The names on a chain, from the marker upwards.
def chainNames (marker : Marker) (above : List Marker) : List String :=
  (marker :: above).map (·.name)

-- On no chain does a name come twice.
def ChainsDistinct (marker : Marker) : Prop :=
  ∀ above, marker.Chain above → (marker.chainNames above).Nodup

-- The field takes the identifier of a field declared above, without saying that it overrides.
def Shadows (marker : Marker) (field : Field) : Prop :=
  field.overrides = false ∧
    ∃ ancestor, marker.StrictlyExtends ancestor ∧ key field ∈ ancestor.ownFields.map key

-- The first own field with the identifier of an own field before it.
def FirstRepeated (marker : Marker) (field : Field) : Prop :=
  ∃ earlier later, marker.ownFields = earlier ++ field :: later ∧ (earlier.map key).Nodup ∧
    key field ∈ earlier.map key

-- The first own field that shadows.
def FirstShadowing (marker : Marker) (field : Field) : Prop :=
  ∃ earlier later, marker.ownFields = earlier ++ field :: later ∧
    (∀ other ∈ earlier, ¬marker.Shadows other) ∧ marker.Shadows field

-- The search keeps the names below it, so what it passes are the chains on which none of these
-- comes again.
theorem repeatedAbove_eq_none_iff_chains :
    repeatedAbove path marker = none ↔ ∀ above, marker.Chain above →
      (above.map (·.name)).Nodup ∧ ∀ upper ∈ above, upper.name ∉ path := by
  induction marker using supers_induction generalizing path with
  | step marker ih =>
      rw [repeatedAbove_eq, repeatedAmong_eq_none_iff]
      constructor
      · intro h above hc
        cases above with
        | nil => exact ⟨List.nodup_nil, by simp⟩
        | cons upper above =>
            obtain ⟨hu, hc⟩ := chain_cons.mp hc
            obtain ⟨hname, hnone⟩ := h upper hu
            exact nodup_unseen_cons.mpr ⟨hname, (ih upper hu).mp hnone above hc⟩
      · intro h upper hu
        have habove : ∀ above, upper.Chain above → upper.name ∉ path ∧
            (above.map (·.name)).Nodup ∧ ∀ other ∈ above, other.name ∉ upper.name :: path :=
          fun above hc => nodup_unseen_cons.mp (h (upper :: above) (chain_cons.mpr ⟨hu, hc⟩))
        exact ⟨(habove [] (chain_nil upper)).1,
          (ih upper hu).mpr fun above hc => (habove above hc).2⟩

theorem repeatedAbove_name_eq_none_iff :
    repeatedAbove [marker.name] marker = none ↔ marker.ChainsDistinct := by
  rw [repeatedAbove_eq_none_iff_chains, ChainsDistinct]
  refine forall₂_congr fun above _ => ?_
  have hfresh : (∀ upper ∈ above, upper.name ∉ [marker.name]) ↔
      marker.name ∉ above.map (·.name) := by
    simp only [List.mem_singleton, List.mem_map, not_exists, not_and]
  rw [hfresh, chainNames, List.map_cons, List.nodup_cons, and_comm]

theorem exists_of_repeatedAmong {markers : List Marker}
    (h : repeatedAmong path markers = some name) :
    ∃ upper ∈ markers, upper.name = name ∧ name ∈ path ∨
      repeatedAbove (upper.name :: path) upper = some name := by
  induction markers with
  | nil => simp [repeatedAmong] at h
  | cons upper rest ih =>
      by_cases hp : upper.name ∈ path
      · rw [repeatedAmong, if_pos hp, Option.some.injEq] at h
        exact ⟨upper, List.mem_cons_self, .inl ⟨h, h ▸ hp⟩⟩
      · rw [repeatedAmong, if_neg hp] at h
        cases ha : repeatedAbove (upper.name :: path) upper with
        | some found =>
            rw [ha] at h
            exact ⟨upper, List.mem_cons_self, .inr (ha.trans h)⟩
        | none =>
            rw [ha] at h
            obtain ⟨other, ho, hfound⟩ := ih h
            exact ⟨other, List.mem_cons_of_mem _ ho, hfound⟩

-- A name that is reported stands on a chain, and it stands there before or in the path.
theorem exists_chain_of_repeatedAbove (h : repeatedAbove path marker = some name) :
    ∃ above, marker.Chain above ∧ name ∈ above.map (·.name) ∧
      (name ∈ path ∨ List.Duplicate name (above.map (·.name))) := by
  induction marker using supers_induction generalizing path with
  | step marker ih =>
      rw [repeatedAbove_eq] at h
      obtain ⟨upper, hu, ⟨rfl, hp⟩ | hfound⟩ := exists_of_repeatedAmong h
      · exact ⟨[upper], chain_cons.mpr ⟨hu, chain_nil upper⟩, List.mem_singleton_self _, .inl hp⟩
      · obtain ⟨above, hc, hm, hrepeated⟩ := ih upper hu hfound
        refine ⟨upper :: above, chain_cons.mpr ⟨hu, hc⟩, List.mem_cons_of_mem _ hm, ?_⟩
        rw [List.map_cons, List.duplicate_cons_iff]
        rcases hrepeated with hp | hd
        · rcases List.mem_cons.mp hp with he | hp
          · exact .inr (.inl ⟨he.symm, hm⟩)
          · exact .inl hp
        · exact .inr (.inr hd)

theorem exists_chain_of_repeatedAbove_name (h : repeatedAbove [marker.name] marker = some name) :
    ∃ above, marker.Chain above ∧ List.Duplicate name (marker.chainNames above) := by
  obtain ⟨above, hc, hm, hrepeated⟩ := exists_chain_of_repeatedAbove h
  refine ⟨above, hc, ?_⟩
  rw [chainNames, List.map_cons, List.duplicate_cons_iff]
  exact hrepeated.imp_left fun hp => ⟨(List.mem_singleton.mp hp).symm, hm⟩

-- What super markers show are the identifiers of all the fields declared above.
theorem mem_inheritedIdentifiers {text : String} :
    text ∈ marker.inheritedIdentifiers ↔
      ∃ ancestor, marker.StrictlyExtends ancestor ∧ text ∈ ancestor.ownFields.map key := by
  simp only [inheritedIdentifiers, List.map_flatMap, List.mem_flatMap, strictlyExtends_iff]
  constructor
  · rintro ⟨parent, hp, hm⟩
    obtain ⟨ancestor, he, hm⟩ := key_mem_fields.mp hm
    exact ⟨ancestor, ⟨parent, hp, he⟩, hm⟩
  · rintro ⟨ancestor, ⟨parent, hp, he⟩, hm⟩
    exact ⟨parent, hp, key_mem_fields.mpr ⟨ancestor, he, hm⟩⟩

theorem shadows_iff {field : Field} :
    (!field.overrides && marker.inheritedIdentifiers.contains field.identifier.text) ↔
      marker.Shadows field := by
  rw [Bool.and_eq_true, Bool.not_eq_true', List.contains_iff_mem, mem_inheritedIdentifiers, Shadows]

theorem conflicting?_eq_none_iff_own :
    marker.conflicting? = none ↔ (marker.ownFields.map key).Nodup ∧
      ∀ field ∈ marker.ownFields, ¬marker.Shadows field := by
  rw [conflicting?_eq_none]
  refine and_congr_right fun _ => forall₂_congr fun field _ => ?_
  rw [Shadows, ← mem_inheritedIdentifiers, not_and]
  rfl

theorem exists_firstRepeated (h : ¬(marker.ownFields.map key).Nodup) :
    ∃ field, marker.FirstRepeated field ∧ marker.conflicting? = some field := by
  cases hf : firstRepeated key [] marker.ownFields with
  | none => exact absurd (firstRepeated_eq_none.mp hf).1 h
  | some field =>
      obtain ⟨earlier, later, he, ⟨hnodup, -⟩, hrepeated⟩ := exists_of_firstRepeated hf
      have hkey := hrepeated.resolve_left List.not_mem_nil
      refine ⟨field, ⟨earlier, later, he, hnodup, hkey⟩, ?_⟩
      rw [conflicting?, hf]

theorem exists_firstShadowing (h : (marker.ownFields.map key).Nodup)
    (hs : ∃ field ∈ marker.ownFields, marker.Shadows field) :
    ∃ field, marker.FirstShadowing field ∧ marker.conflicting? = some field := by
  have hr : firstRepeated key [] marker.ownFields = none :=
    firstRepeated_eq_none.mpr ⟨h, fun _ _ => List.not_mem_nil⟩
  have hc : marker.conflicting? = marker.ownFields.find? fun field =>
      !field.overrides && marker.inheritedIdentifiers.contains field.identifier.text := by
    rw [conflicting?, hr]
  obtain ⟨shadowing, hm, hshadows⟩ := hs
  rw [hc]
  cases hf : marker.ownFields.find? fun field =>
      !field.overrides && marker.inheritedIdentifiers.contains field.identifier.text with
  | none => exact absurd (shadows_iff.mpr hshadows) (List.find?_eq_none.mp hf shadowing hm)
  | some field =>
      obtain ⟨hfound, earlier, later, he, hnot⟩ := List.find?_eq_some_iff_append.mp hf
      refine ⟨field, ⟨earlier, later, he, fun other ho hother => ?_, shadows_iff.mp hfound⟩, rfl⟩
      have hfalse := hnot other ho
      rw [shadows_iff.mpr hother] at hfalse
      contradiction

theorem validate_of_chainsDistinct (h : marker.ChainsDistinct) {field : Field}
    (hc : marker.conflicting? = some field) :
    marker.validate = .error (.conflict marker.name (key field)) := by
  rw [validate, repeatedAbove_name_eq_none_iff.mpr h]
  simp only [hc]

theorem exists_cycle_of_repeats (h : ¬marker.ChainsDistinct) :
    ∃ above repeated, marker.Chain above ∧ List.Duplicate repeated (marker.chainNames above) ∧
      marker.validate = .error (.cycle repeated) := by
  obtain ⟨repeated, hr⟩ := Option.ne_none_iff_exists'.mp (mt repeatedAbove_name_eq_none_iff.mp h)
  obtain ⟨above, hc, hd⟩ := exists_chain_of_repeatedAbove_name hr
  refine ⟨above, repeated, hc, hd, ?_⟩
  rw [validate, hr]

theorem exists_cycle_iff : (∃ name, marker.validate = .error (.cycle name)) ↔
    ¬marker.ChainsDistinct := by
  constructor
  · rintro ⟨name, hv⟩ hchains
    rw [validate, repeatedAbove_name_eq_none_iff.mpr hchains] at hv
    cases hc : marker.conflicting? <;> simp [hc] at hv
  · intro h
    obtain ⟨-, repeated, -, -, hv⟩ := exists_cycle_of_repeats h
    exact ⟨repeated, hv⟩

theorem forM_validate_cons {first : Marker} {rest : List Marker} :
    (first :: rest).forM validate =
      match first.validate with
      | .ok _ => rest.forM validate
      | .error error => .error error := by
  rw [List.forM]
  cases first.validate <;> rfl

theorem forM_validate_eq_ok_iff {markers : List Marker} :
    markers.forM validate = .ok () ↔ ∀ marker ∈ markers, marker.validate = .ok () := by
  induction markers with
  | nil => simp [List.forM, pure, Except.pure]
  | cons first rest ih =>
      rw [forM_validate_cons, List.forall_mem_cons]
      cases first.validate with
      | ok _ => simpa using ih
      | error error => simp

-- The first marker that is not valid decides.
theorem forM_validate_eq_error_iff {markers : List Marker} {error : Error} :
    markers.forM validate = .error error ↔ ∃ earlier marker later,
      markers = earlier ++ marker :: later ∧ (∀ other ∈ earlier, other.validate = .ok ()) ∧
        marker.validate = .error error := by
  constructor
  · intro h
    induction markers with
    | nil => cases h
    | cons first rest ih =>
        rw [forM_validate_cons] at h
        cases hv : first.validate with
        | error found =>
            rw [hv] at h
            exact ⟨[], first, rest, rfl, by simp, hv.trans h⟩
        | ok _ =>
            rw [hv] at h
            obtain ⟨earlier, marker, later, rfl, hok, herror⟩ := ih h
            exact ⟨first :: earlier, marker, later, rfl, List.forall_mem_cons.mpr ⟨hv, hok⟩, herror⟩
  · rintro ⟨earlier, marker, later, rfl, hok, herror⟩
    induction earlier with
    | nil => rw [List.nil_append, forM_validate_cons, herror]
    | cons first earlier ih =>
        obtain ⟨hfirst, hok⟩ := List.forall_mem_cons.mp hok
        rw [List.cons_append, forM_validate_cons, hfirst]
        exact ih hok

theorem validate_exact (marker : Marker) :
    (marker.validate = .ok () ↔ marker.ChainsDistinct ∧ (marker.ownFields.map key).Nodup ∧
      ∀ field ∈ marker.ownFields, ¬marker.Shadows field) ∧
    (¬marker.ChainsDistinct → ∃ above repeated, marker.Chain above ∧
      List.Duplicate repeated (marker.chainNames above) ∧
        marker.validate = .error (.cycle repeated)) ∧
    (marker.ChainsDistinct → ¬(marker.ownFields.map key).Nodup → ∃ field,
      marker.FirstRepeated field ∧
        marker.validate = .error (.conflict marker.name field.identifier.text)) ∧
    (marker.ChainsDistinct → (marker.ownFields.map key).Nodup →
      (∃ field ∈ marker.ownFields, marker.Shadows field) → ∃ field,
        marker.FirstShadowing field ∧
          marker.validate = .error (.conflict marker.name field.identifier.text)) := by
  refine ⟨?_, exists_cycle_of_repeats, fun hchains hnodup => ?_,
    fun hchains hnodup hshadows => ?_⟩
  · rw [validate_eq_ok, repeatedAbove_name_eq_none_iff, conflicting?_eq_none_iff_own]
  · obtain ⟨field, hfirst, hc⟩ := exists_firstRepeated hnodup
    exact ⟨field, hfirst, validate_of_chainsDistinct hchains hc⟩
  · obtain ⟨field, hfirst, hc⟩ := exists_firstShadowing hnodup hshadows
    exact ⟨field, hfirst, validate_of_chainsDistinct hchains hc⟩

-- One marker for each way to fail. The last one is at the foot of a diamond.
def ringed : Marker :=
  ⟨"A", [], [⟨"B", [], [⟨"A", [], [], true, .implicitPublic⟩], true, .implicitPublic⟩], true,
    .implicitPublic⟩

def doubled : Marker :=
  let number (name : String) : Field := .value name ⟨"kotlin.Int", false⟩
  ⟨"Doubled", [number "a", number "b", number "b", number "a"], [], true, .implicitPublic⟩

def diamondTop : Marker :=
  ⟨"Top", [.value "id" ⟨"kotlin.Int", false⟩], [], true, .implicitPublic⟩

def diamondSides : List Marker :=
  [⟨"Left", [], [diamondTop], true, .implicitPublic⟩,
    ⟨"Right", [], [diamondTop], true, .implicitPublic⟩]

def shadowingFoot : Marker :=
  ⟨"Foot", [.value "own" ⟨"kotlin.Int", false⟩, .value "id" ⟨"kotlin.Int", false⟩], diamondSides,
    true, .implicitPublic⟩

theorem validate_exact_failing :
    (¬ringed.ChainsDistinct ∧ ∃ above repeated, ringed.Chain above ∧
      List.Duplicate repeated (ringed.chainNames above) ∧
        ringed.validate = .error (.cycle repeated)) ∧
    (doubled.ChainsDistinct ∧ ¬(doubled.ownFields.map key).Nodup ∧ ∃ field,
      doubled.FirstRepeated field ∧ field.identifier.text = "b" ∧
        doubled.validate = .error (.conflict "Doubled" field.identifier.text)) ∧
    (shadowingFoot.ChainsDistinct ∧ (shadowingFoot.ownFields.map key).Nodup ∧
      (∃ field ∈ shadowingFoot.ownFields, shadowingFoot.Shadows field) ∧ ∃ field,
        shadowingFoot.FirstShadowing field ∧
          shadowingFoot.validate = .error (.conflict "Foot" field.identifier.text)) := by
  have hringed : ¬ringed.ChainsDistinct := fun h =>
    absurd (repeatedAbove_name_eq_none_iff.mpr h) (by decide)
  have hdoubled : doubled.ChainsDistinct := repeatedAbove_name_eq_none_iff.mp rfl
  have hrepeats : ¬(doubled.ownFields.map key).Nodup := by decide
  have hfoot : shadowingFoot.ChainsDistinct := repeatedAbove_name_eq_none_iff.mp rfl
  have hnodup : (shadowingFoot.ownFields.map key).Nodup := by decide
  have hshadows : ∃ field ∈ shadowingFoot.ownFields, shadowingFoot.Shadows field :=
    ⟨.value "id" ⟨"kotlin.Int", false⟩, by simp [shadowingFoot], rfl, diamondTop,
      strictlyExtends_iff.mpr ⟨_, List.mem_cons_self, .of_mem_supers List.mem_cons_self⟩,
      List.mem_cons_self⟩
  obtain ⟨field, hfirst, herror⟩ := (validate_exact doubled).2.2.1 hdoubled hrepeats
  have hb : field.identifier.text = "b" := by
    have hconflict : doubled.validate = .error (.conflict "Doubled" "b") := by rfl
    rw [herror, Except.error.injEq, Error.conflict.injEq] at hconflict
    exact hconflict.2
  exact ⟨⟨hringed, (validate_exact ringed).2.1 hringed⟩,
    ⟨hdoubled, hrepeats, field, hfirst, hb, herror⟩,
    hfoot, hnodup, hshadows, (validate_exact shadowingFoot).2.2.2 hfoot hnodup hshadows⟩

end FrameMarkers.Marker
