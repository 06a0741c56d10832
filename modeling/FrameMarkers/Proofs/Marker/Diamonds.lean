import FrameMarkers.Proofs.Marker.Ancestors
import FrameMarkers.Proofs.Marker.Validity

namespace FrameMarkers.Marker

variable {marker source heir : Marker} {text : String} {field : Field}

mutual

-- All fields declared by the marker and above it, each with the marker that declares it, in the
-- order of the search.
def declarations : Marker → List (Marker × Field)
  | ⟨name, ownFields, supers, isOpen, visibility⟩ =>
    ownFields.map (Prod.mk ⟨name, ownFields, supers, isOpen, visibility⟩) ++ declarationsOf supers

def declarationsOf : List Marker → List (Marker × Field)
  | [] => []
  | marker :: rest => declarations marker ++ declarationsOf rest

end

-- The visible field under the identifier, with the marker that declares it.
def declaration? (text : String) (marker : Marker) : Option (Marker × Field) :=
  marker.declarations.find? fun declaration => key declaration.2 == text

theorem declarations_eq (marker : Marker) :
    marker.declarations =
      marker.ownFields.map (Prod.mk marker) ++ marker.supers.flatMap declarations := by
  have hsupers (markers : List Marker) : declarationsOf markers = markers.flatMap declarations := by
    induction markers with
    | nil => rfl
    | cons marker rest ih => simp [declarationsOf, ih]
  cases marker
  rw [declarations, hsupers]

theorem map_snd_declarations (marker : Marker) :
    marker.declarations.map Prod.snd = marker.declaredFields := by
  induction marker using supers_induction with
  | step marker ih =>
      rw [declarations_eq, declaredFields_eq, List.map_append, List.map_map, List.map_flatMap]
      congr 1
      · exact List.map_id _
      · exact List.flatMap_congr ih

theorem map_snd_declaration? (marker : Marker) (text : String) :
    (marker.declaration? text).map Prod.snd =
      marker.fields.find? fun field => key field == text := by
  rw [fields, find?_distinctBy, ← map_snd_declarations, List.find?_map]
  rfl

-- An own declaration is found at once; without one the search goes on above.
theorem declaration?_of_own (h : text ∈ marker.ownFields.map key) :
    ∃ field ∈ marker.ownFields, marker.declaration? text = some (marker, field) := by
  obtain ⟨own, ho, hk⟩ := List.mem_map.mp h
  have hsome : (marker.ownFields.find? fun field => key field == text).isSome :=
    List.find?_isSome.mpr ⟨own, ho, beq_iff_eq.mpr hk⟩
  obtain ⟨field, hf⟩ := Option.isSome_iff_exists.mp hsome
  have hfirst : (marker.ownFields.map (Prod.mk marker)).find?
      (fun declaration => key declaration.2 == text) = some (marker, field) := by
    rw [List.find?_map, Option.map_eq_some_iff]
    exact ⟨field, hf, rfl⟩
  refine ⟨field, List.mem_of_find?_eq_some hf, ?_⟩
  rw [declaration?, declarations_eq, List.find?_append, hfirst, Option.some_or]

theorem declaration?_of_not_own (h : text ∉ marker.ownFields.map key) :
    marker.declaration? text = marker.supers.findSome? (declaration? text) := by
  have hnone : (marker.ownFields.map (Prod.mk marker)).find?
      (fun declaration => key declaration.2 == text) = none := by
    refine List.find?_eq_none.mpr fun declaration hm he => h ?_
    obtain ⟨field, hf, rfl⟩ := List.mem_map.mp hm
    exact List.mem_map.mpr ⟨field, hf, beq_iff_eq.mp he⟩
  rw [declaration?, declarations_eq, List.find?_append, hnone, Option.none_or, List.find?_flatMap]
  rfl

theorem declaration?_isSome_iff :
    (marker.declaration? text).isSome ↔
      ∃ upper, marker.Extends upper ∧ text ∈ upper.ownFields.map key := by
  rw [← key_mem_fields, ← Option.isSome_map, map_snd_declaration?, List.find?_isSome, List.mem_map]
  simp only [beq_iff_eq]

theorem own_of_mem_declarations (h : (source, field) ∈ marker.declarations) :
    field ∈ source.ownFields := by
  induction marker using supers_induction with
  | step marker ih =>
      rw [declarations_eq, List.mem_append, List.mem_map, List.mem_flatMap] at h
      rcases h with ⟨own, ho, he⟩ | ⟨upper, hu, hm⟩
      · cases he
        exact ho
      · exact ih upper hu hm

theorem key_mem_of_declaration? (h : marker.declaration? text = some (source, field)) :
    text ∈ source.ownFields.map key := by
  have ho := own_of_mem_declarations (List.mem_of_find?_eq_some h)
  have hk := List.find?_some h
  exact List.mem_map.mpr ⟨field, ho, beq_iff_eq.mp hk⟩

-- No marker that declares the identifier stands below the one that declares the visible field.
def Survives (marker : Marker) (text : String) : Prop :=
  ∀ source field heir, marker.declaration? text = some (source, field) → marker.Extends heir →
    text ∈ heir.ownFields.map key → ¬heir.StrictlyExtends source

-- Of two super markers the first one shows the field of the source, and only the second one leads
-- to the heir, which stands below the source and declares the identifier again.
structure Diamond (text : String) (foot first second source heir : Marker) : Prop where
  inOrder : [first, second].Sublist foot.supers
  shown : ∃ field, foot.declaration? text = some (source, field) ∧
    first.declaration? text = some (source, field)
  apart : ¬first.Extends heir
  reached : second.Extends heir
  declares : text ∈ heir.ownFields.map key
  below : heir.StrictlyExtends source

-- With the field of a valid heir that takes the identifier of the source goes leave to do so.
theorem Diamond.overrides {foot first second : Marker}
    (diamond : Diamond text foot first second source heir) (hv : heir.validate = .ok ())
    (hf : field ∈ heir.ownFields) (hk : key field = text) : field.overrides = true := by
  obtain ⟨_, hshown, -⟩ := diamond.shown
  obtain ⟨-, hconflict⟩ := validate_eq_ok.mp hv
  obtain ⟨-, hshadows⟩ := conflicting?_eq_none_iff_own.mp hconflict
  refine eq_true_of_ne_false fun hnot => hshadows field hf ⟨hnot, source, diamond.below, ?_⟩
  rw [hk]
  exact key_mem_of_declaration? hshown

theorem exists_later {earlier later : List Marker} {first : Marker}
    (hs : marker.supers = earlier ++ first :: later)
    (hearlier : ∀ other ∈ earlier, other.declaration? text = none)
    (hown : text ∉ marker.ownFields.map key) (he : marker.Extends heir)
    (hd : text ∈ heir.ownFields.map key) (hf : ¬first.Extends heir) :
    ∃ second ∈ later, second.Extends heir := by
  rcases Relation.ReflTransGen.cases_head he with rfl | ⟨parent, hp, hparent⟩
  · exact absurd hd hown
  · have hshows := declaration?_isSome_iff.mpr ⟨heir, hparent, hd⟩
    rw [hs, List.mem_append, List.mem_cons] at hp
    rcases hp with hp | rfl | hp
    · rw [hearlier parent hp] at hshows
      contradiction
    · exact absurd hparent hf
    · exact ⟨parent, hp, hparent⟩

-- The search goes up over the side that shows the field. The heir is above the same side at first;
-- where the ways part, it can only be above a later one.
theorem exists_diamond (h : marker.declaration? text = some (source, field))
    (he : marker.Extends heir) (hd : text ∈ heir.ownFields.map key)
    (hb : heir.StrictlyExtends source) :
    ∃ foot first second, marker.Extends foot ∧ foot.declaration? text = marker.declaration? text ∧
      Diamond text foot first second source heir := by
  induction marker using supers_induction with
  | step marker ih =>
      by_cases hown : text ∈ marker.ownFields.map key
      · -- The marker itself is the source, and no marker stands above itself.
        obtain ⟨own, -, hshown⟩ := declaration?_of_own hown
        rw [hshown] at h
        cases h
        exact absurd rfl (StrictlyExtends.ne (Relation.TransGen.trans_right he hb))
      · have hshown := h
        rw [declaration?_of_not_own hown] at hshown
        obtain ⟨earlier, first, later, hs, hfirst, hearlier⟩ :=
          List.findSome?_eq_some_iff.mp hshown
        by_cases hf : first.Extends heir
        · have hmem : first ∈ marker.supers := by simp [hs]
          obtain ⟨foot, left, right, hfoot, hsame, diamond⟩ := ih first hmem hfirst hf
          exact ⟨foot, left, right, (Extends.of_mem_supers hmem).trans hfoot,
            hsame.trans (hfirst.trans h.symm), diamond⟩
        · obtain ⟨second, hm, hsecond⟩ := exists_later hs hearlier hown he hd hf
          have hinOrder : [first, second].Sublist marker.supers := by
            rw [hs]
            exact (List.cons_sublist_cons.mpr (List.singleton_sublist.mpr hm)).trans
              (List.sublist_append_right _ _)
          exact ⟨marker, first, second, .refl marker, rfl,
            ⟨hinOrder, ⟨field, h, hfirst⟩, hf, hsecond, hd, hb⟩⟩

theorem survives_iff_no_diamond :
    marker.Survives text ↔ ∀ foot first second source heir, marker.Extends foot →
      foot.declaration? text = marker.declaration? text →
        ¬Diamond text foot first second source heir := by
  constructor
  · intro h foot first second source heir hfoot hsame diamond
    obtain ⟨field, hshown, -⟩ := diamond.shown
    have hsecond : second ∈ foot.supers := diamond.inOrder.mem (by simp)
    have hheir : marker.Extends heir :=
      hfoot.trans ((Extends.of_mem_supers hsecond).trans diamond.reached)
    exact h source field heir (hsame.symm.trans hshown) hheir diamond.declares diamond.below
  · intro h source field heir hshown he hd hb
    obtain ⟨foot, first, second, hfoot, hsame, diamond⟩ := exists_diamond hshown he hd hb
    exact h foot first second source heir hfoot hsame diamond

-- It takes a choice between super markers to miss a declaration.
theorem survives_of_single (h : ∀ foot, marker.Extends foot → foot.supers.length ≤ 1) :
    marker.Survives text := by
  refine survives_iff_no_diamond.mpr fun foot first second source heir hfoot _ diamond => ?_
  have htwo : 2 ≤ foot.supers.length := diamond.inOrder.length_le
  exact absurd (h foot hfoot) (Nat.not_le.mpr htwo)

theorem overrides_survive_iff (marker : Marker) (text : String) :
    ((marker.declaration? text).map Prod.snd =
      marker.fields.find? fun field => key field == text) ∧
    (marker.Survives text ↔ ∀ foot first second source heir, marker.Extends foot →
      foot.declaration? text = marker.declaration? text →
        ¬Diamond text foot first second source heir) ∧
    ∀ foot first second source heir, Diamond text foot first second source heir →
      heir.validate = .ok () → ∀ field ∈ heir.ownFields, key field = text →
        field.overrides = true :=
  ⟨map_snd_declaration? marker text, survives_iff_no_diamond,
    fun _ _ _ _ _ diamond hv _ hf hk => diamond.overrides hv hf hk⟩

-- The field of the top shows at the foot, though the right side declares it with a narrower type.
def narrowedTop : Marker :=
  ⟨"Top", [.value "x" ⟨ValueType.any, true⟩], [], true, .implicitPublic⟩

def narrowedLeft : Marker :=
  ⟨"Left", [], [narrowedTop], true, .implicitPublic⟩

def narrowedRight : Marker :=
  ⟨"Right", [{ Field.value "x" ⟨"kotlin.Int", false⟩ with overrides := true }], [narrowedTop], true,
    .implicitPublic⟩

def narrowedFoot : Marker :=
  ⟨"Foot", [], [narrowedLeft, narrowedRight], true, .implicitPublic⟩

theorem family_narrowed : Family (· ∈ [narrowedFoot, narrowedLeft, narrowedRight, narrowedTop]) :=
  .of_closed (by decide) (by simp [narrowedFoot, narrowedLeft, narrowedRight, narrowedTop])

theorem validate_narrowed (h : narrowedFoot.Extends marker) : marker.validate = .ok () := by
  have hall : ∀ marker ∈ [narrowedFoot, narrowedLeft, narrowedRight, narrowedTop],
      marker.validate = .ok () := by
    decide +kernel
  exact hall marker (family_narrowed.of_extends List.mem_cons_self h)

theorem diamond_narrowed :
    Diamond "x" narrowedFoot narrowedLeft narrowedRight narrowedTop narrowedRight where
  inOrder := by simp [narrowedFoot]
  shown := ⟨_, rfl, rfl⟩
  apart h := by
    rcases h.eq_or_treeSize_lt with he | hlt
    · exact absurd (congrArg name he) (by decide)
    · exact absurd hlt (by decide)
  reached := .refl narrowedRight
  declares := by decide
  below := .single List.mem_cons_self

theorem overrides_survive_iff_narrowed :
    Diamond "x" narrowedFoot narrowedLeft narrowedRight narrowedTop narrowedRight ∧
      ¬narrowedFoot.Survives "x" ∧ narrowedRight.validate = .ok () ∧
      (∀ field ∈ narrowedRight.ownFields, key field = "x" → field.overrides = true) ∧
      (narrowedFoot.fields.find? fun field => key field == "x") =
        some (.value "x" ⟨ValueType.any, true⟩) := by
  obtain ⟨hvisible, hsurvives, hoverrides⟩ := overrides_survive_iff narrowedFoot "x"
  have hnot : ¬narrowedFoot.Survives "x" := fun h =>
    hsurvives.mp h _ _ _ _ _ (.refl narrowedFoot) rfl diamond_narrowed
  have hvalid : narrowedRight.validate = .ok () :=
    validate_narrowed (.of_mem_supers (by simp [narrowedFoot]))
  exact ⟨diamond_narrowed, hnot, hvalid, hoverrides _ _ _ _ _ diamond_narrowed hvalid,
    hvisible.symm.trans rfl⟩

theorem not_overrides_survive_narrowed :
    (∀ marker, narrowedFoot.Extends marker → marker.validate = .ok ()) ∧
      Unambiguous [narrowedFoot] ∧ ¬∀ text, narrowedFoot.Survives text := by
  refine ⟨fun _ => validate_narrowed, family_narrowed.unambiguous (by simp), fun h => ?_⟩
  exact survives_iff_no_diamond.mp (h "x") _ _ _ _ _ (.refl narrowedFoot) rfl diamond_narrowed

end FrameMarkers.Marker
