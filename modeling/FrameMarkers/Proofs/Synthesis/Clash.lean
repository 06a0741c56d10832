import FrameMarkers.Proofs.Identifier.Blank
import FrameMarkers.Proofs.Synthesis.Calls
import FrameMarkers.Proofs.Synthesis.Creation

namespace FrameMarkers

namespace Marker

variable {marker : Marker} {field : Field} {error : Error}

-- Two own fields have the identifier, or a new field and an inherited one.
def Clashes (marker : Marker) (identifier : String) : Prop :=
  1 < (marker.ownFields.map key).count identifier ∨
    ∃ field ∈ marker.ownFields, field.overrides = false ∧ key field = identifier ∧
      identifier ∈ marker.inheritedFields.map key

-- Each column has one identifier in all these fields, and each identifier stands for one column.
def Agree (fields : List Field) : Prop :=
  ∀ first ∈ fields, ∀ second ∈ fields, first.column = second.column ↔ key first = key second

theorem clashes_of_conflicting? (h : marker.conflicting? = some field) :
    marker.Clashes (key field) := by
  unfold conflicting? at h
  cases hr : firstRepeated key [] marker.ownFields with
  | some found =>
      rw [hr] at h
      cases h
      exact .inl ((firstRepeated_eq_some hr).2.resolve_left List.not_mem_nil)
  | none =>
      rw [hr] at h
      have hs := List.find?_some h
      rw [Bool.and_eq_true, Bool.not_eq_true', List.contains_iff_mem] at hs
      exact .inr ⟨field, List.mem_of_find?_eq_some h, hs.1, rfl, hs.2⟩

theorem conflicting?_eq_none_iff :
    marker.conflicting? = none ↔ ∀ identifier, ¬marker.Clashes identifier := by
  constructor
  · rintro h identifier (hcount | ⟨field, hf, hnew, rfl, hinherited⟩)
    · have hle := List.nodup_iff_count_le_one.mp (conflicting?_eq_none.mp h).1 identifier
      omega
    · exact (conflicting?_eq_none.mp h).2 field hf hnew hinherited
  · intro h
    cases hc : marker.conflicting? with
    | none => rfl
    | some field => exact absurd (clashes_of_conflicting? hc) (h _)

theorem make_error_iff {name : String} {own : List Field} {supers : List Marker} {isOpen : Bool}
    {visibility : Visibility}
    (h : repeatedAbove [name] ⟨name, own, supers, isOpen, visibility⟩ = none) :
    make name own supers isOpen visibility = .error error ↔
      ∃ field, conflicting? ⟨name, own, supers, isOpen, visibility⟩ = some field ∧
        error = .conflict name (key field) := by
  unfold make validate
  dsimp only
  rw [h]
  cases conflicting? ⟨name, own, supers, isOpen, visibility⟩ with
  | none => simp [bind, Except.bind, pure, Except.pure]
  | some field => simp [bind, Except.bind, key, eq_comm]

-- The identifiers of those fields that stand for no inherited one.
def newKeys (own : List Field) : List String :=
  (own.filter (!·.overrides)).map key

theorem newKeys_append (first second : List Field) :
    newKeys (first ++ second) = newKeys first ++ newKeys second := by
  rw [newKeys, List.filter_append, List.map_append]
  rfl

theorem mem_newKeys {own : List Field} (hf : field ∈ own) (hnew : field.overrides = false) :
    key field ∈ newKeys own :=
  List.mem_map_of_mem (List.mem_filter.mpr ⟨hf, by rw [hnew]; rfl⟩)

end Marker

namespace Naming

variable {naming : Naming} {scope : Scope} {name : String} {shape : Column} {type : FieldType}
  {used used' : NamePool} {identifier : Identifier} {field? : Option Field}

theorem identify_ok (h : naming.identify scope name used = .ok (identifier, used')) :
    used.contains identifier.text = false ∧ used' = used.insert identifier.text := by
  unfold identify at h
  dsimp only at h
  split at h
  · cases h
  · split at h
    · split at h
      · cases h
      · cases h
        exact ⟨used.fresh_free _, rfl⟩
    · cases h
      exact ⟨eq_false_of_ne_true ‹_›, rfl⟩

-- Only a new field takes an identifier, and one that is free.
theorem declare_ok (h : naming.declare scope name shape type used = .ok (field?, used')) :
    (Marker.newKeys field?.toList = [] ∧ used' = used) ∨
      ∃ text, Marker.newKeys field?.toList = [text] ∧ used.contains text = false ∧
        used' = used.insert text := by
  unfold declare at h
  split at h
  · split at h <;> cases h <;> exact .inl ⟨rfl, rfl⟩
  · cases hi : naming.identify scope name used with
    | error error =>
        rw [hi] at h
        cases h
    | ok result =>
        rw [hi] at h
        cases h
        exact .inr ⟨result.1.text, rfl, identify_ok hi⟩

end Naming

namespace Synthesis

variable {naming : Naming} {proposal : Proposal} {scope : Scope}
  {columns : List (String × Column)} {schema : Schema} {used : NamePool}
  {registry before within after : Registry} {own : List Field} {identifier : String}
  {error : Error}

theorem newKeys_of_ownFields
    (h : (ownFields naming proposal scope columns used).run registry = (.ok own, after)) :
    (Marker.newKeys own).Nodup ∧ ∀ text ∈ Marker.newKeys own, used.contains text = false := by
  induction columns generalizing used registry own with
  | nil =>
      cases h
      exact ⟨List.nodup_nil, fun _ hm => absurd hm List.not_mem_nil⟩
  | cons entry rest ih =>
      obtain ⟨name, column⟩ := entry
      obtain ⟨type, later, field?, used', fields, -, hd, hrest, rfl⟩ := ownFields_cons_ok h
      obtain ⟨hnodup, hfree⟩ := ih hrest
      rw [Marker.newKeys_append]
      rcases Naming.declare_ok hd with ⟨hnone, rfl⟩ | ⟨text, hnew, hunused, rfl⟩
      · rw [hnone]
        exact ⟨hnodup, hfree⟩
      · rw [hnew]
        have hused : ∀ other, other = text ∨ used.contains other →
            (used.insert text).contains other :=
          fun other => (NamePool.contains_insert used text other).mpr
        refine ⟨List.nodup_cons.mpr ⟨fun hm => ?_, hnodup⟩, fun other hm => ?_⟩
        · exact Bool.eq_false_iff.mp (hfree text hm) (hused text (.inl rfl))
        · rcases List.mem_cons.mp hm with rfl | hm
          · exact hunused
          · exact eq_false_of_ne_true fun ho =>
              Bool.eq_false_iff.mp (hfree other hm) (hused other (.inr ho))

-- The marker that a call for the schema would make of the own fields.
def candidate (proposal : Proposal) (schema : Schema) (before : Registry) (own : List Field) :
    Marker :=
  ⟨(before.allocate proposal.name).1, own, Marker.leaves (before.required schema), proposal.isOpen,
    proposal.visibility⟩

-- When the inherited fields agree, each of their identifiers is in use from the start, as that of
-- its column.
theorem identifiers_of_agree
    (ha : Marker.Agree (candidate proposal schema before own).inheritedFields) {text : String}
    (h : text ∈ (candidate proposal schema before own).inheritedFields.map Marker.key) :
    (newScope proposal schema before).identifiers.contains text := by
  obtain ⟨field, hf, rfl⟩ := List.mem_map.mp h
  obtain ⟨other, ho, hcolumn⟩ :=
    List.mem_map.mp (key_mem_distinctBy.mpr (List.mem_map_of_mem (f := (·.column)) hf))
  rw [← (ha other (mem_of_mem_distinctBy ho) field hf).mp hcolumn]
  exact List.contains_iff_mem.mpr (List.mem_map_of_mem ho)

theorem newKeys_not_inherited (h : runFields naming proposal schema before = (.ok own, within))
    (ha : Marker.Agree (candidate proposal schema before own).inheritedFields) {text : String}
    (hm : text ∈ Marker.newKeys own) :
    text ∉ (candidate proposal schema before own).inheritedFields.map Marker.key :=
  fun hinherited => Bool.eq_false_iff.mp ((newKeys_of_ownFields h).2 text hm)
    (identifiers_of_agree ha hinherited)

-- Two own fields for one identifier are both new, or stand for inherited fields of one column.
theorem nodup_of_agree (h : runFields naming proposal schema before = (.ok own, within))
    (ha : Marker.Agree (candidate proposal schema before own).inheritedFields) :
    (own.map Marker.key).Nodup := by
  obtain ⟨types, -, hdecl⟩ := ownFields_ok h
  have hcolumns : (own.map (·.column)).Nodup :=
    hdecl.columns_sublist.nodup (Columns.names_nodup schema)
  have hapart : ∀ first ∈ own, ∀ second ∈ own, first.overrides = false → second.overrides = true →
      Marker.key first ≠ Marker.key second := by
    intro first hf second hs hnew hover hkey
    obtain ⟨source, hm, -, hid⟩ := exists_overridden_of_run h hs hover
    apply newKeys_not_inherited h ha (Marker.mem_newKeys hf hnew)
    rw [hkey, Marker.key, ← hid]
    exact List.mem_map_of_mem hm
  refine List.Nodup.map_on ?_ (List.Nodup.of_map _ hcolumns)
  intro first hf second hs hkey
  cases hfirst : first.overrides <;> cases hsecond : second.overrides
  · refine List.inj_on_of_nodup_map (newKeys_of_ownFields h).1 ?_ ?_ hkey
    · exact List.mem_filter.mpr ⟨hf, by rw [hfirst]; rfl⟩
    · exact List.mem_filter.mpr ⟨hs, by rw [hsecond]; rfl⟩
  · exact absurd hkey (hapart first hf second hs hfirst hsecond)
  · exact absurd hkey.symm (hapart second hs first hf hsecond hfirst)
  · obtain ⟨source, hm, hcolumn, hid⟩ := exists_overridden_of_run h hf hfirst
    obtain ⟨source', hm', hcolumn', hid'⟩ := exists_overridden_of_run h hs hsecond
    have hsame : Marker.key source = Marker.key source' := by
      rw [Marker.key, Marker.key, hid, hid']
      exact hkey
    have hsource := (ha source hm source' hm').mpr hsame
    exact List.inj_on_of_nodup_map hcolumns hf hs (by rw [← hcolumn, ← hcolumn', hsource])

theorem not_clashes_of_agree (h : runFields naming proposal schema before = (.ok own, within))
    (ha : Marker.Agree (candidate proposal schema before own).inheritedFields) :
    ¬(candidate proposal schema before own).Clashes identifier := by
  rintro (hcount | ⟨field, hf, hnew, rfl, hinherited⟩)
  · have hle := List.nodup_iff_count_le_one.mp (nodup_of_agree h ha) identifier
    exact absurd hcount (Nat.not_lt_of_le hle)
  · exact newKeys_not_inherited h ha (Marker.mem_newKeys hf hnew) hinherited

-- The call for the schema finds no marker, and the identifier clashes among the own fields that it
-- declares for a new one.
structure Clash (naming : Naming) (proposal : Proposal) (schema : Schema) (before : Registry)
    (identifier : String) : Prop where
  unseen : before.choice? schema = none
  unmet : before.reusable? schema (before.required schema) proposal.isOpen = none
  clashes : ∃ own within, runFields naming proposal schema before = (.ok own, within) ∧
    (candidate proposal schema before own).Clashes identifier

-- Of super markers that agree, a valid marker can be made.
theorem Clash.exists_disagreement (h : Clash naming proposal schema before identifier) :
    ∃ first ∈ (Marker.leaves (before.required schema)).flatMap Marker.fields,
      ∃ second ∈ (Marker.leaves (before.required schema)).flatMap Marker.fields,
        ¬(first.column = second.column ↔ Marker.key first = Marker.key second) := by
  obtain ⟨own, within, hrun, hclashes⟩ := h.clashes
  by_contra hnone
  push Not at hnone
  exact not_clashes_of_agree hrun (fun first hf second hs => hnone first hf second hs) hclashes

theorem Fails.blank_or_clash (hblank : naming.KeepsBlank) (hsuffix : naming.onConflict = .suffix)
    (hacyclic : ∀ own, Marker.repeatedAbove [(before.allocate proposal.name).1]
      (candidate proposal schema before own) = none)
    (h : Fails naming proposal schema before error) :
    (∃ name ∈ schema.names, Text.isBlank name.toList = true ∧ error = .blankColumn name) ∨
      ∃ identifier, Clash naming proposal schema before identifier ∧
        error = .conflict (before.allocate proposal.name).1 identifier := by
  cases h with
  | unnamed declares _ refused =>
      obtain ⟨-, hname, rfl⟩ := (Naming.declare_error_iff hblank hsuffix).mp refused
      exact .inl ⟨_, Columns.mem_names.mpr ⟨_, declares.2.2.mem⟩, hname, rfl⟩
  | @invalid own within unseen unmet fields refused =>
      obtain ⟨field, hfield, rfl⟩ := (Marker.make_error_iff (hacyclic own)).mp refused
      exact .inr ⟨_, ⟨unseen, unmet, own, within, fields, Marker.clashes_of_conflicting? hfield⟩,
        rfl⟩

theorem Clash.exists_fails (h : Clash naming proposal schema before identifier)
    (hacyclic : ∀ own, Marker.repeatedAbove [(before.allocate proposal.name).1]
      (candidate proposal schema before own) = none) :
    ∃ error, Fails naming proposal schema before error := by
  obtain ⟨own, within, hrun, hclashes⟩ := h.clashes
  cases hc : (candidate proposal schema before own).conflicting? with
  | none => exact absurd hclashes (Marker.conflicting?_eq_none_iff.mp hc identifier)
  | some field =>
      exact ⟨_, .invalid h.unseen h.unmet hrun
        ((Marker.make_error_iff (hacyclic own)).mpr ⟨field, hc, rfl⟩)⟩

end Synthesis

end FrameMarkers
