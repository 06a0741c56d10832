import FrameMarkers.Proofs.Session.Reached
import FrameMarkers.Proofs.Synthesis.Clash
import Mathlib.Data.Set.Function

namespace FrameMarkers

open Synthesis

-- The identifier that the name of a column leads to.
def Naming.identifier (naming : Naming) (column : String) : String :=
  (Identifier.ofName (naming.source column)).text

-- The names lead to different identifiers.
def Naming.Separates (naming : Naming) (names : List String) : Prop :=
  Set.InjOn naming.identifier {name | name ∈ names}

-- The field stands for a column of one of the names, and has the identifier that it leads to.
def Field.Plain (naming : Naming) (names : List String) (field : Field) : Prop :=
  field.column ∈ names ∧ Marker.key field = naming.identifier field.column

-- The identifiers in use are those of the names, but of none that is still to be declared.
def Scope.Spares (scope : Scope) (naming : Naming) (names : List String)
    (columns : List (String × Column)) (used : NamePool) : Prop :=
  ∀ text, used.contains text → ∃ name ∈ names, naming.identifier name = text ∧
    (name ∈ columns.map Prod.fst → scope.inherited? name ≠ none)

variable {naming : Naming} {names : List String} {proposal : Proposal} {scope : Scope}
  {schema inner : Schema} {columns : List (String × Column)} {used used' : NamePool}
  {registry before start within after : Registry} {own fields : List Field} {marker : Marker}
  {name : String} {column : Column}

theorem Naming.Separates.agree (separates : naming.Separates names)
    (h : ∀ field ∈ fields, field.Plain naming names) : Marker.Agree fields := by
  intro first hf second hs
  obtain ⟨hfirst, hkey⟩ := h first hf
  obtain ⟨hsecond, hkey'⟩ := h second hs
  rw [hkey, hkey']
  exact (separates.eq_iff hfirst hsecond).symm

theorem Naming.identify_of_free {identifier : Identifier}
    (hfree : used.contains (naming.identifier name) = false)
    (h : naming.identify scope name used = .ok (identifier, used')) :
    identifier.text = naming.identifier name ∧
      used' = used.insert (naming.identifier name) := by
  unfold identify at h
  dsimp only at h
  rw [Naming.identifier] at hfree
  rw [hfree] at h
  split at h
  · cases h
  · cases h
    exact ⟨rfl, rfl⟩

-- What is in use at first, belongs to inherited columns.
theorem Scope.spares_identifiers (hscope : ∀ field ∈ scope.inherited, field.Plain naming names) :
    scope.Spares naming names columns scope.identifiers := by
  intro text ht
  obtain ⟨field, hf, rfl⟩ := List.mem_map.mp (List.contains_iff_mem.mp ht)
  obtain ⟨hname, hkey⟩ := hscope field hf
  refine ⟨field.column, hname, hkey.symm, fun _ hnone => ?_⟩
  exact absurd (beq_self_eq_true field.column) (List.find?_eq_none.mp hnone field hf)

namespace Scope.Spares

theorem of_cons (h : scope.Spares naming names ((name, column) :: columns) used) :
    scope.Spares naming names columns used := by
  intro text ht
  obtain ⟨other, ho, he, hinherited⟩ := h text ht
  exact ⟨other, ho, he, fun hm => hinherited (List.mem_cons_of_mem _ hm)⟩

theorem free (h : scope.Spares naming names ((name, column) :: columns) used)
    (separates : naming.Separates names) (hname : name ∈ names)
    (hnone : scope.inherited? name = none) :
    used.contains (naming.identifier name) = false := by
  refine eq_false_of_ne_true fun ht => ?_
  obtain ⟨other, ho, he, hinherited⟩ := h _ ht
  obtain rfl := separates ho hname he
  exact hinherited List.mem_cons_self hnone

theorem insert (h : scope.Spares naming names columns used) (hname : name ∈ names)
    (hnot : name ∉ columns.map Prod.fst) :
    scope.Spares naming names columns (used.insert (naming.identifier name)) := by
  intro text ht
  rcases (NamePool.contains_insert used _ text).mp ht with rfl | ht
  · exact ⟨name, hname, rfl, fun hm => absurd hm hnot⟩
  · exact h text ht

-- Declaring a column keeps that, and its field is plain.
theorem declare (h : scope.Spares naming names ((name, column) :: columns) used)
    (separates : naming.Separates names)
    (hscope : ∀ field ∈ scope.inherited, field.Plain naming names) (hname : name ∈ names)
    (hnot : name ∉ columns.map Prod.fst) {type : FieldType} {field? : Option Field}
    (hd : naming.declare scope name column type used = .ok (field?, used')) :
    (∀ field, field? = some field → field.Plain naming names) ∧
      scope.Spares naming names columns used' := by
  unfold Naming.declare at hd
  cases hi : scope.inherited? name with
  | some parent =>
      rw [hi] at hd
      have hcolumn : parent.column = name := by simpa using List.find?_some hi
      obtain ⟨-, hkey⟩ := hscope parent (List.mem_of_find?_eq_some hi)
      rw [hcolumn] at hkey
      dsimp only at hd
      split at hd
      · cases hd
        exact ⟨fun _ he => by contradiction, h.of_cons⟩
      · cases hd
        refine ⟨fun field he => ?_, h.of_cons⟩
        cases he
        exact ⟨hname, hkey⟩
  | none =>
      rw [hi] at hd
      cases hid : naming.identify scope name used with
      | error error =>
          rw [hid] at hd
          cases hd
      | ok result =>
          rw [hid] at hd
          cases hd
          obtain ⟨htext, hused⟩ :=
            Naming.identify_of_free (h.free separates hname hi) hid
          rw [hused]
          refine ⟨fun field he => ?_, h.of_cons.insert hname hnot⟩
          cases he
          exact ⟨hname, htext⟩

end Scope.Spares

namespace Synthesis

theorem plain_of_ownFields (separates : naming.Separates names)
    (hscope : ∀ field ∈ scope.inherited, field.Plain naming names)
    (hnames : columns.map Prod.fst ⊆ names) (hnodup : (columns.map Prod.fst).Nodup)
    (hspares : scope.Spares naming names columns used)
    (h : (ownFields naming proposal scope columns used).run registry = (.ok own, after)) :
    ∀ field ∈ own, field.Plain naming names := by
  induction columns generalizing used registry own with
  | nil =>
      cases h
      exact fun _ hf => absurd hf List.not_mem_nil
  | cons entry rest ih =>
      obtain ⟨name, column⟩ := entry
      obtain ⟨hname, hothers⟩ := List.cons_subset.mp hnames
      obtain ⟨hnot, hrest⟩ := List.nodup_cons.mp hnodup
      obtain ⟨type, later, field?, used', fields, -, hd, hfields, rfl⟩ := ownFields_cons_ok h
      obtain ⟨hplain, hlater⟩ := hspares.declare separates hscope hname hnot hd
      intro field hf
      rcases List.mem_append.mp hf with hf | hf
      · exact hplain field (Option.mem_toList.mp hf)
      · exact ih hothers hrest hlater hfields field hf

end Synthesis

-- All fields of markers are plain.
def Registry.Plain (naming : Naming) (names : List String) (registry : Registry) : Prop :=
  ∀ marker ∈ registry.generated, ∀ field ∈ marker.ownFields, field.Plain naming names

theorem Synthesis.Creation.plain (separates : naming.Separates names)
    (creation : Creation naming proposal schema before marker within) (hs : before.Sound)
    (h : before.Plain naming names) (hnames : schema.allNames ⊆ names) :
    ∀ field ∈ marker.ownFields, field.Plain naming names := by
  have hscope : ∀ field ∈ (newScope proposal schema before).inherited, field.Plain naming names :=
    fun field hf => hs.of_mem_required h field (mem_of_mem_distinctBy hf)
  have hcolumns : schema.names ⊆ names := by
    intro name hm
    obtain ⟨column, he⟩ := Columns.mem_names.mp hm
    exact hnames (Schema.mem_allNames_of_entry he)
  exact plain_of_ownFields separates hscope hcolumns (Columns.names_nodup schema)
    (Scope.spares_identifiers hscope) creation.fields

theorem plain_steps (separates : naming.Separates names) (proposal : Proposal) :
    Steps naming proposal (fun inner => inner.allNames ⊆ names) fun before after =>
      before.Sound ∧ before.Plain naming names → after.Sound ∧ after.Plain naming names where
  nested hd hn := fun _ hname => hd (hn.allNames_subset hname)
  refl _ := id
  trans h h' := h' ∘ h
  allocate _ h := ⟨h.1.allocate proposal.name, h.2⟩
  reuse _ unseen met h := by
    refine ⟨h.1.choose unseen ?_, h.2⟩
    rw [← h.1.markers_eq]
    exact (mem_of_reusable? met).1
  create {schema before within made} hd creation hw h := by
    obtain ⟨hwithin, hplain⟩ := hw ⟨h.1.allocate proposal.name, h.2⟩
    refine ⟨creation.sound h.1 hwithin, fun marker hm => ?_⟩
    rcases List.mem_append.mp hm with hm | hm
    · exact hplain marker hm
    · obtain rfl := List.mem_singleton.mp hm
      exact creation.plain separates h.1 h.2 hd

-- No identifiers clash in the calls that a call makes.
theorem Registry.Sound.not_clash (hs : before.Sound) (h : before.Plain naming names)
    (separates : naming.Separates names) (hnames : schema.allNames ⊆ names)
    (calls : Calls naming proposal schema before inner start) (identifier : String) :
    ¬Clash naming proposal inner start identifier := by
  intro hclash
  obtain ⟨hsound, hplain⟩ := ((plain_steps separates proposal).calls calls hnames).2 ⟨hs, h⟩
  obtain ⟨first, hf, second, hsecond, hnot⟩ := hclash.exists_disagreement
  exact hnot (separates.agree (hsound.of_mem_required hplain) first hf second hsecond)

end FrameMarkers
