import FrameMarkers.Proofs.Identifier.Renderable
import FrameMarkers.Proofs.Session.Separate
import FrameMarkers.Proofs.Synthesis.Nested

namespace FrameMarkers

open Synthesis

variable {naming : Naming} {proposal : Proposal} {scope : Scope} {schema : Schema}
  {columns : List (String × Column)} {used used' : NamePool}
  {registry before within after : Registry} {own : List Field} {marker : Marker} {field : Field}
  {name : String} {column : Column}

-- Some marker of the session has an own field for the column.
def Registry.Binds (registry : Registry) (name : String) : Prop :=
  ∃ marker ∈ registry.generated, ∃ field ∈ marker.ownFields, field.column = name

theorem Registry.Binds.mono (h : registry.Binds name) (hgrows : registry.Grows after) :
    after.Binds name := by
  obtain ⟨marker, hm, hfield⟩ := h
  exact ⟨marker, hgrows.generated.subset hm, hfield⟩

-- Every field is an own field of the marker or of one above it.
theorem Registry.Sound.binds (hs : registry.Sound) (hm : marker ∈ registry.generated)
    (hf : field ∈ marker.fields) : registry.Binds field.column :=
  hs.of_mem_fields (P := fun field => registry.Binds field.column)
    (fun marker hm field hf => ⟨marker, hm, field, hf, rfl⟩) hm hf

namespace Synthesis

theorem exists_assigns_of_ownFields
    (h : (ownFields naming proposal scope columns used).run registry = (.ok own, after))
    (hm : (name, column) ∈ columns) : ∃ type, after.Assigns column type := by
  induction columns generalizing used registry own with
  | nil => exact absurd hm List.not_mem_nil
  | cons entry rest ih =>
      obtain ⟨first, column'⟩ := entry
      obtain ⟨type, later, field?, used', fields, hr, -, hrest, rfl⟩ := ownFields_cons_ok h
      rcases List.mem_cons.mp hm with he | hm
      · cases he
        refine ⟨type, (assigns_of_run hr).mono ?_⟩
        have hgrows : later.GrowsFresh
            ((ownFields naming proposal scope rest used').run later).2 :=
          (growsFresh_steps naming proposal).ownFields (fun _ _ _ _ _ => trivial) _ _ _
        rw [hrest] at hgrows
        exact hgrows.toGrows
      · exact ih hrest hm

-- A column is bound by an own field of the new marker, or by a field that it inherits.
theorem Creation.binds (creation : Creation naming proposal schema before marker within)
    (hs : before.Sound) (he : (name, column) ∈ schema.entries) :
    ((within.register marker).choose schema marker).Binds name := by
  obtain ⟨types, -, hdecl⟩ := creation.declared
  have hname : name ∈ types.map Prod.fst := by
    rw [hdecl.names]
    exact List.mem_map_of_mem he
  obtain ⟨⟨name, type⟩, ht, rfl⟩ := List.mem_map.mp hname
  rcases hdecl.find?_own (Columns.names_nodup schema) ht with
    ⟨-, parent, hp, -⟩ | ⟨⟨field, hf, -⟩, -⟩
  · rw [creation.inherited?_eq] at hp
    obtain ⟨upper, hu, hfield⟩ := Marker.mem_inheritedFields.mp (List.mem_of_find?_eq_some hp)
    have hupper := (creation.of_mem_supers hu).1
    rw [hs.markers_eq] at hupper
    have hcolumn : parent.column = name := by simpa using List.find?_some hp
    rw [← hcolumn]
    exact (hs.binds hupper hfield).mono (creation.grows.trans creation.grows_after)
  · exact ⟨marker, List.mem_append_right _ List.mem_cons_self, field,
      List.mem_of_find?_eq_some hf, by simpa using List.find?_some hf⟩

end Synthesis

-- The columns of a schema that has a marker are bound, and their own schemas have markers too.
theorem Reached.binds (h : Reached naming registry) (hc : registry.choice? schema = some marker)
    (he : (name, column) ∈ schema.entries) :
    registry.Binds name ∧ ∃ type, registry.Assigns column type := by
  have grow {before after : Registry} (hgrows : before.Grows after)
      (h : before.Binds name ∧ ∃ type, before.Assigns column type) :
      after.Binds name ∧ ∃ type, after.Assigns column type :=
    ⟨h.1.mono hgrows, h.2.imp fun _ ha => ha.mono hgrows⟩
  induction h with
  | start empty =>
      obtain rfl := Registry.eq_of_ofKnown_nil empty
      simp [Registry.choice?] at hc
  | allocated proposed _ ih => exact grow (.allocate _ proposed) (ih hc)
  | @reused _ key registry chosen earlier unseen met ih =>
      refine grow (.choose unseen chosen) ?_
      rw [Registry.choice?_choose] at hc
      by_cases hk : schema = key
      · have hfound := List.find?_some met
        rw [Bool.and_eq_true, beq_iff_eq] at hfound
        rw [hk, ← hfound.2] at he
        obtain ⟨field, hf, rfl, rfl⟩ := Marker.exists_shape_of_mem_schema he
        have hm := (mem_of_reusable? met).1
        rw [earlier.sound.markers_eq] at hm
        exact ⟨earlier.sound.binds hm hf,
          earlier.sound.of_mem_fields (P := fun field => ∃ type, registry.Assigns field.shape type)
            (fun marker hm field hf => ⟨_, earlier.sound.types marker hm field hf⟩) hm hf⟩
      · rw [if_neg hk] at hc
        exact ih hc
  | @created _ key before within made earlier _ creation _ ih =>
      rw [Registry.choice?_choose] at hc
      by_cases hk : schema = key
      · subst hk
        refine ⟨creation.binds earlier.sound he, ?_⟩
        obtain ⟨type, ha⟩ := exists_assigns_of_ownFields creation.fields he
        exact ⟨type, ha.mono creation.grows_after⟩
      · rw [if_neg hk] at hc
        exact grow creation.grows_after (ih hc)

theorem Reached.binds_allNames (h : Reached naming registry)
    (hc : registry.choice? schema = some marker) :
    ∀ name ∈ schema.allNames, registry.Binds name := by
  induction schema using Schema.nesting_induction generalizing marker with
  | step schema ih =>
      intro name hm
      obtain ⟨key, column, he, rfl | hn⟩ := schema.mem_allNames.mp hm
      · exact (h.binds hc he).1
      · obtain ⟨type, _, -, hchoice⟩ := (h.binds hc he).2
        obtain ⟨nested, hnested, hn⟩ := Column.exists_nested_of_mem_allNames hn
        obtain ⟨chosen, hchosen, -⟩ := hchoice nested hnested
        exact ih nested ⟨key, column, he, hnested⟩ hchosen name hn

-- Conversely, markers are made for columns of the schema only.
theorem columns_steps (names : List String) (naming : Naming) (proposal : Proposal) :
    Steps naming proposal (fun inner => inner.allNames ⊆ names) fun before after =>
      (∀ marker ∈ before.markers, ∀ field ∈ marker.ownFields, field.column ∈ names) →
        ∀ marker ∈ after.markers, ∀ field ∈ marker.ownFields, field.column ∈ names :=
  preserved_steps (fun hd hn _ hname => hd (hn.allNames_subset hname))
    fun {schema _ _ _} hd creation _ _ hf => hd (Schema.mem_allNames_of_entry
      ((Columns.get?_eq_some_iff schema).mp (creation.of_mem_own hf).1))

-- The field has the identifier that its column leads to, perhaps with a number. In any case some
-- field has that identifier.
structure Field.Traced (naming : Naming) (registry : Registry) (field : Field) : Prop where
  visible : Text.isBlank (naming.source field.column).toList = false
  derived : NamePool.Derived (naming.identifier field.column) (Marker.key field)
  taken : ∃ marker ∈ registry.generated, ∃ other ∈ marker.ownFields,
    Marker.key other = naming.identifier field.column

theorem Field.Traced.mono (h : field.Traced naming registry) (hgrows : registry.Grows after) :
    field.Traced naming after := by
  obtain ⟨marker, hm, hother⟩ := h.taken
  exact ⟨h.visible, h.derived, marker, hgrows.generated.subset hm, hother⟩

theorem Field.Traced.of_eq {other : Field} (h : other.Traced naming registry)
    (hcolumn : other.column = field.column) (hid : other.identifier = field.identifier) :
    field.Traced naming registry := by
  obtain ⟨visible, derived, taken⟩ := h
  rw [Marker.key, hid, hcolumn] at derived
  rw [hcolumn] at visible taken
  exact ⟨visible, derived, taken⟩

theorem Naming.contains_of_declare {shape : Column} {type : FieldType} {field? : Option Field}
    {text : String} (h : naming.declare scope name shape type used = .ok (field?, used'))
    (ht : used'.contains text) : text ∈ Marker.newKeys field?.toList ∨ used.contains text := by
  rcases Naming.declare_ok h with ⟨-, rfl⟩ | ⟨added, hadded, -, rfl⟩
  · exact .inr ht
  · rw [hadded, List.mem_singleton]
    exact (NamePool.contains_insert used added text).mp ht

namespace Synthesis

-- A new field got an identifier made for its column. The one that the column leads to was in use
-- then, be it by the field itself or by one before it.
theorem identifies_of_ownFields
    (h : (ownFields naming proposal scope columns used).run registry = (.ok own, after))
    (hf : field ∈ own) (hnew : field.overrides = false) :
    ∃ last, naming.Identifies field.column last field.identifier ∧
      (naming.identifier field.column ∈ Marker.newKeys own ∨
        used.contains (naming.identifier field.column)) := by
  induction columns generalizing used registry own with
  | nil =>
      cases h
      exact absurd hf List.not_mem_nil
  | cons entry rest ih =>
      obtain ⟨name, column⟩ := entry
      obtain ⟨type, later, field?, used', fields, -, hd, hrest, rfl⟩ := ownFields_cons_ok h
      rw [Marker.newKeys_append, List.mem_append]
      rcases List.mem_append.mp hf with hf | hf
      · obtain rfl : field? = some field := Option.mem_toList.mp hf
        have hidentifies := Naming.identifies_of_declare hd hnew
        rw [(Scope.declares_of_declare hd).of_some.1]
        refine ⟨used, hidentifies, hidentifies.taken.imp_left fun htext => .inl ?_⟩
        have hkey : Marker.key field = naming.identifier name := htext
        rw [← hkey]
        exact Marker.mem_newKeys List.mem_cons_self hnew
      · obtain ⟨last, hidentifies, htaken⟩ := ih hrest hf
        refine ⟨last, hidentifies, ?_⟩
        rcases htaken with hlater | hused
        · exact .inl (.inr hlater)
        · exact (Naming.contains_of_declare hd hused).imp_left .inl

theorem Creation.traced (creation : Creation naming proposal schema before marker within)
    (hs : before.Sound)
    (h : ∀ upper ∈ before.generated, ∀ field ∈ upper.ownFields, field.Traced naming before)
    (hf : field ∈ marker.ownFields) :
    field.Traced naming ((within.register marker).choose schema marker) := by
  have hgrows := creation.grows.trans creation.grows_after
  cases hnew : field.overrides with
  | true =>
      obtain ⟨source, hm, hcolumn, hid⟩ := exists_overridden_of_run creation.fields hf hnew
      exact ((hs.of_mem_required h source hm).mono hgrows).of_eq hcolumn hid
  | false =>
      obtain ⟨last, hidentifies, htaken⟩ := identifies_of_ownFields creation.fields hf hnew
      refine ⟨hidentifies.visible, hidentifies.derived, ?_⟩
      rcases htaken with hkey | hused
      · obtain ⟨other, ho, hother⟩ := List.mem_map.mp hkey
        exact ⟨marker, List.mem_append_right _ List.mem_cons_self, other,
          List.mem_of_mem_filter ho, hother⟩
      · obtain ⟨source, hm, hsource⟩ := List.mem_map.mp (List.contains_iff_mem.mp hused)
        have htakes := hs.of_mem_required
          (P := fun source => ∃ upper ∈ before.generated, ∃ other ∈ upper.ownFields,
            Marker.key other = Marker.key source)
          (fun upper hu other ho => ⟨upper, hu, other, ho, rfl⟩) source (mem_of_mem_distinctBy hm)
        obtain ⟨upper, hu, other, ho, hother⟩ := htakes
        exact ⟨upper, hgrows.generated.subset hu, other, ho, hother.trans hsource⟩

end Synthesis

theorem Reached.traced (h : Reached naming registry) :
    ∀ marker ∈ registry.generated, ∀ field ∈ marker.ownFields, field.Traced naming registry := by
  induction h with
  | start empty =>
      obtain rfl := Registry.eq_of_ofKnown_nil empty
      exact fun _ hm => absurd hm List.not_mem_nil
  | allocated proposed _ ih =>
      exact fun marker hm field hf => (ih marker hm field hf).mono (.allocate _ proposed)
  | reused _ unseen _ ih =>
      exact fun marker hm field hf => (ih marker hm field hf).mono (.choose unseen _)
  | created earlier _ creation hb hw =>
      intro marker hm field hf
      rcases List.mem_append.mp hm with hm | hm
      · exact (hw marker hm field hf).mono creation.grows_after
      · obtain rfl := List.mem_singleton.mp hm
        exact creation.traced earlier.sound hb hf

end FrameMarkers
