import FrameMarkers.Proofs.Generation.Rendering
import FrameMarkers.Proofs.Identifier.Fading
import FrameMarkers.Proofs.Session.Traced

namespace FrameMarkers

open Synthesis

variable {naming : Naming} {registry : Registry} {field : Field} {options : GenerationOptions}
  {schema : Schema} {result : Generated}

theorem Naming.isBlank_identifier_iff {name : String} :
    Text.isBlank (naming.identifier name).toList ↔ Identifier.Fades (naming.source name).toList :=
  Identifier.isBlank_ofName_iff (naming.source name)

theorem Field.Traced.ne_empty (h : field.Traced naming registry) : field.identifier.text ≠ "" :=
  h.derived.ne_empty (Identifier.ofName_text_ne_empty h.visible)

-- A blank identifier has no number.
theorem Field.Traced.fades (h : field.Traced naming registry)
    (hblank : Text.isBlank field.identifier.text.toList) :
    Identifier.Fades (naming.source field.column).toList := by
  rw [← Naming.isBlank_identifier_iff, ← h.derived.eq_of_isBlank hblank]
  exact hblank

-- The markers come from a session that binds the columns of the schema and no others.
theorem exists_reached_of_generate (hknown : options.known = [])
    (h : generate options schema = .ok result) :
    ∃ registry, Reached options.naming registry ∧ registry.generated = result.newMarkers ∧
      ∀ name, name ∈ schema.allNames ↔ registry.Binds name := by
  obtain ⟨root, hs⟩ := synthesize_of_generate h
  obtain ⟨start, after, opened, hrun, -, hmarkers⟩ := GenerationOptions.exists_session hs
  rw [hknown] at opened
  have hafter : Reached options.naming
      ((process options.naming options.proposal schema).run start).2 :=
    (reached_steps options.naming options.proposal).process trivial start (.start opened)
  have hcolumns := (columns_steps schema.allNames options.naming options.proposal).process
    (List.Subset.refl _) start
  rw [hrun] at hafter hcolumns
  refine ⟨after, hafter, hmarkers.symm, fun name =>
    ⟨hafter.binds_allNames (choice_of_run hrun) name, ?_⟩⟩
  rintro ⟨marker, hm, field, hf, rfl⟩
  refine hcolumns ?_ marker (hafter.sound.markers_eq ▸ hm) field hf
  obtain rfl := Registry.eq_of_ofKnown_nil opened
  exact fun _ hm => absurd hm List.not_mem_nil

theorem blank_identifiers_iff (hknown : options.known = [])
    (h : generate options schema = .ok result) :
    (∀ marker ∈ result.newMarkers, ∀ field ∈ marker.fields,
        field.identifier.text ≠ "" ∧ field.column ∈ schema.allNames ∧
          (Text.isBlank field.identifier.text.toList →
            Identifier.Fades (options.naming.source field.column).toList)) ∧
      (∀ name ∈ schema.allNames, Text.isBlank (options.naming.source name).toList = false) ∧
      ((∃ marker ∈ result.newMarkers, ∃ field ∈ marker.fields,
          Text.isBlank field.identifier.text.toList) ↔
        ∃ name ∈ schema.allNames, Identifier.Fades (options.naming.source name).toList) := by
  obtain ⟨registry, reached, hmarkers, hnames⟩ := exists_reached_of_generate hknown h
  rw [← hmarkers]
  have htraced : ∀ marker ∈ registry.generated, ∀ field ∈ marker.fields,
      field.Traced options.naming registry :=
    fun marker hm field hf => reached.sound.of_mem_fields reached.traced hm hf
  have hcolumn : ∀ marker ∈ registry.generated, ∀ field ∈ marker.fields,
      field.column ∈ schema.allNames :=
    fun marker hm field hf => (hnames field.column).mpr (reached.sound.binds hm hf)
  refine ⟨fun marker hm field hf => ?_, fun name hname => ?_, ?_, ?_⟩
  · have hfield := htraced marker hm field hf
    exact ⟨hfield.ne_empty, hcolumn marker hm field hf, hfield.fades⟩
  · obtain ⟨marker, hm, field, hf, rfl⟩ := (hnames name).mp hname
    exact (reached.traced marker hm field hf).visible
  · rintro ⟨marker, hm, field, hf, hblank⟩
    exact ⟨field.column, hcolumn marker hm field hf, (htraced marker hm field hf).fades hblank⟩
  · rintro ⟨name, hname, hfades⟩
    obtain ⟨marker, hm, field, hf, rfl⟩ := (hnames name).mp hname
    obtain ⟨upper, hu, other, ho, hkey⟩ := (reached.traced marker hm field hf).taken
    obtain ⟨shown, hs, hshown⟩ := List.mem_map.mp
      (Marker.key_mem_fields.mpr ⟨upper, .refl upper, List.mem_map_of_mem ho⟩)
    refine ⟨upper, hu, shown, hs, ?_⟩
    change Text.isBlank (Marker.key shown).toList
    rw [hshown, hkey]
    exact Naming.isBlank_identifier_iff.mpr hfades

-- A record with a column of each name.
def fadingRecord (names : List String) : Schema :=
  .ofList (names.map fun name => (name, .value ⟨"kotlin.Int", false⟩))

-- A column whose identifier would be the same is refused for its name.
example : (generate {} (fadingRecord [" "])).isOk = false ∧
    (generate {} (fadingRecord ["."])).isOk = true ∧
      Identifier.ofName "." = Identifier.ofName " " := by
  decide +kernel

theorem blank_identifiers_iff_stops :
    ∃ result, generate { accessors := false } (fadingRecord [".", ";"]) = .ok result ∧
      result.newMarkers.map (·.ownFields.map (·.identifier.text)) = [[" ", " 1"]] ∧
      ∃ marker ∈ result.newMarkers, ∃ field ∈ marker.fields,
        Text.isBlank field.identifier.text.toList := by
  have htexts : (generate { accessors := false } (fadingRecord [".", ";"])).toOption.map
      (·.newMarkers.map (·.ownFields.map (·.identifier.text))) = some [[" ", " 1"]] := by
    decide +kernel
  cases h : generate { accessors := false } (fadingRecord [".", ";"]) with
  | error error =>
      rw [h] at htexts
      cases htexts
  | ok result =>
      rw [h] at htexts
      obtain ⟨-, -, hblank⟩ := blank_identifiers_iff rfl h
      have hname : "." ∈ (fadingRecord [".", ";"]).allNames := by decide +kernel
      have hfades : Identifier.Fades ".".toList := by decide
      exact ⟨result, rfl, Option.some.inj htexts, hblank.mpr ⟨".", hname, hfades⟩⟩

theorem not_visible_stop :
    ¬∀ (options : GenerationOptions) (schema : Schema) (result : Generated), options.known = [] →
      generate options schema = .ok result → ∀ marker ∈ result.newMarkers,
        ∀ field ∈ marker.fields, Text.isBlank field.identifier.text.toList = false := by
  intro hvisible
  have hblank : (generate {} (fadingRecord ["."])).toOption.any
      (·.newMarkers.any (·.fields.any (Text.isBlank ·.identifier.text.toList))) = true := by
    decide +kernel
  cases h : generate {} (fadingRecord ["."]) with
  | error error =>
      rw [h] at hblank
      cases hblank
  | ok result =>
      rw [h] at hblank
      obtain ⟨marker, hm, hmarker⟩ := List.any_eq_true.mp hblank
      obtain ⟨field, hf, hfield⟩ := List.any_eq_true.mp hmarker
      rw [hvisible {} (fadingRecord ["."]) result rfl h marker hm field hf] at hfield
      contradiction

end FrameMarkers
