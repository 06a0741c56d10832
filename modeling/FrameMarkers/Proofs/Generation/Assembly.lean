import FrameMarkers.Proofs.Declaration.Single
import FrameMarkers.Proofs.Generation.Rendering

namespace FrameMarkers

-- Some marker has a visible field for a record of this marker that may be absent.
def Marker.occursNullable (markers : List Marker) (marker : Marker) : Bool :=
  markers.any fun other => other.fields.any fun field => field.type = .group marker.name true

theorem Marker.contains_nullableReferences (markers : List Marker) (marker : Marker) :
    (nullableReferences markers).contains marker.name = marker.occursNullable markers := by
  rw [Bool.eq_iff_iff, List.contains_iff_mem, nullableReferences, List.mem_filterMap,
    occursNullable, List.any_eq_true]
  simp only [List.mem_flatMap, List.any_eq_true, decide_eq_true_eq]
  constructor
  · rintro ⟨field, ⟨other, ho, hf⟩, htype⟩
    refine ⟨other, ho, field, hf, ?_⟩
    split at htype
    · rename_i name hname
      rw [hname, Option.some.inj htype]
    · cases htype
  · rintro ⟨other, ho, field, hf, htype⟩
    exact ⟨field, ⟨other, ho, hf⟩, by rw [htype]⟩

namespace GenerationOptions

-- The interface of a marker on its own, unless only accessors are declared.
def interfaceAlone (options : GenerationOptions) (root marker : Marker) :
    Except Error (List String) :=
  if options.mode = .none then .ok []
  else do
    let method? := if marker.name = root.name then options.readMethod else none
    let code ← marker.declare ⟨options.types, options.nullableAccessors⟩ options.mode false method?
    pure [code.declarations]

-- Accessors on the nullable marker are declared if they are for all markers, or if this one occurs
-- nullable among the markers.
def accessorStyle (options : GenerationOptions) (markers : List Marker) (marker : Marker) : Style :=
  ⟨options.types, options.nullableAccessors || marker.occursNullable markers⟩

-- The accessors of a marker on its own, if they are asked for and there are any.
def accessorsAlone (options : GenerationOptions) (markers : List Marker) (marker : Marker) :
    Except Error (List String) :=
  if options.accessors && !marker.fields.isEmpty then do
    let code ← marker.declare (options.accessorStyle markers marker) .none true none
    pure [code.declarations]
  else .ok []

-- All that is declared for a marker, one of the given ones, on its own.
def declaredAlone (options : GenerationOptions) (root : Marker) (markers : List Marker)
    (marker : Marker) : Except Error (List String) := do
  let interface ← options.interfaceAlone root marker
  let accessors ← options.accessorsAlone markers marker
  pure (interface ++ accessors)

variable {options : GenerationOptions} {schema : Schema} {root marker : Marker}
  {markers rest : List Marker} {table after : BindingTable} {text? : Option String}
  {blocks : List String}

theorem interfaceAlone_eq (hmode : options.mode.supportsSchemas = true) (root marker : Marker) :
    options.interfaceAlone root marker = .ok (options.interface? root.name marker).toList := by
  unfold interfaceAlone interface?
  by_cases hnone : options.mode = .none
  · rw [if_pos hnone, if_pos hnone]
    rfl
  · have hinterface : options.mode = .noFields ∨ options.mode = .withFields := by
      cases hm : options.mode <;> simp_all [Mode.supportsSchemas]
    rw [if_neg hnone, if_neg hnone]
    dsimp only
    rw [Marker.declare_interface hinterface]
    rfl

-- The bindings that were claimed before matter only for whether there are accessors at all.
theorem accessorsAlone_eq
    (h : options.accessors? (Marker.nullableReferences markers) marker table =
      .ok (text?, after)) :
    options.accessorsAlone markers marker = .ok text?.toList := by
  unfold accessors? at h
  unfold accessorsAlone
  by_cases ha : options.accessors
  · rw [if_pos ha, Marker.contains_nullableReferences] at h
    change (marker.renderAccessors (options.accessorStyle markers marker).types
      (options.accessorStyle markers marker).nullableAccessors table >>= _) = _ at h
    cases hr : marker.renderAccessors (options.accessorStyle markers marker).types
        (options.accessorStyle markers marker).nullableAccessors table with
    | error error =>
        rw [hr] at h
        cases h
    | ok made =>
        have htext := (Marker.renderAccessors_eq_ok_iff.mp hr).2
        rw [hr] at h
        cases h
        rw [ha, Bool.true_and]
        by_cases hfields : marker.fields = []
        · rw [Marker.accessorText_eq_empty_iff.mpr hfields] at htext
          simp [hfields, htext]
        · have hne : made.1 ≠ "" := fun he =>
            hfields (Marker.accessorText_eq_empty_iff.mp (htext.symm.trans he))
          simp [hfields, ← htext, hne, Marker.declare_accessors, bind, Except.bind, pure,
            Except.pure]
  · rw [if_neg ha] at h
    cases h
    simp [ha]

theorem blocks_eq_flatten (hmode : options.mode.supportsSchemas = true) (markers : List Marker)
    (h : options.blocks root.name (Marker.nullableReferences markers) rest table = .ok blocks) :
    ∃ parts, rest.mapM (options.declaredAlone root markers) = .ok parts ∧
      blocks = parts.flatten := by
  induction rest generalizing table blocks with
  | nil =>
      cases h
      exact ⟨[], rfl, rfl⟩
  | cons marker rest ih =>
      obtain ⟨text?, next, others, haccessors, hothers, rfl⟩ := blocks_cons_eq_ok_iff.mp h
      obtain ⟨parts, hparts, rfl⟩ := ih hothers
      have hmarker : options.declaredAlone root markers marker =
          .ok ((options.interface? root.name marker).toList ++ text?.toList) := by
        rw [declaredAlone, interfaceAlone_eq hmode, accessorsAlone_eq haccessors]
        rfl
      refine ⟨_ :: parts, ?_, List.flatten_cons.symm⟩
      rw [List.mapM_cons, hmarker, hparts]
      rfl

theorem name_eq_root_iff (h : options.synthesize schema = .ok (root, markers))
    (hm : marker ∈ markers) : marker.name = root.name ↔ marker = root := by
  obtain ⟨start, -, opened, -⟩ := exists_session h
  have hroot := (root_of_synthesize opened h (List.ne_nil_of_mem hm)).1
  exact ⟨List.inj_on_of_nodup_map (names_of_synthesize h).1 hm hroot, congrArg _⟩

end GenerationOptions

variable {options : GenerationOptions} {schema : Schema} {result : Generated}

theorem declarations_assembled (h : generate options schema = .ok result) :
    ∃ root parts, options.synthesize schema = .ok (root, result.newMarkers) ∧
      (∀ marker ∈ result.newMarkers, marker.name = root.name ↔ marker = root) ∧
      result.newMarkers.mapM (options.declaredAlone root result.newMarkers) = .ok parts ∧
      result.code.declarations = "\n\n".intercalate parts.flatten := by
  obtain ⟨hmode, root, markers, blocks, hs, hblocks, rfl⟩ := generate_eq_ok_iff.mp h
  obtain ⟨parts, hparts, rfl⟩ := GenerationOptions.blocks_eq_flatten hmode markers hblocks
  exact ⟨root, parts, hs, fun marker hm => GenerationOptions.name_eq_root_iff hs hm, hparts, rfl⟩

-- A table with a reader, and in it a record that may be absent.
def readOptions : GenerationOptions :=
  { readMethod := some ⟨"readCsv", some "people.csv", []⟩, types := .short }

def readSchema : Schema :=
  .ofList [("name", .value ⟨"kotlin.String", false⟩),
    ("home", .group (Schema.ofList [("city", .value ⟨"kotlin.String", true⟩)]) true)]

theorem declarations_assembled_read :
    ∃ result root parts, generate readOptions readSchema = .ok result ∧
      result.newMarkers.map (fun marker => (marker.name, marker.occursNullable result.newMarkers)) =
        [("DataType1", true), ("DataType", false)] ∧
      readOptions.synthesize readSchema = .ok (root, result.newMarkers) ∧
      (∀ marker ∈ result.newMarkers, marker.name = root.name ↔ marker = root) ∧
      result.newMarkers.mapM (readOptions.declaredAlone root result.newMarkers) = .ok parts ∧
      result.code.declarations = "\n\n".intercalate parts.flatten := by
  have hmade : (readOptions.synthesize readSchema).toOption.map (fun made =>
      made.2.map fun marker => (marker.name, marker.occursNullable made.2)) =
      some [("DataType1", true), ("DataType", false)] := by
    decide +kernel
  cases hs : readOptions.synthesize readSchema with
  | error error =>
      rw [hs] at hmade
      cases hmade
  | ok made =>
      rw [hs] at hmade
      obtain ⟨result, h⟩ := exists_generate_ok_iff.mpr ⟨rfl, made, hs⟩
      obtain ⟨root, parts, hroot, hassembled⟩ := declarations_assembled h
      rw [hs] at hroot
      cases hroot
      exact ⟨result, root, parts, h, Option.some.inj hmade, rfl, hassembled⟩

end FrameMarkers
