import FrameMarkers.Proofs.Generation.Rendering
import FrameMarkers.Proofs.Notebook.Alike
import FrameMarkers.Proofs.Notebook.Enrollment

namespace FrameMarkers.Notebook

variable {notebook after : Notebook} {marker : Marker} {markers found : List Marker} {error : Error}

-- The markers are registered, as the ones found.
def Known (notebook : Notebook) : List Marker → List Marker → Prop :=
  List.Forall₂ fun marker found => notebook.registered? marker.name = some found

-- The marker is refused before anything is enrolled: as it is declared, with the fields that it
-- would adopt, or because of the first of its super markers that is not registered.
inductive Refused (notebook : Notebook) (error : Error) : Marker → Prop
  | invalid {marker : Marker} (unknown : notebook.registered? marker.name = none)
      (fresh : notebook.replaced? marker = none) (refused : marker.validate = .error error) :
      Refused notebook error marker
  | unmade {marker pending : Marker} {supers : List Marker}
      (unknown : notebook.registered? marker.name = none)
      (replaces : notebook.replaced? marker = some pending)
      (known : notebook.Known marker.supers supers)
      (refused : Marker.make marker.name pending.ownFields supers pending.isOpen .implicitPublic =
        .error error) :
      Refused notebook error marker
  | above {marker pending upper : Marker} {earlier later found : List Marker}
      (unknown : notebook.registered? marker.name = none)
      (replaces : notebook.replaced? marker = some pending)
      (supers : marker.supers = earlier ++ upper :: later) (known : notebook.Known earlier found)
      (refused : Refused notebook error upper) :
      Refused notebook error marker

theorem Known.run_enterAll (h : notebook.Known markers found) :
    (enterAll markers).run notebook = (.ok (found, []), notebook) := by
  induction h with
  | nil => rfl
  | cons hfirst _ ih =>
      exact run_enterAll_cons_ok_iff.mpr
        ⟨_, _, [], [], notebook, run_enter_eq_iff.mpr (.known hfirst), ih, rfl, rfl⟩

-- If several steps together change nothing, the first one has changed nothing.
theorem known_of_run_enterAll {entered : List Marker}
    (h : (enterAll markers).run notebook = (.ok (found, entered), notebook)) :
    notebook.Known markers found := by
  induction markers generalizing found entered with
  | nil =>
      cases h
      exact .nil
  | cons marker rest ih =>
      obtain ⟨first, others, entered', entered'', middle, hfirst, hrest, rfl, -⟩ :=
        run_enterAll_cons_ok_iff.mp h
      have hle := (logged_enterAll rest middle).length_le
      rw [hrest] at hle
      obtain ⟨existing, hknown, he, rfl⟩ := registered?_of_run_enter hfirst hle
      cases he
      exact .cons hknown (ih hrest)

theorem run_enterAll_error_iff :
    (enterAll markers).run notebook = (.error error, notebook) ↔
      ∃ earlier upper later found, markers = earlier ++ upper :: later ∧
        notebook.Known earlier found ∧ (enter upper).run notebook = (.error error, notebook) := by
  constructor
  · intro h
    induction markers with
    | nil => cases h
    | cons marker rest ih =>
        rcases run_enterAll_cons_error_iff.mp h with hfirst | ⟨first, middle, hfirst, hrest⟩
        · exact ⟨[], marker, rest, [], rfl, .nil, hfirst⟩
        · have hle := (logged_enterAll rest middle).length_le
          rw [hrest] at hle
          obtain ⟨existing, hknown, -, rfl⟩ := registered?_of_run_enter hfirst hle
          obtain ⟨earlier, upper, later, found, rfl, hearlier, hupper⟩ := ih hrest
          exact ⟨marker :: earlier, upper, later, existing :: found, rfl,
            .cons hknown hearlier, hupper⟩
  · rintro ⟨earlier, upper, later, found, rfl, hearlier, hupper⟩
    induction hearlier with
    | nil => exact run_enterAll_cons_error_iff.mpr (.inl hupper)
    | cons hfirst _ ih =>
        exact run_enterAll_cons_error_iff.mpr
          (.inr ⟨_, notebook, run_enter_eq_iff.mpr (.known hfirst), ih⟩)

theorem run_enter_error_iff :
    (enter marker).run notebook = (.error error, notebook) ↔ Refused notebook error marker := by
  constructor
  · intro h
    induction marker using Marker.supers_induction with
    | step marker ih =>
        have hcase := run_enter notebook marker
        generalize (enter marker).run notebook = outcome at h hcase
        cases hcase with
        | known | declared | adopted => cases h
        | invalid unknown fresh refused =>
            cases h
            exact .invalid unknown fresh refused
        | unmade unknown replaces above refused =>
            cases h
            exact .unmade unknown replaces (known_of_run_enterAll above) refused
        | blocked unknown replaces above =>
            cases h
            obtain ⟨earlier, upper, later, found, hs, hearlier, hupper⟩ :=
              run_enterAll_error_iff.mp above
            have hm : upper ∈ marker.supers := by
              rw [hs]
              exact List.mem_append_right _ List.mem_cons_self
            exact .above unknown replaces hs hearlier (ih upper hm hupper)
  · intro h
    induction h with
    | invalid unknown fresh refused => exact run_enter_eq_iff.mpr (.invalid unknown fresh refused)
    | unmade unknown replaces known refused =>
        exact run_enter_eq_iff.mpr (.unmade unknown replaces known.run_enterAll refused)
    | above unknown replaces supers known _ ih =>
        refine run_enter_eq_iff.mpr (.blocked unknown replaces ?_)
        exact run_enterAll_error_iff.mpr ⟨_, _, _, _, supers, known, ih⟩

-- Accessors are refused only after a marker was enrolled.
theorem run_register_error_iff :
    (register marker).run notebook = (.error error, notebook) ↔
      Refused notebook error marker := by
  rw [run_register, ← run_enter_error_iff]
  have hlog := logged_enter marker notebook
  generalize (enter marker).run notebook = outcome at hlog
  cases hlog with
  | error log => constructor <;> rintro ⟨⟩ <;> rfl
  | @ok found entered after log =>
      refine ⟨fun h => ?_, fun h => nomatch h⟩
      have hrefused := congrArg Prod.fst h
      obtain rfl : after = notebook := congrArg Prod.snd h
      rw [(log.eq_of_length_le (Nat.le_refl _)).2] at hrefused
      cases hrefused

theorem next_generate_error {schema : Schema} {name : String} {isOpen : Bool}
    (h : (generate schema name isOpen).run notebook = (.error error, after)) :
    after = notebook := by
  cases hg : FrameMarkers.generate (notebook.options name isOpen) schema with
  | error error' =>
      rw [run_generate_error hg] at h
      cases h
      rfl
  | ok generated =>
      rw [run_generate_ok hg] at h
      cases h

theorem nodup_newMarkers {schema : Schema} {name : String} {isOpen : Bool} {generated : Generated}
    (h : FrameMarkers.generate (notebook.options name isOpen) schema = .ok generated) :
    (generated.newMarkers.map (·.name)).Nodup := by
  obtain ⟨-, root, markers, blocks, hs, -, rfl⟩ := generate_eq_ok_iff.mp h
  exact (GenerationOptions.names_of_synthesize hs).1

-- How the markers for the keys of a grouped table are generated.
abbrev keyOptions (notebook : Notebook) : GenerationOptions :=
  notebook.options (rootName ++ "Keys") false

-- What the operation leaves of the notebook if it fails.
def Leaves (notebook after : Notebook) : Operation → Prop
  | .process _ none => after = notebook
  | .process _ (some assignment) => after = notebook.assign assignment.name
  | .processGroups keys _ =>
    ((∃ error, FrameMarkers.generate notebook.keyOptions keys = .error error) ∧
        after = notebook) ∨
      ∃ generated, FrameMarkers.generate notebook.keyOptions keys = .ok generated ∧
        after = generated.newMarkers.foldl await notebook
  | .register _ => ∃ entered, Enrolled notebook entered after

-- The operation fails with the error before it changes anything, or what it has changed by then was
-- so before.
def Traceless (notebook : Notebook) (error : Error) : Operation → Prop
  | .process _ none => True
  | .process _ (some assignment) => assignment.name ∈ notebook.assigned
  | .processGroups keys _ =>
    ∀ generated, FrameMarkers.generate notebook.keyOptions keys = .ok generated →
      ∀ marker ∈ generated.newMarkers, notebook.pending? marker.name = some marker
  | .register marker => Refused notebook error marker

theorem leaves_of_process {schema : Schema} {assignment? : Option Assignment}
    (h : (process schema assignment?).run notebook = (.error error, after)) :
    Leaves notebook after (.process schema assignment?) := by
  cases assignment? with
  | none => exact next_generate_error h
  | some assignment =>
      rw [run_process_some] at h
      cases ht : notebook.target? schema assignment
          (notebook.assigned.contains assignment.name) with
      | none =>
          rw [ht] at h
          cases h
      | some target =>
          rw [ht] at h
          exact next_generate_error h

theorem leaves_of_processGroups {keys groups : Schema}
    (h : (processGroups keys groups).run notebook = (.error error, after)) :
    Leaves notebook after (.processGroups keys groups) := by
  rw [processGroups, run_bind] at h
  cases hk : FrameMarkers.generate notebook.keyOptions keys with
  | error error' =>
      rw [run_generate_error hk] at h
      cases h
      exact .inl ⟨⟨_, hk⟩, rfl⟩
  | ok generated =>
      rw [run_generate_ok hk] at h
      simp only [run_bind] at h
      rcases hg : (generate groups (rootName ++ "Groups") false).run
        (generated.newMarkers.foldl await notebook) with ⟨error' | _, _⟩
      · rw [hg] at h
        cases h
        exact .inr ⟨generated, hk, next_generate_error hg⟩
      · rw [hg] at h
        cases h

theorem leaves_of_register (h : (register marker).run notebook = (.error error, after)) :
    Leaves notebook after (.register marker) := by
  rw [run_register] at h
  have hlog := logged_enter marker notebook
  generalize (enter marker).run notebook = outcome at hlog h
  cases hlog with
  | error log =>
      cases h
      exact ⟨_, log⟩
  | @ok found entered middle log =>
      obtain rfl : middle = after := congrArg Prod.snd h
      exact ⟨entered, log⟩

theorem leaves_of_answer {operation : Operation} (h : operation.answer notebook = .error error) :
    Leaves notebook (operation.next notebook) operation := by
  cases operation with
  | process schema assignment? => exact leaves_of_process (run_of_map_error h)
  | processGroups keys groups => exact leaves_of_processGroups (run_of_map_error h)
  | register marker => exact leaves_of_register (run_of_map_error h)

theorem alike_iff_traceless {operation : Operation}
    (h : operation.answer notebook = .error error) :
    (operation.next notebook).Alike notebook ↔ Traceless notebook error operation := by
  have hleaves := leaves_of_answer h
  match operation with
  | .process schema none =>
      rw [Leaves] at hleaves
      exact iff_of_true (.of_eq hleaves) trivial
  | .process schema (some assignment) =>
      rw [Leaves] at hleaves
      rw [hleaves]
      exact alike_assign_iff
  | .processGroups keys groups =>
      rcases hleaves with ⟨⟨error', hk⟩, ha⟩ | ⟨generated, hk, ha⟩
      · refine iff_of_true (.of_eq ha) fun generated hg => ?_
        rw [hk] at hg
        cases hg
      · rw [ha, alike_foldl_await_iff (nodup_newMarkers hk)]
        simp [Traceless, hk]
  | .register marker =>
      obtain ⟨entered, log⟩ := hleaves
      have hrun := run_of_map_error h
      constructor
      · intro ha
        have hsame := log.eq_of_length_le (Nat.le_of_eq (congrArg List.length ha.registered))
        refine run_register_error_iff.mp (hrun.trans ?_)
        exact Prod.ext rfl hsame.1
      · intro ht
        exact .of_eq (congrArg Prod.snd (hrun.symm.trans (run_register_error_iff.mpr ht)))

theorem failed_leaves {operation : Operation} (h : operation.answer notebook = .error error) :
    Leaves notebook (operation.next notebook) operation ∧
      ((operation.next notebook).Alike notebook ↔ Traceless notebook error operation) ∧
      (Traceless notebook error operation → ∀ later,
        Operation.answers later (operation.next notebook) = Operation.answers later notebook) := by
  have hiff := alike_iff_traceless h
  exact ⟨leaves_of_answer h, hiff, fun ht => Operation.answers_eq (hiff.mpr ht)⟩

-- A table with one column.
def column (name : String) : Schema :=
  .ofList [(name, .value ⟨"kotlin.String", false⟩)]

-- The name of the column leaves no identifier, so there is no code for the cell.
def unnamedCell : Operation :=
  .process (column "") (some ⟨"df", none⟩)

-- A second attempt leaves nothing that the first one has not left.
theorem failed_leaves_unnamed :
    unnamedCell.answer (unnamedCell.next .empty) = .error (.blankColumn "") ∧
      (unnamedCell.next (unnamedCell.next .empty)).Alike (unnamedCell.next .empty) := by
  have herror : unnamedCell.answer (unnamedCell.next .empty) = .error (.blankColumn "") := by
    decide +kernel
  have hassigned : "df" ∈ (unnamedCell.next .empty).assigned := by decide +kernel
  exact ⟨herror, (failed_leaves herror).2.1.mpr hassigned⟩

-- There is code for the keys, but none for the groups.
def unnamedGroups : Operation :=
  .processGroups (column "city") (column "")

-- A marker that the user declares under the name that was proposed for the keys.
def keysMarker : Marker :=
  ⟨"Line_2._DataFrameTypeKeys", [.value "name" ⟨"kotlin.String", false⟩], [], true,
    .implicitPublic⟩

-- The keys' marker was declared nowhere and is adopted all the same, without accessors.
theorem not_alike_unnamed :
    Reached .empty ∧ unnamedGroups.answer .empty = .error (.blankColumn "") ∧
      ¬(unnamedGroups.next .empty).Alike .empty ∧
      Operation.answers [.register keysMarker] (unnamedGroups.next .empty) ≠
        Operation.answers [.register keysMarker] .empty := by
  refine ⟨.empty, by decide +kernel, fun ha => ?_, by decide +kernel⟩
  have hpending := congrArg Option.isSome (ha.pending "_DataFrameTypeKeys")
  revert hpending
  decide +kernel

end FrameMarkers.Notebook
