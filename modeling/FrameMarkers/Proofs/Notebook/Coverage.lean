import FrameMarkers.Proofs.Declaration.Together
import FrameMarkers.Proofs.Notebook.Enrollment

namespace FrameMarkers

namespace Marker

theorem declareAll_none_eq_ok {style : Style} {markers : List Marker} {text : String}
    (h : declareAll style .none true markers = .ok text) :
    text = "\n".intercalate ((markers.map (accessorText style)).filter (!·.isEmpty)) := by
  rw [declareAll_eq rfl] at h
  cases hfirst : firstRepeated Prod.snd [] (claims style.nullableAccessors markers) <;>
    rw [hfirst] at h <;> cases h
  rfl

end Marker

namespace Notebook

variable {notebook middle after : Notebook} {marker other : Marker} {name : String}

-- A marker of that name is registered.
def Covers (notebook : Notebook) (name : String) : Prop :=
  ∃ marker ∈ notebook.registered, marker.name = name

theorem covers_enroll : (notebook.enroll marker).Covers name ↔
    notebook.Covers name ∨ marker.name = name := by
  simp [Covers, enroll, or_and_right, exists_or]

theorem covers_of_registered? {existing : Marker} (h : notebook.registered? name = some existing) :
    notebook.Covers name := by
  have hname := List.find?_some h
  exact ⟨existing, List.mem_of_find?_eq_some h, beq_iff_eq.mp hname⟩

-- Registering the marker comes to the other one. It goes on from a marker that adopts, to each of
-- its super markers after the earlier ones.
inductive Visits : Notebook → Marker → Marker → Prop
  | here {notebook : Notebook} {marker : Marker} : Visits notebook marker marker
  | above {notebook middle : Notebook} {marker pending upper other : Marker}
      {earlier later : List Marker} {found : List Marker × List Marker}
      (unknown : notebook.registered? marker.name = none)
      (replaces : notebook.replaced? marker = some pending)
      (supers : marker.supers = earlier ++ upper :: later)
      (before : (enterAll earlier).run notebook = (.ok found, middle))
      (visits : Visits middle upper other) :
      Visits notebook marker other

-- Registering the markers in turn comes to the other one.
def VisitsAmong (notebook : Notebook) (markers : List Marker) (other : Marker) : Prop :=
  ∃ earlier upper later found middle, markers = earlier ++ upper :: later ∧
    (enterAll earlier).run notebook = (.ok found, middle) ∧ Visits middle upper other

theorem visits_iff_of_ends
    (h : notebook.registered? marker.name ≠ none ∨ notebook.replaced? marker = none) :
    Visits notebook marker other ↔ other = marker := by
  constructor
  · intro hv
    cases hv with
    | here => rfl
    | above unknown replaces =>
        rcases h with h | h
        · exact absurd unknown h
        · rw [replaces] at h
          cases h
  · rintro rfl
    exact .here

theorem visits_iff_of_replaced {pending : Marker}
    (unknown : notebook.registered? marker.name = none)
    (replaces : notebook.replaced? marker = some pending) :
    Visits notebook marker other ↔ other = marker ∨ VisitsAmong notebook marker.supers other := by
  constructor
  · intro hv
    cases hv with
    | here => exact .inl rfl
    | above _ _ supers before visits => exact .inr ⟨_, _, _, _, _, supers, before, visits⟩
  · rintro (rfl | ⟨_, _, _, _, _, supers, before, visits⟩)
    · exact .here
    · exact .above unknown replaces supers before visits

theorem visitsAmong_nil : ¬VisitsAmong notebook [] other := by
  rintro ⟨earlier, _, _, _, _, hs, -⟩
  cases earlier <;> cases hs

theorem visitsAmong_cons {rest : List Marker} {found : Marker × List Marker}
    (h : (enter marker).run notebook = (.ok found, middle)) :
    VisitsAmong notebook (marker :: rest) other ↔
      Visits notebook marker other ∨ VisitsAmong middle rest other := by
  constructor
  · rintro ⟨earlier, upper, later, result, within, hs, hrun, hv⟩
    cases earlier with
    | nil =>
        cases hs
        cases hrun
        exact .inl hv
    | cons first earlier =>
        cases hs
        obtain ⟨_, _, _, _, _, hfirst, hrest, -, -⟩ := run_enterAll_cons_ok_iff.mp hrun
        rw [h] at hfirst
        cases hfirst
        exact .inr ⟨earlier, upper, later, _, within, rfl, hrest, hv⟩
  · rintro (hv | ⟨earlier, upper, later, result, within, rfl, hrun, hv⟩)
    · exact ⟨[], marker, rest, ([], []), notebook, rfl, rfl, hv⟩
    · exact ⟨marker :: earlier, upper, later, _, within, rfl,
        run_enterAll_cons_ok_iff.mpr ⟨_, _, _, _, middle, h, hrun, rfl, rfl⟩, hv⟩

theorem covers_of_run_enterAll {markers found entered : List Marker}
    (h : ∀ marker ∈ markers, ∀ {notebook after result},
      (enter marker).run notebook = (.ok result, after) →
        (after.Covers name ↔
          notebook.Covers name ∨ ∃ other, Visits notebook marker other ∧ other.name = name))
    (hrun : (enterAll markers).run notebook = (.ok (found, entered), after)) :
    after.Covers name ↔
      notebook.Covers name ∨ ∃ other, VisitsAmong notebook markers other ∧ other.name = name := by
  induction markers generalizing notebook found entered with
  | nil =>
      cases hrun
      simp [visitsAmong_nil]
  | cons marker rest ih =>
      obtain ⟨_, _, _, _, middle, hfirst, hrest, -, -⟩ := run_enterAll_cons_ok_iff.mp hrun
      rw [ih (fun other hm => h other (List.mem_cons_of_mem _ hm)) hrest,
        h marker List.mem_cons_self hfirst]
      simp only [visitsAmong_cons hfirst, or_and_right, exists_or, or_assoc]

theorem covers_of_run_enter {result : Marker × List Marker}
    (h : (enter marker).run notebook = (.ok result, after)) :
    after.Covers name ↔
      notebook.Covers name ∨ ∃ other, Visits notebook marker other ∧ other.name = name := by
  induction marker using Marker.supers_induction generalizing notebook after result with
  | step marker ih =>
      have hcase := run_enter notebook marker
      generalize (enter marker).run notebook = outcome at h hcase
      cases hcase with
      | known found =>
          cases h
          have hknown := covers_of_registered? found
          simp only [visits_iff_of_ends (.inl (found ▸ Option.some_ne_none _)), exists_eq_left]
          exact (or_iff_left_of_imp fun he => he ▸ hknown).symm
      | declared unknown fresh valid =>
          cases h
          simp only [visits_iff_of_ends (.inr fresh), exists_eq_left, covers_enroll]
      | @adopted pending adopted supers entered middle unknown replaces above made =>
          cases h
          obtain ⟨rfl, -⟩ := Marker.make_eq_ok.mp made
          have habove := covers_of_run_enterAll (fun upper hu => ih upper hu) above
          have hreleased : (middle.release pending.name).Covers name ↔ middle.Covers name := .rfl
          simp only [covers_enroll, hreleased, habove, visits_iff_of_replaced unknown replaces,
            or_and_right, exists_or, exists_eq_left, or_assoc]
          exact or_congr_right or_comm
      | invalid | unmade | blocked => cases h

-- Registering leaves a name unregistered exactly if it was before and the walk does not come to it.
-- What is new was entered as declared, with its accessors in the text, or has adopted.
theorem register_covers {text : String} (h : (register marker).run notebook = (.ok text, after)) :
    after.Covers marker.name ∧
      (∀ name, after.Covers name ↔
        notebook.Covers name ∨ ∃ other, Visits notebook marker other ∧ other.name = name) ∧
      ∃ new entered : List Marker,
        after.registered = notebook.registered ++ new ∧ entered.Sublist new ∧
        (∀ other ∈ new, other ∈ entered ∨
          ∃ pending ∈ notebook.pending, pending ∉ after.pending ∧ Adopts other pending) ∧
        text = "\n".intercalate
          ((entered.map (Marker.accessorText ⟨.short, false⟩)).filter (!·.isEmpty)) := by
  rw [run_register] at h
  have hlog := logged_enter marker notebook
  rcases hrun : (enter marker).run notebook with ⟨error | ⟨found, entered⟩, middle⟩
  · rw [hrun] at h
    cases h
  · rw [hrun] at h hlog
    obtain rfl : middle = after := congrArg Prod.snd h
    have htext := Marker.declareAll_none_eq_ok (congrArg Prod.fst h)
    have hcovers : ∀ name, middle.Covers name ↔
        notebook.Covers name ∨ ∃ other, Visits notebook marker other ∧ other.name = name :=
      fun _ => covers_of_run_enter hrun
    cases hlog with
    | ok log =>
        obtain ⟨new, hnew, hsub, hall⟩ := log.exists_new
        exact ⟨(hcovers _).mpr (.inr ⟨marker, .here, rfl⟩), hcovers, new, entered, hnew, hsub, hall,
          htext⟩

def textMarker (name : String) (columns : List String) (supers : List Marker) : Marker :=
  ⟨name, columns.map (Field.value · ⟨"kotlin.String", false⟩), supers, true, .implicitPublic⟩

-- A notebook with a marker for everything, and a cell whose marker extends it.
def agesNotebook : Notebook :=
  Operation.next (.process (.ofList [("age", .value ⟨"kotlin.Int", false⟩)]) none)
    ((Operation.register (textMarker "Base" [] [])).next .empty)

-- The marker of that cell, compiled below another one of the same short name.
def agesMarker : Marker :=
  textMarker "Line_1._DataFrameType" [] [textMarker "app.Base" ["name"] []]

theorem register_covers_adopted :
    ∃ text after, (register agesMarker).run agesNotebook = (.ok text, after) ∧
      after.Covers "Line_1._DataFrameType" ∧ after.Covers "app.Base" := by
  have hok : ((register agesMarker).run agesNotebook).1.isOk = true := by decide +kernel
  have hreplaced : (agesNotebook.replaced? agesMarker).isSome = true := by decide +kernel
  have hunknown : agesNotebook.registered? agesMarker.name = none := by
    rw [← Option.isNone_iff_eq_none]
    decide +kernel
  obtain ⟨text, hrun⟩ := exists_ok hok
  obtain ⟨pending, hpending⟩ := Option.isSome_iff_exists.mp hreplaced
  have habove : Visits agesNotebook agesMarker (textMarker "app.Base" ["name"] []) :=
    .above hunknown hpending (List.nil_append _).symm rfl .here
  obtain ⟨hmarker, hnames, -⟩ := register_covers hrun
  exact ⟨text, _, hrun, hmarker, (hnames "app.Base").mpr (.inr ⟨_, habove, rfl⟩)⟩

-- A marker that adopts nothing, with a super marker that nobody has registered.
def derivedMarker : Marker :=
  textMarker "Derived" [] [textMarker "Base" ["a"] []]

theorem not_covers_derived :
    Reached .empty ∧ derivedMarker.Extends (textMarker "Base" ["a"] []) ∧
      ∃ text after, (register derivedMarker).run .empty = (.ok text, after) ∧
        ¬after.Covers "Base" := by
  have hok : ((register derivedMarker).run .empty).1.isOk = true := by decide +kernel
  have hnames : "Base" ∉ ((register derivedMarker).run .empty).2.registered.map (·.name) := by
    decide +kernel
  obtain ⟨text, hrun⟩ := exists_ok hok
  refine ⟨.empty, .of_mem_supers List.mem_cons_self, text, _, hrun, ?_⟩
  rintro ⟨marker, hm, hn⟩
  exact hnames (List.mem_map.mpr ⟨marker, hm, hn⟩)

end Notebook

end FrameMarkers
