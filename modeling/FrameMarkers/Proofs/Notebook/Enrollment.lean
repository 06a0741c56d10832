import FrameMarkers.Proofs.Marker.Fields
import FrameMarkers.Proofs.Notebook.Operation

namespace FrameMarkers.Notebook

-- The marker has come in place of the pending one, with its fields.
def Adopts (adopted pending : Marker) : Prop :=
  adopted.shortName = pending.name ∧ adopted.ownFields = pending.ownFields ∧
    adopted.isOpen = pending.isOpen

-- How a notebook changes while markers are registered, with the markers enrolled as declared.
inductive Enrolled (before : Notebook) : List Marker → Notebook → Prop
  | refl : Enrolled before [] before
  | declared {entered : List Marker} {middle : Notebook} (marker : Marker) :
      Enrolled before entered middle →
      Enrolled before (entered ++ [marker]) (middle.enroll marker)
  | adopted {entered : List Marker} {middle : Notebook} {adopted pending : Marker}
      (waiting : pending ∈ before.pending) (adopts : Adopts adopted pending) :
      Enrolled before entered middle →
      Enrolled before entered ((middle.release pending.name).enroll adopted)

namespace Enrolled

variable {before middle after : Notebook} {entered others : List Marker}

theorem pending_subset (h : Enrolled before entered after) : after.pending ⊆ before.pending := by
  induction h with
  | refl => exact List.Subset.refl _
  | declared _ _ ih => exact ih
  | adopted _ _ _ ih => exact fun _ hm => ih (List.mem_filter.mp hm).1

theorem trans (h : Enrolled before entered middle) (h' : Enrolled middle others after) :
    Enrolled before (entered ++ others) after := by
  induction h' with
  | refl => rwa [List.append_nil]
  | declared marker _ ih =>
      rw [← List.append_assoc]
      exact .declared marker ih
  | adopted waiting adopts _ ih => exact .adopted (h.pending_subset waiting) adopts ih

theorem exists_new (h : Enrolled before entered after) :
    ∃ new, after.registered = before.registered ++ new ∧ entered.Sublist new ∧
      ∀ marker ∈ new, marker ∈ entered ∨
        ∃ pending ∈ before.pending, pending ∉ after.pending ∧ Adopts marker pending := by
  induction h with
  | refl => exact ⟨[], (List.append_nil _).symm, .refl _, fun _ hm => .inl hm⟩
  | @declared entered middle marker _ ih =>
      obtain ⟨new, hnew, hsub, hall⟩ := ih
      refine ⟨new ++ [marker], ?_, hsub.append (.refl _), fun other hm => ?_⟩
      · rw [enroll, hnew, List.append_assoc]
      · rcases List.mem_append.mp hm with hm | hm
        · exact (hall other hm).imp_left (List.mem_append_left _)
        · exact .inl (List.mem_append_right _ hm)
  | @adopted entered middle adopted pending waiting adopts _ ih =>
      obtain ⟨new, hnew, hsub, hall⟩ := ih
      have hreleased : ∀ other ∈ (middle.release pending.name).pending,
          other ∈ middle.pending ∧ other.name ≠ pending.name := by
        intro other hm
        obtain ⟨hm, hne⟩ := List.mem_filter.mp hm
        exact ⟨hm, bne_iff_ne.mp hne⟩
      refine ⟨new ++ [adopted], ?_, hsub.trans (List.sublist_append_left _ _), fun other hm => ?_⟩
      · rw [enroll, release, hnew, List.append_assoc]
      · rcases List.mem_append.mp hm with hm | hm
        · refine (hall other hm).imp_right ?_
          rintro ⟨gone, hg, hnot, ha⟩
          exact ⟨gone, hg, fun hm => hnot (hreleased gone hm).1, ha⟩
        · cases List.mem_singleton.mp hm
          exact .inr ⟨pending, waiting, fun hm => (hreleased pending hm).2 rfl, adopts⟩

theorem length_le (h : Enrolled before entered after) :
    before.registered.length ≤ after.registered.length := by
  obtain ⟨new, hnew, -⟩ := h.exists_new
  rw [hnew, List.length_append]
  exact Nat.le_add_right _ _

-- Each change enrolls a marker.
theorem eq_of_length_le (h : Enrolled before entered after)
    (hl : after.registered.length ≤ before.registered.length) : after = before ∧ entered = [] := by
  cases h with
  | refl => exact ⟨rfl, rfl⟩
  | declared marker log =>
      have hle := log.length_le
      rw [enroll, List.length_append, List.length_singleton] at hl
      omega
  | adopted waiting adopts log =>
      have hle := log.length_le
      simp only [enroll, release, List.length_append, List.length_singleton] at hl
      omega

end Enrolled

-- The outcome comes with such a history. A success gives the markers entered.
inductive Logged {α : Type} (before : Notebook) :
    Except Error (α × List Marker) × Notebook → Prop
  | ok {result : α} {entered : List Marker} {after : Notebook} :
      Enrolled before entered after → Logged before (.ok (result, entered), after)
  | error {error : Error} {entered : List Marker} {after : Notebook} :
      Enrolled before entered after → Logged before (.error error, after)

theorem Logged.length_le {α : Type} {before : Notebook}
    {outcome : Except Error (α × List Marker) × Notebook} (h : Logged before outcome) :
    before.registered.length ≤ outcome.2.registered.length := by
  cases h with
  | ok log => exact log.length_le
  | error log => exact log.length_le

variable {notebook : Notebook} {marker pending : Marker}

theorem mem_of_replaced? (h : notebook.replaced? marker = some pending) :
    pending ∈ notebook.pending ∧ pending.name = marker.shortName := by
  have hp : notebook.pending.find? (·.name == marker.shortName) = some pending :=
    (Option.filter_eq_some_iff.mp h).1
  have hname := List.find?_some hp
  exact ⟨List.mem_of_find?_eq_some hp, beq_iff_eq.mp hname⟩

theorem logged_enterAll_of {markers : List Marker}
    (h : ∀ marker ∈ markers, ∀ notebook, Logged notebook ((enter marker).run notebook))
    (notebook : Notebook) : Logged notebook ((enterAll markers).run notebook) := by
  induction markers generalizing notebook with
  | nil => exact .ok .refl
  | cons marker rest ih =>
      have hfirst := h marker List.mem_cons_self notebook
      have hrest := ih fun other hm => h other (List.mem_cons_of_mem _ hm)
      rw [run_enterAll_cons]
      generalize (enter marker).run notebook = outcome at hfirst
      cases hfirst with
      | error log => exact .error log
      | @ok found entered middle log =>
          have hothers := hrest middle
          simp only
          generalize (enterAll rest).run middle = outcome at hothers
          cases hothers with
          | error log' => exact .error (log.trans log')
          | ok log' => exact .ok (log.trans log')

theorem logged_enter (marker : Marker) (notebook : Notebook) :
    Logged notebook ((enter marker).run notebook) := by
  induction marker using Marker.supers_induction generalizing notebook with
  | step marker ih =>
      have habove := logged_enterAll_of ih notebook
      have hcase := run_enter notebook marker
      generalize (enter marker).run notebook = outcome at hcase
      cases hcase with
      | known found => exact .ok .refl
      | declared unknown fresh valid => exact .ok (.declared marker .refl)
      | invalid unknown fresh refused => exact .error .refl
      | unmade unknown replaces above refused =>
          rw [above] at habove
          cases habove with
          | ok log => exact .error log
      | blocked unknown replaces above =>
          rw [above] at habove
          cases habove with
          | error log => exact .error log
      | adopted unknown replaces above made =>
          rw [above] at habove
          cases habove with
          | ok log =>
              obtain ⟨hpending, hname⟩ := mem_of_replaced? replaces
              obtain ⟨rfl, -⟩ := Marker.make_eq_ok.mp made
              refine .ok (.adopted hpending ⟨?_, rfl, rfl⟩ log)
              rw [hname]
              rfl

theorem logged_enterAll (markers : List Marker) (notebook : Notebook) :
    Logged notebook ((enterAll markers).run notebook) :=
  logged_enterAll_of (fun marker _ => logged_enter marker) notebook

-- A success that enrolls nothing has found the marker registered.
theorem registered?_of_run_enter {after : Notebook} {result : Marker × List Marker}
    (h : (enter marker).run notebook = (.ok result, after))
    (hl : after.registered.length ≤ notebook.registered.length) :
    ∃ existing, notebook.registered? marker.name = some existing ∧ result = (existing, []) ∧
      after = notebook := by
  have hcase := run_enter notebook marker
  generalize (enter marker).run notebook = outcome at h hcase
  cases hcase with
  | known found =>
      cases h
      exact ⟨_, found, rfl, rfl⟩
  | declared unknown fresh valid =>
      cases h
      simp only [enroll, List.length_append, List.length_singleton] at hl
      omega
  | adopted unknown replaces above made =>
      cases h
      have hle := (logged_enterAll marker.supers notebook).length_le
      simp only [above] at hle
      simp only [enroll, release, List.length_append, List.length_singleton] at hl
      omega
  | invalid | unmade | blocked => cases h

end FrameMarkers.Notebook
