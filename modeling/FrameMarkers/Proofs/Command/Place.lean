import FrameMarkers.Command.MachineState
import Mathlib.Data.List.Basic
import Mathlib.Data.String.Basic

namespace FrameMarkers.Command

-- What is found when the file stands at the place.
def Place.update (place : List String) (written : File) : Place → Place
  | .file other old => .file other (if other = place then written else old)
  | .free other refusal => if other = place then .file place written else .free other refusal
  | found => found

def Step.update (place : List String) (written : File) : Step → Step
  | .stop found => .stop (found.update place written)
  | next => next

namespace Files

variable {files : Files} {place other directory names : List String} {found : Place} {next : Step}
  {name path text : String}

theorem lookup_filter_ne (h : other ≠ place) (nodes : List (List String × Node)) :
    (nodes.filter (·.1 != place)).lookup other = nodes.lookup other := by
  induction nodes with
  | nil => rfl
  | cons entry rest ih =>
      obtain ⟨name, node⟩ := entry
      by_cases hn : name = place
      · subst hn
        simp [List.lookup_cons, beq_false_of_ne h, ih]
      · simp [List.lookup_cons, hn, ih]

theorem node?_write_self (files : Files) (place : List String) (text : String) :
    (files.write place text).node? place = some (.file (files.written place text)) := by
  simp [write, put, node?]

theorem node?_write_of_ne (h : other ≠ place) (files : Files) (text : String) :
    (files.write place text).node? other = files.node? other := by
  simp only [write, put, node?, List.lookup_cons, beq_false_of_ne h, lookup_filter_ne h]

-- What was found stands at its place.
def Holds (files : Files) : Place → Prop
  | .file place file => files.node? place = some (.file file)
  | .free place _ => files.node? place = none
  | .directory _ | .device _ => True

theorem enter_holds {here : Directory} (h : files.enter directory here name = .stop found) :
    files.Holds found := by
  simp only [enter] at h
  split at h <;> cases h
  case h_3 | h_5 => assumption
  case h_4 => trivial

theorem step_holds (h : files.step directory name = .ok (.stop found)) : files.Holds found := by
  unfold step at h
  split at h
  case h_2 => cases h
  case h_1 here _ =>
    by_cases hname : name = ""
    · rw [if_pos hname] at h
      cases h
    · rw [if_neg hname] at h
      split at h
      case h_1 | h_2 => cases h
      case h_3 =>
        split_ifs at h
        exact enter_holds (Except.ok.inj h)

theorem walkFrom_holds {onLink : List String → List String → Except FileError Place}
    (hlink : ∀ start names, onLink start names = .ok found → files.Holds found)
    (h : files.walkFrom onLink directory names = .ok found) : files.Holds found := by
  induction names generalizing directory with
  | nil =>
      rw [walkFrom] at h
      split at h <;> cases h
      trivial
  | cons name rest ih =>
      rw [walkFrom] at h
      split at h
      case h_1 => cases h
      case h_2 => exact ih h
      case h_3 => exact hlink _ _ h
      case h_4 hstep =>
        split_ifs at h
        cases h
        exact step_holds hstep

theorem walk_holds {links : Nat} (h : files.walk links directory names = .ok found) :
    files.Holds found := by
  induction links generalizing directory names with
  | zero =>
      refine walkFrom_holds (fun _ _ he => ?_) h
      cases he
  | succ links ih => exact walkFrom_holds (fun _ _ => ih) h

theorem follow_holds (h : files.follow path = .ok found) : files.Holds found :=
  walk_holds h

variable {links : Nat} {written : File}
  {onLink onLink' : List String → List String → Except FileError Place}

-- A file can be written to the place: it stands there already, or nothing does.
def IsOpen (files : Files) (place : List String) : Prop :=
  files.node? place = none ∨ ∃ file, files.node? place = some (.file file)

theorem IsOpen.ne_of_directory {here : Directory} (h : files.IsOpen place)
    (hd : files.node? directory = some (.directory here)) : directory ≠ place := by
  rintro rfl
  obtain hn | ⟨file, hf⟩ := h
  · rw [hn] at hd
    cases hd
  · rw [hf] at hd
    cases hd

theorem enter_write (h : files.IsOpen place) (directory : List String) (here : Directory)
    (name text : String) :
    (files.write place text).enter directory here name =
      (files.enter directory here name).update place (files.written place text) := by
  simp only [enter]
  by_cases hp : directory ++ [name] = place
  · rw [hp, node?_write_self]
    obtain hn | ⟨file, hf⟩ := h
    · simp [hn, Step.update, Place.update]
    · simp [hf, Step.update, Place.update]
  · rw [node?_write_of_ne hp]
    split <;> simp [Step.update, Place.update, hp]

theorem step_write (h : files.IsOpen place) (directory : List String) (name text : String) :
    (files.write place text).step directory name =
      (files.step directory name).map (Step.update place (files.written place text)) := by
  unfold step
  by_cases hp : directory = place
  · subst hp
    rw [node?_write_self]
    obtain hn | ⟨file, hf⟩ := h
    · rw [hn]
      rfl
    · rw [hf]
      rfl
  · rw [node?_write_of_ne hp]
    split
    case h_2 => rfl
    case h_1 here _ =>
      rw [enter_write h]
      by_cases hname : name = ""
      · simp only [if_pos hname]
        rfl
      · simp only [if_neg hname]
        split
        case h_1 | h_2 => rfl
        case h_3 => split_ifs <;> rfl

theorem walkFrom_write (h : files.IsOpen place)
    (hlink : ∀ start names, onLink start names = .ok found →
      onLink' start names = .ok (found.update place (files.written place text)))
    (hw : files.walkFrom onLink directory names = .ok found) :
    (files.write place text).walkFrom onLink' directory names =
      .ok (found.update place (files.written place text)) := by
  induction names generalizing directory with
  | nil =>
      rw [walkFrom] at hw ⊢
      split at hw <;> cases hw
      case h_1 here hd =>
        rw [node?_write_of_ne (h.ne_of_directory hd), hd]
        rfl
  | cons name rest ih =>
      rw [walkFrom] at hw ⊢
      rw [step_write h]
      split at hw
      case h_1 => cases hw
      case h_2 hstep =>
        rw [hstep]
        exact ih hw
      case h_3 hstep =>
        rw [hstep]
        exact hlink _ _ hw
      case h_4 hstep =>
        rw [hstep]
        split_ifs at hw with hrest
        cases hw
        exact if_pos hrest

theorem walk_write (text : String) (h : files.IsOpen place)
    (hw : files.walk links directory names = .ok found) :
    (files.write place text).walk links directory names =
      .ok (found.update place (files.written place text)) := by
  induction links generalizing directory names with
  | zero =>
      refine walkFrom_write h (fun _ _ he => ?_) hw
      cases he
  | succ links ih => exact walkFrom_write h (fun _ _ => ih) hw

theorem exists_of_locateTarget {target : Target} (h : files.locateTarget path = .ok target) :
    ∃ found, files.follow path = .ok found ∧ found.target = .ok target := by
  unfold locateTarget at h
  split_ifs at h
  · cases hf : files.follow (directoryPart path) <;> rw [hf] at h <;> cases h
  · cases hf : files.follow path with
    | error cause =>
        rw [hf] at h
        cases h
    | ok found =>
        rw [hf] at h
        exact ⟨found, rfl, h⟩

theorem grant_eq_ok {α : Type} {refusal : Option FileError} {value result : α}
    (h : grant refusal value = .ok result) : refusal = none ∧ value = result := by
  cases refusal with
  | none => exact ⟨rfl, Except.ok.inj h⟩
  | some cause => cases h

-- What is written to a place is found there by the same path.
theorem follow_write (h : files.locateTarget path = .ok (.file place)) (text : String) :
    (files.write place text).follow path = .ok (.file place (files.written place text)) := by
  obtain ⟨found, hf, ht⟩ := exists_of_locateTarget h
  have hholds := follow_holds hf
  cases found with
  | file other file =>
      obtain ⟨-, hp⟩ := grant_eq_ok ht
      cases hp
      have hw := walk_write text (.inr ⟨file, hholds⟩) hf
      rwa [Place.update, if_pos rfl] at hw
  | free other refusal =>
      obtain ⟨-, hp⟩ := grant_eq_ok ht
      cases hp
      have hw := walk_write text (.inl hholds) hf
      rwa [Place.update, if_pos rfl] at hw
  | directory here => cases ht
  | device device =>
      obtain ⟨-, hp⟩ := grant_eq_ok ht
      cases hp

end Files

end FrameMarkers.Command
