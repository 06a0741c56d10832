import FrameMarkers.Proofs.Command.Place
import FrameMarkers.Proofs.Effects

namespace FrameMarkers.Command

variable {α β : Type} {files : Files} {path text schemaPath : String} {input left : Input}
  {arguments : Arguments} {state after : MachineState}

-- The text that a path gives, and what is left of standard input, for which a dash stands.
def given (files : Files) (path : String) (input : Input) : Except FileError String × Input :=
  if path = "-" then (input, input.rest) else files.read path input

def unread (path : String) : FileError → Failure :=
  if path = "-" then .unreadableInput else .unreadable path

theorem readFile_run (path : String) (state : MachineState) :
    (valueMachine.readFile path).run state = ((state.files.read path state.input).1,
      { state with input := (state.files.read path state.input).2 }) :=
  rfl

theorem readText_run (path : String) (state : MachineState) :
    (readText valueMachine path).run state =
      ((given state.files path state.input).1.mapError (unread path),
        { state with input := (given state.files path state.input).2 }) := by
  have hinput : valueMachine.readInput.run state =
      (state.input, { state with input := state.input.rest }) := rfl
  unfold readText given unread
  split_ifs
  · rw [run_bind, run_lift, hinput]
    cases state.input <;> rfl
  · rw [run_bind, run_lift, readFile_run]
    rcases state.files.read path state.input with ⟨_ | _, _⟩ <;> rfl

theorem readText_run_ok_iff : (readText valueMachine path).run state = (.ok text, after) ↔
    ∃ left, given state.files path state.input = (.ok text, left) ∧
      after = { state with input := left } := by
  rw [readText_run]
  rcases given state.files path state.input with ⟨_ | text, left⟩
  · constructor
    · intro h
      cases h
    · rintro ⟨_, h, -⟩
      cases h
  · constructor
    · intro h
      cases h
      exact ⟨left, rfl, rfl⟩
    · rintro ⟨_, h, rfl⟩
      cases h
      rfl

-- Whether it fails or not, the computation changes nothing but what is left of standard input.
def OnlyReads (x : ExceptT Failure (StateM MachineState) α) : Prop :=
  ∀ state, ∃ left, (x.run state).2 = { state with input := left }

theorem OnlyReads.pure (a : α) : OnlyReads (pure a) :=
  fun state => ⟨state.input, rfl⟩

theorem OnlyReads.throw (failure : Failure) : OnlyReads (throw failure : ExceptT _ _ α) :=
  fun state => ⟨state.input, rfl⟩

theorem OnlyReads.bind {x : ExceptT Failure (StateM MachineState) α}
    {f : α → ExceptT Failure (StateM MachineState) β} (hx : OnlyReads x)
    (hf : ∀ a, OnlyReads (f a)) : OnlyReads (x >>= f) := by
  intro state
  obtain ⟨left, hx⟩ := hx state
  rw [run_bind]
  rcases hr : x.run state with ⟨_ | a, next⟩ <;> rw [hr] at hx <;> cases hx
  · exact ⟨left, rfl⟩
  · obtain ⟨left', hf⟩ := hf a { state with input := left }
    exact ⟨left', hf⟩

theorem OnlyReads.mapM {f : β → ExceptT Failure (StateM MachineState) α}
    (h : ∀ b, OnlyReads (f b)) (items : List β) : OnlyReads (items.mapM f) := by
  induction items with
  | nil => exact .pure []
  | cons item rest ih =>
      rw [List.mapM_cons]
      exact (h item).bind fun a => ih.bind fun others => .pure (a :: others)

theorem readText_onlyReads (path : String) : OnlyReads (readText valueMachine path) :=
  fun state => ⟨_, congrArg Prod.snd (readText_run path state)⟩

theorem readDocument_onlyReads (parse : String → Option α) (path : String) :
    OnlyReads (readDocument valueMachine parse path) := by
  refine (readText_onlyReads path).bind fun text => ?_
  cases parse text with
  | none => exact .throw _
  | some value => exact .pure value

-- The values of the documents at the paths, which are read in turn.
inductive Documents (files : Files) (parse : String → Option α) :
    (paths : List String) → (input : Input) → List α → (left : Input) → Prop where
  | nil {input : Input} : Documents files parse [] input [] input
  | cons {path text : String} {input rest left : Input} {value : α} {paths : List String}
      {values : List α} : given files path input = (.ok text, rest) → parse text = some value →
      Documents files parse paths rest values left →
        Documents files parse (path :: paths) input (value :: values) left

theorem readDocument_run_ok_iff {parse : String → Option α} {value : α} :
    (readDocument valueMachine parse path).run state = (.ok value, after) ↔
      ∃ text left, given state.files path state.input = (.ok text, left) ∧
        parse text = some value ∧ after = { state with input := left } := by
  simp only [readDocument, run_bind_ok_iff, readText_run_ok_iff]
  constructor
  · rintro ⟨text, next, ⟨left, hg, rfl⟩, h⟩
    cases hp : parse text <;> simp only [hp] at h <;> cases h
    exact ⟨text, left, hg, hp, rfl⟩
  · rintro ⟨text, left, hg, hp, rfl⟩
    refine ⟨text, _, ⟨left, hg, rfl⟩, ?_⟩
    simp only [hp]
    rfl

theorem mapM_readDocument_run_ok_iff {parse : String → Option α} {paths : List String}
    {values : List α} :
    (paths.mapM (readDocument valueMachine parse)).run state = (.ok values, after) ↔
      ∃ left, Documents state.files parse paths state.input values left ∧
        after = { state with input := left } := by
  induction paths generalizing state after values with
  | nil =>
      constructor
      · intro h
        cases h
        exact ⟨_, .nil, rfl⟩
      · rintro ⟨left, h, rfl⟩
        cases h
        rfl
  | cons path paths ih =>
      simp only [List.mapM_cons, run_bind_ok_iff, readDocument_run_ok_iff, ih]
      constructor
      · rintro ⟨value, _, ⟨text, rest, hg, hp, rfl⟩, others, _, ⟨left, hd, rfl⟩, h⟩
        cases h
        exact ⟨left, .cons hg hp hd, rfl⟩
      · rintro ⟨left, h, rfl⟩
        cases h with
        | cons hg hp hd =>
            exact ⟨_, _, ⟨_, _, hg, hp, rfl⟩, _, _, ⟨left, hd, rfl⟩, rfl⟩

-- The directory of the project: the one that is asked for, or the working directory.
def rootOf (files : Files) (arguments : Arguments) : Except FileError String :=
  match arguments.root with
  | some root => .ok root
  | none => files.currentDirectory

theorem rootDirectory_run (arguments : Arguments) (state : MachineState) :
    (rootDirectory valueMachine arguments).run state = (rootOf state.files arguments, state) := by
  unfold rootDirectory rootOf
  cases arguments.root <;> rfl

-- What reading the settings gives, first those of the user, and what is left of standard input.
structure LayersRead where
  user : Except FileError String
  project : Except FileError String
  left : Input

-- The environment may name no file for the user.
def readLayers (files : Files) (environment : Environment) (root : String) (input : Input) :
    LayersRead :=
  let (user, rest) :=
    (environment.settingsFile?.map (files.read · input)).getD (.error .missing, input)
  let (project, left) := files.read (below root projectSettingsFile) rest
  ⟨user, project, left⟩

def settingsOf : Except FileError String → Settings
  | .ok text => (Settings.parse text).getD {}
  | .error _ => {}

theorem loadSettings_run (path : String) (state : MachineState) :
    ∃ ignored, (loadSettings valueMachine path).run state =
      ((settingsOf (state.files.read path state.input).1, ignored),
        { state with input := (state.files.read path state.input).2 }) := by
  simp only [loadSettings, stateRun_bind, readFile_run]
  rcases state.files.read path state.input with ⟨cause | text, left⟩
  · exact ⟨[], rfl⟩
  · simp only [settingsOf]
    cases Settings.parse text
    · exact ⟨[path], rfl⟩
    · exact ⟨[], rfl⟩

theorem loadLayers_run (state : MachineState) (environment : Environment) (root : String) :
    ∃ ignored, (loadLayers valueMachine environment root).run state =
      (((settingsOf (readLayers state.files environment root state.input).project).withFallback
          (settingsOf (readLayers state.files environment root state.input).user), ignored),
        { state with input := (readLayers state.files environment root state.input).left }) := by
  unfold loadLayers readLayers
  cases environment.settingsFile? with
  | none =>
      obtain ⟨ignored, hp⟩ := loadSettings_run (below root projectSettingsFile) state
      refine ⟨[] ++ ignored, ?_⟩
      simp only [pure_bind, stateRun_bind, hp]
      rfl
  | some path =>
      obtain ⟨ignored, hu⟩ := loadSettings_run path state
      obtain ⟨also, hp⟩ := loadSettings_run (below root projectSettingsFile)
        { state with input := (state.files.read path state.input).2 }
      refine ⟨ignored ++ also, ?_⟩
      simp only [stateRun_bind, hu, hp]
      rfl

end FrameMarkers.Command
