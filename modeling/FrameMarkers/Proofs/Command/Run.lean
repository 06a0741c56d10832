import FrameMarkers.Proofs.Command.Layers

namespace FrameMarkers.Command

variable {files : Files} {input left : Input} {path text output schemaPath : String}
  {settings : Settings} {arguments : Arguments} {state after : MachineState}

-- The path leads to the place with the text now, and every other place is as before.
structure OnlyAt (before : Files) (path : String) (place : List String) (text : String)
    (after : Files) : Prop where
  here : ∃ file, after.follow path = .ok (.file place file) ∧ file.content = .text text
  elsewhere : ∀ other, other ≠ place → after.node? other = before.node? other
  directory : after.directory = before.directory

-- The text went to where the path leads to, and nowhere else.
inductive Receives (before : Files) (path text : String) (after : MachineState) : Prop where
  | file {place : List String} : before.locateTarget path = .ok (.file place) →
      OnlyAt before path place text after.files → after.printed = "" →
        Receives before path text after
  | device {device : Device} : before.locateTarget path = .ok (.device device) →
      after.files = before → after.printed = (if device = .standardOutput then text else "") →
        Receives before path text after

theorem written_content (files : Files) (place : List String) (text : String) :
    (files.written place text).content = .text text := by
  unfold Files.written
  split <;> rfl

theorem onlyAt_write {place : List String} (h : files.locateTarget path = .ok (.file place))
    (text : String) : OnlyAt files path place text (files.write place text) where
  here := ⟨_, Files.follow_write h text, written_content files place text⟩
  elsewhere _ hne := Files.node?_write_of_ne hne files text
  directory := rfl

theorem writeFile_eq : valueMachine.writeFile = MachineState.write :=
  rfl

theorem write_run (path text : String) (state : MachineState) :
    (MachineState.write path text).run state =
      match state.files.locateTarget path with
      | .error cause => (.error cause, state)
      | .ok (.file place) => (.ok (), { state with files := state.files.write place text })
      | .ok (.device .standardOutput) => (.ok (), { state with printed := state.printed ++ text })
      | .ok (.device _) => (.ok (), state) :=
  rfl

theorem write_run_cases (path text : String) (state : MachineState) :
    (∃ after, (MachineState.write path text).run state = (.ok (), after) ∧
        (state.printed = "" → Receives state.files path text after)) ∨
      ∃ cause, state.files.locateTarget path = .error cause ∧
        (MachineState.write path text).run state = (.error cause, state) := by
  rw [write_run]
  rcases ht : state.files.locateTarget path with cause | place | device
  case error => exact .inr ⟨cause, rfl, rfl⟩
  case ok.file => exact .inl ⟨_, rfl, fun hprinted => .file ht (onlyAt_write ht text) hprinted⟩
  case ok.device =>
    cases device
    case standardOutput =>
      exact .inl ⟨_, rfl, fun hprinted => .device ht rfl (by simp [hprinted])⟩
    all_goals exact .inl ⟨_, rfl, .device ht rfl⟩

-- The text that is generated for the schema with the options and the known markers that are read,
-- and what is left of standard input.
inductive Generates (files : Files) (input : Input) (options : GenerationOptions) (package : String)
    (imports : List String) (schemaPath : String) (known : List String) :
    (text : String) → (left : Input) → Prop where
  | intro {schemaText : String} {rest left : Input} {schema : Schema}
      {markers : List (List Marker)} {generated : Generated} :
      given files schemaPath input = (.ok schemaText, rest) →
      Schema.parse schemaText = some schema →
      Documents files Marker.parseList known rest markers left →
      generate { options with known := markers.flatten } schema = .ok generated →
        Generates files input options package imports schemaPath known
          (generated.code.file package
            (imports ++ (options.readMethod.map ReadMethod.imports).getD []))
          left

-- The known markers of the options do not matter.
theorem Generates.of_eq {options options' : GenerationOptions} {package : String}
    {imports known : List String}
    (he : ∀ known : List Marker, { options with known } = { options' with known })
    (h : Generates files input options package imports schemaPath known text left) :
    Generates files input options' package imports schemaPath known text left := by
  have hmethod : options.readMethod = options'.readMethod := by
    have hnone := congrArg GenerationOptions.readMethod (he [])
    exact hnone
  obtain ⟨hg, hp, hd, hgen⟩ := h
  rw [hmethod]
  exact .intro hg hp hd (he _ ▸ hgen)

theorem generates_iff (settings : Settings) :
    Generates files input (settings.options []) (settings.package.getD "")
        (settings.imports.getD []) schemaPath arguments.known text left ↔
      ∃ schemaText rest schema markers generated,
        given files schemaPath input = (.ok schemaText, rest) ∧
        Schema.parse schemaText = some schema ∧
        Documents files Marker.parseList arguments.known rest markers left ∧
        generate (settings.options markers.flatten) schema = .ok generated ∧
        text = settings.file generated.code := by
  constructor
  · rintro ⟨hg, hp, hd, hgen⟩
    exact ⟨_, _, _, _, _, hg, hp, hd, hgen, rfl⟩
  · rintro ⟨_, _, _, _, _, hg, hp, hd, hgen, rfl⟩
    exact .intro hg hp hd hgen

theorem generateFile_run_ok_iff :
    (generateFile valueMachine settings schemaPath arguments).run state = (.ok output, after) ↔
      ∃ text left, Generates state.files state.input (settings.options [])
          (settings.package.getD "") (settings.imports.getD []) schemaPath arguments.known text
          left ∧
        ((arguments.output = none ∧ output = text ∧ after = { state with input := left }) ∨
          ∃ path, arguments.output = some path ∧ output = "" ∧
            (MachineState.write path text).run { state with input := left } = (.ok (), after)) := by
  simp only [generateFile, run_bind_ok_iff, readDocument_run_ok_iff, mapM_readDocument_run_ok_iff,
    generates_iff]
  constructor
  · rintro ⟨schema, _, ⟨schemaText, rest, hg, hp, rfl⟩, markers, _, ⟨left, hd, rfl⟩, h⟩
    cases hgen : generate (settings.options markers.flatten) schema with
    | error error =>
        simp only [hgen] at h
        cases h
    | ok generated =>
        refine ⟨_, left, ⟨_, _, _, _, _, hg, hp, hd, hgen, rfl⟩, ?_⟩
        simp only [hgen] at h
        cases hout : arguments.output with
        | none =>
            simp only [hout] at h
            cases h
            exact .inl ⟨rfl, rfl, rfl⟩
        | some path =>
            simp only [hout, run_bind_ok_iff, run_lift, writeFile_eq] at h
            obtain ⟨written, next, hw, h⟩ := h
            cases hw
            refine .inr ⟨path, rfl, ?_⟩
            rcases hr : (MachineState.write path (settings.file generated.code)).run
              { state with input := left } with ⟨_ | _, next⟩ <;> rw [hr] at h <;> cases h
            exact ⟨rfl, rfl⟩
  · rintro ⟨_, left, ⟨_, _, schema, markers, generated, hg, hp, hd, hgen, rfl⟩, hout⟩
    refine ⟨_, _, ⟨_, _, hg, hp, rfl⟩, _, _, ⟨left, hd, rfl⟩, ?_⟩
    simp only [hgen]
    rcases hout with ⟨hn, rfl, rfl⟩ | ⟨path, hs, rfl, hw⟩
    · simp only [hn]
      rfl
    · simp only [hs, run_bind, run_lift, writeFile_eq, hw]
      rfl

-- A computation that may fail only as long as it has changed nothing.
def FailsUnchanged {α : Type} (x : ExceptT Failure (StateM MachineState) α) : Prop :=
  ∀ state after failure, x.run state = (.error failure, after) →
    ∃ left, after = { state with input := left }

theorem OnlyReads.failsUnchanged {α : Type} {x : ExceptT Failure (StateM MachineState) α}
    (h : OnlyReads x) : FailsUnchanged x := by
  intro state after failure hr
  obtain ⟨left, hl⟩ := h state
  rw [hr] at hl
  exact ⟨left, hl⟩

theorem OnlyReads.bind_failsUnchanged {α β : Type} {x : ExceptT Failure (StateM MachineState) α}
    {f : α → ExceptT Failure (StateM MachineState) β} (hx : OnlyReads x)
    (hf : ∀ a, FailsUnchanged (f a)) : FailsUnchanged (x >>= f) := by
  intro state after failure h
  obtain ⟨left, hl⟩ := hx state
  rw [run_bind] at h
  rcases hr : x.run state with ⟨_ | a, next⟩ <;> rw [hr] at hl h <;> cases hl
  · cases h
    exact ⟨left, rfl⟩
  · obtain ⟨left', hl⟩ := hf a _ _ _ h
    exact ⟨left', hl⟩

theorem generateFile_failsUnchanged (settings : Settings) (schemaPath : String)
    (arguments : Arguments) :
    FailsUnchanged (generateFile valueMachine settings schemaPath arguments) := by
  refine (readDocument_onlyReads _ _).bind_failsUnchanged fun schema => ?_
  refine (OnlyReads.mapM (readDocument_onlyReads _) _).bind_failsUnchanged fun markers => ?_
  dsimp only
  cases generate (settings.options markers.flatten) schema with
  | error error => exact (OnlyReads.throw _).failsUnchanged
  | ok generated =>
      cases arguments.output with
      | none => exact (OnlyReads.pure _).failsUnchanged
      | some path =>
          intro state after failure h
          simp only [run_bind, run_lift, writeFile_eq] at h
          rcases write_run_cases path (settings.file generated.code) state with
            ⟨next, hw, -⟩ | ⟨cause, -, hw⟩ <;> rw [hw] at h <;> cases h
          exact ⟨state.input, rfl⟩

-- The settings that decide: those of the arguments over those that are read.
def decidingSettings (arguments : Arguments) (layers : LayersRead) : Settings :=
  arguments.settings.withFallback
    ((settingsOf layers.project).withFallback (settingsOf layers.user))

theorem runGenerate_run_error {cause : FileError} (environment : Environment) (schemaPath : String)
    (state : MachineState) (h : rootOf state.files arguments = .error cause) :
    (runGenerate valueMachine environment schemaPath arguments).run state =
      (⟨.error (.noDirectory cause), []⟩, state) := by
  simp only [runGenerate, stateRun_bind, rootDirectory_run, h]
  rfl

theorem runGenerate_run_ok {root : String} {environment : Environment} {layers : LayersRead}
    {result : Except Failure String} (state : MachineState)
    (hroot : rootOf state.files arguments = .ok root)
    (hlayers : readLayers state.files environment root state.input = layers)
    (h : (generateFile valueMachine (decidingSettings arguments layers) schemaPath arguments).run
      { state with input := layers.left } = (result, after)) :
    ∃ ignored, (runGenerate valueMachine environment schemaPath arguments).run state =
      (⟨result, ignored⟩, after) := by
  obtain ⟨ignored, hl⟩ := loadLayers_run state environment root
  rw [hlayers] at hl
  refine ⟨ignored, ?_⟩
  simp only [runGenerate, stateRun_bind, rootDirectory_run, hroot, hl]
  exact congrArg (fun generation => (Outcome.mk generation.1 ignored, generation.2)) h

theorem layered_deciding (arguments : Arguments) (layers : LayersRead) (known : List Marker) :
    let settings := decidingSettings arguments layers
    Layered arguments (valueOf layers.project) (valueOf layers.user) (settings.options known)
      (settings.package.getD "") (settings.imports.getD []) :=
  layered_options arguments known (areRead_settingsOf _) (areRead_settingsOf _)

theorem runs_under_layers (environment : Environment) (schemaPath : String) (arguments : Arguments)
    (state : MachineState) (root : String) (hroot : rootOf state.files arguments = .ok root) :
    let layers := readLayers state.files environment root state.input
    ∃ settings ignored package imports,
      (runGenerate valueMachine environment schemaPath arguments).run state =
        (⟨((generateFile valueMachine settings schemaPath arguments).run
            { state with input := layers.left }).1, ignored⟩,
          ((generateFile valueMachine settings schemaPath arguments).run
            { state with input := layers.left }).2) ∧
      (∀ known, (settings.options known).known = known ∧
        Layered arguments (valueOf layers.project) (valueOf layers.user) (settings.options known)
          package imports) ∧
      ∀ code known, settings.file code = code.file package
        (imports ++ ((settings.options known).readMethod.map ReadMethod.imports).getD []) := by
  intro layers
  obtain ⟨ignored, hrun⟩ := runGenerate_run_ok state hroot rfl rfl
  exact ⟨decidingSettings arguments layers, ignored, _, _, hrun,
    fun known => ⟨rfl, layered_deciding arguments layers known⟩, fun _ _ => rfl⟩

-- The user sets the package, the project a reader, and the arguments the name of the root and the
-- path that is read by default.
def layeredFiles : Files where
  nodes := [
    ([], .directory {}), (["home"], .directory {}), (["home", "ada"], .directory {}),
    (["home", "ada", ".config"], .directory {}),
    (["home", "ada", ".config", "markergen"], .directory {}),
    (["home", "ada", ".config", "markergen", "config.toml"],
      .file { content := .text "[generate]\npackage = \"org.example\"\n" }),
    (["srv"], .directory {}), (["srv", "app"], .directory {}),
    (["srv", "app", ".markergen"], .directory {}),
    (["srv", "app", ".markergen", "config.toml"],
      .file { content := .text "[generate]\nread_method = \"readCsv\"\n" }),
    (["srv", "age.json"],
      .file
        { content := .text "\x7b\"age\":\x7b\"kind\":\"value\",\"name\":\"kotlin.Int\"\x7d\x7d" })]
  directory := ["srv", "app"]

def layeredEnvironment : Environment :=
  ⟨none, some "/home/ada"⟩

def layeredArguments : Arguments :=
  { schema := some "../age.json", name := some "Row", defaultPath := some "ages.csv",
    output := some "/srv/Row.kt" }

theorem runs_under_layers_of_three :
    rootOf layeredFiles layeredArguments = .ok "/srv/app" ∧
      ∃ settings ignored package imports,
        (runGenerate valueMachine layeredEnvironment "../age.json" layeredArguments).run
            (.start layeredFiles "") =
          (⟨((generateFile valueMachine settings "../age.json" layeredArguments).run
              (.start layeredFiles "")).1, ignored⟩,
            ((generateFile valueMachine settings "../age.json" layeredArguments).run
              (.start layeredFiles "")).2) ∧
        (settings.options []).rootName = "Row" ∧
        (settings.options []).readMethod = some ⟨"readCsv", some "ages.csv", []⟩ ∧
        package = "org.example" ∧
        ∀ code, settings.file code = code.file package
          (imports ++ ((settings.options []).readMethod.map ReadMethod.imports).getD []) := by
  have hroot : rootOf layeredFiles layeredArguments = .ok "/srv/app" := by decide +kernel
  obtain ⟨settings, ignored, package, imports, hrun, hoptions, hfile⟩ :=
    runs_under_layers layeredEnvironment "../age.json" layeredArguments (.start layeredFiles "")
      "/srv/app" hroot
  obtain ⟨-, hlayered⟩ := hoptions []
  refine ⟨hroot, settings, ignored, package, imports, hrun,
    hlayered.rootName.unique (.argument rfl), ?_, ?_, fun code => hfile code []⟩
  · obtain ⟨path, hpath, hreader⟩ := hlayered.readMethod
    obtain rfl := hpath.unique (.argument rfl)
    have hproject : (valueOf (readLayers layeredFiles layeredEnvironment "/srv/app"
        (.ok "")).project "read_method").bind Toml.string? = some "readCsv" := by
      decide +kernel
    obtain ⟨toml, ht, hread⟩ := Option.bind_eq_some_iff.mp hproject
    exact hreader.unique (.project rfl ht (by rw [hread]; rfl))
  · have hproject : (valueOf (readLayers layeredFiles layeredEnvironment "/srv/app"
        (.ok "")).project "package").isNone := by
      decide +kernel
    have huser : (valueOf (readLayers layeredFiles layeredEnvironment "/srv/app"
        (.ok "")).user "package").bind Toml.string? = some "org.example" := by
      decide +kernel
    obtain ⟨toml, ht, hread⟩ := Option.bind_eq_some_iff.mp huser
    exact hlayered.package.unique (.user rfl (Option.isNone_iff_eq_none.mp hproject) ht hread)

-- The text that a run makes: it is generated with the options of the layers, which are read first.
inductive Produces (files : Files) (input : Input) (environment : Environment)
    (schemaPath : String) (arguments : Arguments) (text : String) : Prop where
  | intro {root : String} {options : GenerationOptions} {package : String} {imports : List String}
      {left : Input} : rootOf files arguments = .ok root →
      Layered arguments (valueOf (readLayers files environment root input).project)
        (valueOf (readLayers files environment root input).user) options package imports →
      Generates files (readLayers files environment root input).left options package imports
        schemaPath arguments.known text left →
        Produces files input environment schemaPath arguments text

theorem produces_iff {root : String} {environment : Environment} {layers : LayersRead}
    (hroot : rootOf files arguments = .ok root)
    (hlayers : readLayers files environment root input = layers) :
    Produces files input environment schemaPath arguments text ↔
      ∃ left, Generates files layers.left ((decidingSettings arguments layers).options [])
        ((decidingSettings arguments layers).package.getD "")
        ((decidingSettings arguments layers).imports.getD []) schemaPath arguments.known text
        left := by
  subst hlayers
  constructor
  · rintro ⟨hroot', hlayered, hgenerates⟩
    obtain rfl := Except.ok.inj (hroot.symm.trans hroot')
    have hunique := hlayered.unique (layered_deciding arguments _ [])
    obtain ⟨-, rfl, rfl⟩ := hunique []
    exact ⟨_, hgenerates.of_eq fun known => (hunique known).1⟩
  · rintro ⟨left, hgenerates⟩
    exact .intro hroot (layered_deciding arguments _ []) hgenerates

theorem run_of_generate (environment : Environment) {words : List String} {outcome : Outcome}
    (hwords : Request.read words = .generate schemaPath arguments)
    (h : (runGenerate valueMachine environment schemaPath arguments).run state = (outcome, after)) :
    (∀ output, outcome.result = .ok output → (run valueMachine environment words).run state =
        (⟨0, output, none, outcome.ignored⟩, after)) ∧
      ∀ failure, outcome.result = .error failure → (run valueMachine environment words).run state =
        (⟨1, "", some failure.message, outcome.ignored⟩, after) := by
  simp only [run, hwords, stateRun_bind, h]
  refine ⟨fun output hr => ?_, fun failure hr => ?_⟩ <;> simp only [hr] <;> rfl

-- The text is handed out once, as it is asked for.
def Delivers (files : Files) (output : Option String) (text printed : String)
    (after : MachineState) : Prop :=
  match output with
  | none => printed = text ∧ after.files = files ∧ after.printed = ""
  | some path => printed = "" ∧ Receives files path text after

theorem delivers_of_ok (hprinted : state.printed = "")
    (h : (generateFile valueMachine settings schemaPath arguments).run state =
      (.ok output, after)) :
    ∃ text left, Generates state.files state.input (settings.options []) (settings.package.getD "")
        (settings.imports.getD []) schemaPath arguments.known text left ∧
      Delivers state.files arguments.output text output after := by
  obtain ⟨text, left, hg, ⟨hn, rfl, rfl⟩ | ⟨path, hs, rfl, hw⟩⟩ := generateFile_run_ok_iff.mp h
  · refine ⟨_, left, hg, ?_⟩
    rw [hn]
    exact ⟨rfl, rfl, hprinted⟩
  · refine ⟨text, left, hg, ?_⟩
    rw [hs]
    rcases write_run_cases path text { state with input := left } with
      ⟨_, hw', hreceives⟩ | ⟨_, -, hw'⟩ <;> rw [hw] at hw' <;> cases hw'
    exact ⟨rfl, hreceives hprinted⟩

-- After a failure there was no text, or no place to write it to.
theorem refused_of_error {failure : Failure} (state : MachineState)
    (h : (generateFile valueMachine settings schemaPath arguments).run state =
      (.error failure, after))
    (hg : Generates state.files state.input (settings.options []) (settings.package.getD "")
      (settings.imports.getD []) schemaPath arguments.known text left) :
    ∃ path cause, arguments.output = some path ∧ state.files.locateTarget path = .error cause := by
  cases ho : arguments.output with
  | none =>
      rw [generateFile_run_ok_iff.mpr ⟨text, left, hg, .inl ⟨ho, rfl, rfl⟩⟩] at h
      cases h
  | some path =>
      rcases write_run_cases path text { state with input := left } with
        ⟨_, hw, _⟩ | ⟨cause, hc, -⟩
      · rw [generateFile_run_ok_iff.mpr ⟨text, left, hg, .inr ⟨path, ho, rfl, hw⟩⟩] at h
        cases h
      · exact ⟨path, cause, rfl, hc⟩

theorem runs_generate_and_write_once (files : Files) (input : Input) (environment : Environment)
    (words : List String) (schemaPath : String) (arguments : Arguments)
    (hwords : Request.read words = .generate schemaPath arguments)
    (report : Report) (after : MachineState)
    (hrun : (run valueMachine environment words).run ⟨files, input, ""⟩ = (report, after)) :
    (report.status = 0 ∧ ∃ text, Produces files input environment schemaPath arguments text ∧
      Delivers files arguments.output text report.output after) ∨
    (report.status = 1 ∧ report.output = "" ∧ after.files = files ∧ after.printed = "" ∧
      ∀ text, Produces files input environment schemaPath arguments text →
        ∃ path cause, arguments.output = some path ∧ files.locateTarget path = .error cause) := by
  cases hroot : rootOf files arguments with
  | error cause =>
      have hg := runGenerate_run_error environment schemaPath ⟨files, input, ""⟩ hroot
      rw [(run_of_generate environment hwords hg).2 _ rfl] at hrun
      cases hrun
      refine .inr ⟨rfl, rfl, rfl, rfl, fun text hproduces => ?_⟩
      obtain ⟨hroot', -, -⟩ := hproduces
      rw [hroot] at hroot'
      cases hroot'
  | ok root =>
      obtain ⟨layers, hlayers⟩ : ∃ layers, readLayers files environment root input = layers :=
        ⟨_, rfl⟩
      rcases hg : (generateFile valueMachine (decidingSettings arguments layers) schemaPath
        arguments).run ⟨files, layers.left, ""⟩ with ⟨result, next⟩
      obtain ⟨ignored, hr⟩ := runGenerate_run_ok ⟨files, input, ""⟩ hroot hlayers hg
      have hstatus := run_of_generate environment hwords hr
      cases result with
      | error failure =>
          rw [hstatus.2 failure rfl] at hrun
          cases hrun
          obtain ⟨left, rfl⟩ := generateFile_failsUnchanged _ _ _ _ _ _ hg
          refine .inr ⟨rfl, rfl, rfl, rfl, fun text hproduces => ?_⟩
          obtain ⟨left, hgenerates⟩ := (produces_iff hroot hlayers).mp hproduces
          exact refused_of_error ⟨files, layers.left, ""⟩ hg hgenerates
      | ok output =>
          rw [hstatus.1 output rfl] at hrun
          cases hrun
          obtain ⟨text, left, hgenerates, hdelivers⟩ := delivers_of_ok rfl hg
          exact .inl ⟨rfl, text, (produces_iff hroot hlayers).mpr ⟨left, hgenerates⟩, hdelivers⟩

-- The schema is read above the working directory, and the text is written there.
theorem runs_generate_and_write_once_to_row :
    let words := ["generate", "../age.json", "--name", "Row", "--default-path", "ages.csv", "-o",
      "/srv/Row.kt"]
    Request.read words = .generate "../age.json" layeredArguments ∧
      ∃ report after,
        (run valueMachine layeredEnvironment words).run ⟨layeredFiles, .ok "", ""⟩ =
            (report, after) ∧
          report.status = 0 ∧ report.output = "" ∧ ∃ text,
            Produces layeredFiles (.ok "") layeredEnvironment "../age.json" layeredArguments text ∧
              Receives layeredFiles "/srv/Row.kt" text after := by
  intro words
  have hwords : Request.read words = .generate "../age.json" layeredArguments := rfl
  obtain ⟨report, after, hrun⟩ : ∃ report after,
      (run valueMachine layeredEnvironment words).run ⟨layeredFiles, .ok "", ""⟩ =
        (report, after) := ⟨_, _, rfl⟩
  have hstatus : report.status = 0 := by
    have hs : ((run valueMachine layeredEnvironment words).run
        ⟨layeredFiles, .ok "", ""⟩).1.status = 0 := by
      decide +kernel
    rwa [hrun] at hs
  refine ⟨hwords, report, after, hrun, hstatus, ?_⟩
  rcases runs_generate_and_write_once layeredFiles (.ok "") layeredEnvironment words "../age.json"
    layeredArguments hwords report after hrun with
    ⟨-, text, hproduces, ho, hreceives⟩ | ⟨hfailed, -⟩
  · exact ⟨ho, text, hproduces, hreceives⟩
  · rw [hstatus] at hfailed
    cases hfailed

end FrameMarkers.Command
