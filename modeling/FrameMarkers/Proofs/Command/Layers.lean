import FrameMarkers.Proofs.Command.Reading

namespace FrameMarkers

namespace Settings

variable {text : String} {part : Toml} {settings : Settings}

-- The settings are what is read from the values of the keys, where there are any.
structure AreRead (value : String → Option Toml) (settings : Settings) : Prop where
  rootName : optional Toml.string? (value "name_prefix") = some settings.rootName
  isOpen : optional Toml.bool? (value "open") = some settings.isOpen
  visibility : optional (word? Visibility.words) (value "visibility") = some settings.visibility
  mode : optional (word? Mode.words) (value "mode") = some settings.mode
  accessors : optional Toml.bool? (value "accessors") = some settings.accessors
  nullableAccessors :
    optional Toml.bool? (value "nullable_accessors") = some settings.nullableAccessors
  types : optional (word? TypeStyle.words) (value "type_names") = some settings.types
  delimiters : optional Toml.string? (value "name_delimiters") = some settings.delimiters
  onConflict :
    optional (word? OnConflict.words) (value "on_name_conflict") = some settings.onConflict
  package : optional Toml.string? (value "package") = some settings.package
  imports : optional strings? (value "imports") = some settings.imports
  readMethod : optional Toml.string? (value "read_method") = some settings.readMethod
  defaultPath : optional Toml.string? (value "default_path") = some settings.defaultPath

theorem areRead_empty : AreRead (fun _ => none) {} := by
  constructor <;> rfl

-- A section is read key by key.
theorem exists_of_key {α β : Type} {read : Toml → Option α} {name : String}
    {rest : Option α → Option β} {result : β}
    (h : (valueOf? part name >>= optional read) >>= rest = some result) :
    ∃ value, optional read (valueOf? part name).join = some value ∧ rest value = some result := by
  obtain ⟨value, hvalue, hrest⟩ := Option.bind_eq_some_iff.mp h
  obtain ⟨found, hfound, hread⟩ := Option.bind_eq_some_iff.mp hvalue
  refine ⟨value, ?_, hrest⟩
  rw [hfound]
  exact hread

theorem areRead_of_section (h : ofSection? part = some settings) :
    AreRead (fun key => (valueOf? part key).join) settings := by
  simp only [ofSection?] at h
  iterate 13 obtain ⟨_, _, h⟩ := exists_of_key h
  cases h
  constructor <;> assumption

-- The value that a text sets for a key.
def valueIn (text key : String) : Option Toml := do
  let document ← Toml.parse text
  let part ← document.lookup "generate"
  (valueOf? part key).join

-- A text is one layer: where it sets a key to a value of the wrong kind, it has no settings at all.
theorem areRead_of_parse (h : parse text = some settings) : AreRead (valueIn text) settings := by
  obtain ⟨document, hdocument, h⟩ := Option.bind_eq_some_iff.mp h
  simp only [ofMembers?] at h
  cases hp : document.lookup "generate" with
  | none =>
      have hvalue : valueIn text = fun _ => none := by
        funext key
        simp [valueIn, hdocument, hp]
      rw [hp] at h
      cases h
      exact hvalue ▸ areRead_empty
  | some part =>
      have hvalue : valueIn text = fun key => (valueOf? part key).join := by
        funext key
        simp [valueIn, hdocument, hp]
      rw [hp] at h
      exact hvalue ▸ areRead_of_section h

example : parse "[generate]\npackage = \"org.example\"\nopen = 1\n" = none := by
  decide +kernel

end Settings

namespace Command

open Settings

-- What a text sets for each key, if one can be read. A malformed one sets nothing.
def valueOf : Except FileError String → String → Option Toml
  | .ok text => if (Settings.parse text).isSome then valueIn text else fun _ => none
  | .error _ => fun _ => none

theorem areRead_settingsOf (outcome : Except FileError String) :
    AreRead (valueOf outcome) (settingsOf outcome) := by
  cases outcome with
  | error cause => exact areRead_empty
  | ok text =>
      simp only [valueOf, settingsOf]
      cases hparse : Settings.parse text with
      | none => exact areRead_empty
      | some settings => exact areRead_of_parse hparse

-- The value that stands with the first switch that is on.
def firstOn {α : Type} : List (Bool × α) → Option α
  | [] => none
  | (on, value) :: rest => if on then some value else firstOn rest

-- The value of an option, from the argument for it and what the two files set for its key.
inductive Decided {α : Type} (argument : Option α) (project user : Option Toml)
    (read : Toml → Option α) (builtIn : α) : α → Prop where
  | argument {value : α} : argument = some value → Decided argument project user read builtIn value
  | project {toml : Toml} {value : α} : argument = none → project = some toml →
      read toml = some value → Decided argument project user read builtIn value
  | user {toml : Toml} {value : α} : argument = none → project = none → user = some toml →
      read toml = some value → Decided argument project user read builtIn value
  | builtIn : argument = none → project = none → user = none →
      Decided argument project user read builtIn builtIn

variable {α β : Type} {project user : Option Toml} {read : Toml → Option α} {upper lower : Option α}

theorem decided_map (argument : Option α) (use : α → β) (builtIn : β)
    (hproject : optional read project = some upper) (huser : optional read user = some lower) :
    Decided (argument.map use) project user (fun toml => (read toml).map use) builtIn
      (((argument <|> (upper <|> lower)).map use).getD builtIn) := by
  cases argument with
  | some value => exact .argument rfl
  | none =>
      cases project with
      | some toml =>
          obtain ⟨value, hread, rfl⟩ := Option.map_eq_some_iff.mp hproject
          exact .project rfl rfl (by rw [hread]; rfl)
      | none =>
          cases hproject
          cases user with
          | some toml =>
              obtain ⟨value, hread, rfl⟩ := Option.map_eq_some_iff.mp huser
              exact .user rfl rfl rfl (by rw [hread]; rfl)
          | none =>
              cases huser
              exact .builtIn rfl rfl rfl

theorem decided_getD (argument : Option α) (builtIn : α)
    (hproject : optional read project = some upper) (huser : optional read user = some lower) :
    Decided argument project user read builtIn
      ((argument <|> (upper <|> lower)).getD builtIn) := by
  simpa using decided_map argument id builtIn hproject huser

theorem decided_some (argument : Option α) (use : α → β)
    (hproject : optional read project = some upper) (huser : optional read user = some lower) :
    Decided (argument.map fun value => some (use value)) project user
      (fun toml => (read toml).map fun value => some (use value)) none
      ((argument <|> (upper <|> lower)).map use) := by
  have h := decided_map argument (fun value => some (use value)) none hproject huser
  cases hvalue : argument <|> (upper <|> lower) <;> rwa [hvalue] at h

theorem Decided.unique {argument : Option α} {builtIn value value' : α}
    (h : Decided argument project user read builtIn value)
    (h' : Decided argument project user read builtIn value') : value = value' := by
  cases h with
  | argument ha =>
      cases h' with
      | argument ha' => exact Option.some.inj (ha.symm.trans ha')
      | project ha' | user ha' | builtIn ha' => rw [ha] at ha'; cases ha'
  | project ha hp hr =>
      cases h' with
      | argument ha' => rw [ha] at ha'; cases ha'
      | project _ hp' hr' =>
          obtain rfl := Option.some.inj (hp.symm.trans hp')
          exact Option.some.inj (hr.symm.trans hr')
      | user _ hp' | builtIn _ hp' => rw [hp] at hp'; cases hp'
  | user ha hp hu hr =>
      cases h' with
      | argument ha' => rw [ha] at ha'; cases ha'
      | project _ hp' => rw [hp] at hp'; cases hp'
      | user _ _ hu' hr' =>
          obtain rfl := Option.some.inj (hu.symm.trans hu')
          exact Option.some.inj (hr.symm.trans hr')
      | builtIn _ _ hu' => rw [hu] at hu'; cases hu'
  | builtIn ha hp hu =>
      cases h' with
      | argument ha' => rw [ha] at ha'; cases ha'
      | project _ hp' => rw [hp] at hp'; cases hp'
      | user _ _ hu' => rw [hu] at hu'; cases hu'
      | builtIn => rfl

-- Each option is decided by its own argument and its own key.
structure Layered (arguments : Arguments) (project user : String → Option Toml)
    (options : GenerationOptions) (package : String) (imports : List String) : Prop where
  rootName : Decided arguments.name (project "name_prefix") (user "name_prefix") Toml.string?
    "DataType" options.rootName
  isOpen : Decided (firstOn [(arguments.closed, false), (arguments.isOpen, true)])
    (project "open") (user "open") Toml.bool? true options.isOpen
  visibility : Decided arguments.visibility (project "visibility") (user "visibility")
    (word? Visibility.words) .implicitPublic options.visibility
  mode : Decided (firstOn [(arguments.accessorsOnly, .none), (arguments.noFields, .noFields),
      (arguments.fields, .withFields)])
    (project "mode") (user "mode") (word? Mode.words) .withFields options.mode
  accessors : Decided (firstOn [(arguments.noAccessors, false), (arguments.accessors, true)])
    (project "accessors") (user "accessors") Toml.bool? true options.accessors
  nullableAccessors : Decided (firstOn [(arguments.nullableAccessors, true)])
    (project "nullable_accessors") (user "nullable_accessors") Toml.bool? false
    options.nullableAccessors
  types : Decided arguments.types (project "type_names") (user "type_names")
    (word? TypeStyle.words) .qualified options.types
  onConflict : Decided arguments.onConflict (project "on_name_conflict") (user "on_name_conflict")
    (word? OnConflict.words) .suffix options.onConflict
  normalize :
    let normalizer (delimiters : String) : Normalizer := .ofDelimiters delimiters.toList
    Decided (arguments.delimiters.map normalizer) (project "name_delimiters")
      (user "name_delimiters") (fun toml => toml.string?.map normalizer) .asWritten
      options.normalize
  -- The default path has layers of its own: it may come from above the reader or from below.
  readMethod : ∃ defaultPath,
    Decided (arguments.defaultPath.map some) (project "default_path") (user "default_path")
      (fun toml => toml.string?.map some) none defaultPath ∧
    Decided (arguments.readMethod.map fun reader => some ⟨reader, defaultPath, []⟩)
      (project "read_method") (user "read_method")
      (fun toml => toml.string?.map fun reader => some ⟨reader, defaultPath, []⟩) none
      options.readMethod
  package : Decided arguments.package (project "package") (user "package") Toml.string? "" package
  imports : Decided none (project "imports") (user "imports") strings? [] imports

variable {above below : Settings}

theorem normalizer_eq (settings : Settings) :
    settings.normalizer =
      (settings.delimiters.map fun delimiters => .ofDelimiters delimiters.toList).getD
        .asWritten := by
  unfold normalizer
  cases settings.delimiters <;> rfl

theorem layered_options {project user : String → Option Toml} (arguments : Arguments)
    (known : List Marker) (hproject : AreRead project above) (huser : AreRead user below) :
    let settings := arguments.settings.withFallback (above.withFallback below)
    Layered arguments project user (settings.options known) (settings.package.getD "")
      (settings.imports.getD []) where
  rootName := decided_getD _ _ hproject.rootName huser.rootName
  isOpen := decided_getD _ _ hproject.isOpen huser.isOpen
  visibility := decided_getD _ _ hproject.visibility huser.visibility
  mode := decided_getD _ _ hproject.mode huser.mode
  accessors := decided_getD _ _ hproject.accessors huser.accessors
  nullableAccessors := decided_getD _ _ hproject.nullableAccessors huser.nullableAccessors
  types := decided_getD _ _ hproject.types huser.types
  onConflict := decided_getD _ _ hproject.onConflict huser.onConflict
  normalize := by
    change Decided _ _ _ _ _ (normalizer _)
    rw [normalizer_eq]
    exact decided_map arguments.delimiters _ _ hproject.delimiters huser.delimiters
  readMethod := by
    refine ⟨arguments.defaultPath <|> (above.defaultPath <|> below.defaultPath), ?_, ?_⟩
    · simpa using decided_some arguments.defaultPath id hproject.defaultPath huser.defaultPath
    · exact decided_some arguments.readMethod _ hproject.readMethod huser.readMethod
  package := decided_getD arguments.package "" hproject.package huser.package
  imports := decided_getD none [] hproject.imports huser.imports

-- The layers leave no choice but that of the known markers.
theorem Layered.unique {arguments : Arguments} {project user : String → Option Toml}
    {options options' : GenerationOptions} {package package' : String}
    {imports imports' : List String} (h : Layered arguments project user options package imports)
    (h' : Layered arguments project user options' package' imports') (known : List Marker) :
    { options with known } = { options' with known } ∧ package = package' ∧ imports = imports' := by
  obtain ⟨path, hpath, hreader⟩ := h.readMethod
  obtain ⟨path', hpath', hreader'⟩ := h'.readMethod
  obtain rfl := hpath.unique hpath'
  refine ⟨?_, h.package.unique h'.package, h.imports.unique h'.imports⟩
  rw [h.rootName.unique h'.rootName, h.isOpen.unique h'.isOpen, h.visibility.unique h'.visibility,
    h.mode.unique h'.mode, h.accessors.unique h'.accessors,
    h.nullableAccessors.unique h'.nullableAccessors, h.types.unique h'.types,
    h.onConflict.unique h'.onConflict, h.normalize.unique h'.normalize, hreader.unique hreader']

end Command

end FrameMarkers
