import RouteTable.Proofs.Commands

/-!
# Layers of the configuration

A command takes its configuration from the flags, the environment, a configuration file and defaults, in this order
(`Command.config_layers`).  `Config.Settings` is what a file sets: a file that loads sets each field once at most, and
leaves all others at their default (`Config.ofYaml?_eq_some`).

The default of `basedir` depends on the file.  Without a file it is the directory of the description; with one it is the
current directory, also when the file does not set `basedir` (`Command.config_basedir_beside_description`).
-/

namespace RouteTable

namespace Config

open Yaml (Node)

/-! ### What a file sets -/

/-- The value of the first entry with a key. -/
def valueOf? (entries : List (Node Empty × Node Empty)) (key : String) : Option (Node Empty) :=
  (entries.find? fun e => e.1.text? = some key).map (·.2)

/-- The fields that a configuration file sets. -/
structure Settings where
  basedir : Option String := none
  handlerRoot : Option String := none
  securityRoot : Option String := none
  basePathMode : Option BasePathMode := none
deriving DecidableEq

namespace Settings

/-- What the entries of a mapping set; a root that is null is not set. -/
def ofEntries (entries : List (Node Empty × Node Empty)) : Settings :=
  { basedir := (valueOf? entries "basedir").bind Node.text?
    handlerRoot := ((valueOf? entries "handler_root").bind optionalText?).getD none
    securityRoot := ((valueOf? entries "security_root").bind optionalText?).getD none
    basePathMode := (valueOf? entries "base_path_mode").bind mode? }

/-- What a file sets; only a mapping sets anything. -/
def ofText (text : String) : Settings :=
  match Yaml.read? text with
  | some (some (.mapping _ entries)) => ofEntries entries
  | _ => {}

/-- The settings, and the defaults of the other fields. -/
def config (s : Settings) : Config :=
  { basedir := s.basedir.getD "."
    handlerRoot := s.handlerRoot
    securityRoot := s.securityRoot
    basePathMode := s.basePathMode.getD .prependWhenDeclared }

end Settings

variable {c d : Config} {seen : List String} {entries : List (Node Empty × Node Empty)} {key : String}

theorem setFields?_cons_eq_some_iff {e : Node Empty × Node Empty} : setFields? c seen (e :: entries) = some d ↔
    ∃ name, e.1.text? = some name ∧ name ∉ seen ∧
      ∃ b, setField? c name e.2 = some b ∧ setFields? b (name :: seen) entries = some d := by
  obtain ⟨k, value⟩ := e
  simp only [setFields?, Option.bind_eq_bind, Option.bind_eq_some_iff]
  refine exists_congr fun name => and_congr_right fun _ => ?_
  by_cases again : name ∈ seen
  · simp [again]
  · simp [again, Option.bind_eq_some_iff]

/-- A field that was set is not set again. -/
theorem valueOf?_of_seen (ok : setFields? c seen entries = some d) (met : key ∈ seen) :
    valueOf? entries key = none := by
  induction entries generalizing c seen with
  | nil => rfl
  | cons e rest ih =>
    obtain ⟨name, named, new, b, -, ok⟩ := setFields?_cons_eq_some_iff.1 ok
    have other : e.1.text? ≠ some key := by
      rw [named]
      rintro h
      exact new (Option.some.inj h ▸ met)
    rw [valueOf?, List.find?_cons_of_neg (by simpa using other)]
    exact ih ok (List.mem_cons_of_mem _ met)

/-- What the entries make of one field, given what one entry makes of it. -/
theorem setFields?_field {β : Type} (get : Config → β) {decode : Node Empty → Option β}
    (step : ∀ c name value d, setField? c name value = some d →
      if name = key then decode value = some (get d) else get d = get c)
    (ok : setFields? c seen entries = some d) : get d = ((valueOf? entries key).bind decode).getD (get c) := by
  induction entries generalizing c seen with
  | nil =>
    cases ok
    rfl
  | cons e rest ih =>
    obtain ⟨name, named, -, b, set, ok⟩ := setFields?_cons_eq_some_iff.1 ok
    have here := step c name e.2 b set
    by_cases same : name = key
    · subst same
      rw [if_pos rfl] at here
      have once : valueOf? rest name = none := valueOf?_of_seen ok List.mem_cons_self
      have kept : get d = get b := by
        rw [ih ok, once]
        rfl
      have found : valueOf? (e :: rest) name = some e.2 := by
        rw [valueOf?, List.find?_cons_of_pos (by simpa using named)]
        rfl
      rw [kept, found, Option.bind_some, here]
      rfl
    · rw [if_neg same] at here
      have other : e.1.text? ≠ some key := by
        rw [named]
        exact fun h => same (Option.some.inj h)
      have later : valueOf? (e :: rest) key = valueOf? rest key := by
        rw [valueOf?, List.find?_cons_of_neg (by simpa using other)]
        rfl
      rw [ih ok, later, here]

/-- An entry sets the field that it names, and no other. -/
theorem setField?_eq_some {name : String} {value : Node Empty} (ok : setField? c name value = some d) :
    (if name = "basedir" then value.text? = some d.basedir else d.basedir = c.basedir) ∧
    (if name = "handler_root" then optionalText? value = some d.handlerRoot else d.handlerRoot = c.handlerRoot) ∧
    (if name = "security_root" then optionalText? value = some d.securityRoot else d.securityRoot = c.securityRoot) ∧
    (if name = "base_path_mode" then mode? value = some d.basePathMode else d.basePathMode = c.basePathMode) := by
  unfold setField? at ok
  split at ok
  · obtain ⟨basedir, read, rfl⟩ := Option.map_eq_some_iff.1 ok
    simp [read]
  · obtain ⟨handlerRoot, read, rfl⟩ := Option.map_eq_some_iff.1 ok
    simp [read]
  · obtain ⟨securityRoot, read, rfl⟩ := Option.map_eq_some_iff.1 ok
    simp [read]
  · obtain ⟨basePathMode, read, rfl⟩ := Option.map_eq_some_iff.1 ok
    simp [read]
  · cases ok

theorem setFields?_eq_some (ok : setFields? {} [] entries = some d) : d = (Settings.ofEntries entries).config := by
  have basedir := setFields?_field Config.basedir (fun _ _ _ _ set => (setField?_eq_some set).1) ok
  have handlerRoot := setFields?_field Config.handlerRoot (fun _ _ _ _ set => (setField?_eq_some set).2.1) ok
  have securityRoot := setFields?_field Config.securityRoot (fun _ _ _ _ set => (setField?_eq_some set).2.2.1) ok
  have basePathMode := setFields?_field Config.basePathMode (fun _ _ _ _ set => (setField?_eq_some set).2.2.2) ok
  cases d
  simp only at basedir handlerRoot securityRoot basePathMode
  rw [basedir, handlerRoot, securityRoot, basePathMode]
  rfl

/-- The configuration of a file is what the file sets, over the defaults. -/
theorem eq_of_ofYaml? {text : String} (ok : ofYaml? text = some d) : d = (Settings.ofText text).config := by
  rw [ofYaml?] at ok
  rw [Settings.ofText]
  split at ok
  · cases ok
  · next read =>
    rw [read]
    exact (Option.some.inj ok).symm
  · next entries read =>
    rw [read]
    exact setFields?_eq_some ok
  · next read =>
    rw [read]
    split at ok
    · exact (Option.some.inj ok).symm
    · cases ok
  · cases ok

end Config

/-! ### The layers of a command -/

namespace Surroundings

/-- The surroundings without a variable. -/
def unset (s : Surroundings) (name : String) : Surroundings :=
  { s with environment := fun other => if other = name then none else s.environment other }

end Surroundings

namespace Command

variable {s : Surroundings} {args : CompileArguments}

/-- What the configuration file of a command sets; nothing without a file. -/
def settings (s : Surroundings) (args : CompileArguments) : Config.Settings :=
  match args.config with
  | none => {}
  | some path =>
    match s.disk.readText path with
    | .ok text => Config.Settings.ofText text
    | .error _ => {}

/-- The mode that the environment sets, if it is one. -/
def environmentMode? (s : Surroundings) : Option BasePathMode :=
  (s.environment "BRRTR_BASE_PATH_MODE").bind fun text => (BasePathMode.parse text).toOption

/-- The base directory where nothing sets one. -/
def defaultBasedir (args : CompileArguments) : String :=
  match args.config with
  | none => specDirectory args.spec
  | some _ => "."

theorem eq_of_load {path : String} {c : Config} (given : args.config = some path)
    (ok : Config.load s.disk path = .ok c) : c = (settings s args).config := by
  rw [Config.load] at ok
  rw [settings, given]
  split at ok
  · cases ok
  · next text read =>
    dsimp only
    rw [read]
    split at ok
    · next c parsed =>
      cases ok
      exact Config.eq_of_ofYaml? parsed
    · cases ok

theorem override_eq (c : Config) : c.override s.environment =
    { basedir := (s.environment "BRRTR_BASEDIR").getD c.basedir
      handlerRoot := (s.environment "BRRTR_HANDLER_ROOT").or c.handlerRoot
      securityRoot := (s.environment "BRRTR_SECURITY_ROOT").or c.securityRoot
      basePathMode := (environmentMode? s).getD c.basePathMode } := by
  rw [Config.override, environmentMode?]
  cases s.environment "BRRTR_BASE_PATH_MODE" with
  | none => rfl
  | some text => cases h : BasePathMode.parse text <;> simp [h, Except.toOption]

/-- A command starts from what the file sets, over the defaults; then come the environment and the flags. -/
theorem config_eq_ok (loads : ∀ path, args.config = some path → ∃ c, Config.load s.disk path = .ok c) :
    ∃ c : Config, config s args = .ok
        { c.override s.environment with
          basedir := args.basedir.getD (c.override s.environment).basedir
          basePathMode := args.basePathMode.getD (c.override s.environment).basePathMode } ∧
      c.basedir = (settings s args).basedir.getD (defaultBasedir args) ∧
      c.handlerRoot = (settings s args).handlerRoot ∧ c.securityRoot = (settings s args).securityRoot ∧
      c.basePathMode = (settings s args).basePathMode.getD .prependWhenDeclared := by
  cases given : args.config with
  | none =>
    have nothing : settings s args = {} := by rw [settings, given]
    have default : defaultBasedir args = specDirectory args.spec := by rw [defaultBasedir, given]
    rw [nothing, default]
    refine ⟨{ basedir := specDirectory args.spec }, ?_, rfl, rfl, rfl, rfl⟩
    rw [config, given]
    rfl
  | some path =>
    obtain ⟨c, loaded⟩ := loads path given
    have default : defaultBasedir args = "." := by rw [defaultBasedir, given]
    rw [default]
    obtain rfl := eq_of_load given loaded
    refine ⟨(settings s args).config, ?_, rfl, rfl, rfl, rfl⟩
    simp only [config, given]
    rw [loaded]
    rfl

/-- A variable that is no mode is as good as none. -/
theorem override_unset_mode {text : String} (given : s.environment "BRRTR_BASE_PATH_MODE" = some text)
    (unknown : ∀ mode, BasePathMode.parse text ≠ .ok mode) (c : Config) :
    c.override (s.unset "BRRTR_BASE_PATH_MODE").environment = c.override s.environment := by
  cases parsed : BasePathMode.parse text with
  | ok mode => exact absurd parsed (unknown mode)
  | error folded => simp [Config.override, Surroundings.unset, given, parsed]

theorem config_unset_mode {text : String} (given : s.environment "BRRTR_BASE_PATH_MODE" = some text)
    (unknown : ∀ mode, BasePathMode.parse text ≠ .ok mode) :
    config (s.unset "BRRTR_BASE_PATH_MODE") args = config s args := by
  unfold config
  simp only [override_unset_mode given unknown]
  rfl

/-- If the configuration file of a command loads, if there is one, each field of the configuration comes from the first
layer that sets it.  These are the flag, the environment, the file and the default for the base directory and the base
path mode, and the environment and the file for the two roots.  A mode in the environment that is none changes nothing.
The default of the base directory is the directory of the description for a command without a file, and the current
directory for one with a file. -/
theorem config_layers (loads : ∀ path, args.config = some path → ∃ c, Config.load s.disk path = .ok c) :
    ∃ c, config s args = .ok c ∧ (∀ api setup store, prepare s args = .ok (api, setup, store) → setup.config = c) ∧
      c.basedir = ((args.basedir.or (s.environment "BRRTR_BASEDIR")).or (settings s args).basedir).getD
        (defaultBasedir args) ∧
      c.basePathMode = ((args.basePathMode.or (environmentMode? s)).or (settings s args).basePathMode).getD
        .prependWhenDeclared ∧
      c.handlerRoot = (s.environment "BRRTR_HANDLER_ROOT").or (settings s args).handlerRoot ∧
      c.securityRoot = (s.environment "BRRTR_SECURITY_ROOT").or (settings s args).securityRoot ∧
      ∀ text, s.environment "BRRTR_BASE_PATH_MODE" = some text → (∀ mode, BasePathMode.parse text ≠ .ok mode) →
        config (s.unset "BRRTR_BASE_PATH_MODE") args = .ok c := by
  obtain ⟨c, configured, basedir, handlerRoot, securityRoot, basePathMode⟩ := config_eq_ok loads
  refine ⟨_, configured, fun api setup store prepared => ?_, ?_, ?_, ?_, ?_, fun text given unknown => ?_⟩
  · exact Except.ok.inj ((loads_of_prepare prepared).2.symm.trans configured)
  · rw [override_eq, basedir, Option.getD_or, Option.getD_or]
  · rw [override_eq, basePathMode, Option.getD_or, Option.getD_or]
  · rw [override_eq, handlerRoot]
  · rw [override_eq, securityRoot]
  · rw [config_unset_mode given unknown, configured]

/-- A root of the environment goes before that of the file, and a mode that is none before nothing. -/
theorem config_layers_mocks :
    let text := "basedir: mocks\nhandler_root: handlers\nbase_path_mode: never\n"
    let s : Surroundings :=
      { disk := { entries := [("srv", .directory [("routes.yaml", .file ⟨text.toUTF8, 0⟩)])], cwd := "/srv" }
        environment := fun name =>
          if name = "BRRTR_HANDLER_ROOT" then some "live"
          else if name = "BRRTR_BASE_PATH_MODE" then some "always"
          else none
        engine := SchemaDocument.engine }
    let args : CompileArguments := { spec := "api/petstore.yaml", config := some "routes.yaml" }
    ∃ c, config s args = .ok c ∧ c.basedir = "mocks" ∧ c.basePathMode = .never ∧ c.handlerRoot = some "live" ∧
      c.securityRoot = none ∧ config (s.unset "BRRTR_BASE_PATH_MODE") args = .ok c := by
  intro text s args
  have read : s.disk.readText "routes.yaml" = .ok text := by decide +kernel
  have parsed : Config.ofYaml? text =
      some { basedir := "mocks", handlerRoot := some "handlers", basePathMode := .never } := by decide +kernel
  have written : settings s args =
      { basedir := some "mocks", handlerRoot := some "handlers", basePathMode := some .never } := by decide +kernel
  have unknown : BasePathMode.parse "always" = .error "always" := by decide +kernel
  have loads : ∀ path, args.config = some path → ∃ c, Config.load s.disk path = .ok c := by
    rintro _ ⟨⟩
    refine ⟨{ basedir := "mocks", handlerRoot := some "handlers", basePathMode := .never }, ?_⟩
    rw [Config.load, read]
    dsimp only
    rw [parsed]
  obtain ⟨c, configured, -, basedir, mode, handlerRoot, securityRoot, unset⟩ := config_layers loads
  rw [written] at basedir mode handlerRoot securityRoot
  have same := unset "always" rfl fun mode h => nomatch unknown.symm.trans h
  have environment : environmentMode? s = none := by
    change (BasePathMode.parse "always").toOption = none
    rw [unknown]
    rfl
  rw [environment] at mode
  exact ⟨c, configured, basedir, mode, handlerRoot, securityRoot, same⟩

/-- A file that does not set the base directory makes the current directory the base, though the description lies
elsewhere; without a file it would be the directory of the description. -/
theorem config_basedir_beside_description :
    let text := "base_path_mode: never\n"
    let s : Surroundings :=
      { disk := { entries := [("srv", .directory [("routes.yaml", .file ⟨text.toUTF8, 0⟩)])], cwd := "/srv" }
        environment := fun _ => none, engine := SchemaDocument.engine }
    let args : CompileArguments := { spec := "api/petstore.yaml" }
    let argsWithFile : CompileArguments := { args with config := some "routes.yaml" }
    (settings s argsWithFile).basedir = none ∧ specDirectory args.spec = "api" ∧
      (config s args).toOption.map Config.basedir = some "api" ∧
      (config s argsWithFile).toOption.map Config.basedir = some "." := by
  decide +kernel

end Command

end RouteTable
