import TrackSelection.Command.Run
import TrackSelection.Proofs.FailedQuestions
import TrackSelection.Proofs.Overriding

/-!
# What is refused of a configuration

A configuration is looked at twice. Warnings are about its optional settings; the check of the
parameters that it stands for sees numbers, where an unset dimension is the greatest one. The check
refuses exactly a viewport without area, and that is warned of. So a configuration without warnings
gives parameters that every session accepts. Two commands read configurations, each in its own way:
of a text that is one, the validation fails exactly if the selection is refused its parameters.
-/

namespace TrackSelection

/-! ## Checking the parameters of a configuration -/

namespace Config

/-- A viewport is asked for that has no area. -/
def HasFlatViewport (config : Config) : Prop :=
  ∃ viewport, config.video.viewport = some viewport ∧ (viewport.width = 0 ∨ viewport.height = 0)

variable {config : Config} {error : Error}

theorem fault?_overrides (config : Config) : config.parameters.overrides.fault? = none := by
  rw [OverrideTable.fault?_eq_none_iff]
  intro i groups override mem
  cases mem

theorem check_parameters_eq_error_iff :
    config.parameters.check = .error error ↔
      ∃ viewport, config.video.viewport = some viewport ∧
        (viewport.width = 0 ∨ viewport.height = 0) ∧
        error = .invalidParameters (.zeroViewport viewport.width viewport.height) := by
  rw [Parameters.check, Parameters.fault?, fault?_overrides]
  cases found : config.video.viewport with
  | none =>
      have unset : config.parameters.video.viewport = {} := by rw [parameters, found]; rfl
      rw [unset]
      simp [unlimited]
  | some viewport =>
      have set : config.parameters.video.viewport =
          ⟨viewport.width, viewport.height, viewport.orientationMayChange⟩ := by
        rw [parameters, found]
        rfl
      rw [set]
      by_cases flat : viewport.width = 0 ∨ viewport.height = 0
      · simp [flat, eq_comm]
      · simp [flat]

theorem exists_check_parameters_eq_error_iff :
    (∃ error, config.parameters.check = .error error) ↔ config.HasFlatViewport := by
  simp only [check_parameters_eq_error_iff]
  constructor
  · rintro ⟨_, viewport, found, flat, _⟩
    exact ⟨viewport, found, flat⟩
  · rintro ⟨viewport, found, flat⟩
    exact ⟨_, viewport, found, flat, rfl⟩

theorem check_parameters_eq_ok (area : ¬ config.HasFlatViewport) :
    config.parameters.check = .ok () := by
  cases checked : config.parameters.check with
  | ok => rfl
  | error error => exact absurd (exists_check_parameters_eq_error_iff.mp ⟨error, checked⟩) area

theorem HasFlatViewport.warnings_ne_nil (flat : config.HasFlatViewport) : config.warnings ≠ [] := by
  obtain ⟨viewport, found, zero⟩ := flat
  apply List.ne_nil_of_mem
  show s!"video.viewport {viewport.width}x{viewport.height} has a zero dimension" ∈ config.warnings
  simp [warnings, found, zero]

end Config

theorem Session.install_eq_error_iff {session : Session} {parameters : Parameters} {error : Error} :
    session.install parameters = .error error ↔ parameters.check = .error error := by
  rw [install, bind_eq_error_iff]
  refine or_iff_left ?_
  rintro ⟨_, _, failed⟩
  cases failed

theorem Session.exists_install_eq_ok {session : Session} {parameters : Parameters}
    (accepted : parameters.check = .ok ()) :
    ∃ installed, session.install parameters = .ok installed := by
  rw [install, accepted]
  exact ⟨_, rfl⟩

/-! ## The two commands -/

namespace Scenario

theorem group_error {formats : List Format} {position : Nat} {error : Error}
    (failed : group formats position = .error error) : ∃ fault, error = .invalidGroup fault := by
  rw [group, TrackGroup.ofFormats] at failed
  split at failed
  next => exact ⟨_, (Except.error.inj failed).symm⟩
  next =>
      split at failed
      next => exact ⟨_, (Except.error.inj failed).symm⟩
      next => cases failed

theorem trackGroups_error {scenario : Scenario} {error : Error}
    (failed : scenario.trackGroups = .error error) : ∃ fault, error = .invalidGroup fault := by
  obtain ⟨_, ⟨formats, position⟩, _, first, _⟩ := exists_first_of_mapM_eq_error failed
  exact group_error first

end Scenario

/-- Renderers that go by rules answer every question. -/
theorem Mapping.exists_assign_toRenderer (renderers : List RuleRenderer)
    (groups : List TrackGroup) :
    ∃ mapping, assign (renderers.map RuleRenderer.toRenderer) groups = .ok mapping := by
  have answers : ∀ renderer ∈ renderers.map RuleRenderer.toRenderer,
      (∃ mixed, renderer.mixedMimeTypes = .ok mixed) ∧
        ∀ format, ∃ answer, renderer.capabilities format = .ok answer := by
    intro renderer mem
    obtain ⟨rules, _, rfl⟩ := List.mem_map.mp mem
    exact ⟨⟨_, rfl⟩, fun format => ⟨_, rfl⟩⟩
  cases assigned : assign (renderers.map RuleRenderer.toRenderer) groups with
  | ok mapping => exact ⟨mapping, rfl⟩
  | error error =>
      obtain ⟨question, first⟩ := exists_failsFirst_of_assign assigned
      cases first.fails with
      | mixedMimeTypes asked failed =>
          obtain ⟨mixed, answered⟩ := (answers _ (List.mem_of_getElem? asked)).1
          cases answered.symm.trans failed
      | capabilities about asked track failed =>
          obtain ⟨answer, answered⟩ := (answers _ (List.mem_of_getElem? asked)).2 _
          cases answered.symm.trans failed

namespace Command

variable {files : String → File} {path : String} {config : Config}

theorem File.text_bytes (text : String) : (File.bytes text.toUTF8).text = .ok text := by
  have whole : String.fromUTF8? text.toUTF8 = some text := dif_pos text.isValidUTF8
  rw [File.text, whole]

theorem configOrDefault_eq (read : (files path).text.bind Config.parse = .ok config) :
    configOrDefault files (some path) = config := by
  rw [configOrDefault, read]

theorem validate_failure_iff (read : (files path).text.bind Config.parse = .ok config)
    {failure : Failure} :
    (validate files (some path)).failure = some failure ↔
      ∃ error, config.parameters.check = .error error ∧ failure = .cause error := by
  rw [validate, read]
  dsimp only [validateConfig]
  cases config.parameters.check with
  | ok => simp
  | error error => simp [eq_comm]

theorem printOrFail_failure_iff {result : Except Failure (List String)} {failure : Failure} :
    (printOrFail result).failure = some failure ↔ result = .error failure := by
  cases result with
  | ok lines => simp [printOrFail]
  | error other => simp [printOrFail]

theorem failing_eq_error_iff {α : Type} {result : Except Error α} {failure : Failure} :
    failing result = .error failure ↔ ∃ error, result = .error error ∧ failure = .cause error := by
  cases result with
  | ok value =>
      show Except.ok value = .error failure ↔ _
      simp
  | error error =>
      show Except.error (.cause error) = .error failure ↔ _
      simp [eq_comm]

theorem select_failure_iff (read : (files path).text.bind Config.parse = .ok config)
    {place : String} {scenario : Scenario}
    (loaded : loadScenario place (files place) = .ok scenario) (json : Bool) {failure : Failure} :
    (select files (some path) place json).failure = some failure ↔
      ∃ error, selectOutcome scenario config = .error error ∧ failure = .cause error := by
  rw [select, printOrFail_failure_iff, loaded, configOrDefault_eq read, ← failing_eq_error_iff]
  show (failing (selectOutcome scenario config) >>= _) = .error failure ↔ _
  refine bind_eq_error_iff.trans (or_iff_left ?_)
  rintro ⟨outcome, _, printed⟩
  cases printed

/-- The parameters of a selection are refused where they are installed, and nowhere else. -/
theorem selectOutcome_eq_invalidParameters_iff {scenario : Scenario} {fault : ParameterFault} :
    selectOutcome scenario config = .error (.invalidParameters fault) ↔
      openSession config = .error (.invalidParameters fault) := by
  rw [selectOutcome, bind_eq_error_iff]
  refine or_iff_left ?_
  rintro ⟨session, _, later⟩
  rcases bind_eq_error_iff.mp later with failed | ⟨groups, _, later⟩
  · obtain ⟨groupFault, same⟩ := Scenario.trackGroups_error failed
    cases same
  · obtain ⟨mapping, assigned⟩ := Mapping.exists_assign_toRenderer scenario.renderers groups
    rw [Session.select, assigned] at later
    cases later

theorem openSession_eq_error_iff {error : Error} :
    openSession config = .error error ↔ config.parameters.check = .error error :=
  Session.install_eq_error_iff

theorem exists_fault_of_openSession {error : Error} (refused : openSession config = .error error) :
    ∃ fault, error = .invalidParameters fault := by
  obtain ⟨viewport, _, _, same⟩ :=
    Config.check_parameters_eq_error_iff.mp (openSession_eq_error_iff.mp refused)
  exact ⟨_, same⟩

theorem validate_fails_iff (read : (files path).text.bind Config.parse = .ok config) :
    (validate files (some path)).failure.isSome = true ↔
      ∃ error, openSession config = .error error := by
  simp only [Option.isSome_iff_exists, validate_failure_iff read, openSession_eq_error_iff]
  constructor
  · rintro ⟨_, error, refused, _⟩
    exact ⟨error, refused⟩
  · rintro ⟨error, refused⟩
    exact ⟨.cause error, error, refused, rfl⟩

theorem select_refused_iff (read : (files path).text.bind Config.parse = .ok config)
    {place : String} {scenario : Scenario}
    (loaded : loadScenario place (files place) = .ok scenario) (json : Bool)
    {fault : ParameterFault} :
    (select files (some path) place json).failure = some (.cause (.invalidParameters fault)) ↔
      openSession config = .error (.invalidParameters fault) := by
  rw [select_failure_iff read loaded, ← selectOutcome_eq_invalidParameters_iff]
  constructor
  · rintro ⟨error, failed, same⟩
    cases same
    exact failed
  · intro failed
    exact ⟨_, failed, rfl⟩

/-- What is refused of configurations. The check of their parameters fails exactly for a viewport
without area, which is warned of, so that every session accepts the parameters of a configuration
without warnings. Validating a text that is a configuration fails exactly if the session that a
selection opens with it is refused its parameters; and where the scenario can be read, exactly if
the selection fails for that reason. -/
theorem validate_fails_iff_select_refused :
    (∀ config : Config,
      ((∃ error, config.parameters.check = .error error) ↔ config.HasFlatViewport) ∧
      (config.HasFlatViewport → config.warnings ≠ []) ∧
      (config.warnings = [] → ∀ session : Session,
        ∃ installed, session.install config.parameters = .ok installed)) ∧
    ∀ (files : String → File) (path text : String) (config : Config),
      (files path).text = .ok text → Config.parse text = .ok config →
      ((validate files (some path)).failure.isSome = true ↔
        ∃ error, openSession (configOrDefault files (some path)) = .error error) ∧
      ∀ (place : String) (scenario : Scenario) (json : Bool),
        loadScenario place (files place) = .ok scenario →
        ((validate files (some path)).failure.isSome = true ↔
          ∃ fault, (select files (some path) place json).failure =
            some (.cause (.invalidParameters fault))) := by
  refine ⟨fun config => ⟨Config.exists_check_parameters_eq_error_iff, ?_, ?_⟩, ?_⟩
  · exact Config.HasFlatViewport.warnings_ne_nil
  · intro silent session
    apply Session.exists_install_eq_ok
    exact Config.check_parameters_eq_ok fun flat => flat.warnings_ne_nil silent
  · intro files path text config contents parsed
    have read : (files path).text.bind Config.parse = .ok config := by
      rw [contents]
      exact parsed
    rw [configOrDefault_eq read, validate_fails_iff read]
    refine ⟨Iff.rfl, fun place scenario json loaded => ?_⟩
    simp only [select_refused_iff read loaded]
    constructor
    · rintro ⟨error, refused⟩
      obtain ⟨fault, rfl⟩ := exists_fault_of_openSession refused
      exact ⟨fault, refused⟩
    · rintro ⟨fault, refused⟩
      exact ⟨_, refused⟩

namespace Sample

def flat : Config where
  video := { viewport := some { width := 0, height := 720 } }

def flatText : String :=
  "\x7b\"video\": \x7b\"viewport\": \x7b\"width\": 0, \"height\": 720\x7d\x7d\x7d"

/-- A scenario without renderers, and the configuration under any other name. -/
def folder (path : String) : File :=
  .bytes (if path = "empty.json" then "\x7b\x7d" else flatText).toUTF8

theorem parse_flatText : Config.parse flatText = .ok flat := by
  have read : (Json.read? flatText).bind Config.ofJson? = some flat := by decide +kernel
  rw [Config.parse, read]

theorem loadScenario_empty : loadScenario "empty.json" (folder "empty.json") = .ok {} := by
  have read : (Json.read? "\x7b\x7d").bind Scenario.ofJson? = some {} := by decide +kernel
  have parsed : Scenario.parse "\x7b\x7d" = .ok {} := by rw [Scenario.parse, read]
  show failing ((File.bytes "\x7b\x7d".toUTF8).text.bind Scenario.parse) = .ok {}
  rw [File.text_bytes]
  exact congrArg failing parsed

end Sample

/-- A viewport of no width is warned of, and refused by both commands; the default configuration is
accepted. -/
theorem validate_fails_iff_select_refused_flat :
    Sample.flat.HasFlatViewport ∧ Sample.flat.warnings ≠ [] ∧
    (validate Sample.folder (some "flat.json")).failure.isSome = true ∧
    (∃ fault, (select Sample.folder (some "flat.json") "empty.json" false).failure =
      some (.cause (.invalidParameters fault))) ∧
    ({} : Config).warnings = [] ∧
    ∃ installed, (Session.start {} []).install ({} : Config).parameters = .ok installed := by
  obtain ⟨checked, commands⟩ := validate_fails_iff_select_refused
  obtain ⟨step, command⟩ := commands Sample.folder "flat.json" Sample.flatText Sample.flat
    (File.text_bytes _) Sample.parse_flatText
  have flat : Sample.flat.HasFlatViewport := ⟨_, rfl, .inl rfl⟩
  obtain ⟨error, refused⟩ := (checked Sample.flat).1.mpr flat
  have fails : (validate Sample.folder (some "flat.json")).failure.isSome = true := by
    have read : (Sample.folder "flat.json").text.bind Config.parse = .ok Sample.flat := by
      show (File.bytes Sample.flatText.toUTF8).text.bind Config.parse = .ok Sample.flat
      rw [File.text_bytes]
      exact Sample.parse_flatText
    rw [step, configOrDefault_eq read]
    exact ⟨error, openSession_eq_error_iff.mpr refused⟩
  have silent : ({} : Config).warnings = [] := by decide
  exact ⟨flat, (checked Sample.flat).2.1 flat, fails,
    (command "empty.json" {} false Sample.loadScenario_empty).mp fails, silent,
    (checked {}).2.2 silent _⟩

end Command

end TrackSelection
