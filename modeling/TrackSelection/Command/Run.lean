import TrackSelection.Command.Arguments
import TrackSelection.Command.Report
import TrackSelection.Config.Json
import TrackSelection.Scenario
import TrackSelection.Session
import TrackSelection.Text.Quoted

/-!
# Running a command

A command reads files, prints lines and may fail. Files are given by what is found at a path, so
that a run is a function. A configuration that cannot be read is an error only when it is to be
validated; a selection then runs with the defaults.
-/

namespace TrackSelection.Command

/-- What is found at a path. -/
inductive File where
  | missing
  | directory
  | bytes (contents : ByteArray)

def File.text : File → Except Error String
  | .missing => .error (.file .missing)
  | .directory => .error (.file .directory)
  | .bytes contents => match String.fromUTF8? contents with
    | some text => .ok text
    | none => .error (.file .notText)

/-- Why a command failed. -/
inductive Failure where
  | noScenario (path : String)
  | cause (error : Error)

def Failure.message : Failure → String
  | .noScenario path => s!"Scenario file does not exist: {Text.quote path}"
  | .cause error => error.message

/-- What a command printed, and why it failed, if it did. -/
structure Printed where
  lines : List String
  failure : Option Failure := none

/-- The printed text; every line is ended. -/
def Printed.text (printed : Printed) : String :=
  String.join (printed.lines.map (· ++ "\n"))

def Printed.code (printed : Printed) : Nat :=
  if printed.failure.isSome then 1 else 0

/-- The exit code when the arguments are not understood. -/
def usageCode : Nat := 2

/-- Print lines, or nothing when they cannot be had. -/
def printOrFail : Except Failure (List String) → Printed
  | .ok lines => { lines := lines }
  | .error failure => { lines := [], failure := some failure }

/-- Turn an error into a failure. -/
def failing (result : Except Error α) : Except Failure α :=
  result.mapError .cause

def loadScenario (path : String) (file : File) : Except Failure Scenario :=
  match file with
  | .missing => .error (.noScenario path)
  | file => failing (file.text.bind Scenario.parse)

/-- The configuration at a path, or the default one where there is none to be read. -/
def configOrDefault (files : String → File) (path : Option String) : Config :=
  match path with
  | none => {}
  | some path => match (files path).text.bind Config.parse with
    | .ok config => config
    | .error _ => {}

/-- The session that a configuration asks for, with its parameters installed. -/
def openSession (config : Config) : Except Error Session :=
  (Session.start {} config.systemLanguages).install config.parameters

def selectOutcome (scenario : Scenario) (config : Config) : Except Error Outcome := do
  let session ← openSession config
  let groups ← scenario.trackGroups
  session.select (scenario.renderers.map RuleRenderer.toRenderer) groups

def select (files : String → File) (config : Option String) (path : String) (json : Bool) :
    Printed :=
  printOrFail do
    let scenario ← loadScenario path (files path)
    let outcome ← failing (selectOutcome scenario (configOrDefault files config))
    return if json then [(Report.outcomeJson outcome).renderIndented]
      else Report.outcomeLines outcome

/-- Show how the groups of a scenario are mapped. -/
def inspect (files : String → File) (path : String) : Printed :=
  printOrFail do
    let scenario ← loadScenario path (files path)
    let groups ← failing scenario.trackGroups
    let mapping ← failing <|
      Mapping.assign (scenario.renderers.map RuleRenderer.toRenderer) groups
    return Report.mappingLines mapping

def configLines (config : Config) : List String :=
  match config.warnings with
  | [] => ["✓ Configuration is valid"]
  | warnings => s!"Configuration has {warnings.length} warning(s):" ::
    warnings.map fun warning => s!"  - {warning}"

/-- Print about a configuration after a first line. -/
def validateConfig (firstLine : String) (config : Config) : Printed :=
  let parameters := config.parameters
  match parameters.check with
  | .error error =>
    { lines := firstLine :: configLines config, failure := some (.cause error) }
  | .ok () =>
    { lines := firstLine :: (configLines config ++
        [s!"  System languages: {config.systemLanguages.length}",
         s!"  Disabled renderers: {parameters.disabledRenderers.toList.length}"]) }

def validate (files : String → File) (path : Option String) : Printed :=
  match path with
  | none => validateConfig "No config file specified, using defaults" {}
  | some path =>
    let firstLine := s!"Validating config: {Text.quote path}"
    match (files path).text.bind Config.parse with
    | .ok config => validateConfig firstLine config
    | .error error => { lines := [firstLine], failure := some (.cause error) }

def run (files : String → File) (invocation : Invocation) : Printed :=
  match invocation.action with
  | .select scenario json => select files invocation.config scenario json
  | .inspect scenario => inspect files scenario
  | .validate config => validate files (config <|> invocation.config)
  | .version => { lines := ["trackpilot 0.1.0"] }

def Invocation.paths (invocation : Invocation) : List String :=
  invocation.config.toList ++ match invocation.action with
    | .select scenario _ | .inspect scenario => [scenario]
    | .validate config => config.toList
    | .version => []

end TrackSelection.Command
