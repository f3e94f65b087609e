/-!
# Command line arguments

Options may stand anywhere: before the name of the command, and after it together with the
command's own. An option stands at most once in each place, and what stands after the name counts.
A path is never empty. After two hyphens everything is an operand.
-/

namespace TrackSelection.Command

inductive Action where
  | select (scenario : String) (json : Bool)
  | inspect (scenario : String)
  | validate (config : Option String)
  | version
deriving DecidableEq, Repr

structure Invocation where
  config : Option String := none
  verbose : Bool := false
  action : Action
deriving DecidableEq, Repr

/-- Which options are understood in some place. -/
structure Place where
  /-- Before the name of the command: the first operand is that name. -/
  beforeName : Bool := false
  takesConfig : Bool := true
  takesJson : Bool := false

/-- The options and operands found so far. -/
structure Found where
  config : Option String := none
  verbose : Bool := false
  json : Bool := false
  version : Bool := false
  operands : List String := []

inductive Meaning where
  | option (found : Found)
  /-- The configuration option; its value is the next argument. -/
  | configNext (found : Found)
  | operand
  | onlyOperands

/-- Set the configuration, unless it is set or the value is empty. -/
def Found.setConfig? (found : Found) (value : String) : Option Found :=
  if found.config.isSome ∨ value = "" then none else some { found with config := some value }

def Found.setVerbose? (found : Found) : Option Found :=
  if found.verbose then none else some { found with verbose := true }

def Found.setJson? (found : Found) : Option Found :=
  if found.json then none else some { found with json := true }

/-- A word of one-letter options. -/
def letters? (place : Place) (found : Found) : List Char → Option Meaning
  | [] => some (.option found)
  | 'v' :: rest => found.setVerbose?.bind fun found => letters? place found rest
  | 'c' :: rest =>
    if !place.takesConfig then none
    else match rest with
      | [] => if found.config.isSome then none else some (.configNext found)
      | '=' :: value => (found.setConfig? (String.ofList value)).map .option
      | value => (found.setConfig? (String.ofList value)).map .option
  | 'V' :: _ => if place.beforeName then some (.option { found with version := true }) else none
  | _ => none

/-- The text that attaches a value to the configuration option. -/
def configAssignment : List Char := "--config=".toList

def meaning? (place : Place) (found : Found) (argument : String) : Option Meaning :=
  let cs := argument.toList
  if argument = "--" then some .onlyOperands
  else if argument = "--verbose" then found.setVerbose?.map .option
  else if argument = "--json" then if place.takesJson then found.setJson?.map .option else none
  else if argument = "--config" then
    if place.takesConfig ∧ found.config.isNone then some (.configNext found) else none
  else if argument = "--version" then
    if place.beforeName then some (.option { found with version := true }) else none
  else if configAssignment.isPrefixOf cs then
    if place.takesConfig then
      (found.setConfig? (String.ofList (cs.drop configAssignment.length))).map .option
    else none
  else match cs with
    | '-' :: '-' :: _ => none
    | '-' :: letter :: rest => letters? place found (letter :: rest)
    | _ => some .operand

def isValue (argument : String) : Bool :=
  argument = "-" || argument.toList.head? ≠ some '-'

/-- Go through the arguments of a place. -/
def scan? (place : Place) (found : Found) : List String → Option Found
  | [] => some found
  | argument :: rest =>
    if found.version then some found
    else match meaning? place found argument with
      | none => none
      | some (.option found) => scan? place found rest
      | some (.configNext found) => match rest with
        | [] => none
        | value :: rest =>
          if isValue value then
            (found.setConfig? value).bind fun found => scan? place found rest
          else none
      | some .operand =>
        if place.beforeName then some { found with operands := argument :: rest }
        else scan? place { found with operands := found.operands ++ [argument] } rest
      | some .onlyOperands =>
        if place.beforeName then none else some { found with operands := found.operands ++ rest }

/-- The options of a command, by its name. -/
def placeOf (name : String) : Place where
  takesConfig := name ≠ "validate"
  takesJson := name = "select"

def action? (name : String) (found : Found) : Option Action :=
  if found.operands.contains "" then none
  else match name, found.operands with
    | "select", [scenario] => some (.select scenario found.json)
    | "inspect", [scenario] => some (.inspect scenario)
    | "validate", [] => some (.validate none)
    | "validate", [config] => some (.validate (some config))
    | "version", [] => some .version
    | _, _ => none

/-- What the arguments ask for; `none` when they are not understood. -/
def parse? (arguments : List String) : Option Invocation := do
  let outer ← scan? { beforeName := true } {} arguments
  if outer.version then return { verbose := outer.verbose, action := .version }
  match outer.operands with
  | [] => none
  | name :: rest =>
    let inner ← scan? (placeOf name) {} rest
    let action ← action? name inner
    return {
      config := inner.config <|> outer.config
      verbose := inner.verbose || outer.verbose
      action := action }

end TrackSelection.Command
