import PeakSlowness.CommandLine.Usage
import PeakSlowness.Config.Override
import PeakSlowness.Summary
import PeakSlowness.Yaml

set_option autoImplicit false

/-!
The program: reads the command line, the configuration and the statistics file, and prints the summary.
Everything is loaded before the first row is printed. What the program can report ends it with status
one and a message; what it cannot report ends it with the failure itself.
-/

namespace PeakSlowness

open Text (Letter)

namespace Action

def loadConfig (path : FilePath) : Action Setting := do
  match ← readFile path with
  | .error fault => throw (.ofCall path fault)
  | .ok octets =>
    let value ← ofExcept .yaml (Yaml.readOctets octets)
    ofExcept .value (Config.ofValue value)

/-- The configuration that arguments name, and what they say over it. -/
def settle (args : CommandLine.Arguments) : Action Setting := do
  let cfg ←
    match args.config with
    | none => pure Config.standard
    | some path => loadConfig path
  ofExcept .value (args.override cfg)

def sectionEntry (cfg : Setting) (name key : String) (fallback : Setting) : Action Setting :=
  ofExcept .value do (← cfg.sectionAt name).getD key fallback

def inputPath (cfg : Setting) : Action FilePath := do
  let named ← sectionEntry cfg "input" "path" (.scalar .null)
  let path ← ofExcept .value (if named.truthy then named else .ofText statFileName).toPath
  let path ← resolveInput path
  let mode ← sectionEntry cfg "parsing" "mode" (.ofText "lenient")
  logWritten .info do
    return "[cfg] input=" ++ path.toText ++ " mode=" ++ String.ofList (Letter.escaped (← mode.toText))
  return path

/-- Runs a step and reports its failure in a message, if it is one to be reported. The status is zero
after success. -/
def reporting (say : Failure → Option String) (step : Action Unit) : Action Nat := do
  try
    step
    return 0
  catch failure =>
    match say failure with
    | some text =>
      log .error text
      return 1
    | none => throw failure

/-- The report of a failure to load or to summarize. -/
def runReport (failure : Failure) : Option String :=
  match failure.kind with
  | .problem | .system => some failure.message
  | .value => some ("invalid configuration: " ++ failure.message)
  | .yaml | .abort => none

/-- Loads and summarizes as a configuration says, and gives the status. -/
def work (cfg : Setting) : Action Nat := do
  let path ← inputPath cfg
  reporting runReport do
    let apps ← load path cfg
    discard (summarize apps cfg)

/-- The report of a failure to load the configuration at a path. -/
def configReport (path : Option FilePath) (failure : Failure) : Option String :=
  match failure.kind with
  | .abort => none
  | _ => some ("cannot load config " ++ (path.map FilePath.toText).getD "" ++ ": " ++ failure.message)

def isVerbose (cfg : Setting) : Bool :=
  match (do (← cfg.sectionAt "logging").getD "verbose" (.scalar (.bool false)) : Except ValueFault Setting) with
  | .ok v => v.truthy
  | .error _ => false

end Action

/-- How a run of the program ended. -/
inductive Ending where
  | status (code : Nat)
  | refused (refusal : CommandLine.Refusal)
  | failed (failure : Failure)

/-- A run of the program: how it ended, whether all messages were asked for, and the world behind it. -/
structure Run where
  ending : Ending
  verbose : Bool
  world : World

namespace Run

/-- The ending of an action that gives a status. -/
def endingOf : Except Failure Nat → Ending
  | .ok code => .status code
  | .error failure => .failed failure

def ofArguments (args : CommandLine.Arguments) (w : World) : Run :=
  match (Action.settle args).run.run w with
  | (.ok cfg, w) =>
    let (result, w) := (Action.work cfg).run.run w
    ⟨endingOf result, Action.isVerbose cfg, w⟩
  | (.error failure, w) =>
    let (result, w) :=
      (Action.reporting (Action.configReport args.config) (throw failure)).run.run w
    ⟨endingOf result, false, w⟩

/-- Runs the program. -/
def ofCommandLine (argv : List String) (w : World) : Run :=
  match CommandLine.Arguments.parse argv with
  | .ok args => ofArguments args w
  | .error refusal => ⟨.refused refusal, false, w⟩

def output (r : Run) : String :=
  match r.ending with
  | .refused refusal => refusal.output
  | _ => String.join (r.world.events.filterMap fun e =>
      match e with
      | .printed text => some text
      | _ => none)

def shows (verbose : Bool) : Level → Bool
  | .info => verbose
  | _ => true

def errors (r : Run) : String :=
  match r.ending with
  | .refused refusal => refusal.errors
  | _ => String.join (r.world.events.filterMap fun e =>
      match e with
      | .logged level text =>
        if shows r.verbose level then some ("[" ++ level.name ++ "] " ++ text ++ "\n") else none
      | _ => none)

end Run

end PeakSlowness
