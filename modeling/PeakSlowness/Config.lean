import PeakSlowness.Config.Lookup

set_option autoImplicit false

/-!
Configurations: mappings with five sections, each a mapping or null. This module says which values are
configurations and reads the parsing mode and the sweep out of one.
-/

namespace PeakSlowness.Config

open Text (Letter)

def sectionNames : List String := ["input", "parsing", "checkpoints", "output", "logging"]

/-- Checks that a section is a mapping or null. -/
def checkSection (v : Setting) (name : String) : Except ValueFault Unit := do
  let part ← v.getD name (.scalar .null)
  if part.kind = .null || part.kind = .map then return ()
  throw (.sectionNoMapping name part.kind)

/-- The configuration that a value is; a value that does not count as set is the empty one. -/
def ofValue (v : Setting) : Except ValueFault Setting := do
  let cfg := v.orEmpty
  if cfg.kind ≠ .map then throw (.topLevelNoMapping cfg.kind)
  sectionNames.forM (checkSection cfg)
  return cfg

def entry (name : String) (value : Scalar) : Scalar × Setting := (.text name, .scalar value)

def standard : Setting :=
  .map
    [(.text "input", .map [entry "path" (.text "apps.stat")]),
     (.text "parsing", .map [entry "mode" (.text "lenient")]),
     (.text "checkpoints", .map
       [entry "start" (.int Sweep.defaultStart), entry "end" (.int Sweep.defaultStop),
        entry "step" (.int Sweep.defaultStep)]),
     (.text "output", .map
       [entry "root" .null, entry "format" (.text "csv"), entry "mat_variable" (.text "slowness"),
        entry "plot" (.bool false)]),
     (.text "logging", .map [entry "verbose" (.bool false)])]

def modeOfName? (text : String) : Option Mode := [Mode.lenient, .strict].find? (·.name = text)

/-- The parsing mode; blanks around its name and the case of letters do not matter. -/
def mode (cfg : Setting) : Except Failure Mode := do
  let parsing ← (cfg.orEmpty.sectionAt "parsing").mapError .value
  let value ← (parsing.getD "mode" (.ofText "lenient")).mapError .value
  let text ← value.toText.mapError .numeral
  let name := Letter.lower (Letter.trim text)
  match (Letter.string? name).bind modeOfName? with
  | some m => return m
  | none => throw (.value (.unknownMode name))

/-- A number of the checkpoint section, and the default where it is not there. -/
def sweepNumber (checkpoints : Setting) (name : String) (fallback : Int) : Except Failure Int := do
  let value ← (checkpoints.getD name (.scalar (.int fallback))).mapError .value
  match value.toInteger with
  | .error (.value (.notAnInteger kind)) => throw (.value (.checkpointsNoInteger kind))
  | other => other

def sweep (cfg : Setting) : Except Failure Sweep := do
  let checkpoints ← (cfg.orEmpty.sectionAt "checkpoints").mapError .value
  if checkpoints.kind ≠ .map then throw (.value (.checkpointsNoMapping checkpoints.kind))
  let start ← sweepNumber checkpoints "start" Sweep.defaultStart
  let stop ← sweepNumber checkpoints "end" Sweep.defaultStop
  let step ← sweepNumber checkpoints "step" Sweep.defaultStep
  (Sweep.make start stop step).mapError .sweep

end PeakSlowness.Config
