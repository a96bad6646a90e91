import PeakSlowness.Input
import PeakSlowness.Output

set_option autoImplicit false

/-!
The summary of a simulation run: a printed row for each checkpoint, then the report files that the
configuration asks for. The configuration and the report directory are looked at before anything is
printed.
-/

namespace PeakSlowness

open Text (Letter)

/-- What a summary is to do, as far as the configuration says it. -/
structure Plan where
  sweep : Sweep
  format : ReportFormat
  plot : Bool
  /-- the report directory, if reports are wanted -/
  root : Option Setting
  /-- the section the plan comes from -/
  output : Setting

namespace Plan

/-- The report format; the case of letters does not matter. -/
def readFormat (output : Setting) : Except Failure ReportFormat := do
  let value ← (output.getD "format" (.ofText "csv")).mapError .value
  let text ← value.toText.mapError .numeral
  let name := Letter.lower text
  match (Letter.string? name).bind ReportFormat.ofName? with
  | some format => return format
  | none => throw (.value (.unknownFormat name))

def ofConfig (cfg : Setting) : Except Failure Plan := do
  let sweep ← Config.sweep cfg
  let output ← (cfg.sectionAt "output").mapError .value
  let format ← readFormat output
  let plot ← (output.getD "plot" (.scalar (.bool false))).mapError .value
  let root ← (output.getD "root" (.scalar .null)).mapError .value
  return ⟨sweep, format, plot.truthy, if root.truthy then some root else none, output⟩

/-- The name of the variable in the matrix report. -/
def variableName (plan : Plan) : Except Failure (List Letter) := do
  let value ← (plan.output.getD "mat_variable" (.ofText "slowness")).mapError .value
  value.toText.mapError .numeral

end Plan

namespace Action

/-- Prints a row for each entry of a series, up to the first one that cannot be written. -/
def printRows (s : Series) : Action Unit :=
  s.forM fun (t, value) => do
    print ((← ofExcept .numeral (row t value)) ++ "\n")

def reportTitle : String := "slowness by time"

/-- What is going to be done, in words. -/
def announcement (apps : List Application) (sweep : Sweep) (size : Nat) : Except Numeral.Fault String := do
  return "scanning " ++ toString apps.length ++ " record(s) over " ++ toString size ++ " checkpoint(s) [" ++
    (← Numeral.write sweep.start) ++ ".." ++ (← Numeral.write sweep.stop) ++ " step " ++
    (← Numeral.write sweep.step) ++ "]"

def announce (apps : List Application) (sweep : Sweep) : Action Unit := do
  let some size := sweep.size? | throw .tooManyCheckpoints
  logWritten .info (announcement apps sweep size)

/-- Writes the report files of a plan in the report directory. -/
def writeFiles (plan : Plan) (table : Table) (root : FilePath) : Action Unit := do
  let name ← ofExcept id plan.variableName
  discard (writeReports table (root.child "slowness") reportTitle plan.format name)
  if plan.plot then discard (savePlot table root)

/-- Prints the summary of applications and writes its reports. -/
def summarize (apps : List Application) (cfg : Setting) : Action Table := do
  let plan ← ofExcept id (Plan.ofConfig cfg)
  let root ← plan.root.mapM prepareRoot
  if plan.plot && root.isNone then
    log .warning "plot requested without an output directory; no plot will be saved."
  announce apps plan.sweep
  let s := series apps plan.sweep
  printRows s
  let some table := Table.ofSeries? s | throw .timeBeyondTable
  if let some root := root then writeFiles plan table root
  return table

end Action

end PeakSlowness
