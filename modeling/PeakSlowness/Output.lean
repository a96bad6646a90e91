import PeakSlowness.Config
import PeakSlowness.Report.Csv
import PeakSlowness.Report.Format
import PeakSlowness.Report.Matlab
import PeakSlowness.Session

set_option autoImplicit false

/-!
Output: the directory for reports, the report files, and the plot.
-/

namespace PeakSlowness

open Text (Letter)

/-- The path that a value stands for. Only texts are paths. -/
def Setting.toPath : Setting → Except ValueFault FilePath
  | .scalar (.text s) => .ok (.ofString s)
  | .scalar (.broken letters) => .ok (.ofLetters letters)
  | .scalar (.octets _) => .error .octetsAsPath
  | v => .error (.notAPath v.kind)

/-- The name of the plot file in the report directory. -/
def plotFileName : String := "slowness_by_time.png"

def plotSignature : List UInt8 := [0x89, 0x50, 0x4E, 0x47, 0x0D, 0x0A, 0x1A, 0x0A]

/-- The octets of a plot file: here its signature stands for the whole picture. -/
def plotOctets : List UInt8 := plotSignature

namespace Action

/-- Makes a directory for reports. What the system refuses is refused as a report directory, and so is a
directory in which nothing may be made. -/
def makeRoot (root : FilePath) : Action FilePath := do
  try
    makeDirectories root.anchor root.parts
  catch
    | .system e _ => throw (.output root (.system e))
    | other => throw other
  if ← query fun d cwd => d.isUsable cwd root then return root
  else throw (.output root .denied)

/-- Makes sure of a directory for reports at a path and gives its canonical path. What cannot be looked at is
not refused as a report directory. -/
def settleRoot (p : FilePath) : Action FilePath := do
  if let some u := p.flaw then throw (.unencodable u)
  if p.hasNul then throw .nulInPath
  let w ← get
  let root := w.disk.canonical w.host.cwd p
  match w.disk.entryAt w.host.cwd root with
  | .error (.errno .tooManyLinks) => throw (.linkLoop root)
  | .error (.errno e) => if e.tellsAbsence then makeRoot root else throw (.system e root)
  | .ok (_, .file _) | .ok (_, .link _) => throw (.output root .taken)
  | _ => makeRoot root

/-- Makes sure of a directory for reports at a path with its home directory to be known. -/
def preparePath (p : FilePath) : Action FilePath := do
  settleRoot (← expandHome p)

/-- Makes sure of a directory for reports and gives its canonical path. -/
def prepareRoot (root : Setting) : Action FilePath := do
  preparePath (← ofExcept .value root.toPath)

def logReport (title : String) (path : FilePath) : Action Unit :=
  log .info ("wrote report: " ++ title ++ " → " ++ path.toText)

def reportPath (base : FilePath) (suffix : String) : Action FilePath :=
  match base.withSuffix? suffix with
  | some path => pure path
  | none => throw (.noFileName base)

def writeCsv (table : Table) (base : FilePath) (title : String) : Action FilePath := do
  let path ← reportPath base ".csv"
  makeDirectories path.anchor path.parts.dropLast
  match ← openFile path with
  | .error fault => throw (.ofCall path fault)
  | .ok place =>
    writeFile place (Csv.octets table)
    logReport title path
    return path

/-- Fills an opened matrix report. The header is written before the name of the variable is looked at; a
name that begins with an underscore leaves it at that. -/
def fillMat (table : Table) (place : Place) (name : List Letter) : Action Unit := do
  writeFile place Matlab.fileHeader
  match name with
  | [] => throw .emptyVariableName
  | .char '_' :: _ => pure ()
  | _ =>
    let octets ← ofExcept .unencodable (Matlab.encodeName name)
    writeFile place (Matlab.fileHeader ++ Matlab.tableVariable octets table)

/-- Writes the matrix report, the table being in the named variable. -/
def writeMat (table : Table) (base : FilePath) (title : String) (name : List Letter) : Action FilePath := do
  let path ← reportPath base ".mat"
  makeDirectories path.anchor path.parts.dropLast
  match ← openFile path with
  | .error (.errno _) => throw .matlabFileRefused
  | .error fault => throw (.ofCall path fault)
  | .ok place =>
    fillMat table place name
    logReport title path
    return path

/-- Writes the reports of a format next to a base path, the text report first. -/
def writeReports (table : Table) (base : FilePath) (title : String) (format : ReportFormat)
    (name : List Letter) : Action (List FilePath) := do
  let first ← if format.HasCsv then List.singleton <$> writeCsv table base title else pure []
  let second ← if format.HasMat then List.singleton <$> writeMat table base title name else pure []
  return first ++ second

/-- Saves the plot of a table in a directory; a table without rows has none. -/
def savePlot (table : Table) (directory : FilePath) : Action (Option FilePath) := do
  if table.rows.isEmpty then
    log .info "empty series; skipping slowness plot."
    return none
  makeDirectories directory.anchor directory.parts
  ofExcept .plot (Plot.check table)
  let path := directory.child plotFileName
  match ← openFile path with
  | .error fault => throw (.ofCall path fault)
  | .ok place =>
    writeFile place plotOctets
    log .info (toString table.rows.length ++ " checkpoints → " ++ path.toText)
    return some path

end Action

end PeakSlowness
