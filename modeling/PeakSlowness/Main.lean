import PeakSlowness.Program

set_option autoImplicit false

/-!
The program as it is started. What a run can look at is read from the file system first; the run itself is
a value; then what it did to the file tree is done to the file system, and what it said is printed.
-/

namespace PeakSlowness

/-- The place that a path leads to once all links are followed, if there is something. -/
def realPlace? (path : String) : IO (Option Place) := do
  try
    return some (pathNames (toString (← IO.FS.realPath path)).toList)
  catch _ => return none

def readEntry (path : String) : IO Entry := do
  try
    return .file (← IO.FS.readBinFile path).toList
  catch _ => return .directory

/-- Adds what is at a place that no link leads to, and the directories above it. -/
def addPlace (disk : Disk) (place : Place) : IO Disk := do
  let disk := (List.range place.length).tail.foldl (fun d n => d.put (place.take n) .directory) disk
  return disk.put place (← readEntry (FilePath.ofPlace place).toText)

/-- Adds what is found on a path of names. -/
def survey (disk : Disk) (place : Place) : List String → IO Disk
  | [] => return disk
  | ".." :: rest => survey disk place.dropLast rest
  | name :: rest => do
    let here := place ++ [name]
    match ← realPlace? (FilePath.ofPlace here).toText with
    | none => return disk
    | some there =>
      let disk ← addPlace disk there
      let disk := if there = here then disk else disk.put here (.link (FilePath.ofPlace there).toText)
      survey disk there rest

def surveyAll (host : Host) (disk : Disk) (paths : List FilePath) : IO Disk :=
  paths.foldlM (fun d p => survey d (if p.isAbsolute then [] else host.cwd) p.parts) disk

/-- The paths that a run with a configuration can look at. -/
def watched (cfg : Setting) : Action (List FilePath) := do
  let input ← Action.sectionEntry cfg "input" "path" (.scalar .null)
  let root ← Action.sectionEntry cfg "output" "root" (.scalar .null)
  let named := [if input.truthy then input else .ofText statFileName, root].filterMap fun v => v.toPath.toOption
  let paths ← named.mapM Action.expandHome
  return paths.flatMap fun p =>
    [p, p.child statFileName, p.child "slowness.csv", p.child "slowness.mat", p.child plotFileName]

/-- The file tree as far as a run can look at it. -/
def observe (host : Host) (argv : List String) : IO Disk := do
  let .ok args := CommandLine.Arguments.parse argv | return ⟨[]⟩
  let disk ← surveyAll host ⟨[]⟩ args.config.toList
  let (paths, _) := (do watched (← Action.settle args) : Action _).run.run ⟨host, disk, []⟩
  match paths with
  | .ok paths => surveyAll host disk paths
  | .error _ => return disk

/-- Does to the file system what an event did to the file tree. -/
def perform : Event → IO Unit
  | .directoryMade place => IO.FS.createDir (FilePath.ofPlace place).toText
  | .fileOpened place => IO.FS.writeBinFile (FilePath.ofPlace place).toText .empty
  | .fileWritten place octets => IO.FS.writeBinFile (FilePath.ofPlace place).toText ⟨octets.toArray⟩
  | _ => return ()

/-- Users and their home directories, out of lines with seven fields. -/
def homesOf (accounts : String) : List (String × String) :=
  (accounts.splitOn "\n").filterMap fun line =>
    match line.splitOn ":" with
    | [name, _, _, _, _, home, _] => some (name, home)
    | _ => none

def hostHere : IO Host := do
  let cwd ← IO.currentDir
  let home := (← IO.getEnv "HOME").getD "/"
  let accounts ← try IO.FS.readFile "/etc/passwd" catch _ => pure ""
  return ⟨pathNames (toString cwd).toList, home, homesOf accounts⟩

end PeakSlowness

open PeakSlowness

/-- Runs the program; its status is one if it failed and two if it was called wrongly. -/
def main (argv : List String) : IO UInt32 := do
  let host ← hostHere
  let run := Run.ofCommandLine argv ⟨host, ← observe host argv, []⟩
  run.world.events.forM perform
  IO.print run.output
  IO.eprint run.errors
  match run.ending with
  | .status code => return code.toUInt32
  | .refused refusal => return refusal.status.toUInt32
  | .failed failure =>
    IO.eprintln failure.message
    return 1
