import PeakSlowness.Disk.Canonical
import PeakSlowness.Host

set_option autoImplicit false

/-!
Operations with effects. An operation runs in a world: the host it runs on, the file tree, and what has
happened so far, event by event. A failed operation leaves the world as it was at that moment, so the
order of its effects can be read off its events.
-/

namespace PeakSlowness

/-- How important a log message is. -/
inductive Level where
  | info
  | warning
  | error
  deriving DecidableEq, Repr

def Level.name : Level → String
  | .info => "INFO"
  | .warning => "WARNING"
  | .error => "ERROR"

/-- One effect. -/
inductive Event where
  /-- text on standard output -/
  | printed (text : String)
  | logged (level : Level) (text : String)
  | directoryMade (place : Place)
  /-- a file that is there has been emptied, or made -/
  | fileOpened (place : Place)
  | fileWritten (place : Place) (octets : List UInt8)
  deriving DecidableEq

/-- A host, its file tree, and the events so far, the latest first. -/
structure World where
  host : Host
  disk : Disk
  past : List Event

/-- The events so far, in order. -/
def World.events (w : World) : List Event := w.past.reverse

abbrev Action := ExceptT Failure (StateM World)

namespace Action

def record (event : Event) : Action Unit := modify fun w => { w with past := event :: w.past }

def print (text : String) : Action Unit := record (.printed text)

def log (level : Level) (text : String) : Action Unit := record (.logged level text)

/-- Logs a message; one that holds a number too long to be written is dropped. -/
def logWritten (level : Level) : Except Numeral.Fault String → Action Unit
  | .ok text => log level text
  | .error _ => pure ()

def ofExcept {ε α : Type} (cause : ε → Failure) : Except ε α → Action α
  | .ok a => pure a
  | .error e => throw (cause e)

def query {α : Type} (f : Disk → Place → α) : Action α := do
  let w ← get
  return f w.disk w.host.cwd

def readFile (p : FilePath) : Action (Except CallFault (List UInt8)) := query fun d cwd => d.read cwd p

/-- Makes one directory, or says why not. -/
def makeDirectory (p : FilePath) : Action (Except CallFault Unit) := do
  let w ← get
  match w.disk.makeDirectory w.host.cwd p with
  | .error fault => return .error fault
  | .ok (place, disk) =>
    set { w with disk, past := .directoryMade place :: w.past }
    return .ok ()

/-- Opens a file for writing, or says why not. -/
def openFile (p : FilePath) : Action (Except CallFault Place) := do
  let w ← get
  match w.disk.openToWrite w.host.cwd p with
  | .error fault => return .error fault
  | .ok (place, disk) =>
    set { w with disk, past := .fileOpened place :: w.past }
    return .ok place

def writeFile (place : Place) (octets : List UInt8) : Action Unit :=
  modify fun w =>
    { w with disk := w.disk.put place (.file octets), past := .fileWritten place octets :: w.past }

/-- A directory that cannot be made is excused if it is there. -/
def excuse (p : FilePath) : CallFault → Action Unit
  | .unencodable u => throw (.unencodable u)
  | .nul => throw .nulInPath
  | .errno e => do
    match ← query fun d cwd => d.isDirectory cwd p with
    | .ok true => pure ()
    | .ok false => throw (.system e p)
    | .error e => throw (.system e p)

/-- Makes sure of a directory at the end of `parts`, the missing ones above it included. A directory that
is already there will do. -/
def makeDirectories (anchor : Anchor) (parts : List String) : Action Unit := do
  let p : FilePath := { anchor, parts }
  match ← makeDirectory p with
  | .ok () => pure ()
  | .error (.errno .noEntry) =>
    if _none : parts = [] then throw (.system .noEntry p)
    else
      makeDirectories anchor parts.dropLast
      match ← makeDirectory p with
      | .ok () => pure ()
      | .error (.errno .noEntry) => throw (.system .noEntry p)
      | .error fault => excuse p fault
  | .error fault => excuse p fault
termination_by parts.length
decreasing_by
  have := List.length_pos_iff.2 _none
  simp only [List.length_dropLast]
  omega

/-- Replaces a leading name such as `~` or `~user` of a relative path by the home directory. -/
def expandHome (p : FilePath) : Action FilePath := do
  ofExcept id (p.expanded (← get).host)

end Action

end PeakSlowness
