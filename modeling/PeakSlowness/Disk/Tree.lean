import PeakSlowness.Disk.FilePath

set_option autoImplicit false

/-!
A file tree as a value, and what the system calls find in it. Walking a path follows the symbolic links
on the way, at most `linkLimit` of them, and takes the right to search each directory in which a name is
looked up. A call fails for a reason that the walk meets first.
-/

namespace PeakSlowness

/-- Where an entry is: its names from the root, free of dots and links. -/
abbrev Place := List String

/-- What can be at a place. -/
inductive Entry where
  | directory
  | file (octets : List UInt8)
  | link (target : String)
  deriving DecidableEq

/-- What a caller may be allowed to do with an entry: to look names up in a directory, to read it, and to
change it. A directory changes when something is made in it. -/
inductive Right where
  | search
  | read
  | write
  deriving DecidableEq, Repr

/-- The rights of the caller. They belong to a place: what is made there has them. -/
class Rights where
  may : Place → Right → Bool

/-- Where nothing is said of rights, there are all of them. -/
instance : Rights := ⟨fun _ _ => true⟩

/-- The entries below the root, which is a directory. -/
structure Disk where
  entries : List (Place × Entry)
  [rights : Rights]

/-- The errors of the system calls. -/
inductive Errno where
  | noEntry
  | accessDenied
  | exists
  | notDirectory
  | isDirectory
  | nameTooLong
  | tooManyLinks
  deriving DecidableEq, Repr

def Errno.code : Errno → Nat
  | .noEntry => 2
  | .accessDenied => 13
  | .exists => 17
  | .notDirectory => 20
  | .isDirectory => 21
  | .nameTooLong => 36
  | .tooManyLinks => 40

def Errno.text : Errno → String
  | .noEntry => "No such file or directory"
  | .accessDenied => "Permission denied"
  | .exists => "File exists"
  | .notDirectory => "Not a directory"
  | .isDirectory => "Is a directory"
  | .nameTooLong => "File name too long"
  | .tooManyLinks => "Too many levels of symbolic links"

/-- Whether an error tells that a path leads nowhere. The others leave it open where it leads. -/
def Errno.tellsAbsence : Errno → Bool
  | .noEntry | .notDirectory | .tooManyLinks => true
  | _ => false

/-- Why a system call failed; a path without octets or with a NUL character is refused before the call. -/
inductive CallFault where
  | unencodable (u : Text.Unencodable)
  | nul
  | errno (e : Errno)
  deriving DecidableEq, Repr

/-- What a path leads to: an entry, or a free name in an existing directory. -/
inductive Spot where
  | taken (place : Place) (entry : Entry)
  | free (place : Place)
  deriving DecidableEq

/-- What a path is walked for: to find what it leads to, to find the link itself that may be at its end, or
to open a file for writing, which may be made. -/
inductive Purpose where
  | find
  | findLink
  | write
  deriving DecidableEq, Repr

def linkLimit : Nat := 40

/-- The longest name, in octets. -/
def nameLimit : Nat := 255

/-- The longest path, in octets. -/
def pathLimit : Nat := 4095

namespace Disk

def find? (disk : Disk) (place : Place) : Option Entry :=
  if place = [] then some .directory else (disk.entries.find? fun e => e.1 == place).map (·.2)

def may (disk : Disk) : Place → Right → Bool := disk.rights.may

def put (disk : Disk) (place : Place) (entry : Entry) : Disk where
  entries :=
    if disk.entries.any (fun e => e.1 == place) then
      disk.entries.map fun e => if e.1 == place then (place, entry) else e
    else disk.entries ++ [(place, entry)]
  rights := disk.rights

/-- Where a link leads from the directory that holds it. -/
def linkStart (place : Place) (target : String) : Place :=
  if target.toList.head? = some '/' then [] else place

/-- Walks names from a directory, following links. Dots and empty names stay where they are, which has to
be a directory; no file is written at a name before an empty one. All names but empty ones are looked up. -/
def walk (disk : Disk) (purpose : Purpose) (links : Nat) (place : Place) (names : List String) :
    Except Errno Spot :=
  match names with
  | [] =>
    match disk.find? place with
    | some entry => .ok (.taken place entry)
    | none => .error .noEntry
  | "" :: rest => walk disk purpose links place rest
  | "." :: rest =>
    if disk.may place .search then walk disk purpose links place rest else .error .accessDenied
  | ".." :: rest =>
    if disk.may place .search then walk disk purpose links place.dropLast rest else .error .accessDenied
  | name :: rest =>
    if !disk.may place .search then .error .accessDenied
    else if purpose = .write && rest = [""] then .error .isDirectory
    else if nameLimit < FileName.size name then .error .nameTooLong
    else
      let here := place ++ [name]
      match disk.find? here with
      | none => if rest.isEmpty then .ok (.free here) else .error .noEntry
      | some .directory => walk disk purpose links here rest
      | some (.file octets) => if rest.isEmpty then .ok (.taken here (.file octets)) else .error .notDirectory
      | some (.link target) =>
        if rest.isEmpty && purpose = .findLink then .ok (.taken here (.link target))
        else
          match links with
          | 0 => .error .tooManyLinks
          | links + 1 =>
            walk disk purpose links (linkStart place target) (linkNames target.toList ++ rest)
termination_by (links, names.length)

/-- What a path leads to from a working directory. -/
def locate (disk : Disk) (cwd : Place) (purpose : Purpose) (p : FilePath) : Except CallFault Spot :=
  match p.flaw with
  | some u => .error (.unencodable u)
  | none =>
    if p.hasNul then .error .nul
    else if pathLimit < p.size then .error (.errno .nameTooLong)
    else (disk.walk purpose linkLimit (if p.isAbsolute then [] else cwd) p.names).mapError .errno

/-- The entry that a path leads to, links followed. -/
def entryAt (disk : Disk) (cwd : Place) (p : FilePath) : Except CallFault (Place × Entry) := do
  match ← disk.locate cwd .find p with
  | .taken place entry => return (place, entry)
  | .free _ => throw (.errno .noEntry)

/-- The octets of the file that a path leads to. -/
def read (disk : Disk) (cwd : Place) (p : FilePath) : Except CallFault (List UInt8) := do
  let (place, entry) ← disk.entryAt cwd p
  if disk.may place .read then
    match entry with
    | .file octets => return octets
    | _ => throw (.errno .isDirectory)
  else throw (.errno .accessDenied)

/-- Whether there is a directory. A path without octets or with a NUL character leads to none. -/
def isDirectory (disk : Disk) (cwd : Place) (p : FilePath) : Except Errno Bool :=
  match disk.entryAt cwd p with
  | .ok (_, entry) => .ok (entry == .directory)
  | .error (.errno e) => if e.tellsAbsence then .ok false else .error e
  | .error _ => .ok false

/-- Whether entries may be made in the directory that a path leads to. -/
def isUsable (disk : Disk) (cwd : Place) (p : FilePath) : Bool :=
  match disk.entryAt cwd p with
  | .ok (place, _) => disk.may place .write && disk.may place .search
  | .error _ => false

/-- Puts an entry at a place, which changes what is at another place or at this one. Says where. -/
def change (disk : Disk) (changed place : Place) (entry : Entry) : Except CallFault (Place × Disk) :=
  if disk.may changed .write then .ok (place, disk.put place entry) else .error (.errno .accessDenied)

/-- Makes a directory, and says where. -/
def makeDirectory (disk : Disk) (cwd : Place) (p : FilePath) : Except CallFault (Place × Disk) := do
  match ← disk.locate cwd .findLink p with
  | .taken .. => throw (.errno .exists)
  | .free place => disk.change place.dropLast place .directory

/-- Opens a file for writing: one that is there is emptied, one that is not is made. Says where. -/
def openToWrite (disk : Disk) (cwd : Place) (p : FilePath) : Except CallFault (Place × Disk) := do
  match ← disk.locate cwd .write p with
  | .taken place (.file _) => disk.change place place (.file [])
  | .taken .. => throw (.errno .isDirectory)
  | .free place => disk.change place.dropLast place (.file [])

end Disk

end PeakSlowness
