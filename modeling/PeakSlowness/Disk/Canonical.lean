import PeakSlowness.Disk.Tree

set_option autoImplicit false

/-!
The canonical form of a path: absolute, without links and double dots as far as the tree tells. Names
that are not there are kept, and so are links that cannot be looked at. At a link inside its own resolution
the rest of the path is taken as it is written. A link is known by the way that led to it, so one may be met
again on another way.
-/

namespace PeakSlowness.Disk

/-- A way without links: names from the root, or from so many steps above the working directory. -/
structure Way where
  isAbsolute : Bool
  up : Nat
  names : List String
  deriving DecidableEq, Repr

namespace Way

def root : Way := ⟨true, 0, []⟩

def here : Way := ⟨false, 0, []⟩

def child (w : Way) (name : String) : Way := { w with names := w.names ++ [name] }

/-- The way one name back, or one step above its start; nothing is above the root. -/
def parent (w : Way) : Way :=
  if w.names.isEmpty && !w.isAbsolute then { w with up := w.up + 1 }
  else { w with names := w.names.dropLast }

/-- Where the names of a way are walked from. -/
def base (cwd : Place) (w : Way) : Place := if w.isAbsolute then [] else cwd.take (cwd.length - w.up)

def place (cwd : Place) (w : Way) : Place := w.base cwd ++ w.names

/-- The directories above the working directory that a way goes back through, that one included. -/
def passed (cwd : Place) (w : Way) : List Place :=
  if w.isAbsolute then [] else (List.range w.up).map fun i => cwd.take (cwd.length - i)

/-- The directories in which the names of a way are looked up. -/
def searched (cwd : Place) (w : Way) : List Place :=
  w.passed cwd ++ (List.range w.names.length).map fun i => w.base cwd ++ w.names.take i

end Way

/-- How far resolving came: all the way, or to a link inside itself; then the names are those of a path from
the root as it is written. -/
inductive Resolved where
  | way (way : Way)
  | stuck (names : List String)

/-- The target of the link at a place, if there is one. -/
def linkAt? (disk : Disk) (place : Place) : Option String :=
  match disk.find? place with
  | some (.link target) => some target
  | _ => none

/-- The target of the link at the end of a way, if there is one and the way to it may be searched. -/
def linkOn? (disk : Disk) (cwd : Place) (way : Way) : Option String :=
  if (way.searched cwd).all (disk.may · .search) then disk.linkAt? (way.place cwd) else none

def writtenNames (text : List Char) : List String := (Text.splitOn '/' text).map String.ofList

/-- Names written behind a path and a slash. Behind another slash they start from the root. -/
def writtenBehind (path : List String) : List String → List String
  | "" :: name :: rest => name :: rest
  | rest => path ++ rest

/-- Resolves names on a way, `inside` being the links that are being resolved. The fuel bounds their
number. -/
def resolveFrom (disk : Disk) (cwd : Place) (fuel : Nat) (inside : List Way) (way : Way) :
    List String → Resolved
  | [] => .way way
  | "" :: rest => resolveFrom disk cwd fuel inside way rest
  | "." :: rest => resolveFrom disk cwd fuel inside way rest
  | ".." :: rest => resolveFrom disk cwd fuel inside way.parent rest
  | name :: rest =>
    let next := way.child name
    match disk.linkOn? cwd next with
    | none => resolveFrom disk cwd fuel inside next rest
    | some target =>
      let stuck := Resolved.stuck (writtenBehind (next.place cwd) rest)
      if inside.contains next then stuck
      else
        match fuel with
        | 0 => stuck
        | fuel + 1 =>
          let start := if target.toList.head? = some '/' then .root else way
          match resolveFrom disk cwd fuel (next :: inside) start (writtenNames target.toList) with
          | .stuck names => .stuck (writtenBehind names rest)
          | .way there => resolveFrom disk cwd (fuel + 1) inside there rest
termination_by names => (fuel, names.length)

/-- The place of names from the root, double dots being applied as they are written. -/
def collapse (names : List String) : Place :=
  names.foldl
    (fun place name =>
      match name with
      | "" | "." => place
      | ".." => place.dropLast
      | _ => place ++ [name])
    []

/-- A bound on how many links can be inside each other: each may be met on ways from the root and from every
directory above the working directory. -/
def resolveLimit (disk : Disk) (cwd : Place) : Nat := (disk.entries.length + 1) * (cwd.length + 2)

def canonical (disk : Disk) (cwd : Place) (p : FilePath) : FilePath :=
  let start := if p.isAbsolute then Way.root else Way.here
  match disk.resolveFrom cwd (disk.resolveLimit cwd) [] start p.parts with
  | .way way => .ofPlace (way.place cwd)
  | .stuck names => .ofPlace (collapse names)

end PeakSlowness.Disk
