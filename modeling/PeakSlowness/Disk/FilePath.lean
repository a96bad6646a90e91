import PeakSlowness.Disk.FileName
import PeakSlowness.Text.Line

set_option autoImplicit false

/-!
File paths in normal form: repeated slashes and single dots are gone, double dots are kept. Exactly two
slashes at the front are an anchor of their own. A path may have letters without octets; it is then known,
but no system call takes it.
-/

namespace PeakSlowness

open Text (Letter Unencodable)

/-- What a path starts from. -/
inductive Anchor where
  | relative
  | root
  | doubleRoot
  deriving DecidableEq, Repr

def Anchor.toText : Anchor → String
  | .relative => ""
  | .root => "/"
  | .doubleRoot => "//"

/-- The names on a path, without empty ones and single dots. -/
def pathNames (text : List Char) : List String :=
  ((Text.splitOn '/' text).map String.ofList).filter fun name => name != "" && name != "."

/-- What the target of a symbolic link names: single dots are kept, and a slash at the end counts as an
empty name. -/
def linkNames (target : List Char) : List String :=
  let names := ((Text.splitOn '/' target).map String.ofList).filter (· != "")
  if target.getLast? = some '/' then names ++ [""] else names

/-- A path in normal form. -/
structure FilePath where
  anchor : Anchor
  parts : List String
  /-- the letters of its text that have no octets -/
  flaw : Option Unencodable := none
  deriving DecidableEq, Repr

namespace FilePath

def anchorOf (text : List Char) : Anchor :=
  match (text.takeWhile (· == '/')).length with
  | 0 => .relative
  | 2 => .doubleRoot
  | _ => .root

def ofString (text : String) : FilePath where
  anchor := anchorOf text.toList
  parts := pathNames text.toList

/-- A path in letters, its names being given in letters; the empty path is a dot. -/
def spelled (anchor : Anchor) (names : List (List Letter)) : List Letter :=
  if anchor = .relative ∧ names = [] then [.char '.']
  else Letter.ofString anchor.toText ++ [Letter.char '/'].intercalate names

def letters (p : FilePath) : List Letter := spelled p.anchor (p.parts.map FileName.letters)

/-- A path in writing, halves being escaped. -/
def toText (p : FilePath) : String := String.ofList (Letter.escaped p.letters)

/-- The length of a path in octets. -/
def size (p : FilePath) : Nat := (FileName.octets p.letters).length

/-- The names that a system call goes through; the empty path is a dot. -/
def names (p : FilePath) : List String :=
  if p.anchor = .relative ∧ p.parts = [] then ["."] else p.parts

/-- The names on a path of letters, without empty ones and single dots. -/
def letterNames (text : List Letter) : List (List Letter) :=
  (Text.splitOn (.char '/') text).filter fun name => !name.isEmpty && name != [.char '.']

/-- The path that a text of letters stands for. -/
def ofLetters (text : List Letter) : FilePath :=
  let names := letterNames text
  let anchor := anchorOf (Letter.blanked text)
  ⟨anchor, names.map FileName.named, Unencodable.inPath? (spelled anchor names)⟩

/-- The path of names. -/
def ofNames (anchor : Anchor) (names : List String) : FilePath :=
  ⟨anchor, names, Unencodable.inPath? (spelled anchor (names.map FileName.letters))⟩

/-- Whether the path does not depend on a working directory. -/
def isAbsolute (p : FilePath) : Bool := p.anchor != .relative

def child (p : FilePath) (name : String) : FilePath := { p with parts := p.parts ++ [name] }

def parent (p : FilePath) : FilePath := { p with parts := p.parts.dropLast }

/-- The last name, empty if there is none. -/
def name (p : FilePath) : String := p.parts.getLast?.getD ""

/-- A name without its suffix: what is from the last dot on, unless that dot is the first or the last
character. -/
def stem (name : String) : String :=
  let reversed := name.toList.reverse
  let suffix := reversed.takeWhile (· != '.')
  match suffix, reversed.dropWhile (· != '.') with
  | _ :: _, _ :: before@(_ :: _) => String.ofList before.reverse
  | _, _ => name

/-- The path with another suffix; there is none for a path without a name. -/
def withSuffix? (p : FilePath) (suffix : String) : Option FilePath :=
  if p.name = "" then none else some { p with parts := p.parts.dropLast ++ [stem p.name ++ suffix] }

/-- Whether the path holds a NUL character, which no system call takes. -/
def hasNul (p : FilePath) : Bool := p.parts.any fun name => name.toList.contains '\x00'

def ofPlace (place : List String) : FilePath := { anchor := .root, parts := place }

end FilePath

end PeakSlowness
