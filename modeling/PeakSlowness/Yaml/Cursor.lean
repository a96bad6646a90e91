import PeakSlowness.Yaml.Source

set_option autoImplicit false

/-!
A place in a configuration text, and the steps of reading from there. Line breaks are the line feed, the
next-line character, and the line and paragraph separators; carriage returns are gone before a text is
looked at. A text may end where reading it stops: a step that looks at or moves to what is behind meets
the fault that stopped it.
-/

namespace PeakSlowness.Yaml

def isBreak (c : Char) : Bool := c = '\n' || c = '\x85' || c = '\u2028' || c = '\u2029'

def isGap (c : Char) : Bool := c = ' ' || c = '\t'

def byteOrderMark : Char := '\uFEFF'

/-- The end of the text or of the line. -/
def endsLine : Option Char → Bool
  | none => true
  | some c => isBreak c

/-- The end of the text or of the line, or a space. -/
def endsName : Option Char → Bool
  | none => true
  | some c => c = ' ' || isBreak c

/-- The end of the text or of the line, a space or a tab. -/
def endsWord : Option Char → Bool
  | none => true
  | some c => isGap c || isBreak c

/-- A letter, a digit, a hyphen or an underscore. -/
def isNameChar (c : Char) : Bool := c.isAlphanum || c = '-' || c = '_'

/-- A place: the text from there on and how many characters it has, how many are before it, its line, and
its column in the line; and what is met behind the text. -/
structure Cursor where
  rest : List Char
  left : Nat
  index : Nat
  line : Nat
  column : Nat
  stop : Option YamlFault

namespace Cursor

def start (source : Source) : Cursor := ⟨source.text, source.text.length, 0, 0, 0, source.stop⟩

/-- One character further on. A byte order mark takes no column. -/
def next (c : Cursor) : Cursor :=
  match c.rest with
  | [] => c
  | x :: rest =>
    let c := { c with rest, left := c.left - 1, index := c.index + 1 }
    if isBreak x then { c with line := c.line + 1, column := 0 }
    else if x = byteOrderMark then c
    else { c with column := c.column + 1 }

def skip (c : Cursor) : Nat → Cursor
  | 0 => c
  | n + 1 => c.next.skip n

end Cursor

abbrev Scan := StateT Cursor (Except YamlFault)

namespace Scan

/-- Makes sure that the text is known up to the character that is some further on, or to its end. -/
def reach (n : Nat) : Scan Unit := do
  let c ← get
  if c.left ≤ n then
    if let some fault := c.stop then throw fault

/-- The character some further on; there is none behind the end. -/
def peekAt (n : Nat) : Scan (Option Char) := do
  reach n
  return (← get).rest[n]?

def peek : Scan (Option Char) := do
  reach 0
  return (← get).rest.head?

def isAt (x : Char) : Scan Bool := return (← peek) = some x

/-- Moves some characters on. The character behind them is looked at. -/
def skip (n : Nat) : Scan Unit := do
  reach n
  modify (·.skip n)

def next : Scan Unit := skip 1

/-- Reads the longest run of characters with a property. -/
def takeRun (p : Char → Bool) : Scan (List Char) := do
  let run := (← get).rest.takeWhile p
  skip run.length
  return run

/-- Moves behind the longest run of characters with a property. -/
def skipRun (p : Char → Bool) : Scan Unit := discard (takeRun p)

/-- Reads a line break, if one is at the cursor, as it counts in a text. -/
def takeBreak? : Scan (Option Char) := do
  match ← peek with
  | some x =>
    if isBreak x then
      next
      return some (if x = '\x85' then '\n' else x)
    return none
  | none => return none

/-- Whether three equal characters that part documents stand at the cursor. -/
def isAtTriple (x : Char) : Scan Bool := do
  reach 2
  if (← get).rest.take 3 = [x, x, x] then return endsWord (← peekAt 3)
  return false

/-- Whether a line that parts documents begins at the cursor. -/
def isAtSeparator : Scan Bool := do
  if ← isAtTriple '-' then return true
  isAtTriple '.'

/-- Moves behind a comment, if one is at the cursor. -/
def skipComment : Scan Unit := do
  if ← isAt '#' then skipRun (!isBreak ·)

/-- Moves behind the end of the line. Only spaces and a comment may be left of it. -/
def endLine : Scan Unit := do
  skipRun (· = ' ')
  skipComment
  if !endsLine (← peek) then throw .illFormed
  discard takeBreak?

/-- Reads line breaks, each behind what `between` skips, after those read before, the latest first. The
fuel bounds their number. -/
def breaksAfter (between : Scan Unit) : Nat → List Char → Scan (List Char)
  | 0, before => return before.reverse
  | fuel + 1, before => do
    between
    match ← takeBreak? with
    | none => return before.reverse
    | some x => breaksAfter between fuel (x :: before)

/-- Reads line breaks, each behind what `between` skips. -/
def breaks (between : Scan Unit) : Scan (List Char) := do
  breaksAfter between ((← get).left + 1) []

end Scan

end PeakSlowness.Yaml
