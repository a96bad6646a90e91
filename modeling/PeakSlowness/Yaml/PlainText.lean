import PeakSlowness.Yaml.Cursor

set_option autoImplicit false

/-!
Plain scalars: text without quotes. It ends at a colon before a space, at a comment, at the indicators of
a flow collection if it is inside one, and where the indentation falls back. Breaks inside it are folded:
a single one becomes a space.
-/

namespace PeakSlowness.Yaml.PlainText

open Scan

/-- What ends plain text in a flow collection. -/
def isFlowIndicator (c : Char) : Bool := [',', '?', '[', ']', '\x7b', '\x7d'].contains c

/-- What ends a key in a flow collection behind its colon. -/
def followsFlowKey : Option Char → Bool
  | none => false
  | some c => [',', '[', ']', '\x7b', '\x7d'].contains c

/-- Whether plain text ends at a character, given the one behind it. -/
def endsAt (inFlow : Bool) (c : Char) (following : Option Char) : Bool :=
  isGap c || isBreak c || (inFlow && isFlowIndicator c) ||
    (c = ':' && (endsWord following || (inFlow && followsFlowKey following)))

/-- How many characters there are up to the next space or the end of the scalar, behind those counted. -/
def runLength (inFlow : Bool) (count : Nat) : List Char → Nat
  | [] => count
  | c :: rest => if endsAt inFlow c rest.head? then count else runLength inFlow (count + 1) rest

/-- Reads the text up to the next space or the end of the scalar. What follows a colon is looked at. -/
def run (inFlow : Bool) : Scan (List Char) := do
  let c ← get
  let length := runLength inFlow 0 c.rest
  if (← peekAt length) = some ':' then reach (length + 1)
  skip length
  return c.rest.take length

/-- Reads the breaks after a first one, spaces skipped, behind those read before, the latest first. There
is nothing if documents are parted. -/
def moreBreaks : Nat → List Char → Scan (Option (List Char))
  | 0, before => return some before.reverse
  | fuel + 1, before => do
    skipRun (· = ' ')
    match ← takeBreak? with
    | none => return some before.reverse
    | some x => if ← isAtSeparator then return none else moreBreaks fuel (x :: before)

/-- What breaks count for in text, the first one being `x`. -/
def fold (x : Char) (more : List Char) : List Char :=
  (if x != '\n' then [x] else if more.isEmpty then [' '] else []) ++ more

/-- Reads what is between two runs: the text it counts for, and whether a break is in it. Where documents
are parted it counts for nothing. -/
def gap : Scan (List Char × Bool) := do
  let spaces ← takeRun (· = ' ')
  match ← takeBreak? with
  | none => return (spaces, false)
  | some x =>
    if ← isAtSeparator then return ([], true)
    match ← moreBreaks ((← get).left + 1) [] with
    | none => return ([], true)
    | some more => return (fold x more, true)

/-- Reads on after the parts read before, the latest first, and the gap `between` behind them: the whole
text, and whether it ends in a gap with a break. -/
def readOn (inFlow : Bool) (indent : Int) : Nat → List (List Char) → List Char → Bool →
    Scan (List Char × Bool)
  | 0, parts, _, broken => return (parts.reverse.flatten, broken)
  | fuel + 1, parts, between, broken => do
    if ← isAt '#' then return (parts.reverse.flatten, broken)
    let part ← run inFlow
    if part.isEmpty then return (parts.reverse.flatten, broken)
    let parts := part :: between :: parts
    let (between, broken) ← gap
    if between.isEmpty || (← isAt '#') then return (parts.reverse.flatten, broken)
    if !inFlow && (← get).column < indent then return (parts.reverse.flatten, broken)
    readOn inFlow indent fuel parts between broken

/-- Reads a plain scalar whose lines are indented by at least `indent`. -/
def read (inFlow : Bool) (indent : Int) : Scan (List Char × Bool) := do
  readOn inFlow indent ((← get).left + 1) [] [] false

end PeakSlowness.Yaml.PlainText
