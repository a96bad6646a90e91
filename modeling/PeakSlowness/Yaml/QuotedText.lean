import PeakSlowness.Yaml.PlainText

set_option autoImplicit false

/-!
Quoted scalars. Between single quotes only a doubled quote is special; between double quotes a backslash
begins an escape. Breaks inside are folded: a single one becomes a space, an escaped one nothing.
-/

namespace PeakSlowness.Yaml.QuotedText

open Scan
open Text (Letter)

def letterEscape? : Char → Option Char
  | '0' => some '\x00'
  | 'a' => some '\x07'
  | 'b' => some '\x08'
  | 't' => some '\t'
  | '\t' => some '\t'
  | 'n' => some '\n'
  | 'v' => some '\x0b'
  | 'f' => some '\x0c'
  | 'r' => some '\r'
  | 'e' => some '\x1b'
  | ' ' => some ' '
  | '\x22' => some '\x22'
  | '\x5c' => some '\x5c'
  | '/' => some '/'
  | 'N' => some '\x85'
  | '_' => some '\xa0'
  | 'L' => some '\u2028'
  | 'P' => some '\u2029'
  | _ => none

/-- How many hexadecimal digits an escape by number has. -/
def digitCount? : Char → Option Nat
  | 'x' => some 2
  | 'u' => some 4
  | 'U' => some 8
  | _ => none

def hexDigit? (c : Char) : Option Nat := if c.toNat < 0x80 then Numeral.digitIn? 16 c else none

/-- The value of the hexadecimal digits at the cursor, `count` of them from the given one on, behind those
with the value so far. They are looked at one by one and stay where they are. -/
def hexValue (start value : Nat) : Nat → Scan Nat
  | 0 => return value
  | count + 1 => do
    let some c ← peekAt start | throw .illFormed
    let some d := hexDigit? c | throw .illFormed
    hexValue (start + 1) (16 * value + d) count

def letterOfCode (n : Nat) : Except YamlFault Letter :=
  if 0x80000000 ≤ n then .error .codePointBeyondWord
  else if 0x10FFFF < n then .error .codePointBeyondUnicode
  else if h : n.isValidChar then .ok (.char (Char.ofNatAux n h))
  else .ok (.half n)

/-- Reads breaks, gaps skipped. Documents must not be parted in between. -/
def moreBreaks : Scan (List Char) :=
  breaks do
    if ← isAtSeparator then throw .illFormed
    skipRun isGap

/-- Reads what the escape at the cursor stands for, the backslash being behind. -/
def escape : Scan (List Letter) := do
  let some x ← peek | throw .illFormed
  match letterEscape? x, digitCount? x with
  | some y, _ =>
    next
    return [.char y]
  | none, some count =>
    next
    let letter ← letterOfCode (← hexValue 0 0 count)
    skip count
    return [letter]
  | none, none =>
    match ← takeBreak? with
    | some _ => return Letter.ofList (← moreBreaks)
    | none => throw .illFormed

def isOrdinary (c : Char) : Bool := c != '\x27' && c != '\x22' && c != '\x5c' && !isGap c && !isBreak c

/-- Reads a quote or an escape inside a scalar; there is nothing where a gap or the closing quote is. -/
def special (double : Bool) : Scan (Option (List Letter)) := do
  match ← peek with
  | some '\x27' =>
    if double then
      next
      return some [.char '\x27']
    else if (← peekAt 1) = some '\x27' then
      skip 2
      return some [.char '\x27']
    else return none
  | some '\x22' =>
    if double then return none
    next
    return some [.char '\x22']
  | some '\x5c' =>
    next
    if double then return some (← escape) else return some [.char '\x5c']
  | _ => return none

/-- Reads up to the next gap or the closing quote, behind the parts read before, the latest first. -/
def word (double : Bool) : Nat → List (List Letter) → Scan (List (List Letter))
  | 0, parts => return parts
  | fuel + 1, parts => do
    let run ← takeRun isOrdinary
    let parts := Letter.ofList run :: parts
    match ← special double with
    | some part => word double fuel (part :: parts)
    | none => return parts

def gap : Scan (List Char) := do
  let spaces ← takeRun isGap
  if (← peek).isNone then throw .illFormed
  match ← takeBreak? with
  | none => return spaces
  | some x => return PlainText.fold x (← moreBreaks)

/-- The quote that encloses a scalar. -/
def quote (double : Bool) : Char := if double then '\x22' else '\x27'

/-- Reads up to the closing quote and past it, behind the parts read before, the latest first. -/
def body (double : Bool) : Nat → List (List Letter) → Scan (List Letter)
  | 0, _ => throw .illFormed
  | fuel + 1, parts => do
    let parts ← word double ((← get).left + 1) parts
    if ← isAt (quote double) then
      next
      return parts.reverse.flatten
    let between ← gap
    body double fuel (Letter.ofList between :: parts)

/-- Reads a quoted scalar, the opening quote being at the cursor. -/
def read (double : Bool) : Scan (List Letter) := do
  next
  body double ((← get).left + 1) []

end PeakSlowness.Yaml.QuotedText
