import PeakSlowness.Text.Blank
import PeakSlowness.Text.DecimalDigit
import PeakSlowness.Text.Quoted

set_option autoImplicit false

/-!
Integers in writing. A literal is read as a whole: white space around it is allowed, then a sign and
digits of any script with single underscores between them. A field is read by its leading integer.
Decimal integers of more than `digitLimit` digits are neither read nor written.
-/

namespace PeakSlowness.Numeral

open Text

-- Powers are those of the core library, whatever else is in scope.
attribute [local instance (2000)] instPowNat

def digitLimit : Nat := 4300

/-- Why an integer could not be read or written. -/
inductive Fault where
  /-- the text, given in quotes, is no integer in this base -/
  | malformed (base : Nat) (shown : String)
  | tooManyDigits (count : Nat)
  | tooLongToWrite
  deriving DecidableEq, Repr

/-- The wording of a fault. A long text is cut after 200 characters. -/
def Fault.message : Fault → String
  | .malformed base shown =>
    "invalid literal for int() with base " ++ toString base ++ ": " ++
      String.ofList (shown.toList.take 200)
  | .tooManyDigits count =>
    "Exceeds the limit (4300 digits) for integer string conversion: value has " ++ toString count ++
      " digits; use sys.set_int_max_str_digits() to increase the limit"
  | .tooLongToWrite =>
    "Exceeds the limit (4300 digits) for integer string conversion; " ++
      "use sys.set_int_max_str_digits() to increase the limit"

/-- Whether a base is a power of two; such literals have no digit limit. -/
def isBinaryBase (base : Nat) : Bool := base == 2 || base == 4 || base == 8 || base == 16 || base == 32

/-- The value of a digit in bases up to 36; letters count from ten. -/
def digitIn? (base : Nat) (c : Char) : Option Nat :=
  let value : Option Nat :=
    match digitValue? c with
    | some d => some d
    | none =>
      if 'a' ≤ c && c ≤ 'z' then some (c.toNat - 0x57)
      else if 'A' ≤ c && c ≤ 'Z' then some (c.toNat - 0x37)
      else none
  value.filter (· < base)

/-- Splits a leading sign off; `true` stands for a minus. -/
def splitSign : List Char → Bool × List Char
  | '+' :: rest => (false, rest)
  | '-' :: rest => (true, rest)
  | text => (false, text)

def groupsWell : List Char → Bool
  | [] => true
  | ['_'] => false
  | '_' :: '_' :: _ => false
  | _ :: rest => groupsWell rest

/-- A base prefix such as `0x` and an underscore behind it may stand before the digits. -/
def dropBaseMark (base : Nat) (text : List Char) : List Char :=
  let letters : List Char :=
    if base = 16 then ['x', 'X'] else if base = 8 then ['o', 'O'] else if base = 2 then ['b', 'B'] else []
  match text with
  | '0' :: c :: rest =>
    if letters.contains c then (match rest with | '_' :: more => more | _ => rest) else text
  | _ => text

def signed (negative : Bool) (magnitude : Nat) : Int :=
  if negative then -(magnitude : Int) else magnitude

/-- The value of the text as an integer literal in the given base, where `shown` is how a message
quotes the text. -/
def readShown (base : Nat) (shown : String) (text : List Char) : Except Fault Int :=
  let (negative, body) := splitSign (text.dropWhile isSpace)
  let body := dropBaseMark base body
  let inRun := fun c => (digitIn? base c).isSome || c == '_'
  let run := body.takeWhile inRun
  let digits := run.filterMap (digitIn? base)
  if run.head? = some '_' || !groupsWell run then .error (.malformed base shown)
  else if !isBinaryBase base && digitLimit < digits.length then .error (.tooManyDigits digits.length)
  else if digits.isEmpty || !(body.dropWhile inRun).all isSpace then .error (.malformed base shown)
  else .ok (signed negative (digitsValue base digits))

/-- The value of the text as an integer literal in the given base. -/
def readIn (base : Nat) (text : List Char) : Except Fault Int :=
  readShown base (String.ofList (quoted text)) text

/-- The value of the text as a decimal integer literal. -/
def read (text : List Char) : Except Fault Int := readIn 10 text

/-- The sign and the digits of the integer that the text begins with, blanks before it skipped. -/
def leading? (text : List Char) : Option (Bool × List Char) :=
  let (negative, body) := splitSign (text.dropWhile isBlank)
  let digits := body.takeWhile isDigit
  if digits.isEmpty then none else some (negative, digits)

/-- The integer that the text begins with, zero if it begins with none. -/
def readLeading (text : List Char) : Except Fault Int :=
  match leading? text with
  | none => .ok 0
  | some (negative, digits) =>
    if digitLimit < digits.length then .error (.tooManyDigits digits.length)
    else .ok (signed negative (decimalValue digits))

def write (n : Int) : Except Fault String :=
  if 10 ^ digitLimit ≤ n.natAbs then .error .tooLongToWrite else .ok (toString n)

end PeakSlowness.Numeral
