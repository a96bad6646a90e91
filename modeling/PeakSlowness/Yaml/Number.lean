import PeakSlowness.Number.DecimalText
import PeakSlowness.Text.Line
import PeakSlowness.Yaml.Fault

set_option autoImplicit false

/-!
The values of scalars with a number's tag. Underscores do not count. Integers may be binary, octal behind
a zero, hexadecimal, or to the base of sixty with colons between the digits, as decimals may be.
-/

namespace PeakSlowness.Yaml.Number

open Text

def plain (text : List Letter) : List Letter := text.filter (· != .char '_')

/-- Splits a leading sign off; `true` stands for a minus. -/
def splitSign : List Letter → Bool × List Letter
  | .char '+' :: rest => (false, rest)
  | .char '-' :: rest => (true, rest)
  | text => (false, text)

def readIn (base : Nat) (text : List Letter) : Except Numeral.Fault Int :=
  Numeral.readShown base (Letter.quotedString text) (Letter.blanked text)

/-- The value of digits to the base of sixty, the leading one first. -/
def sixties (digits : List Int) : Int := digits.foldl (fun n d => 60 * n + d) 0

def digitsOf (text : List Letter) : List (List Letter) := splitOn (.char ':') text

def magnitude (body : List Letter) : Except Numeral.Fault Int :=
  match Letter.blanked body with
  | ['0'] => .ok 0
  | '0' :: 'b' :: _ => readIn 2 (body.drop 2)
  | '0' :: 'x' :: _ => readIn 16 (body.drop 2)
  | '0' :: _ => readIn 8 body
  | chars => if chars.contains ':' then sixties <$> (digitsOf body).mapM (readIn 10) else readIn 10 body

def integer (text : List Letter) : Except YamlFault Int := do
  let (negative, body) := splitSign (plain text)
  if body.isEmpty then throw .emptyNumber
  let n ← (magnitude body).mapError .numeral
  return if negative then -n else n

def decimalPart (text : List Letter) : Except YamlFault Binary64 :=
  match (Letter.chars? text).bind Binary64.read? with
  | some x => .ok x
  | none => .error (.notANumberText text)

/-- Adds decimals to a sum, each multiplied by a power of sixty, from `base` on. There is no product with a
power that is too large for a decimal. -/
def addSixtyths (sum : Binary64) (base : Int) : List Binary64 → Except YamlFault Binary64
  | [] => .ok sum
  | d :: rest =>
    let factor := Binary64.ofInt base
    if factor.isInfinite then .error .integerBeyondFloat
    else addSixtyths (sum.add (d.mul factor)) (base * 60) rest

/-- The sum of decimals, each with its power of sixty, from the last one up. -/
def sixtyths (digits : List Binary64) : Except YamlFault Binary64 := addSixtyths .zero 1 digits.reverse

/-- Whether a text is the word for infinity, in lower case. -/
def isInfinity (body : List Letter) : Bool := body = Letter.ofList ['.', 'i', 'n', 'f']

/-- Whether a text is the word for a NaN, in lower case. -/
def isNaN (body : List Letter) : Bool := body = Letter.ofList ['.', 'n', 'a', 'n']

/-- The sign of a decimal and what is behind it, in lower case. -/
def parts (text : List Letter) : Bool × List Letter := splitSign (Letter.lower (plain text))

/-- Whether the decimal of a scalar is the NaN that has a word of its own. -/
def namesNaN (text : List Letter) : Bool := isNaN (parts text).2

def decimal (text : List Letter) : Except YamlFault Binary64 := do
  let (negative, body) := parts text
  if (plain text).isEmpty then throw .emptyNumber
  let signed (x : Binary64) : Binary64 := if negative && !x.isNaN then x.neg else x
  if isInfinity body then return .infinity negative
  if isNaN body then return .nan false
  if body.contains (.char ':') then return signed (← sixtyths (← (digitsOf body).mapM decimalPart))
  return signed (← decimalPart body)

end PeakSlowness.Yaml.Number
