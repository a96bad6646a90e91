import PeakSlowness.Number.Binary64
import PeakSlowness.Text.Blank
import PeakSlowness.Text.DecimalDigit

set_option autoImplicit false

/-!
Decimal numbers in writing: an optional sign, digits with an optional point among, before or behind
them, and an optional exponent. The digits may be of any script.
-/

namespace PeakSlowness

open Text

/-- A number as it is written: its sign, its digits without the point, and the power of ten of the
last digit. -/
structure DecimalText where
  negative : Bool
  digits : List Char
  exponent : Int

namespace DecimalText

def value (d : DecimalText) : Binary64 := .ofDecimal d.negative (decimalValue d.digits) d.exponent

/-- The digits, with the point if there is one, at the head of the text: those before the point,
those behind it, and the rest. -/
def mantissa? (text : List Char) : Option (List Char × List Char × List Char) :=
  let whole := text.takeWhile isDigit
  match whole, text.dropWhile isDigit with
  | [], '.' :: rest =>
    let part := rest.takeWhile isDigit
    if part.isEmpty then none else some ([], part, rest.dropWhile isDigit)
  | [], _ => none
  | _, '.' :: rest => some (whole, rest.takeWhile isDigit, rest.dropWhile isDigit)
  | _, rest => some (whole, [], rest)

/-- The sign at the head of the text, true for a minus, and the rest. -/
def sign (text : List Char) : Bool × List Char :=
  match text with
  | '+' :: rest => (false, rest)
  | '-' :: rest => (true, rest)
  | _ => (false, text)

/-- The exponent at the head of the text and the rest; where none is complete, nothing is read. -/
def exponentPart (text : List Char) : Int × List Char :=
  match text with
  | c :: rest =>
    if c = 'e' || c = 'E' then
      let (negative, body) := sign rest
      let digits := body.takeWhile isDigit
      if digits.isEmpty then (0, text)
      else
        let n : Int := decimalValue digits
        (if negative then -n else n, body.dropWhile isDigit)
    else (0, text)
  | [] => (0, [])

/-- The longest number at the head of the text, and the rest. -/
def leading? (text : List Char) : Option (DecimalText × List Char) :=
  let (negative, body) := sign text
  match mantissa? body with
  | none => none
  | some (whole, part, rest) =>
    let (exponent, rest) := exponentPart rest
    some (⟨negative, whole ++ part, exponent - part.length⟩, rest)

def whole? (text : List Char) : Option DecimalText :=
  match leading? text with
  | some (d, []) => some d
  | _ => none

end DecimalText

/-- Whether underscores stand only between digits, `before` being the character in front. -/
def underscoresBetweenDigits (before : Char) : List Char → Bool
  | [] => before != '_'
  | c :: rest =>
    (if c == '_' then isDigit before else before != '_' || isDigit c) && underscoresBetweenDigits c rest

/-- An infinity or a NaN spelled out, in letters of any case. -/
def spelledOut? (text : List Char) : Option Binary64 :=
  let (negative, body) := DecimalText.sign text
  let word := body.map Char.toLower
  if word = ['i', 'n', 'f'] || word = ['i', 'n', 'f', 'i', 'n', 'i', 't', 'y'] then some (.infinity negative)
  else if word = ['n', 'a', 'n'] then some (.nan negative)
  else none

/-- The number that a text stands for: white space may surround it, underscores may stand between
digits, and infinities and NaN may be spelled out. -/
def Binary64.read? (text : List Char) : Option Binary64 :=
  let body := trimBy isSpace text
  if underscoresBetweenDigits ' ' body then
    let plain := body.filter (· != '_')
    match spelledOut? plain with
    | some x => some x
    | none => (DecimalText.whole? plain).map DecimalText.value
  else none

end PeakSlowness
