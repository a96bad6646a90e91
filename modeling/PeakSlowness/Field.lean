import PeakSlowness.Number.DecimalText
import PeakSlowness.Number.Numeral

set_option autoImplicit false

/-!
Numbers in the fields of a data line, read in one of two modes. Lenient reading takes the number that
the field begins with and counts a field that begins with none as zero. Strict reading takes the field
as a whole, apart from blanks around it, or rejects it.
-/

namespace PeakSlowness

open Text

/-- How number fields are read. -/
inductive Mode where
  | lenient
  | strict
  deriving DecidableEq, Repr

def Mode.name : Mode → String
  | .lenient => "lenient"
  | .strict => "strict"

namespace Field

/-- Why a field was rejected. -/
inductive Fault where
  | integer (fault : Numeral.Fault)
  | decimal (text : String)
  deriving DecidableEq

def Fault.message : Fault → String
  | .integer fault => fault.message
  | .decimal text => "could not convert " ++ quotedString text ++ " to float"

/-- An integer field. Digits beyond the limit of integers are rejected in both modes. -/
def integer : Mode → List Char → Except Fault Int
  | .lenient, text => (Numeral.readLeading text).mapError .integer
  | .strict, text => (Numeral.read (trim text)).mapError .integer

def decimalLeading (text : List Char) : Binary64 :=
  match DecimalText.leading? (text.dropWhile isBlank) with
  | some (d, _) => d.value
  | none => .zero

/-- A decimal field. Infinities and NaN cannot be spelled out, but a number may be too large to be
finite. -/
def decimal : Mode → List Char → Except Fault Binary64
  | .lenient, text => .ok (decimalLeading text)
  | .strict, text =>
    match DecimalText.whole? (trim text) with
    | some d => .ok d.value
    | none => .error (.decimal (String.ofList text))

end Field

end PeakSlowness
