import PeakSlowness.Failure
import PeakSlowness.Number.DecimalText
import PeakSlowness.Series

set_option autoImplicit false

/-!
Looking values up in settings and taking them for numbers. Whole numbers may be given as truth values,
as decimals, which lose their fraction, or as text.
-/

namespace PeakSlowness.Setting

open Text

/-- The value at a key. Only a mapping has keys. -/
def get? (key : String) : Setting → Except ValueFault (Option Setting)
  | .map entries => .ok (valueAt? entries (.text key))
  | .cycle true => .ok none
  | v => .error (.noEntries v.kind)

/-- The value at a key, or `fallback` where there is none. -/
def getD (v : Setting) (key : String) (fallback : Setting) : Except ValueFault Setting :=
  return (← v.get? key).getD fallback

/-- The section at a key, empty where nothing is set. -/
def sectionAt (v : Setting) (key : String) : Except ValueFault Setting :=
  return (← v.getD key .empty).orEmpty

/-- Octets as text in which what is not ASCII has no meaning. -/
def asciiText (octets : List UInt8) : List Char :=
  octets.map fun b => if b.toNat < 0x80 then Char.ofNat b.toNat else '\x00'

def shownLimit : Nat := 200

/-- The first octets, in quotes. -/
def shownOctets (octets : List UInt8) : String := String.ofList (quotedOctets (octets.take shownLimit))

def toInteger : Setting → Except Failure Int
  | .scalar (.bool b) => .ok (if b then 1 else 0)
  | .scalar (.int n) => .ok n
  | .scalar (.float x) =>
    if x.isNaN then .error (.value .nanAsInteger)
    else if x.isInfinite then .error (.value .infinityAsInteger)
    else .ok x.truncate
  | .scalar (.text s) => (Numeral.read s.toList).mapError .numeral
  | .scalar (.broken letters) =>
    (Numeral.readShown 10 (Letter.quotedString letters) (Letter.blanked letters)).mapError .numeral
  | .scalar (.octets bytes) =>
    (Numeral.readShown 10 (shownOctets bytes) (asciiText bytes)).mapError .numeral
  | v => .error (.value (.notAnInteger v.kind))

def decimalOfInt (n : Int) : Except Failure Binary64 :=
  let x := Binary64.ofInt n
  if x.isInfinite then .error (.value .integerBeyondFloat) else .ok x

def toDecimal : Setting → Except Failure Binary64
  | .scalar (.bool b) => decimalOfInt (if b then 1 else 0)
  | .scalar (.int n) => decimalOfInt n
  | .scalar (.float x) => .ok x
  | .scalar (.text s) =>
    match Binary64.read? s.toList with
    | some x => .ok x
    | none => .error (.value (.notANumberText (Letter.ofString s)))
  | .scalar (.broken letters) => .error (.value (.notANumberText letters))
  | v => .error (.value (.notANumber v.kind))

/-- A row of text from any two values taken for a time and a decimal number. The time is written before
the other value is looked at. -/
def row (time value : Setting) : Except Failure String := do
  let t ← time.toInteger
  let first ← (Numeral.write t).mapError .numeral
  return first ++ "," ++ (← value.toDecimal).toText

end PeakSlowness.Setting
