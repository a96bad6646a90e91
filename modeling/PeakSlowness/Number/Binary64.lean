set_option autoImplicit false

/-!
Double-precision numbers as data: a sign and the 63 bits below it, read as a natural number. On the
numbers of one sign the order of these magnitudes is the order of absolute values, with infinity above
all finite numbers and the NaNs above infinity. Arithmetic is exact on integers and rounds once, to
nearest with ties to even.
-/

namespace PeakSlowness

-- Powers are those of the core library, whatever else is in scope.
attribute [local instance (2000)] instPowNat

/-- The value of the sign bit, the highest of 64. -/
def signBit : Nat := 0x8000000000000000

/-- The value of the lowest bit of the exponent. It is also that of the leading bit of a significand, which
is left out in writing. -/
def exponentUnit : Nat := 0x10000000000000

/-- A double-precision number. Two of them are equal when they agree bit for bit. -/
structure Binary64 where
  negative : Bool
  magnitude : Nat
  magnitude_lt : magnitude < signBit := by decide
  deriving DecidableEq

namespace Binary64

def infinite : Nat := 0x7FF0000000000000

def zero : Binary64 := { negative := false, magnitude := 0 }

def infinity (negative : Bool) : Binary64 := { negative, magnitude := infinite }

def nan (negative : Bool) : Binary64 := { negative, magnitude := 0x7FF8000000000000 }

def isNaN (x : Binary64) : Bool := infinite < x.magnitude

def isInfinite (x : Binary64) : Bool := x.magnitude == infinite

def isFinite (x : Binary64) : Bool := x.magnitude < infinite

def isZero (x : Binary64) : Bool := x.magnitude == 0

/-- The place of a number that is no NaN in the order; both zeros have place zero. -/
def rank (x : Binary64) : Int := if x.negative then -(x.magnitude : Int) else x.magnitude

/-- Strictly less. A NaN is not comparable. -/
def lt (x y : Binary64) : Bool := !x.isNaN && !y.isNaN && x.rank < y.rank

/-- The number with this sign and magnitude, a magnitude above infinity taken as infinity. -/
def ofMagnitude (negative : Bool) (magnitude : Nat) : Binary64 where
  negative
  magnitude := min magnitude infinite
  magnitude_lt := Nat.lt_of_le_of_lt (Nat.min_le_right ..) (by decide)

def bits (x : Binary64) : Nat := (if x.negative then signBit else 0) + x.magnitude

/-- The number with these 64 bits; higher bits are ignored. -/
def ofBits (n : Nat) : Binary64 where
  negative := n / signBit % 2 == 1
  magnitude := n % signBit
  magnitude_lt := Nat.mod_lt _ (by decide)

/-- The integer factor of a finite number: its absolute value is `significand * 2 ^ scale`. -/
def significand (x : Binary64) : Nat :=
  if x.magnitude / exponentUnit = 0 then x.magnitude else exponentUnit + x.magnitude % exponentUnit

def scale (x : Binary64) : Int :=
  if x.magnitude / exponentUnit = 0 then -1074 else ((x.magnitude / exponentUnit : Nat) : Int) - 1075

/-- A quotient of natural numbers rounded to the nearest one, a tie to the even one. -/
def roundHalfEven (num den : Nat) : Nat :=
  let q := num / den
  let twice := 2 * (num % den)
  if twice < den || (twice == den && q % 2 == 0) then q else q + 1

/-- The exponent of the power of two just at or below a positive quotient. -/
def floorLog2 (num den : Nat) : Int :=
  let k : Int := (num.log2 : Int) - (den.log2 : Int)
  if num * 2 ^ (-k).toNat < den * 2 ^ k.toNat then k - 1 else k

/-- The magnitude nearest to a quotient of natural numbers. A carry out of the significand runs into
the exponent, and out of the largest exponent into infinity. -/
def magnitudeOf (num den : Nat) : Nat :=
  if num = 0 then 0
  else
    let q := max (floorLog2 num den - 52) (-1074)
    let m := roundHalfEven (num * 2 ^ (-q).toNat) (den * 2 ^ q.toNat)
    (q + 1074).toNat * exponentUnit + m

def ofRatio (negative : Bool) (num den : Nat) : Binary64 := ofMagnitude negative (magnitudeOf num den)

/-- The number nearest to `digits * 10 ^ exponent`. Exponents that can only lead to infinity or zero
are settled before a power is formed. -/
def ofDecimal (negative : Bool) (digits : Nat) (exponent : Int) : Binary64 :=
  if digits = 0 then ofMagnitude negative 0
  else if 400 < exponent then infinity negative
  else if (digits.log2 : Int) + 1 + 3 * exponent ≤ -1200 then ofMagnitude negative 0
  else ofRatio negative (digits * 10 ^ exponent.toNat) (10 ^ (-exponent).toNat)

/-- The number nearest to an integer, infinity included. -/
def ofInt (n : Int) : Binary64 := ofRatio (n < 0) n.natAbs 1

/-- The exact value of a finite number as a fraction. -/
def fraction (x : Binary64) : Int × Nat :=
  let num := x.significand * 2 ^ x.scale.toNat
  (if x.negative then -(num : Int) else num, 2 ^ (-x.scale).toNat)

def truncate (x : Binary64) : Int :=
  let (num, den) := x.fraction
  num.tdiv den

def isInt (x : Binary64) (n : Int) : Bool :=
  let (num, den) := x.fraction
  x.isFinite && num == n * den

/-- The number nearest to a signed fraction; an exact zero takes the given sign. -/
def ofFraction (zeroSign : Bool) (num : Int) (den : Nat) : Binary64 :=
  ofRatio (if num = 0 then zeroSign else num < 0) num.natAbs den

def mul (x y : Binary64) : Binary64 :=
  let sign := x.negative != y.negative
  if x.isNaN || y.isNaN || (x.isInfinite && y.isZero) || (x.isZero && y.isInfinite) then nan false
  else if x.isInfinite || y.isInfinite then infinity sign
  else ofFraction sign (x.fraction.1 * y.fraction.1) (x.fraction.2 * y.fraction.2)

def add (x y : Binary64) : Binary64 :=
  if x.isNaN || y.isNaN || (x.isInfinite && y.isInfinite && x.negative != y.negative) then nan false
  else if x.isInfinite then x
  else if y.isInfinite then y
  else
    let (a, b) := x.fraction
    let (c, d) := y.fraction
    ofFraction (x.negative && y.negative) (a * d + c * b) (b * d)

def neg (x : Binary64) : Binary64 := { x with negative := !x.negative }

/-- Equal as numbers: zeros agree, a NaN equals nothing. -/
def same (x y : Binary64) : Bool := !x.isNaN && !y.isNaN && x.rank == y.rank

end Binary64

end PeakSlowness
