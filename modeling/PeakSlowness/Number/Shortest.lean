import PeakSlowness.Number.Binary64

set_option autoImplicit false

/-!
The text of a number: the fewest digits that read back to it, the nearest of those to its exact
value, and of two equally near ones the one with the even last digit. It is positional for powers of
ten from -4 up to 15, with at least one digit on each side of the point, and otherwise has a signed
exponent of at least two digits.
-/

namespace PeakSlowness.Binary64

-- Powers are those of the core library, whatever else is in scope.
attribute [local instance (2000)] instPowNat

/-- `digits * 10 ^ exponent`. -/
structure Decimal where
  digits : Nat
  exponent : Int
  deriving DecidableEq, Repr

/-- The least power of ten above `num / den`, found from the guess `k`. -/
def leastPower (num den : Nat) : Nat → Int → Int
  | 0, k => k
  | fuel + 1, k =>
    if den * 10 ^ k.toNat ≤ num * 10 ^ (-k).toNat then leastPower num den fuel (k + 1)
    else if num * 10 ^ (1 - k).toNat < den * 10 ^ (k - 1).toNat then leastPower num den fuel (k - 1)
    else k

/-- The exponent `k` with `10 ^ (k - 1) ≤ num / den < 10 ^ k`. -/
def decimalPower (num den : Nat) : Int :=
  leastPower num den 6 (Int.fdiv ((floorLog2 num den) * 30103) 100000 + 1)

/-- The decimals with last place `10 ^ place` on both sides of `num / den`, the nearer one first. -/
def neighbours (num den : Nat) (place : Int) : List Decimal :=
  let n := num * 10 ^ (-place).toNat
  let d := den * 10 ^ place.toNat
  let low := n / d
  let twice := 2 * (n % d)
  if twice < d || (twice == d && low % 2 == 0) then [⟨low, place⟩, ⟨low + 1, place⟩]
  else [⟨low + 1, place⟩, ⟨low, place⟩]

/-- The exact value `num / den` of a fraction whose denominator is a power of two, as a decimal. -/
def exactDecimal (num den : Nat) : Decimal := ⟨num * 5 ^ den.log2, -(den.log2 : Int)⟩

/-- A decimal that reads back to the finite number `x`, with as few digits as possible. -/
def shortest (x : Binary64) : Decimal :=
  let num := x.fraction.1.natAbs
  let den := x.fraction.2
  let power := decimalPower num den
  let candidates := (List.range 17).flatMap fun n => neighbours num den (power - (n + 1 : Nat))
  (candidates.find? fun d => ofDecimal x.negative d.digits d.exponent == x).getD (exactDecimal num den)

/-- Moves the zeros at the end of the digits into the exponent. -/
def Decimal.stripZeros (d : Decimal) : Nat → Decimal
  | 0 => d
  | fuel + 1 =>
    if d.digits ≠ 0 ∧ d.digits % 10 = 0 then
      Decimal.stripZeros ⟨d.digits / 10, d.exponent + 1⟩ fuel
    else d

/-- Writes digits, the first of them having the place value `10 ^ top`. -/
def layOut (digits : List Char) (top : Int) : List Char :=
  if -4 ≤ top && top < 16 then
    if top < 0 then ['0', '.'] ++ List.replicate (-top - 1).toNat '0' ++ digits
    else
      let whole := digits.take (top.toNat + 1)
      let part := digits.drop (top.toNat + 1)
      whole ++ List.replicate (top.toNat + 1 - digits.length) '0' ++ ['.'] ++
        (if part.isEmpty then ['0'] else part)
  else
    let mantissa := match digits with
      | [] => []
      | [d] => [d]
      | d :: more => d :: '.' :: more
    let power := Nat.toDigits 10 top.natAbs
    mantissa ++ ['e', if top < 0 then '-' else '+'] ++ (if power.length < 2 then '0' :: power else power)

/-- A finite number that is not negative in writing. -/
def writeFinite (x : Binary64) : List Char :=
  if x.isZero then ['0', '.', '0']
  else
    let d := x.shortest
    let d := d.stripZeros d.digits.log2
    let digits := Nat.toDigits 10 d.digits
    layOut digits (d.exponent + digits.length - 1)

def write (x : Binary64) : List Char :=
  if x.isNaN then ['n', 'a', 'n']
  else (if x.negative then ['-'] else []) ++ (if x.isInfinite then ['i', 'n', 'f'] else writeFinite x)

/-- The text of a number, as a string. -/
def toText (x : Binary64) : String := String.ofList x.write

end PeakSlowness.Binary64
