import PeakSlowness.Number.Shortest
import PeakSlowness.Table

set_option autoImplicit false

/-!
The value axis of a plot. Its limits lie around the finite values, with a margin; its ticks are the multiples
of a round step from just below the lower limit to just above the upper one. Near the largest numbers there
may be no such ticks, or an infinite one; then there is no plot.
-/

namespace PeakSlowness.Plot

/-- Why a table has no plot. -/
inductive Fault where
  | noTicks
  | infiniteTick
  deriving DecidableEq, Repr

def Fault.message : Fault → String
  | .noTicks => "arange: cannot compute length"
  | .infiniteTick => "cannot convert float infinity to integer"

/-- The number that is nearest to `digits * 10 ^ exponent`. -/
def decimal (digits : Nat) (exponent : Int) : Binary64 := .ofDecimal false digits exponent

def sub (x y : Binary64) : Binary64 := x.add y.neg

def abs (x : Binary64) : Binary64 := { x with negative := false }

def larger (x y : Binary64) : Binary64 := if x.lt y then y else x

def smaller (x y : Binary64) : Binary64 := if y.lt x then y else x

/-- The limits of an axis. -/
structure Limits where
  low : Binary64
  high : Binary64

namespace Limits

def around (x : Binary64) : Limits := ⟨x.neg, x⟩

def width (l : Limits) : Binary64 := sub l.high l.low

/-- The least and the greatest one of finite numbers; there are none of no numbers. -/
def ofValues? (values : List Binary64) : Option Limits :=
  match values.filter (·.isFinite) with
  | [] => none
  | x :: rest => some (rest.foldl (fun l y => ⟨smaller l.low y, larger l.high y⟩) ⟨x, x⟩)

def leastNormal : Binary64 := { negative := false, magnitude := exponentUnit }

/-- Limits that are apart: those that are not finite, or too near to zero to tell, are replaced by limits
around zero, and those too near to each other are moved apart by a part `expander` of themselves. Too near
is a difference of less than a part `10 ^ tiny`. -/
def apart (expander : Binary64) (tiny : Int) (l : Limits) : Limits :=
  if !(l.low.isFinite && l.high.isFinite) then around expander
  else
    let largest := larger (abs l.low) (abs l.high)
    if largest.lt ((decimal 1 (6 - tiny)).mul leastNormal) then around expander
    else if (largest.mul (decimal 1 tiny)).lt l.width then l
    else ⟨sub l.low (expander.mul (abs l.low)), l.high.add (expander.mul (abs l.high))⟩

/-- The part of the width that is left free above and below the values. -/
def margin : Binary64 := decimal 5 (-2)

/-- Limits with a margin around them, if it is finite. -/
def widened (l : Limits) : Limits :=
  let m := l.width.mul margin
  if m.isFinite then ⟨sub l.low m, l.high.add m⟩ else l

/-- The limits of the axis for finite values between the given ones. -/
def ofRange (l : Limits) : Limits :=
  let common := apart margin (-15)
  (common (apart (decimal 1 (-12)) (-13) (common l).widened)).apart (decimal 1 (-13)) (-14)

end Limits

def intervals : Nat := 9

/-- The round numbers that steps may be, in hundredths of a power of ten. -/
def roundSteps : List Nat := [10, 20, 25, 50, 100, 200, 250, 500, 1000, 2000]

/-- The step of the ticks: the least round number with at most `intervals` of them in a width. -/
def stepFor (width : Binary64) : Binary64 :=
  let (num, den) := width.fraction
  let least := Binary64.ofFraction false num (den * intervals)
  let scale := decimal 1 (Binary64.decimalPower num.natAbs (den * intervals) - 1)
  let steps := roundSteps.map fun n => (decimal n (-2)).mul scale
  (steps.find? fun s => !s.lt least).getD scale

/-- The whole part of a quotient of finite numbers, the divisor being positive, and the rest as a fraction
of the divisor. -/
def quotient (x step : Binary64) : Int × Int × Int :=
  let (a, b) := x.fraction
  let (c, d) := step.fraction
  let num := a * d
  let den := b * c
  (num.fdiv den, num.fmod den, den)

/-- How near, in parts of a step, a limit is to a tick that counts as lying on it. -/
def tolerance : Int := 10000000000

/-- The number of the last tick not above a distance from the first one. -/
def tickBelow (x step : Binary64) : Int :=
  let (n, rest, den) := quotient x step
  if (den - rest) * tolerance < den then n + 1 else n

/-- The number of the first tick not below a distance from the first one. -/
def tickAbove (x step : Binary64) : Int :=
  let (n, rest, den) := quotient x step
  if rest * tolerance < den then n else n + 1

def tick (first step : Binary64) (n : Int) : Binary64 := ((Binary64.ofInt n).mul step).add first

/-- Checks the ticks between limits whose width and sum are finite. -/
def checkTicks (l : Limits) : Except Fault Unit :=
  let step := stepFor l.width
  let first := (Binary64.ofInt (quotient l.low step).1).mul step
  let low := sub l.low first
  let high := sub l.high first
  if !(first.isFinite && low.isFinite && high.isFinite) then .error .noTicks
  else if (tick first step (tickBelow low step)).isFinite && (tick first step (tickAbove high step)).isFinite then
    .ok ()
  else .error .infiniteTick

/-- Limits so far from zero, in widths, that ticks are counted from a round number near them. -/
def farAway : Int := 100

/-- Checks that an axis has ticks. Limits far from zero in proportion to their width have. -/
def checkLimits (l : Limits) : Except Fault Unit :=
  let mean := (l.high.add l.low).mul (decimal 5 (-1))
  if !(l.width.isFinite && mean.isFinite) then .error .noTicks
  else if (l.width.mul (.ofInt farAway)).lt (abs mean) then .ok ()
  else checkTicks l

def check (table : Table) : Except Fault Unit :=
  match Limits.ofValues? (table.rows.map (·.2)) with
  | none => .ok ()
  | some l => checkLimits (Limits.ofRange l)

end PeakSlowness.Plot
