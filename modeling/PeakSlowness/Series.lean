import PeakSlowness.Application
import PeakSlowness.Number.Shortest
import PeakSlowness.Sweep

set_option autoImplicit false

/-!
The maximum slowness over time. At a time it is the greatest slowness of the applications active
then, and zero if there is none; it never falls below zero. A series holds it for each checkpoint of a
sweep, and a row is the text of one entry.
-/

namespace PeakSlowness

abbrev Series := List (Int × Binary64)

/-- The greater of the best so far and the slowness of an application, if that is active. -/
def raise (t : Int) (best : Binary64) (a : Application) : Binary64 :=
  if a.ActiveAt t ∧ best.lt a.slowness then a.slowness else best

def peakAt (apps : List Application) (t : Int) : Binary64 := apps.foldl (raise t) .zero

def series (apps : List Application) (sweep : Sweep) : Series :=
  sweep.times.map fun t => (t, peakAt apps t)

/-- A time and a value as a row of text, without a line end. -/
def row (t : Int) (value : Binary64) : Except Numeral.Fault String := do
  return (← Numeral.write t) ++ "," ++ value.toText

end PeakSlowness
