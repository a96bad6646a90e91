import PeakSlowness.Number.Numeral

set_option autoImplicit false

/-!
Sweeps: the checkpoints from a start in equal steps up to an inclusive end. A sweep is never empty.
-/

namespace PeakSlowness

/-- A start, an inclusive end and a step of checkpoints. -/
structure Sweep where
  start : Int
  stop : Int
  step : Int
  step_pos : 0 < step
  start_le_stop : start ≤ stop
  deriving DecidableEq

namespace Sweep

/-- Why three numbers are no sweep. -/
inductive Fault where
  | stepNotPositive (step : Int)
  | stopBeforeStart (stop start : Int)
  deriving DecidableEq

/-- The wording of a fault; it fails where a number is too long to be written. -/
def Fault.wording : Fault → Except Numeral.Fault String
  | .stepNotPositive step => do
    return "checkpoint step must be positive, got " ++ (← Numeral.write step)
  | .stopBeforeStart stop start => do
    let last ← Numeral.write stop
    return "checkpoint end " ++ last ++ " is before start " ++ (← Numeral.write start)

/-- The sweep with this start, end and step. The step is looked at first. -/
def make (start stop step : Int) : Except Fault Sweep :=
  if hs : 0 < step then
    if hb : start ≤ stop then .ok ⟨start, stop, step, hs, hb⟩ else .error (.stopBeforeStart stop start)
  else .error (.stepNotPositive step)

/-- The start of a sweep where nothing is said. -/
def defaultStart : Int := 0

/-- The end of a sweep where nothing is said. -/
def defaultStop : Int := 216000

/-- The step of a sweep where nothing is said. -/
def defaultStep : Int := 1000

/-- The sweep over a simulation run where nothing is said. -/
def standard : Sweep := ⟨defaultStart, defaultStop, defaultStep, by decide, by decide⟩

def count (s : Sweep) : Nat := ((s.stop - s.start) / s.step).toNat + 1

/-- The checkpoint at position `k`. -/
def time (s : Sweep) (k : Nat) : Int := s.start + k * s.step

/-- The first `n` checkpoints, or all if there are fewer. -/
def firstTimes (s : Sweep) (n : Nat) : List Int := (List.range (min n s.count)).map s.time

def times (s : Sweep) : List Int := (List.range s.count).map s.time

/-- The number of checkpoints as far as it can be counted in 63 bits. -/
def size? (s : Sweep) : Option Nat := if s.count < 0x8000000000000000 then some s.count else none

@[simp] theorem length_times (s : Sweep) : s.times.length = s.count := by simp [times]

end Sweep

end PeakSlowness
