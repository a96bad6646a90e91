import PeakSlowness.Number.Binary64

set_option autoImplicit false

/-!
An application of a simulation run: when it is released, when it has finished, and how much slower
than alone it ran.
-/

namespace PeakSlowness

/-- One application. Its finish may lie before its release; it is then never active. -/
structure Application where
  release : Int
  finish : Int
  slowness : Binary64
  deriving DecidableEq

namespace Application

/-- Active from the release on and no longer at the finish. -/
def ActiveAt (a : Application) (t : Int) : Prop := a.release ≤ t ∧ t < a.finish

instance (a : Application) (t : Int) : Decidable (a.ActiveAt t) :=
  inferInstanceAs (Decidable (a.release ≤ t ∧ t < a.finish))

theorem not_activeAt_of_finish_le (a : Application) (h : a.finish ≤ a.release) (t : Int) :
    ¬ a.ActiveAt t := by
  rintro ⟨h₁, h₂⟩
  omega

end Application

end PeakSlowness
