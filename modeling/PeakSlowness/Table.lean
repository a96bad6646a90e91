import PeakSlowness.Series

set_option autoImplicit false

/-!
Tables: series whose times fit in 64 bits with a sign. Times that fit in 64 bits only without a sign are
taken modulo `2 ^ 64`, all of them together; other times are refused.
-/

namespace PeakSlowness

def wordCount : Nat := 0x10000000000000000

/-- A time fits in 64 bits with a sign. -/
def FitsSigned (t : Int) : Prop := -0x8000000000000000 ≤ t ∧ t < 0x8000000000000000

instance (t : Int) : Decidable (FitsSigned t) := inferInstanceAs (Decidable (_ ∧ _))

/-- A time fits in 64 bits without a sign. -/
def FitsUnsigned (t : Int) : Prop := 0 ≤ t ∧ t < wordCount

instance (t : Int) : Decidable (FitsUnsigned t) := inferInstanceAs (Decidable (_ ∧ _))

/-- Rows of a time and a value. -/
structure Table where
  rows : Series
  fits : ∀ r ∈ rows, FitsSigned r.1

namespace Table

/-- A time modulo `wordCount`, with a sign. -/
def wrapTime (t : Int) : Int := Int.bmod t wordCount

theorem fitsSigned_wrapTime (t : Int) : FitsSigned (wrapTime t) := by
  have h₁ := Int.le_bmod (x := t) (m := wordCount) (by decide)
  have h₂ := Int.bmod_lt (x := t) (m := wordCount) (by decide)
  simp only [FitsSigned, wrapTime, wordCount] at *
  omega

/-- The table of a series, if its times can be held. -/
def ofSeries? (s : Series) : Option Table :=
  if h : ∀ r ∈ s, FitsSigned r.1 then some ⟨s, h⟩
  else if ∀ r ∈ s, FitsUnsigned r.1 then
    some ⟨s.map fun r => (wrapTime r.1, r.2), by
      intro r hr
      obtain ⟨q, -, rfl⟩ := List.mem_map.1 hr
      exact fitsSigned_wrapTime q.1⟩
  else none

end Table

end PeakSlowness
