set_option autoImplicit false

/-!
Pieces of a file: it is read some octets at a time, as many as `pieceSize` as long as there are so many.
-/

namespace PeakSlowness.Text

def pieceSize : Nat := 8192

/-- A list in pieces of `size` items; the last one may be shorter. -/
def pieces {α : Type} (size : Nat) (items : List α) : List (List α) :=
  if items.isEmpty || size = 0 then []
  else items.take size :: pieces size (items.drop size)
termination_by items.length
decreasing_by
  rename_i h
  simp only [Bool.or_eq_true, List.isEmpty_iff, decide_eq_true_eq, not_or] at h
  have := List.length_pos_iff.2 h.1
  simp only [List.length_drop]
  omega

end PeakSlowness.Text
