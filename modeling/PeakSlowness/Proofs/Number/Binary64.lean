import PeakSlowness.Number.Binary64

set_option autoImplicit false

/-!
The order of double-precision numbers. Numbers above zero are equal bit for bit as soon as neither
is less than the other. A NaN is neither above nor below anything, and the two zeros are not above
each other. The 64 bits of a number tell all of it.
-/

namespace PeakSlowness.Binary64

theorem lt_iff {x y : Binary64} : x.lt y = true ↔ (x.isNaN = false ∧ y.isNaN = false) ∧
    x.rank < y.rank := by
  simp [lt]

theorem not_lt_self (x : Binary64) : ¬ x.lt x = true := by
  intro h
  exact Int.lt_irrefl _ (lt_iff.1 h).2

theorem lt_trans {x y z : Binary64} (h : x.lt y = true) (h' : y.lt z = true) : x.lt z = true := by
  obtain ⟨⟨hx, -⟩, less⟩ := lt_iff.1 h
  obtain ⟨⟨-, hz⟩, less'⟩ := lt_iff.1 h'
  exact lt_iff.2 ⟨⟨hx, hz⟩, Int.lt_trans less less'⟩

theorem lt_asymm {x y : Binary64} (h : x.lt y = true) : ¬ y.lt x = true := by
  intro h'
  exact not_lt_self x (lt_trans h h')

theorem isNaN_of_zero_lt {x : Binary64} (h : zero.lt x = true) : x.isNaN = false := (lt_iff.1 h).1.2

theorem negative_of_zero_lt {x : Binary64} (h : zero.lt x = true) : x.negative = false := by
  have above : zero.rank < x.rank := (lt_iff.1 h).2
  cases hs : x.negative with
  | false => rfl
  | true =>
    have below : x.rank = -(x.magnitude : Int) := by simp [rank, hs]
    have none_below : zero.rank = 0 := rfl
    omega

theorem eq_of_rank_eq {x y : Binary64} (hx : zero.lt x = true) (hy : zero.lt y = true)
    (h : x.rank = y.rank) : x = y := by
  have nx := negative_of_zero_lt hx
  have ny := negative_of_zero_lt hy
  obtain ⟨sx, mx, _⟩ := x
  obtain ⟨sy, my, _⟩ := y
  subst nx ny
  have same : (mx : Int) = my := h
  rw [Int.ofNat_inj] at same
  subst same
  rfl

/-- Above zero there is a total order. -/
theorem lt_trichotomy {x y : Binary64} (hx : zero.lt x = true) (hy : zero.lt y = true) :
    x.lt y = true ∨ x = y ∨ y.lt x = true := by
  have nx := isNaN_of_zero_lt hx
  have ny := isNaN_of_zero_lt hy
  rcases Int.lt_trichotomy x.rank y.rank with less | same | more
  · exact .inl (lt_iff.2 ⟨⟨nx, ny⟩, less⟩)
  · exact .inr (.inl (eq_of_rank_eq hx hy same))
  · exact .inr (.inr (lt_iff.2 ⟨⟨ny, nx⟩, more⟩))

theorem bits_lt (x : Binary64) : x.bits < 0x10000000000000000 := by
  have small := x.magnitude_lt
  unfold bits
  simp only [signBit] at small ⊢
  split
  · omega
  · omega

@[simp] theorem ofBits_bits (x : Binary64) : ofBits x.bits = x := by
  obtain ⟨negative, magnitude, small⟩ := x
  cases negative with
  | false => simp [ofBits, bits, Nat.div_eq_of_lt small, Nat.mod_eq_of_lt small]
  | true =>
    have high : (signBit + magnitude) / signBit = 1 := by
      rw [Nat.add_div_left _ (by decide), Nat.div_eq_of_lt small]
    simp [ofBits, bits, high, Nat.mod_eq_of_lt small]

end PeakSlowness.Binary64
