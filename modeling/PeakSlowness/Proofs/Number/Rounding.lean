import Mathlib
import PeakSlowness.Number.Binary64

set_option autoImplicit false

/-!
Rounding in terms of rational numbers. Which number a decimal is rounded to depends on the value of
the decimal alone, and a decimal that has the value of a finite number is rounded to that number.
-/

namespace PeakSlowness.Binary64

/-- A rational number that is not negative, rounded to the nearest integer, ties to even. -/
def halfEven (r : ℚ) : ℕ :=
  let low := ⌊r⌋₊
  if r - low < 1 / 2 ∨ (r - low = 1 / 2 ∧ low % 2 = 0) then low else low + 1

theorem halfEven_natCast (n : ℕ) : halfEven n = n := by
  simp [halfEven]

theorem halfEven_of_lt_half {r : ℚ} (h : r < 1 / 2) : halfEven r = 0 := by
  have low : ⌊r⌋₊ = 0 := Nat.floor_eq_zero.2 (by linarith)
  simp only [halfEven, low, Nat.cast_zero, sub_zero]
  exact if_pos (.inl h)

theorem le_halfEven {r : ℚ} {n : ℕ} (h : (n : ℚ) ≤ r) : n ≤ halfEven r := by
  have low : n ≤ ⌊r⌋₊ := Nat.le_floor h
  unfold halfEven
  dsimp only
  split
  · exact low
  · exact Nat.le_succ_of_le low

theorem roundHalfEven_eq (num : ℕ) {den : ℕ} (hd : 0 < den) :
    roundHalfEven num den = halfEven ((num : ℚ) / den) := by
  have positive : (0 : ℚ) < den := Nat.cast_pos.2 hd
  have low : ⌊(num : ℚ) / den⌋₊ = num / den := Nat.floor_div_eq_div num den
  have left : (num : ℚ) / den - (num / den : ℕ) = (num % den : ℕ) / den := by
    have whole : (num : ℚ) = den * (num / den : ℕ) + (num % den : ℕ) := by
      exact_mod_cast (Nat.div_add_mod num den).symm
    rw [whole]
    field_simp
    ring
  have less : ((num % den : ℕ) : ℚ) / den < 1 / 2 ↔ 2 * (num % den) < den := by
    rw [div_lt_div_iff₀ positive two_pos, one_mul, mul_comm]
    exact_mod_cast Iff.rfl
  have tie : ((num % den : ℕ) : ℚ) / den = 1 / 2 ↔ 2 * (num % den) = den := by
    rw [div_eq_div_iff positive.ne' two_ne_zero, one_mul, mul_comm]
    exact_mod_cast Iff.rfl
  unfold roundHalfEven halfEven
  simp only [low, left, less, tie, Bool.or_eq_true, Bool.and_eq_true, decide_eq_true_eq, beq_iff_eq]

/-- Scaling by a power keeps to natural numbers: a positive power goes to one side of the fraction,
a negative one to the other. -/
theorem ratio_scaled {base : ℕ} (hb : 0 < base) (num den : ℕ) (place : ℤ) :
    ((num * base ^ place.toNat : ℕ) : ℚ) / (den * base ^ (-place).toNat : ℕ) =
      num / den * (base : ℚ) ^ place := by
  have nonzero : (base : ℚ) ≠ 0 := Nat.cast_ne_zero.2 hb.ne'
  have power : (base : ℚ) ^ place = base ^ place.toNat / base ^ (-place).toNat := by
    rw [← zpow_natCast, ← zpow_natCast, ← zpow_sub₀ nonzero]
    congr 1
    omega
  rw [power]
  push_cast
  exact mul_div_mul_comm ..

theorem log_eq {r : ℚ} {k : ℤ} (hr : 0 < r) (low : (2 : ℚ) ^ k ≤ r) (high : r < 2 ^ (k + 1)) :
    Int.log 2 r = k := by
  have least := (Int.zpow_le_iff_le_log one_lt_two hr).1 (by exact_mod_cast low)
  have most := (Int.lt_zpow_iff_log_lt one_lt_two hr).1 (by exact_mod_cast high)
  omega

theorem floorLog2_eq {num den : ℕ} (hn : 0 < num) (hd : 0 < den) :
    floorLog2 num den = Int.log 2 ((num : ℚ) / den) := by
  have positive : (0 : ℚ) < den := Nat.cast_pos.2 hd
  have num_low : (2 : ℚ) ^ num.log2 ≤ num := by exact_mod_cast Nat.log2_self_le hn.ne'
  have num_high : (num : ℚ) < 2 ^ (num.log2 + 1) := by exact_mod_cast Nat.lt_log2_self
  have den_low : (2 : ℚ) ^ den.log2 ≤ den := by exact_mod_cast Nat.log2_self_le hd.ne'
  have den_high : (den : ℚ) < 2 ^ (den.log2 + 1) := by exact_mod_cast Nat.lt_log2_self
  set k : ℤ := (num.log2 : ℤ) - den.log2 with hk
  have quotient : 0 < (num : ℚ) / den := by positivity
  -- the logarithms of both sides leave two exponents, and the comparison tells which it is
  have low : (2 : ℚ) ^ (k - 1) ≤ num / den := by
    have split : (2 : ℚ) ^ (k - 1) = 2 ^ num.log2 / 2 ^ (den.log2 + 1) := by
      rw [← zpow_natCast, ← zpow_natCast, ← zpow_sub₀ two_ne_zero]
      congr 1
      push_cast
      omega
    rw [split]
    exact div_le_div₀ (by positivity) num_low positive den_high.le
  have high : (num : ℚ) / den < 2 ^ (k + 1) := by
    have split : (2 : ℚ) ^ (k + 1) = 2 ^ (num.log2 + 1) / 2 ^ den.log2 := by
      rw [← zpow_natCast, ← zpow_natCast, ← zpow_sub₀ two_ne_zero]
      congr 1
      push_cast
      omega
    rw [split]
    exact div_lt_div₀ num_high den_low (by positivity) (by positivity)
  have below : num * 2 ^ (-k).toNat < den * 2 ^ k.toNat ↔ (num : ℚ) / den < 2 ^ k := by
    have scaled := ratio_scaled two_pos 1 1 k
    simp only [one_mul, Nat.cast_one, div_one, Nat.cast_ofNat] at scaled
    rw [← scaled, div_lt_div_iff₀ positive (by positivity), mul_comm ((2 ^ k.toNat : ℕ) : ℚ)]
    exact_mod_cast Iff.rfl
  unfold floorLog2
  dsimp only
  rw [← hk]
  split
  · next less =>
    refine (log_eq quotient low ?_).symm
    rw [sub_add_cancel]
    exact below.1 less
  · next more => exact (log_eq quotient (not_lt.1 fun less => more (below.2 less)) high).symm

/-- The exponent of the last place of a significand, for numbers of this size. -/
def lastPlace (r : ℚ) : ℤ := max (Int.log 2 r - 52) (-1074)

/-- The magnitude that a rational number is rounded to. -/
def nearest (r : ℚ) : ℕ :=
  if r = 0 then 0
  else (lastPlace r + 1074).toNat * exponentUnit + halfEven (r * 2 ^ (-lastPlace r))

theorem magnitudeOf_eq (num : ℕ) {den : ℕ} (hd : 0 < den) :
    magnitudeOf num den = nearest ((num : ℚ) / den) := by
  have positive : (0 : ℚ) < den := Nat.cast_pos.2 hd
  by_cases hn : num = 0
  · simp [magnitudeOf, nearest, hn]
  · have nonzero : (num : ℚ) / den ≠ 0 := div_ne_zero (Nat.cast_ne_zero.2 hn) positive.ne'
    have place : max (floorLog2 num den - 52) (-1074) = lastPlace ((num : ℚ) / den) := by
      rw [floorLog2_eq (Nat.pos_of_ne_zero hn) hd, lastPlace]
    have scaled := ratio_scaled two_pos num den (-lastPlace ((num : ℚ) / den))
    rw [neg_neg, Nat.cast_ofNat] at scaled
    unfold magnitudeOf nearest
    rw [if_neg hn, if_neg nonzero]
    dsimp only
    rw [place, roundHalfEven_eq _ (by positivity), ← scaled]

theorem infinite_le_nearest {r : ℚ} (h : 2 ^ (1024 : ℤ) ≤ r) : infinite ≤ nearest r := by
  have positive : 0 < r := lt_of_lt_of_le (by positivity) h
  have log : 1024 ≤ Int.log 2 r :=
    (Int.zpow_le_iff_le_log one_lt_two positive).1 (by rwa [Nat.cast_ofNat])
  have place : lastPlace r = Int.log 2 r - 52 := by
    unfold lastPlace
    omega
  have leading : 2 ^ 52 ≤ halfEven (r * 2 ^ (-lastPlace r)) := by
    refine le_halfEven ?_
    have bound : (2 : ℚ) ^ Int.log 2 r ≤ r := by
      exact_mod_cast Int.zpow_log_le_self one_lt_two positive
    calc ((2 ^ 52 : ℕ) : ℚ) = 2 ^ Int.log 2 r * 2 ^ (-lastPlace r) := by
          rw [← zpow_add₀ two_ne_zero, place]
          norm_num
      _ ≤ r * 2 ^ (-lastPlace r) := by gcongr
  have top : 2046 ≤ (lastPlace r + 1074).toNat := by omega
  unfold nearest
  rw [if_neg positive.ne']
  calc infinite = 2046 * exponentUnit + 2 ^ 52 := by decide
    _ ≤ _ := Nat.add_le_add (Nat.mul_le_mul_right _ top) leading

theorem nearest_of_lt {r : ℚ} (hr : 0 ≤ r) (h : r < 2 ^ (-1075 : ℤ)) : nearest r = 0 := by
  unfold nearest
  split
  · rfl
  · next nonzero =>
    have positive : 0 < r := lt_of_le_of_ne hr (Ne.symm nonzero)
    have log : Int.log 2 r < -1075 :=
      (Int.lt_zpow_iff_log_lt one_lt_two positive).1 (by exact_mod_cast h)
    have place : lastPlace r = -1074 := by
      unfold lastPlace
      omega
    have small : r * 2 ^ (1074 : ℤ) < 1 / 2 := by
      calc r * 2 ^ (1074 : ℤ) < 2 ^ (-1075 : ℤ) * 2 ^ (1074 : ℤ) := by gcongr
        _ = 1 / 2 := by
          rw [← zpow_add₀ two_ne_zero]
          norm_num
    rw [place, neg_neg, halfEven_of_lt_half small]
    rfl

theorem ofMagnitude_of_infinite_le (negative : Bool) {m : ℕ} (h : infinite ≤ m) :
    ofMagnitude negative m = infinity negative := by
  simp only [ofMagnitude, infinity, Nat.min_eq_right h]

/-- The powers that are not formed are those whose numbers are infinite or zero anyway. -/
theorem ofDecimal_eq (negative : Bool) (digits : ℕ) (exponent : ℤ) :
    ofDecimal negative digits exponent =
      ofMagnitude negative (nearest ((digits : ℚ) * 10 ^ exponent)) := by
  unfold ofDecimal
  split
  · next none => simp [none, nearest]
  · next some =>
    have one_le : (1 : ℚ) ≤ digits := by exact_mod_cast Nat.pos_of_ne_zero some
    split
    · next large =>
      refine (ofMagnitude_of_infinite_le negative (infinite_le_nearest ?_)).symm
      calc (2 : ℚ) ^ (1024 : ℤ) ≤ 2 ^ (3 * 400 : ℤ) := zpow_le_zpow_right₀ one_le_two (by norm_num)
        _ = 8 ^ (400 : ℤ) := by
          rw [zpow_mul]
          norm_num only
        _ ≤ 10 ^ (400 : ℤ) := zpow_le_zpow_left₀ (by norm_num) (by norm_num) (by norm_num)
        _ ≤ 10 ^ exponent := zpow_le_zpow_right₀ (by norm_num) large.le
        _ ≤ digits * 10 ^ exponent := le_mul_of_one_le_left (by positivity) one_le
    · split
      · next small =>
        have bound : (digits : ℚ) < 2 ^ ((digits.log2 : ℤ) + 1) := by
          rw [← Nat.cast_succ, zpow_natCast]
          exact_mod_cast Nat.lt_log2_self
        have power : (10 : ℚ) ^ exponent ≤ 2 ^ (3 * exponent) := by
          obtain ⟨n, rfl⟩ : ∃ n : ℕ, exponent = -n := ⟨(-exponent).toNat, by omega⟩
          rw [zpow_mul, zpow_neg, zpow_neg, zpow_natCast, zpow_natCast]
          refine inv_anti₀ (by positivity) (pow_le_pow_left₀ (by positivity) (by norm_num) n)
        rw [nearest_of_lt (by positivity)]
        calc (digits : ℚ) * 10 ^ exponent
            < 2 ^ ((digits.log2 : ℤ) + 1) * 2 ^ (3 * exponent) :=
              mul_lt_mul bound power (by positivity) (by positivity)
          _ = 2 ^ ((digits.log2 : ℤ) + 1 + 3 * exponent) := (zpow_add₀ two_ne_zero _ _).symm
          _ ≤ 2 ^ (-1075 : ℤ) := zpow_le_zpow_right₀ one_le_two (by omega)
      · have scaled := ratio_scaled (show 0 < 10 by norm_num) digits 1 exponent
        rw [one_mul, Nat.cast_one, div_one, Nat.cast_ofNat] at scaled
        rw [ofRatio, ← scaled]
        congr 1
        exact magnitudeOf_eq _ (by positivity)

/-- The absolute value of a finite number. -/
def absValue (x : Binary64) : ℚ := x.significand * 2 ^ x.scale

theorem significand_lt (x : Binary64) : x.significand < 2 ^ 53 := by
  unfold significand
  split
  · next subnormal =>
    simp only [exponentUnit] at subnormal
    omega
  · simp only [exponentUnit]
    omega

/-- The numbers of the smallest scale apart, a significand has its leading bit. -/
theorem scale_eq_or_le_significand (x : Binary64) : x.scale = -1074 ∨ 2 ^ 52 ≤ x.significand := by
  unfold scale significand
  split
  · exact .inl rfl
  · exact .inr (Nat.le_add_right ..)

theorem le_scale (x : Binary64) : -1074 ≤ x.scale := by
  unfold scale
  split
  · exact le_refl _
  · next normal =>
    have least := Nat.pos_of_ne_zero normal
    omega

/-- The digits of a magnitude: the scale in the exponent, and the significand behind it. -/
theorem scale_add_significand (x : Binary64) :
    (x.scale + 1074).toNat * exponentUnit + x.significand = x.magnitude := by
  by_cases h : x.magnitude / exponentUnit = 0
  · simp [scale, significand, h]
  · simp only [scale, significand, if_neg h]
    simp only [exponentUnit] at h ⊢
    omega

theorem lastPlace_absValue {x : Binary64} (h : 0 < x.absValue) :
    lastPlace x.absValue = x.scale := by
  have high : Int.log 2 x.absValue < 53 + x.scale := by
    refine (Int.lt_zpow_iff_log_lt one_lt_two h).1 ?_
    rw [Nat.cast_ofNat, zpow_add₀ two_ne_zero]
    have bound : (x.significand : ℚ) < 2 ^ (53 : ℤ) := by exact_mod_cast x.significand_lt
    exact mul_lt_mul_of_pos_right bound (by positivity)
  have low : x.scale = -1074 ∨ 52 + x.scale ≤ Int.log 2 x.absValue := by
    refine x.scale_eq_or_le_significand.imp_right fun leading => ?_
    refine (Int.zpow_le_iff_le_log one_lt_two h).1 ?_
    rw [Nat.cast_ofNat, zpow_add₀ two_ne_zero]
    have bound : (2 : ℚ) ^ (52 : ℤ) ≤ x.significand := by exact_mod_cast leading
    exact mul_le_mul_of_nonneg_right bound (by positivity)
  have least := x.le_scale
  unfold lastPlace
  omega

/-- A number is the one nearest to its own value. -/
theorem nearest_absValue (x : Binary64) : nearest x.absValue = x.magnitude := by
  by_cases hm : x.magnitude = 0
  · have none : x.absValue = 0 := by simp [absValue, significand, hm]
    rw [none, hm]
    rfl
  · have significant : 0 < x.significand := by
      have parts := x.scale_add_significand
      rcases x.scale_eq_or_le_significand with least | leading
      · simp only [least, neg_add_cancel, Int.toNat_zero, Nat.zero_mul, Nat.zero_add] at parts
        omega
      · omega
    have positive : 0 < x.absValue := by
      unfold absValue
      positivity
    have exact : x.absValue * 2 ^ (-x.scale) = x.significand := by
      rw [absValue, mul_assoc, ← zpow_add₀ two_ne_zero, add_neg_cancel, zpow_zero, mul_one]
    rw [nearest, if_neg positive.ne', lastPlace_absValue positive, exact, halfEven_natCast,
      scale_add_significand]

theorem ofMagnitude_magnitude {x : Binary64} (h : x.isFinite = true) :
    ofMagnitude x.negative x.magnitude = x := by
  have finite : x.magnitude < infinite := by simpa [isFinite] using h
  simp only [ofMagnitude, Nat.min_eq_left finite.le]

/-- A decimal with the value of a finite number is read as that number. -/
theorem ofDecimal_of_absValue {x : Binary64} (h : x.isFinite = true) {digits : ℕ} {exponent : ℤ}
    (value : (digits : ℚ) * 10 ^ exponent = x.absValue) :
    ofDecimal x.negative digits exponent = x := by
  rw [ofDecimal_eq, value, nearest_absValue, ofMagnitude_magnitude h]

end PeakSlowness.Binary64
