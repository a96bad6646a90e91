import Mathlib
import PeakSlowness.Proofs.Number.Rounding

set_option autoImplicit false

/-!
Rounding is to the nearest number. No finite number is closer to a rational number than the one it is rounded
to, and of two that are equally close it is the even one. An integer of up to 53 digits is its own
nearest number.
-/

namespace PeakSlowness.Binary64

/-- The value of a finite number. -/
def value (x : Binary64) : ℚ := if x.negative then -x.absValue else x.absValue

/-- A finite number is the nearest one to a rational number, and the even one if another is as near. -/
structure IsNearest (r : ℚ) (x : Binary64) : Prop where
  finite : x.isFinite = true
  least : ∀ y : Binary64, y.isFinite = true → |x.value - r| ≤ |y.value - r|
  even : ∀ y : Binary64, y.isFinite = true → |y.value - r| = |x.value - r| → y.value ≠ x.value →
    x.magnitude % 2 = 0

section HalfEven

variable {r : ℚ} {k : ℕ}

/-- Rounding moves by half at most, and by half only to an even number. -/
theorem abs_halfEven_sub_le_half (hr : 0 ≤ r) :
    |halfEven r - r| ≤ 1 / 2 ∧ (|halfEven r - r| = 1 / 2 → halfEven r % 2 = 0) := by
  have low : (⌊r⌋₊ : ℚ) ≤ r := Nat.floor_le hr
  have high : r < ⌊r⌋₊ + 1 := Nat.lt_floor_add_one r
  unfold halfEven
  dsimp only
  split
  · next down =>
    rw [abs_sub_comm, abs_of_nonneg (sub_nonneg.2 low)]
    rcases down with less | ⟨half, even⟩
    · exact ⟨less.le, fun half => absurd half less.ne⟩
    · exact ⟨half.le, fun _ => even⟩
  · next up =>
    rw [not_or, not_lt, not_and] at up
    push_cast
    rw [abs_of_nonneg (by linarith)]
    refine ⟨by linarith [up.1], fun half => ?_⟩
    have odd := up.2 (by linarith)
    omega

/-- Another natural number is as far on the other side at least. -/
theorem one_le_of_ne_halfEven (r : ℚ) (other : k ≠ halfEven r) :
    1 ≤ |k - r| + |halfEven r - r| := by
  have apart : (1 : ℚ) ≤ |(k : ℚ) - halfEven r| := by
    exact_mod_cast Int.one_le_abs (sub_ne_zero.2 (Nat.cast_injective.ne other))
  calc (1 : ℚ) ≤ |(k : ℚ) - halfEven r| := apart
    _ = |(k - r) - (halfEven r - r)| := by rw [sub_sub_sub_cancel_right]
    _ ≤ |k - r| + |halfEven r - r| := abs_sub _ _

/-- No natural number is closer than the one rounded to. -/
theorem abs_halfEven_sub_le (hr : 0 ≤ r) (k : ℕ) : |halfEven r - r| ≤ |k - r| := by
  by_cases same : k = halfEven r
  · rw [same]
  · have apart := one_le_of_ne_halfEven r same
    have half := (abs_halfEven_sub_le_half hr).1
    linarith

/-- Of two natural numbers that are equally close, the even one is taken. -/
theorem halfEven_even_of_tie (hr : 0 ≤ r) (tie : |k - r| = |halfEven r - r|)
    (other : k ≠ halfEven r) : halfEven r % 2 = 0 := by
  have apart := one_le_of_ne_halfEven r other
  obtain ⟨half, even⟩ := abs_halfEven_sub_le_half hr
  exact even (le_antisymm half (by linarith))

theorem halfEven_le (hr : 0 ≤ r) (h : r ≤ k) : halfEven r ≤ k := by
  by_contra above
  have more : (k : ℚ) + 1 ≤ halfEven r := by exact_mod_cast not_le.1 above
  have half := (le_abs_self _).trans (abs_halfEven_sub_le_half hr).1
  linarith

end HalfEven

section Nearest

variable {r : ℚ} {x y : Binary64}

/-- The value of a magnitude whose significand may be one too long, as after a carry. -/
theorem absValue_of_magnitude {e h : ℕ} (magnitude : x.magnitude = e * exponentUnit + h)
    (short : h ≤ 2 ^ 53) (leading : e = 0 ∨ 2 ^ 52 ≤ h) : x.absValue = h * 2 ^ ((e : ℤ) - 1074) := by
  have unit : exponentUnit = 0x10000000000000 := rfl
  rw [unit] at magnitude
  rcases lt_or_ge h (2 ^ 52) with subnormal | normal
  · obtain rfl : e = 0 := leading.resolve_right (not_le.2 subnormal)
    have low : x.magnitude / exponentUnit = 0 := by rw [unit]; omega
    have same : x.magnitude = h := by omega
    rw [absValue, significand, scale, if_pos low, if_pos low, same]
    norm_num
  · rcases short.lt_or_eq with less | rfl
    · have high : x.magnitude / exponentUnit = e + 1 := by rw [unit]; omega
      have same : exponentUnit + x.magnitude % exponentUnit = h := by rw [unit]; omega
      have place : ((e + 1 : ℕ) : ℤ) - 1075 = e - 1074 := by omega
      rw [absValue, significand, scale, if_neg (by omega), if_neg (by omega), same, high, place]
    · -- the carry leaves a significand of the leading bit alone, one place higher
      have high : x.magnitude / exponentUnit = e + 2 := by rw [unit]; omega
      have same : exponentUnit + x.magnitude % exponentUnit = 2 ^ 52 := by rw [unit]; omega
      have place : ((e + 2 : ℕ) : ℤ) - 1075 = 1 + (e - 1074) := by omega
      rw [absValue, significand, scale, if_neg (by omega), if_neg (by omega), same, high, place,
        zpow_add₀ two_ne_zero]
      push_cast
      ring

/-- Rounded at its last place, a number has a significand of full length, if it is not too small, and that
may be one too long. -/
theorem significand_bounds (hr : 0 < r) : halfEven (r * 2 ^ (-lastPlace r)) ≤ 2 ^ 53 ∧
    (lastPlace r = -1074 ∨ 2 ^ 52 ≤ halfEven (r * 2 ^ (-lastPlace r))) := by
  have place : Int.log 2 r - 52 ≤ lastPlace r := le_max_left _ _
  constructor
  · apply halfEven_le (by positivity)
    calc r * 2 ^ (-lastPlace r) ≤ 2 ^ (Int.log 2 r + 1) * 2 ^ (-lastPlace r) := by
          have above : r < 2 ^ (Int.log 2 r + 1) := by
            exact_mod_cast Int.lt_zpow_succ_log_self one_lt_two r
          gcongr
      _ = 2 ^ (Int.log 2 r + 1 - lastPlace r) := by rw [← zpow_add₀ two_ne_zero, ← sub_eq_add_neg]
      _ ≤ 2 ^ (53 : ℤ) := zpow_le_zpow_right₀ one_le_two (by omega)
      _ = ((2 ^ 53 : ℕ) : ℚ) := by norm_num
  · rcases max_choice (Int.log 2 r - 52) (-1074) with normal | least
    · right
      apply le_halfEven
      have below : (2 : ℚ) ^ Int.log 2 r ≤ r := by
        exact_mod_cast Int.zpow_log_le_self one_lt_two hr
      calc ((2 ^ 52 : ℕ) : ℚ) = 2 ^ Int.log 2 r * 2 ^ (-lastPlace r) := by
            rw [← zpow_add₀ two_ne_zero, lastPlace, normal]
            norm_num
        _ ≤ r * 2 ^ (-lastPlace r) := by gcongr
    · exact .inl least

/-- What a number is rounded to, in units of its last place. -/
theorem absValue_of_nearest (hr : 0 ≤ r) (magnitude : x.magnitude = nearest r) :
    x.absValue = halfEven (r * 2 ^ (-lastPlace r)) * 2 ^ lastPlace r := by
  have least : -1074 ≤ lastPlace r := le_max_right _ _
  rcases hr.eq_or_lt with rfl | positive
  · have none : x.absValue = (0 : ℕ) * 2 ^ (((0 : ℕ) : ℤ) - 1074) :=
      absValue_of_magnitude (by simpa [nearest] using magnitude) (by norm_num) (.inl rfl)
    have zero : halfEven 0 = 0 := halfEven_natCast 0
    rw [none, zero_mul, zero]
    simp
  · obtain ⟨short, leading⟩ := significand_bounds positive
    rw [nearest, if_neg positive.ne'] at magnitude
    have place : ((lastPlace r + 1074).toNat : ℤ) - 1074 = lastPlace r := by omega
    rw [absValue_of_magnitude magnitude short (leading.imp_left fun same => by rw [same]; rfl), place]

/-- A number of lower scale is below a number that `r` is not below. -/
theorem absValue_lt_of_scale_lt (hr : 0 < r) (lower : y.scale < lastPlace r) :
    y.absValue < 2 ^ 52 * 2 ^ lastPlace r ∧ 2 ^ 52 * 2 ^ lastPlace r ≤ r := by
  have least := y.le_scale
  have place : Int.log 2 r = 52 + lastPlace r := by
    unfold lastPlace at lower ⊢
    omega
  have below : (2 : ℚ) ^ Int.log 2 r ≤ r := by exact_mod_cast Int.zpow_log_le_self one_lt_two hr
  constructor
  · calc y.absValue < 2 ^ 53 * 2 ^ y.scale := by
          have short : (y.significand : ℚ) < 2 ^ 53 := by exact_mod_cast y.significand_lt
          unfold absValue
          gcongr
      _ = 2 ^ 52 * 2 ^ (1 + y.scale) := by
          rw [zpow_add₀ two_ne_zero]
          ring
      _ ≤ 2 ^ 52 * 2 ^ lastPlace r := by
          have power : (2 : ℚ) ^ (1 + y.scale) ≤ 2 ^ lastPlace r :=
            zpow_le_zpow_right₀ one_le_two (by omega)
          gcongr
  · rw [place, zpow_add₀ two_ne_zero] at below
    exact below

/-- A number of no lower scale is a multiple of the last place of `r`. -/
theorem absValue_eq_of_le_scale (higher : lastPlace r ≤ y.scale) :
    ∃ k : ℕ, y.absValue = k * 2 ^ lastPlace r := by
  obtain ⟨n, up⟩ := Int.le.dest higher
  refine ⟨y.significand * 2 ^ n, ?_⟩
  rw [absValue, ← up, zpow_add₀ two_ne_zero, zpow_natCast]
  push_cast
  ring

/-- Distances in units of the last place. -/
theorem abs_mul_sub (r m : ℚ) (p : ℤ) : |m * 2 ^ p - r| = |m - r * 2 ^ (-p)| * 2 ^ p := by
  have whole : m * 2 ^ p - r = (m - r * 2 ^ (-p)) * 2 ^ p := by
    rw [sub_mul, mul_assoc r, ← zpow_add₀ two_ne_zero, neg_add_cancel, zpow_zero, mul_one]
  have unit : (0 : ℚ) < 2 ^ p := zpow_pos two_pos p
  rw [whole, abs_mul, abs_of_pos unit]

/-- What `r` is rounded to is as close as any multiple of its last place. -/
theorem absValue_least_of_mul (hr : 0 ≤ r) (magnitude : x.magnitude = nearest r) (k : ℕ) :
    |x.absValue - r| ≤ |k * 2 ^ lastPlace r - r| := by
  have closest := abs_halfEven_sub_le (r := r * 2 ^ (-lastPlace r)) (by positivity) k
  rw [absValue_of_nearest hr magnitude, abs_mul_sub, abs_mul_sub]
  gcongr

theorem even_of_tie_of_mul (hr : 0 < r) (magnitude : x.magnitude = nearest r) {k : ℕ}
    (tie : |k * 2 ^ lastPlace r - r| = |x.absValue - r|) (other : k * 2 ^ lastPlace r ≠ x.absValue) :
    x.magnitude % 2 = 0 := by
  have unit : (2 : ℚ) ^ lastPlace r ≠ 0 := by positivity
  rw [absValue_of_nearest hr.le magnitude, abs_mul_sub, abs_mul_sub] at tie
  rw [absValue_of_nearest hr.le magnitude] at other
  have even := halfEven_even_of_tie (r := r * 2 ^ (-lastPlace r)) (by positivity)
    (mul_right_cancel₀ unit tie) fun same => other (by rw [same])
  rw [magnitude, nearest, if_neg hr.ne']
  simp only [exponentUnit]
  omega

/-- A number of lower scale is further away than the one rounded to. -/
theorem absValue_least_of_scale_lt (hr : 0 < r) (magnitude : x.magnitude = nearest r)
    (lower : y.scale < lastPlace r) : |x.absValue - r| < |y.absValue - r| := by
  obtain ⟨below, above⟩ := absValue_lt_of_scale_lt hr lower
  calc |x.absValue - r| ≤ |((2 ^ 52 : ℕ) : ℚ) * 2 ^ lastPlace r - r| :=
        absValue_least_of_mul hr.le magnitude _
    _ = r - 2 ^ 52 * 2 ^ lastPlace r := by
        rw [Nat.cast_pow, Nat.cast_ofNat, abs_sub_comm, abs_of_nonneg (sub_nonneg.2 above)]
    _ < r - y.absValue := sub_lt_sub_left below r
    _ = |y.absValue - r| := by rw [abs_sub_comm, abs_of_nonneg (by linarith)]

theorem absValue_least (hr : 0 ≤ r) (magnitude : x.magnitude = nearest r) (y : Binary64) :
    |x.absValue - r| ≤ |y.absValue - r| := by
  rcases hr.eq_or_lt with rfl | positive
  · have closest := absValue_least_of_mul (x := x) le_rfl magnitude 0
    rw [Nat.cast_zero, zero_mul, sub_self, abs_zero] at closest
    exact closest.trans (abs_nonneg _)
  · rcases lt_or_ge y.scale (lastPlace r) with lower | higher
    · exact (absValue_least_of_scale_lt positive magnitude lower).le
    · obtain ⟨k, multiple⟩ := absValue_eq_of_le_scale higher
      rw [multiple]
      exact absValue_least_of_mul hr magnitude k

theorem even_of_tie (hr : 0 ≤ r) (magnitude : x.magnitude = nearest r)
    (tie : |y.absValue - r| = |x.absValue - r|) (other : y.absValue ≠ x.absValue) :
    x.magnitude % 2 = 0 := by
  rcases hr.eq_or_lt with rfl | positive
  · rw [magnitude, nearest, if_pos rfl]
  · rcases lt_or_ge y.scale (lastPlace r) with lower | higher
    · exact absurd tie (absValue_least_of_scale_lt positive magnitude lower).ne'
    · obtain ⟨k, multiple⟩ := absValue_eq_of_le_scale higher
      rw [multiple] at tie other
      exact even_of_tie_of_mul positive magnitude tie other

theorem absValue_nonneg (x : Binary64) : 0 ≤ x.absValue := by
  unfold absValue
  positivity

theorem abs_value (x : Binary64) : |x.value| = x.absValue := by
  unfold value
  split
  · rw [abs_neg, abs_of_nonneg x.absValue_nonneg]
  · exact abs_of_nonneg x.absValue_nonneg

/-- The sign of a number is that of `r`, which may be zero. -/
def SignOf (r : ℚ) (x : Binary64) : Prop := if x.negative then r ≤ 0 else 0 ≤ r

/-- With the sign of `r`, a number is as far from `r` as its absolute value is from that of `r`. -/
theorem abs_value_sub (sign : SignOf r x) : |x.value - r| = |x.absValue - (|r|)| := by
  unfold SignOf at sign
  unfold value
  split at sign
  · rw [if_pos ‹_›, abs_of_nonpos sign, ← abs_neg]
    congr 1
    ring
  · rw [if_neg ‹_›, abs_of_nonneg sign]

/-- Of a number and its opposite, only zero is as close to `r` as the other, unless `r` is zero. -/
theorem value_eq_of_opposite (opposite : y.value = -x.value) (tie : |y.value - r| = |x.value - r|)
    (hr : r ≠ 0) : y.value = x.value := by
  rw [opposite] at tie
  rcases abs_eq_abs.1 tie with same | mirrored
  · linarith
  · exact absurd (by linarith) hr

/-- The sign put to what the absolute value of `r` is rounded to, there is no number closer to `r`. -/
theorem isNearest_of_nearest (sign : SignOf r x) (magnitude : x.magnitude = nearest |r|)
    (finite : x.isFinite = true) : IsNearest r x where
  finite := finite
  least y _ := by
    calc |x.value - r| = |x.absValue - (|r|)| := abs_value_sub sign
      _ ≤ |y.absValue - (|r|)| := absValue_least (abs_nonneg r) magnitude y
      _ = |(|y.value|) - (|r|)| := by rw [abs_value]
      _ ≤ |y.value - r| := abs_abs_sub_abs_le _ _
  even y _ tie other := by
    by_cases apart : y.absValue = x.absValue
    · by_cases hr : r = 0
      · rw [magnitude, hr, abs_zero, nearest, if_pos rfl]
      · rw [← abs_value y, ← abs_value x] at apart
        have opposite := (abs_eq_abs.1 apart).resolve_left other
        exact absurd (value_eq_of_opposite opposite tie hr) other
    · have closer : |y.absValue - (|r|)| ≤ |x.absValue - (|r|)| := by
        rw [← abs_value y, ← abs_value_sub sign, ← tie]
        exact abs_abs_sub_abs_le _ _
      have same := le_antisymm closer (absValue_least (abs_nonneg r) magnitude y)
      exact even_of_tie (abs_nonneg r) magnitude same apart

end Nearest

section Integer

variable {t : ℤ}

/-- A positive number below a power of two has its last place below that power. -/
theorem lastPlace_le {r : ℚ} (hr : 0 < r) {n : ℕ} (hn : 52 ≤ n) (h : r < 2 ^ n) :
    lastPlace r ≤ (n : ℤ) - 53 := by
  have log : Int.log 2 r < n := by
    apply (Int.lt_zpow_iff_log_lt one_lt_two hr).1
    rw [zpow_natCast]
    exact_mod_cast h
  unfold lastPlace
  omega

theorem nearest_lt_infinite {r : ℚ} (hr : 0 ≤ r) (h : r < 2 ^ 1000) : nearest r < infinite := by
  unfold nearest
  split
  · decide
  · next nonzero =>
    have positive := lt_of_le_of_ne hr (Ne.symm nonzero)
    have place := lastPlace_le positive (by norm_num) h
    have short := (significand_bounds positive).1
    have unit : exponentUnit = 0x10000000000000 := rfl
    have top : infinite = 0x7FF0000000000000 := rfl
    rw [unit, top]
    omega

theorem magnitude_ofInt (h : |(t : ℚ)| < 2 ^ 1000) : (ofInt t).magnitude = nearest |(t : ℚ)| := by
  have size : ((t.natAbs : ℕ) : ℚ) / (1 : ℕ) = |(t : ℚ)| := by
    rw [Nat.cast_one, div_one, Nat.cast_natAbs, Int.cast_abs]
  rw [ofInt, ofRatio, ofMagnitude, magnitudeOf_eq t.natAbs one_pos, size]
  exact min_eq_left (nearest_lt_infinite (abs_nonneg _) h).le

theorem signOf_ofInt (t : ℤ) : SignOf t (ofInt t) := by
  have negative : (ofInt t).negative = decide (t < 0) := rfl
  unfold SignOf
  rw [negative]
  by_cases below : t < 0
  · rw [if_pos (decide_eq_true below)]
    exact_mod_cast below.le
  · rw [if_neg (by simpa using below)]
    exact_mod_cast not_lt.1 below

/-- An integer is rounded to the nearest number. -/
theorem isNearest_ofInt (h : |(t : ℚ)| < 2 ^ 1000) : IsNearest t (ofInt t) := by
  have magnitude := magnitude_ofInt h
  refine isNearest_of_nearest (signOf_ofInt t) magnitude ?_
  rw [isFinite, magnitude]
  exact decide_eq_true (nearest_lt_infinite (abs_nonneg _) h)

/-- A natural number of up to 53 digits is a multiple of its last place. -/
theorem exists_mul_lastPlace {n : ℕ} (positive : 0 < n) (h : n ≤ 2 ^ 53) :
    ∃ k : ℕ, (n : ℚ) = k * 2 ^ lastPlace n := by
  have hn : (0 : ℚ) < n := by exact_mod_cast positive
  have bound : (n : ℚ) ≤ 2 ^ 53 := by exact_mod_cast h
  rcases h.lt_or_eq with less | rfl
  · have place := lastPlace_le hn (by norm_num) (show (n : ℚ) < 2 ^ 53 by exact_mod_cast less)
    obtain ⟨m, down⟩ := Int.le.dest place
    refine ⟨n * 2 ^ m, ?_⟩
    have unit : (2 : ℚ) ^ m * 2 ^ lastPlace (n : ℚ) = 1 := by
      rw [← zpow_natCast, ← zpow_add₀ two_ne_zero, add_comm, down]
      norm_num
    rw [Nat.cast_mul, Nat.cast_pow, Nat.cast_ofNat, mul_assoc, unit, mul_one]
  · have log : Int.log 2 ((2 ^ 53 : ℕ) : ℚ) = 53 := by
      exact_mod_cast Int.log_zpow (R := ℚ) one_lt_two 53
    refine ⟨2 ^ 52, ?_⟩
    rw [lastPlace, log]
    norm_num

/-- A multiple of its last place is rounded to itself. -/
theorem absValue_of_mul_lastPlace {r : ℚ} {x : Binary64} {k : ℕ} (hr : 0 ≤ r)
    (magnitude : x.magnitude = nearest r) (multiple : r = k * 2 ^ lastPlace r) : x.absValue = r := by
  have closest := absValue_least_of_mul hr magnitude k
  rw [← multiple, sub_self, abs_zero] at closest
  exact sub_eq_zero.1 (abs_nonpos_iff.1 closest)

theorem absValue_ofInt (h : |t| ≤ 2 ^ 53) : (ofInt t).absValue = |(t : ℚ)| := by
  have size : |(t : ℚ)| = (t.natAbs : ℕ) := by rw [Nat.cast_natAbs, Int.cast_abs]
  have bound : |(t : ℚ)| ≤ 2 ^ 53 := by exact_mod_cast h
  have magnitude := magnitude_ofInt (bound.trans_lt (pow_lt_pow_right₀ one_lt_two (by norm_num)))
  rcases Nat.eq_zero_or_pos t.natAbs with none | positive
  · apply absValue_of_mul_lastPlace (k := 0) (abs_nonneg _) magnitude
    rw [size, none, Nat.cast_zero, zero_mul]
  · have digits : (t.natAbs : ℤ) ≤ 2 ^ 53 := by rwa [Int.natCast_natAbs]
    obtain ⟨k, multiple⟩ := exists_mul_lastPlace positive (by exact_mod_cast digits)
    rw [← size] at multiple
    exact absValue_of_mul_lastPlace (abs_nonneg _) magnitude multiple

/-- An integer of up to 53 digits is a number itself. -/
theorem value_ofInt (h : |t| ≤ 2 ^ 53) : (ofInt t).value = t := by
  have size := abs_value_sub (signOf_ofInt t)
  rw [absValue_ofInt h, sub_self, abs_zero] at size
  exact sub_eq_zero.1 (abs_eq_zero.1 size)

theorem value_eq_fraction (x : Binary64) : x.value = x.fraction.1 / x.fraction.2 := by
  have scaled := ratio_scaled two_pos x.significand 1 x.scale
  rw [one_mul, Nat.cast_one, div_one, Nat.cast_ofNat] at scaled
  unfold value absValue fraction
  rw [← scaled]
  split
  · push_cast
    rw [neg_div]
  · push_cast
    rfl

/-- A number whose value is an integer is cut to that integer. -/
theorem truncate_of_value {x : Binary64} (h : x.value = t) : x.truncate = t := by
  have positive : (0 : ℚ) < x.fraction.2 := by
    simp only [fraction]
    positivity
  have whole : x.fraction.1 = t * x.fraction.2 := by
    rw [value_eq_fraction, div_eq_iff positive.ne'] at h
    exact_mod_cast h
  change x.fraction.1.tdiv x.fraction.2 = t
  rw [whole]
  exact Int.mul_tdiv_cancel t (by exact_mod_cast positive.ne')

end Integer

end PeakSlowness.Binary64
