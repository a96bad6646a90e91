import Mathlib
import PeakSlowness.Number.Shortest
import PeakSlowness.Proofs.Number.Grammar
import PeakSlowness.Proofs.Number.Rounding
import PeakSlowness.Proofs.Text.DecimalDigit

set_option autoImplicit false

/-!
Numbers in writing read back. A number is written in one of two ways, with digits on both sides of a
point or with an exponent behind a leading digit. Either way follows the grammar of numbers, and
says the value that was written, so a finite number comes back bit for bit.
-/

namespace PeakSlowness

open Text

theorem Numeral.signed_natAbs (n : ℤ) : signed (decide (n < 0)) n.natAbs = n := by
  by_cases h : n < 0
  · simp only [signed, h, decide_true, if_true]
    omega
  · simp only [signed, h, decide_false, Bool.false_eq_true, if_false]
    omega

/-- The sign of an exponent. -/
def exponentSign (negative : Bool) : Char := if negative then '-' else '+'

/-- The ways a number that is not negative is written, with the value in writing. -/
inductive Spells : List Char → ℚ → Prop
  | positional {whole part : List Char} (some_whole : whole ≠ []) (latin_whole : Latin whole)
      (latin_part : Latin part) :
      Spells (whole ++ '.' :: part) (decimalValue (whole ++ part) * 10 ^ (-(part.length : ℤ)))
  | scientific {digit : Char} {part power : List Char} (negative : Bool)
      (latin_digit : digit.isDigit = true) (latin_part : Latin part) (some_power : power ≠ [])
      (latin_power : Latin power) :
      Spells (digit :: ((if part = [] then [] else '.' :: part) ++
          'e' :: exponentSign negative :: power))
        (decimalValue (digit :: part) *
          10 ^ (Numeral.signed negative (decimalValue power) - part.length))

namespace Spells

variable {text : List Char} {r : ℚ}

/-- What is written begins with a digit. -/
theorem exists_digit (h : Spells text r) : ∃ c rest, text = c :: rest ∧ c.isDigit = true := by
  cases h with
  | @positional whole part some_whole latin_whole _ =>
    obtain ⟨c, rest, rfl⟩ := List.exists_cons_of_ne_nil some_whole
    exact ⟨c, rest ++ '.' :: part, rfl, latin_whole c List.mem_cons_self⟩
  | scientific _ latin_digit => exact ⟨_, _, rfl, latin_digit⟩

/-- The characters in use: digits, the point, the mark of the exponent and its sign. -/
theorem mem (h : Spells text r) : ∀ c ∈ text, c.isDigit = true ∨ c ∈ ['.', 'e', '+', '-'] := by
  intro c hc
  cases h with
  | positional _ latin_whole latin_part =>
    rcases List.mem_append.1 hc with hc | hc
    · exact .inl (latin_whole c hc)
    · rcases List.mem_cons.1 hc with rfl | hc
      · exact .inr (by decide)
      · exact .inl (latin_part c hc)
  | @scientific digit part power negative latin_digit latin_part _ latin_power =>
    have point : c ∈ (if part = [] then [] else '.' :: part) → c = '.' ∨ c ∈ part := by
      split
      · exact nofun
      · exact List.mem_cons.1
    have sign : exponentSign negative ∈ ['.', 'e', '+', '-'] := by cases negative <;> decide
    simp only [List.mem_cons, List.mem_append] at hc
    rcases hc with rfl | hc | rfl | rfl | hc
    · exact .inl latin_digit
    · rcases point hc with rfl | hc
      · exact .inr (by decide)
      · exact .inl (latin_part c hc)
    · exact .inr (by decide)
    · exact .inr sign
    · exact .inl (latin_power c hc)

end Spells

namespace Spells

open DecimalText (MantissaAs ExponentAs WrittenAs)
open Numeral (SignAs)

theorem signAs_minus (negative : Bool) : SignAs (if negative then ['-'] else []) negative := by
  cases negative with
  | false => exact .none
  | true => exact .minus

theorem signAs_exponentSign (negative : Bool) : SignAs [exponentSign negative] negative := by
  cases negative with
  | false => exact .plus
  | true => exact .minus

/-- What is written follows the grammar, with a minus or without, and says its value. -/
theorem exists_writtenAs {text : List Char} {r : ℚ} (h : Spells text r) (negative : Bool) :
    ∃ d, WrittenAs ((if negative then ['-'] else []) ++ text) d ∧ d.negative = negative ∧
      (decimalValue d.digits : ℚ) * 10 ^ d.exponent = r := by
  have sign := signAs_minus negative
  cases h with
  | @positional whole part some_whole latin_whole latin_part =>
    have mantissa := MantissaAs.point ⟨some_whole, latin_whole.isDigit⟩ latin_part.isDigit
    have written := WrittenAs.mk sign mantissa .none
    rw [List.append_nil] at written
    exact ⟨_, written, rfl, by rw [zero_sub]⟩
  | @scientific digit part power below latin_digit latin_part some_power latin_power =>
    have one : Digits [digit] :=
      ⟨List.cons_ne_nil digit [], List.forall_mem_singleton.2 (isDigit_of_latin latin_digit)⟩
    have exponent := ExponentAs.power (.inl rfl) (signAs_exponentSign below)
      ⟨some_power, latin_power.isDigit⟩
    have mantissa : MantissaAs (digit :: (if part = [] then [] else '.' :: part)) [digit] part := by
      split
      · next none => exact none ▸ .whole one
      · exact .point one latin_part.isDigit
    have written := WrittenAs.mk sign mantissa exponent
    rw [List.append_assoc] at written
    exact ⟨_, written, rfl, rfl⟩

end Spells

namespace Binary64

section LayOut

variable {digits : List Char} {top : ℤ}

theorem spells_layOut_of_neg (hl : Latin digits) (low : -4 ≤ top) (high : top < 0) :
    Spells (layOut digits top) (decimalValue digits * 10 ^ (top + 1 - digits.length)) := by
  have zero : Latin ['0'] := latin_replicate_zero 1
  have latin := latin_append.2 ⟨latin_replicate_zero (-top - 1).toNat, hl⟩
  have spelled := Spells.positional (List.cons_ne_nil '0' []) zero latin
  have value : decimalValue (['0'] ++ (List.replicate (-top - 1).toNat '0' ++ digits)) =
      decimalValue digits := by
    have none : decimalValue ['0'] = 0 := decimalValue_replicate_zero 1
    rw [decimalValue_append zero latin, decimalValue_append (latin_replicate_zero _) hl,
      decimalValue_replicate_zero, none, Nat.mul_zero, Nat.mul_zero, Nat.zero_add, Nat.zero_add]
  have place : -((List.replicate (-top - 1).toNat '0' ++ digits).length : ℤ) =
      top + 1 - digits.length := by
    rw [List.length_append, List.length_replicate]
    omega
  rw [value, place] at spelled
  simpa [layOut, low, high, show top < 16 by omega] using spelled

theorem spells_layOut_of_lt_length (hl : Latin digits) {n : ℕ} (high : n < 16)
    (long : n + 1 < digits.length) :
    Spells (layOut digits n) (decimalValue digits * 10 ^ ((n : ℤ) + 1 - digits.length)) := by
  have some_whole : digits.take (n + 1) ≠ [] := by
    rw [Ne, List.take_eq_nil_iff]
    rintro (none | rfl)
    · cases none
    · cases long
  have spelled := Spells.positional some_whole (hl.sublist (List.take_sublist ..))
    (hl.sublist (List.drop_sublist (n + 1) _))
  have place : -((digits.drop (n + 1)).length : ℤ) = n + 1 - digits.length := by
    rw [List.length_drop]
    omega
  have no_zeros : n + 1 - digits.length = 0 := by omega
  rw [List.take_append_drop, place] at spelled
  simpa [layOut, high, no_zeros, long.not_ge, show -4 ≤ (n : ℤ) by omega,
    show ¬ (n : ℤ) < 0 by omega]
    using spelled

theorem spells_layOut_of_length_le (hn : digits ≠ []) (hl : Latin digits) {n : ℕ} (high : n < 16)
    (short : digits.length ≤ n + 1) :
    Spells (layOut digits n) (decimalValue digits * 10 ^ ((n : ℤ) + 1 - digits.length)) := by
  have zero : Latin ['0'] := latin_replicate_zero 1
  have zeros := latin_replicate_zero (n + 1 - digits.length)
  have spelled := Spells.positional (List.append_ne_nil_of_left_ne_nil hn _)
    (latin_append.2 ⟨hl, zeros⟩) zero
  have value : (decimalValue (digits ++ List.replicate (n + 1 - digits.length) '0' ++ ['0']) : ℚ) *
      10 ^ (-(['0'].length : ℤ)) = decimalValue digits * 10 ^ ((n : ℤ) + 1 - digits.length) := by
    have none : decimalValue ['0'] = 0 := decimalValue_replicate_zero 1
    rw [decimalValue_append (latin_append.2 ⟨hl, zeros⟩) zero, decimalValue_append hl zeros,
      decimalValue_replicate_zero, none, List.length_replicate,
      show (n : ℤ) + 1 - digits.length = (n + 1 - digits.length : ℕ) by omega]
    push_cast
    rw [List.length_singleton, zpow_natCast]
    ring
  rw [value] at spelled
  simpa [layOut, high, short, List.take_of_length_le short, List.drop_of_length_le short,
    show -4 ≤ (n : ℤ) by omega, show ¬ (n : ℤ) < 0 by omega] using spelled

/-- The digits of an exponent. One digit alone gets a zero in front, which does not count. -/
def exponentDigits (n : ℕ) : List Char :=
  if (Nat.toDigits 10 n).length < 2 then '0' :: Nat.toDigits 10 n else Nat.toDigits 10 n

theorem exponentDigits_ne_nil (n : ℕ) : exponentDigits n ≠ [] := by
  unfold exponentDigits
  split
  · exact List.cons_ne_nil _ _
  · exact Nat.toDigits_ne_nil

theorem latin_exponentDigits (n : ℕ) : Latin (exponentDigits n) := by
  unfold exponentDigits
  split
  · exact latin_cons.2 ⟨rfl, latin_toDigits n⟩
  · exact latin_toDigits n

theorem decimalValue_exponentDigits (n : ℕ) : decimalValue (exponentDigits n) = n := by
  unfold exponentDigits
  split
  · have none : decimalValue ['0'] = 0 := decimalValue_replicate_zero 1
    have value := decimalValue_append (latin_replicate_zero 1) (latin_toDigits n)
    simpa [none, decimalValue_toDigits] using value
  · exact decimalValue_toDigits n

theorem spells_layOut_of_large (hn : digits ≠ []) (hl : Latin digits)
    (large : ¬ (-4 ≤ top ∧ top < 16)) :
    Spells (layOut digits top) (decimalValue digits * 10 ^ (top + 1 - digits.length)) := by
  obtain ⟨digit, part, rfl⟩ := List.exists_cons_of_ne_nil hn
  obtain ⟨latin_digit, latin_part⟩ := latin_cons.1 hl
  have spelled := Spells.scientific (decide (top < 0)) latin_digit latin_part
    (exponentDigits_ne_nil top.natAbs) (latin_exponentDigits _)
  have place : top - (part.length : ℤ) = top + 1 - (digit :: part).length := by
    rw [List.length_cons]
    omega
  rw [decimalValue_exponentDigits, Numeral.signed_natAbs, place] at spelled
  have written : layOut (digit :: part) top =
      digit :: ((if part = [] then [] else '.' :: part) ++
        'e' :: exponentSign (decide (top < 0)) :: exponentDigits top.natAbs) := by
    unfold layOut
    rw [if_neg (by simpa using large)]
    cases part <;> simp [exponentSign, exponentDigits]
  rwa [written]

/-- Digits laid out are written in one of the two ways, and keep their value. -/
theorem spells_layOut (hn : digits ≠ []) (hl : Latin digits) (top : ℤ) :
    Spells (layOut digits top) (decimalValue digits * 10 ^ (top + 1 - digits.length)) := by
  by_cases positional : -4 ≤ top ∧ top < 16
  · by_cases fraction : top < 0
    · exact spells_layOut_of_neg hl positional.1 fraction
    · obtain ⟨n, rfl⟩ := Int.eq_ofNat_of_zero_le (not_lt.1 fraction)
      have high : n < 16 := by omega
      by_cases long : n + 1 < digits.length
      · exact spells_layOut_of_lt_length hl high long
      · exact spells_layOut_of_length_le hn hl high (not_lt.1 long)
  · exact spells_layOut_of_large hn hl positional

end LayOut

theorem value_stripZeros (d : Decimal) (fuel : ℕ) :
    ((d.stripZeros fuel).digits : ℚ) * 10 ^ (d.stripZeros fuel).exponent =
      d.digits * 10 ^ d.exponent := by
  induction fuel generalizing d with
  | zero => rfl
  | succ fuel ih =>
    unfold Decimal.stripZeros
    split
    · next strip =>
      have tenfold : (d.digits : ℚ) = 10 * (d.digits / 10 : ℕ) := by
        exact_mod_cast (Nat.mul_div_cancel' (Nat.dvd_of_mod_eq_zero strip.2)).symm
      rw [ih, tenfold]
      dsimp only
      rw [zpow_add_one₀ (by norm_num)]
      ring
    · rfl

theorem value_exactDecimal (x : Binary64) :
    ((exactDecimal x.fraction.1.natAbs x.fraction.2).digits : ℚ) *
      10 ^ (exactDecimal x.fraction.1.natAbs x.fraction.2).exponent = x.absValue := by
  have num : x.fraction.1.natAbs = x.significand * 2 ^ x.scale.toNat := by
    unfold fraction
    dsimp only
    split
    · rw [Int.natAbs_neg, Int.natAbs_natCast]
    · rw [Int.natAbs_natCast]
  have den : x.fraction.2.log2 = (-x.scale).toNat := Nat.log2_two_pow
  have scaled := ratio_scaled two_pos x.significand 1 x.scale
  rw [Nat.cast_one, div_one, Nat.cast_ofNat, one_mul] at scaled
  rw [absValue, ← scaled, exactDecimal, num, den]
  generalize (-x.scale).toNat = n
  have ten : (10 : ℚ) ^ n = 5 ^ n * 2 ^ n := by
    rw [← mul_pow]
    norm_num
  rw [zpow_neg, zpow_natCast, ten]
  push_cast
  field_simp

theorem ofDecimal_shortest {x : Binary64} (h : x.isFinite = true) :
    ofDecimal x.negative x.shortest.digits x.shortest.exponent = x := by
  unfold shortest
  dsimp only
  cases found : List.find? _ _ with
  | some d =>
    have reads := List.find?_some found
    exact eq_of_beq reads
  | none => exact ofDecimal_of_absValue h (value_exactDecimal x)

/-- A finite number is written with a value that is rounded to it. -/
theorem spells_writeFinite {x : Binary64} (h : x.isFinite = true) :
    ∃ r, Spells (writeFinite x) r ∧ ofMagnitude x.negative (nearest r) = x := by
  unfold writeFinite
  split
  · next zero =>
    have digit : Latin ['0'] := latin_replicate_zero 1
    refine ⟨_, Spells.positional (List.cons_ne_nil '0' []) digit digit, ?_⟩
    have none : decimalValue (['0'] ++ ['0']) = 0 := decimalValue_replicate_zero 2
    have magnitude : x.magnitude = 0 := by simpa [isZero] using zero
    rw [none, Nat.cast_zero, zero_mul, nearest, if_pos rfl, ← magnitude]
    exact ofMagnitude_magnitude h
  · have spelled := spells_layOut Nat.toDigits_ne_nil
      (latin_toDigits (x.shortest.stripZeros x.shortest.digits.log2).digits)
      ((x.shortest.stripZeros x.shortest.digits.log2).exponent +
        (Nat.toDigits 10 (x.shortest.stripZeros x.shortest.digits.log2).digits).length - 1)
    refine ⟨_, spelled, ?_⟩
    rw [decimalValue_toDigits, sub_add_cancel, add_sub_cancel_right, value_stripZeros,
      ← ofDecimal_eq,
      ofDecimal_shortest h]

theorem write_of_isFinite {x : Binary64} (h : x.isFinite = true) :
    x.write = (if x.negative then ['-'] else []) ++ writeFinite x := by
  have bound : x.magnitude < infinite := by simpa [isFinite] using h
  simp [write, isNaN, isInfinite, Nat.not_lt.2 bound.le, bound.ne]

/-- A finite number in writing follows the grammar, and says itself bit for bit. -/
theorem writtenAs_write {x : Binary64} (h : x.isFinite = true) :
    ∃ d, DecimalText.WrittenAs x.write d ∧ d.value = x := by
  obtain ⟨r, spelled, rounds⟩ := spells_writeFinite h
  obtain ⟨d, written, sign, value⟩ := spelled.exists_writtenAs x.negative
  refine ⟨d, ?_, ?_⟩
  · rw [write_of_isFinite h]
    exact written
  · rw [DecimalText.value, ofDecimal_eq, sign, value, rounds]

/-- The characters of a finite number in writing. -/
theorem mem_write {x : Binary64} (h : x.isFinite = true) :
    ∀ c ∈ x.write, c.isDigit = true ∨ c ∈ ['.', 'e', '+', '-'] := by
  intro c hc
  obtain ⟨r, spelled, -⟩ := spells_writeFinite h
  rw [write_of_isFinite h] at hc
  rcases List.mem_append.1 hc with hc | hc
  · have minus : c = '-' := by
      split at hc
      · exact List.mem_singleton.1 hc
      · cases hc
    rw [minus]
    exact .inr (by decide)
  · exact spelled.mem c hc

end Binary64

end PeakSlowness
