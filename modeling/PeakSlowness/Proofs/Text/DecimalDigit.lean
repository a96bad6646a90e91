import Mathlib
import PeakSlowness.Text.DecimalDigit

set_option autoImplicit false

/-!
Digits as numbers are written with them, zero to nine. Reading takes digits of any script, so these
as well, and the digits that a number is written with have its value.
-/

namespace PeakSlowness.Text

/-- Nothing but the digits `0` to `9`. -/
def Latin (text : List Char) : Prop := ∀ c ∈ text, c.isDigit = true

theorem latin_cons {c : Char} {text : List Char} :
    Latin (c :: text) ↔ c.isDigit = true ∧ Latin text :=
  List.forall_mem_cons

theorem latin_append {first second : List Char} :
    Latin (first ++ second) ↔ Latin first ∧ Latin second :=
  List.forall_mem_append

theorem latin_replicate_zero (n : ℕ) : Latin (List.replicate n '0') := by
  intro c hc
  rw [List.eq_of_mem_replicate hc]
  rfl

theorem latin_toDigits (n : ℕ) : Latin (Nat.toDigits 10 n) := fun _ hc =>
  Nat.isDigit_of_mem_toDigits (by decide) (by decide) hc

theorem Latin.sublist {first second : List Char} (h : Latin second) (hs : first.Sublist second) :
    Latin first := fun c hc => h c (hs.subset hc)

theorem digitValue?_of_latin {c : Char} (h : c.isDigit = true) :
    digitValue? c = some (c.toNat - '0'.toNat) := by
  simp only [Char.isDigit, Bool.and_eq_true, decide_eq_true_eq, UInt32.le_iff_toNat_le] at h
  have low : 0x30 ≤ c.toNat := h.1
  have high : c.toNat < 0x30 + 10 := Nat.lt_succ_of_le h.2
  simp [digitValue?, digitZeros, low, high]

theorem isDigit_of_latin {c : Char} (h : c.isDigit = true) : isDigit c = true := by
  rw [isDigit, digitValue?_of_latin h, Option.isSome_some]

theorem Latin.isDigit {text : List Char} (h : Latin text) : ∀ c ∈ text, isDigit c = true :=
  fun c hc => isDigit_of_latin (h c hc)

theorem decimalValue_of_latin {text : List Char} (h : Latin text) :
    decimalValue text = Nat.ofDigitChars 10 text 0 := by
  rw [Nat.ofDigitChars_eq_foldl, decimalValue, digitsValue, List.foldl_map]
  refine List.foldl_ext _ _ _ fun value c hc => ?_
  rw [digitValue, digitValue?_of_latin (h c hc), Option.getD_some]

theorem decimalValue_append {first second : List Char} (hf : Latin first) (hs : Latin second) :
    decimalValue (first ++ second) =
      10 ^ second.length * decimalValue first + decimalValue second := by
  rw [decimalValue_of_latin hf, decimalValue_of_latin hs,
    decimalValue_of_latin (latin_append.2 ⟨hf, hs⟩),
    Nat.ofDigitChars_append, Nat.ofDigitChars_eq_ofDigitChars_zero]

theorem decimalValue_replicate_zero (n : ℕ) : decimalValue (List.replicate n '0') = 0 := by
  rw [decimalValue_of_latin (latin_replicate_zero n), Nat.ofDigitChars_replicate_zero, Nat.mul_zero]

theorem decimalValue_toDigits (n : ℕ) : decimalValue (Nat.toDigits 10 n) = n := by
  rw [decimalValue_of_latin (latin_toDigits n), Nat.ofDigitChars_ten_toDigits]

end PeakSlowness.Text
