import Mathlib
import PeakSlowness.Proofs.Field
import PeakSlowness.Proofs.Number.Spelling

set_option autoImplicit false

/-!
Fields as they are written. An integer in decimal and a finite number in its shortest text are read
back in either mode: strict reading takes them whole, and lenient reading agrees with it.
-/

namespace PeakSlowness

open Text

namespace Text

theorem isBlank_of_isDigit {c : Char} (h : isDigit c = true) : isBlank c = false := by
  cases blank : isBlank c with
  | false => rfl
  | true => rw [isDigit_of_isBlank blank] at h; cases h

theorem isSpace_of_isDigit {c : Char} (h : isDigit c = true) : isSpace c = false := by
  have no_blank := isBlank_of_isDigit h
  rw [isBlank, Bool.or_eq_false_iff] at no_blank
  exact no_blank.1

theorem dropWhile_of_not {p : Char → Bool} {text : List Char} (h : ∀ c ∈ text, p c = false) :
    text.dropWhile p = text := by
  cases text with
  | nil => rfl
  | cons c rest => rw [List.dropWhile_cons, h c List.mem_cons_self, if_neg Bool.false_ne_true]

theorem dropEnd_of_not {p : Char → Bool} {text : List Char} (h : ∀ c ∈ text, p c = false) :
    dropEnd p text = text := by
  rw [dropEnd, dropWhile_of_not fun c hc => h c (List.mem_reverse.1 hc), List.reverse_reverse]

theorem trim_of_not_isBlank {text : List Char} (h : ∀ c ∈ text, isBlank c = false) :
    trim text = text := by
  rw [trim, trimBy, dropWhile_of_not h, dropEnd_of_not h]

end Text

namespace Numeral

theorem inRun_eq (c : Char) : ((digitIn? 10 c).isSome || c == '_') = inRun c := by
  rw [digitIn?_ten]
  rfl

theorem not_mem_underscore {digits : List Char} (h : ∀ c ∈ digits, isDigit c = true) :
    '_' ∉ digits := fun hc => absurd (h _ hc) (by decide)

theorem groupsWell_of_not_mem {text : List Char} (h : '_' ∉ text) : groupsWell text = true := by
  induction text with
  | nil => rfl
  | cons c rest ih =>
    rw [List.mem_cons, not_or] at h
    unfold groupsWell
    split
    · rfl
    · next same => exact absurd (List.cons.inj same).1.symm h.1
    · next same => exact absurd (List.cons.inj same).1.symm h.1
    · next same =>
      cases same
      exact ih h.2

/-- A sign and then only digits, not too many of them, are read whole. -/
theorem read_of_digits {text digits : List Char} {negative : Bool}
    (sign : splitSign (text.dropWhile isSpace) = (negative, digits)) (some_digit : digits ≠ [])
    (all : ∀ c ∈ digits, isDigit c = true) (short : digits.length ≤ digitLimit) :
    read text = .ok (signed negative (decimalValue digits)) := by
  have run : digits.takeWhile inRun = digits :=
    List.takeWhile_eq_self_iff.2 fun c hc => inRun_of_isDigit (all c hc)
  have behind : digits.dropWhile inRun = [] :=
    List.dropWhile_eq_nil_iff.2 fun c hc => inRun_of_isDigit (all c hc)
  have plain := not_mem_underscore all
  have first : digits.head? ≠ some '_' := fun hc => plain (List.mem_of_mem_head? hc)
  have values : digits.filterMap (digitIn? 10) = digits.map digitValue := by
    rw [funext digitIn?_ten, filterMap_digitValue? all]
  have present : (digits.map digitValue).isEmpty = false := by
    simpa using some_digit
  unfold read readIn readShown
  simp only [sign, dropBaseMark_ten, inRun_eq, run, behind, values, groupsWell_of_not_mem plain,
    present, Bool.not_true, Bool.or_false, decide_eq_true_eq, if_neg first, List.all_nil,
    Bool.false_eq_true, if_false]
  rw [if_neg (by simpa using fun _ => short)]
  rfl

/-- A decimal integer in writing: a sign or none, and then digits, no more than are read. -/
structure WrittenInteger where
  minus : Option Bool
  digits : List Char
  some_digit : digits ≠ []
  all_digits : ∀ c ∈ digits, isDigit c = true
  short : digits.length ≤ digitLimit

namespace WrittenInteger

def text (n : WrittenInteger) : List Char :=
  (match n.minus with
    | none => []
    | some false => ['+']
    | some true => ['-']) ++ n.digits

def value (n : WrittenInteger) : ℤ := signed (n.minus == some true) (decimalValue n.digits)

theorem read_text (n : WrittenInteger) : read n.text = .ok n.value := by
  obtain ⟨minus, digits, some_digit, all_digits, short⟩ := n
  obtain ⟨c, rest, rfl⟩ := List.exists_cons_of_ne_nil some_digit
  have digit : isDigit c = true := all_digits c List.mem_cons_self
  have no_space : isSpace c = false := isSpace_of_isDigit digit
  have minus_no_space : isSpace '-' = false := by decide
  have plus_no_space : isSpace '+' = false := by decide
  refine read_of_digits ?_ some_digit all_digits short
  rcases minus with _ | _ | _
  · simp [text, no_space, splitSign_of_isDigit digit]
  · simp [text, plus_no_space, splitSign]
  · simp [text, minus_no_space, splitSign]

end WrittenInteger

/-- An integer in decimal: a minus if it is negative, and the digits of its absolute value. -/
theorem toList_toString (n : ℤ) :
    (toString n).toList = (if n < 0 then ['-'] else []) ++ Nat.toDigits 10 n.natAbs := by
  cases n with
  | ofNat m =>
    rw [if_neg (by simp)]
    exact Nat.toList_repr
  | negSucc m =>
    rw [if_pos (Int.negSucc_lt_zero m)]
    have minus : toString (Int.negSucc m) = "-" ++ Nat.repr (m + 1) := rfl
    rw [minus, String.toList_append, Nat.toList_repr]
    rfl

/-- The characters of an integer in decimal. -/
theorem mem_toString {n : ℤ} : ∀ c ∈ (toString n).toList, c.isDigit = true ∨ c = '-' := by
  intro c hc
  rw [toList_toString, List.mem_append] at hc
  rcases hc with hc | hc
  · split at hc
    · exact .inr (List.mem_singleton.1 hc)
    · cases hc
  · exact .inl (latin_toDigits _ c hc)

/-- An integer of not too many digits is read from its decimal text. -/
theorem read_toString {n : ℤ} (h : n.natAbs < 10 ^ digitLimit) :
    read (toString n).toList = .ok n := by
  let written : WrittenInteger :=
    { minus := if n < 0 then some true else none
      digits := Nat.toDigits 10 n.natAbs
      some_digit := Nat.toDigits_ne_nil
      all_digits := (latin_toDigits n.natAbs).isDigit
      short := (Nat.length_toDigits_le_iff (by decide) (by decide)).2 h }
  have text : (toString n).toList = written.text := by
    rw [toList_toString]
    by_cases below : n < 0 <;> simp [written, WrittenInteger.text, below]
  have value : written.value = n := by
    have sign : ((if n < 0 then some true else none) == some true) = decide (n < 0) := by
      by_cases below : n < 0 <;> simp [below]
    simp only [written, WrittenInteger.value, sign, decimalValue_toDigits, signed_natAbs]
  rw [text, written.read_text, value]

end Numeral

namespace Field

/-- The characters that fields are written with here. None of them is a blank, and none ends a field
or a line. -/
def Legible (text : List Char) : Prop := ∀ c ∈ text, c.isDigit = true ∨ c ∈ ['.', 'e', '+', '-']

theorem Legible.not_mem {text : List Char} (h : Legible text) {c : Char} (hd : c.isDigit = false)
    (hm : c ∉ ['.', 'e', '+', '-']) : c ∉ text := by
  intro hc
  rcases h c hc with digit | mark
  · rw [hd] at digit
    cases digit
  · exact hm mark

theorem Legible.no_comma {text : List Char} (h : Legible text) : ',' ∉ text :=
  h.not_mem (by decide) (by decide)

theorem Legible.not_isBlank {text : List Char} (h : Legible text) :
    ∀ c ∈ text, isBlank c = false := by
  intro c hc
  rcases h c hc with digit | mark
  · exact isBlank_of_isDigit (isDigit_of_latin digit)
  · simp only [List.mem_cons, List.not_mem_nil, or_false] at mark
    rcases mark with rfl | rfl | rfl | rfl <;> decide

theorem Legible.trim {text : List Char} (h : Legible text) : trim text = text :=
  trim_of_not_isBlank h.not_isBlank

theorem legible_toString (n : ℤ) : Legible (toString n).toList := by
  intro c hc
  rcases Numeral.mem_toString c hc with digit | rfl
  · exact .inl digit
  · exact .inr (by decide)

theorem legible_write {x : Binary64} (h : x.isFinite = true) : Legible x.write :=
  Binary64.mem_write h

/-- An integer that is written in decimal is read back in either mode. -/
theorem integer_toString (mode : Mode) {n : ℤ} (h : n.natAbs < 10 ^ Numeral.digitLimit) :
    integer mode (toString n).toList = .ok n := by
  have strict : integer .strict (toString n).toList = .ok n := by
    rw [integer, (legible_toString n).trim, Numeral.read_toString h]
    rfl
  cases mode with
  | strict => exact strict
  | lenient =>
    obtain ⟨m, lenient, same⟩ := integer_lenient_of_strict strict
    rw [lenient, same ((legible_toString n).not_mem (by decide) (by decide))]

/-- A finite number that is written in its shortest text is read back in either mode. -/
theorem decimal_write (mode : Mode) {x : Binary64} (h : x.isFinite = true) :
    decimal mode x.write = .ok x := by
  have strict : decimal .strict x.write = .ok x := by
    obtain ⟨d, written, value⟩ := Binary64.writtenAs_write h
    rw [decimal, (legible_write h).trim, DecimalText.whole?_eq_some_iff.2 written]
    exact congrArg _ value
  cases mode with
  | strict => exact strict
  | lenient => exact decimal_lenient_of_strict strict

end Field

end PeakSlowness
