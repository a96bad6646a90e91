import Mathlib.Computability.Language
import Mathlib.Data.List.TakeWhile
import PeakSlowness.Number.DecimalText
import PeakSlowness.Number.Numeral

set_option autoImplicit false

/-!
The grammar of decimal numbers. A number has a sign or none, then digits with a point behind, among
or before them or none, then an exponent or none. Reading at the head of a text takes the longest
piece that follows the grammar, and never goes back for it: a point or a letter that could lead on
and does not is left where it stands.
-/

namespace PeakSlowness

open Text
open scoped Computability

namespace Text

/-- A run of digits, at least one. -/
structure Digits (text : List Char) : Prop where
  some_digit : text ≠ []
  all_digits : ∀ c ∈ text, isDigit c = true

/-- No digit at the head of the text. -/
def NoDigitFirst (text : List Char) : Prop := text.takeWhile isDigit = []

theorem NoDigitFirst.dropWhile {text : List Char} (h : NoDigitFirst text) :
    text.dropWhile isDigit = text := by
  have whole := List.takeWhile_append_dropWhile (p := isDigit) (l := text)
  rwa [h, List.nil_append] at whole

theorem NoDigitFirst.append {text : List Char} (h : NoDigitFirst text) (hn : text ≠ [])
    (rest : List Char) : NoDigitFirst (text ++ rest) := by
  obtain ⟨c, more, rfl⟩ := List.exists_cons_of_ne_nil hn
  unfold NoDigitFirst at *
  rw [List.cons_append, List.takeWhile_cons]
  split
  · next digit => simp [digit] at h
  · rfl

theorem noDigitFirst_dropWhile (text : List Char) : NoDigitFirst (text.dropWhile isDigit) := by
  have first := List.head?_dropWhile_not isDigit text
  unfold NoDigitFirst
  cases h : text.dropWhile isDigit with
  | nil => rfl
  | cons c rest =>
    rw [h] at first
    exact List.takeWhile_cons_of_neg (by simpa using first)

theorem digits_takeWhile (text : List Char) (h : text.takeWhile isDigit ≠ []) :
    Digits (text.takeWhile isDigit) := ⟨h, fun _ => List.mem_takeWhile_imp⟩

/-- A run of digits ends where no digit follows. -/
theorem takeWhile_digits {digits rest : List Char} (h : ∀ c ∈ digits, isDigit c = true)
    (ends : NoDigitFirst rest) : (digits ++ rest).takeWhile isDigit = digits := by
  rw [List.takeWhile_append_of_pos h, ends, List.append_nil]

theorem dropWhile_digits {digits rest : List Char} (h : ∀ c ∈ digits, isDigit c = true)
    (ends : NoDigitFirst rest) : (digits ++ rest).dropWhile isDigit = rest := by
  rw [List.dropWhile_append_of_pos h, ends.dropWhile]

theorem noDigitFirst_cons {c : Char} (h : isDigit c = false) (rest : List Char) :
    NoDigitFirst (c :: rest) := List.takeWhile_cons_of_neg (by simp [h])

end Text

namespace Numeral

/-- The ways to write a sign, with what it says: true for a minus. -/
inductive SignAs : List Char → Bool → Prop
  | none : SignAs [] false
  | plus : SignAs ['+'] false
  | minus : SignAs ['-'] true

theorem exists_signAs (text : List Char) :
    ∃ sign, text = sign ++ (splitSign text).2 ∧ SignAs sign (splitSign text).1 := by
  unfold splitSign
  split
  · exact ⟨_, rfl, .plus⟩
  · exact ⟨_, rfl, .minus⟩
  · exact ⟨_, rfl, .none⟩

theorem SignAs.splitSign_append {sign text : List Char} {negative : Bool} (h : SignAs sign negative)
    (unsigned : splitSign text = (false, text)) :
    splitSign (sign ++ text) = (negative, text) := by
  cases h with
  | none => exact unsigned
  | plus => rfl
  | minus => rfl

theorem splitSign_of_isDigit {c : Char} (h : isDigit c = true) (rest : List Char) :
    splitSign (c :: rest) = (false, c :: rest) := by
  unfold splitSign
  split
  · next same =>
    cases same
    exact absurd h (by decide)
  · next same =>
    cases same
    exact absurd h (by decide)
  · rfl

theorem splitSign_digits_append {digits : List Char} (h : Digits digits) (rest : List Char) :
    splitSign (digits ++ rest) = (false, digits ++ rest) := by
  obtain ⟨c, more, rfl⟩ := List.exists_cons_of_ne_nil h.some_digit
  exact splitSign_of_isDigit (h.all_digits c List.mem_cons_self) _

end Numeral

namespace DecimalText

open Numeral (SignAs signed)

theorem sign_eq_splitSign (text : List Char) : sign text = Numeral.splitSign text := by
  unfold sign
  split
  · rfl
  · rfl
  · next plus minus => rw [Numeral.splitSign.eq_def]; split <;> simp_all

/-! ### The grammar as a language -/

/-- A digit of any script. -/
def digit : Language Char := {text | ∃ c, isDigit c = true ∧ text = [c]}

/-- Digits, at least one. -/
def runs : Language Char := digit * digit∗

def signs : Language Char := 1 + {['+']} + {['-']}

/-- Digits, and behind them or among them a point or none, or digits behind a point. -/
def mantissas : Language Char := runs * (1 + {['.']} * digit∗) + {['.']} * runs

def exponents : Language Char := 1 + ({['e']} + {['E']}) * signs * runs

def numbers : Language Char := signs * mantissas * exponents

theorem mem_only {text other : List Char} : text ∈ ({other} : Language Char) ↔ text = other := Iff.rfl

theorem mem_digit_kstar {text : List Char} : text ∈ digit∗ ↔ ∀ c ∈ text, isDigit c = true := by
  rw [Language.mem_kstar]
  constructor
  · rintro ⟨pieces, rfl, each⟩ c hc
    obtain ⟨piece, hp, inside⟩ := List.mem_flatten.1 hc
    obtain ⟨d, hd, rfl⟩ := each piece hp
    rwa [List.mem_singleton.1 inside]
  · intro all
    have pieces : text = (text.map fun c => [c]).flatten := by simp [← List.flatMap_def]
    exact ⟨_, pieces, List.forall_mem_map.2 fun c hc => ⟨c, all c hc, rfl⟩⟩

theorem mem_runs {text : List Char} : text ∈ runs ↔ Digits text := by
  simp only [runs, Language.mem_mul, mem_digit_kstar]
  constructor
  · rintro ⟨_, ⟨c, hc, rfl⟩, rest, all, rfl⟩
    exact ⟨List.cons_ne_nil _ _, List.forall_mem_cons.2 ⟨hc, all⟩⟩
  · intro ⟨some_digit, all⟩
    obtain ⟨c, rest, rfl⟩ := List.exists_cons_of_ne_nil some_digit
    obtain ⟨here, others⟩ := List.forall_mem_cons.1 all
    exact ⟨[c], ⟨c, here, rfl⟩, rest, others, rfl⟩

/-! ### The grammar with what a text says -/

/-- The ways to write digits and a point: the digits before the point and those behind it. -/
inductive MantissaAs : List Char → List Char → List Char → Prop
  | whole {whole : List Char} (hw : Digits whole) : MantissaAs whole whole []
  | point {whole part : List Char} (hw : Digits whole) (hp : ∀ c ∈ part, isDigit c = true) :
      MantissaAs (whole ++ '.' :: part) whole part
  | part {part : List Char} (hp : Digits part) : MantissaAs ('.' :: part) [] part

/-- The ways to write an exponent, with the power of ten. -/
inductive ExponentAs : List Char → ℤ → Prop
  | none : ExponentAs [] 0
  | power {mark : Char} {sign digits : List Char} {negative : Bool}
      (hm : mark = 'e' ∨ mark = 'E') (hs : SignAs sign negative) (hd : Digits digits) :
      ExponentAs (mark :: (sign ++ digits)) (signed negative (decimalValue digits))

/-- The texts that follow the grammar, with the numbers they say. -/
inductive WrittenAs : List Char → DecimalText → Prop
  | mk {sign mantissa exponent whole part : List Char} {negative : Bool} {power : ℤ}
      (hs : SignAs sign negative) (hm : MantissaAs mantissa whole part)
      (he : ExponentAs exponent power) :
      WrittenAs (sign ++ mantissa ++ exponent) ⟨negative, whole ++ part, power - part.length⟩

theorem mem_signs {text : List Char} : text ∈ signs ↔ ∃ negative, SignAs text negative := by
  simp only [signs, Language.mem_add, Language.mem_one, mem_only]
  constructor
  · rintro ((rfl | rfl) | rfl)
    · exact ⟨_, .none⟩
    · exact ⟨_, .plus⟩
    · exact ⟨_, .minus⟩
  · rintro ⟨negative, none | plus | minus⟩
    · exact .inl (.inl rfl)
    · exact .inl (.inr rfl)
    · exact .inr rfl

theorem mem_mantissas {text : List Char} :
    text ∈ mantissas ↔ ∃ whole part, MantissaAs text whole part := by
  simp only [mantissas, Language.mem_add, Language.mem_mul, Language.mem_one, mem_only, mem_runs,
    mem_digit_kstar]
  constructor
  · rintro (⟨whole, hw, _, rfl | ⟨_, rfl, part, hp, rfl⟩, rfl⟩ | ⟨_, rfl, part, hp, rfl⟩)
    · exact ⟨whole, [], (List.append_nil whole).symm ▸ .whole hw⟩
    · exact ⟨whole, part, .point hw hp⟩
    · exact ⟨[], part, .part hp⟩
  · rintro ⟨_, _, hw | ⟨hw, hp⟩ | hp⟩
    · exact .inl ⟨_, hw, _, .inl rfl, List.append_nil _⟩
    · exact .inl ⟨_, hw, _, .inr ⟨_, rfl, _, hp, rfl⟩, rfl⟩
    · exact .inr ⟨_, rfl, _, hp, rfl⟩

theorem mem_exponents {text : List Char} : text ∈ exponents ↔ ∃ power, ExponentAs text power := by
  simp only [exponents, Language.mem_add, Language.mem_mul, Language.mem_one, mem_only, mem_runs,
    mem_signs]
  constructor
  · rintro (rfl | ⟨_, ⟨_, mark, sign, ⟨negative, hs⟩, rfl⟩, digits, hd, rfl⟩)
    · exact ⟨0, .none⟩
    · rcases mark with rfl | rfl
      · exact ⟨_, .power (.inl rfl) hs hd⟩
      · exact ⟨_, .power (.inr rfl) hs hd⟩
  · rintro ⟨_, none | ⟨mark, hs, hd⟩⟩
    · exact .inl rfl
    · rcases mark with rfl | rfl
      · exact .inr ⟨_, ⟨_, .inl rfl, _, ⟨_, hs⟩, rfl⟩, _, hd, rfl⟩
      · exact .inr ⟨_, ⟨_, .inr rfl, _, ⟨_, hs⟩, rfl⟩, _, hd, rfl⟩

theorem mem_numbers {text : List Char} : text ∈ numbers ↔ ∃ d, WrittenAs text d := by
  simp only [numbers, Language.mem_mul, mem_signs, mem_mantissas, mem_exponents]
  constructor
  · rintro ⟨_, ⟨sign, ⟨negative, hs⟩, mantissa, ⟨whole, part, hm⟩, rfl⟩, exponent, ⟨power, he⟩, rfl⟩
    exact ⟨_, .mk hs hm he⟩
  · rintro ⟨_, hs, hm, he⟩
    exact ⟨_, ⟨_, ⟨_, hs⟩, _, ⟨_, _, hm⟩, rfl⟩, _, ⟨_, he⟩, rfl⟩

/-! ### Reading at the head of a text -/

section Reading

variable {text rest whole part : List Char}

theorem exists_mantissaAs (h : mantissa? text = some (whole, part, rest)) :
    ∃ mantissa, text = mantissa ++ rest ∧ MantissaAs mantissa whole part := by
  have cut := List.takeWhile_append_dropWhile (p := isDigit) (l := text)
  have run := digits_takeWhile text
  unfold mantissa? at h
  dsimp only at h
  generalize text.takeWhile isDigit = front, text.dropWhile isDigit = behind at h cut run
  subst cut
  split at h
  · next more =>
    split at h
    · cases h
    · next digits =>
      cases h
      refine ⟨'.' :: more.takeWhile isDigit, by simp, .part (digits_takeWhile more ?_)⟩
      simpa using digits
  · cases h
  · next more some_digit =>
    cases h
    refine ⟨whole ++ '.' :: more.takeWhile isDigit, by simp, .point (run some_digit) ?_⟩
    exact fun _ => List.mem_takeWhile_imp
  · next some_digit _ _ =>
    cases h
    exact ⟨whole, rfl, .whole (run some_digit)⟩

theorem exponentPart_cons (c : Char) (rest : List Char) :
    exponentPart (c :: rest) =
      if (c = 'e' ∨ c = 'E') ∧ (Numeral.splitSign rest).2.takeWhile isDigit ≠ [] then
        (signed (Numeral.splitSign rest).1
            (decimalValue ((Numeral.splitSign rest).2.takeWhile isDigit)),
          (Numeral.splitSign rest).2.dropWhile isDigit)
      else (0, c :: rest) := by
  simp only [exponentPart, sign_eq_splitSign, Bool.or_eq_true, decide_eq_true_eq, List.isEmpty_iff]
  by_cases mark : c = 'e' ∨ c = 'E'
  · by_cases digits : (Numeral.splitSign rest).2.takeWhile isDigit = []
    · simp [mark, digits]
    · simp [mark, digits, signed]
  · simp [mark]

theorem exists_exponentAs (text : List Char) :
    ∃ exponent, text = exponent ++ (exponentPart text).2 ∧ ExponentAs exponent (exponentPart text).1 := by
  cases text with
  | nil => exact ⟨[], rfl, .none⟩
  | cons c rest =>
    rw [exponentPart_cons]
    split
    · next written =>
      obtain ⟨sign, cut, hs⟩ := Numeral.exists_signAs rest
      refine ⟨_, ?_, .power written.1 hs (digits_takeWhile _ written.2)⟩
      rw [List.cons_append, List.append_assoc, List.takeWhile_append_dropWhile, ← cut]
    · exact ⟨[], rfl, .none⟩

/-- What is read at the head of a text follows the grammar. -/
theorem exists_writtenAs {d : DecimalText} (h : leading? text = some (d, rest)) :
    ∃ front, text = front ++ rest ∧ WrittenAs front d := by
  obtain ⟨sign, cut, hs⟩ := Numeral.exists_signAs text
  unfold leading? at h
  rw [sign_eq_splitSign] at h
  dsimp only at h
  split at h
  · cases h
  · next whole part behind mantissa =>
    obtain ⟨mantissa, cut', hm⟩ := exists_mantissaAs mantissa
    obtain ⟨exponent, cut'', he⟩ := exists_exponentAs behind
    cases h
    refine ⟨_, ?_, .mk hs hm he⟩
    rw [List.append_assoc, List.append_assoc, ← cut'', ← cut', ← cut]

theorem noDigitFirst_point (text : List Char) : NoDigitFirst ('.' :: text) :=
  noDigitFirst_cons (by decide) text

theorem mantissa?_digits (hw : Digits whole) (no_digit : NoDigitFirst rest)
    (no_point : rest.head? ≠ some '.') : mantissa? (whole ++ rest) = some (whole, [], rest) := by
  rw [mantissa?, takeWhile_digits hw.all_digits no_digit, dropWhile_digits hw.all_digits no_digit]
  obtain ⟨c, more, rfl⟩ := List.exists_cons_of_ne_nil hw.some_digit
  cases rest with
  | nil => rfl
  | cons d behind => simp_all

theorem mantissa?_digits_point (hw : Digits whole) (rest : List Char) :
    mantissa? (whole ++ '.' :: rest) =
      some (whole, rest.takeWhile isDigit, rest.dropWhile isDigit) := by
  rw [mantissa?, takeWhile_digits hw.all_digits (noDigitFirst_point rest),
    dropWhile_digits hw.all_digits (noDigitFirst_point rest)]
  obtain ⟨c, more, rfl⟩ := List.exists_cons_of_ne_nil hw.some_digit
  rfl

theorem mantissa?_point_digits (hp : Digits part) (rest : List Char) :
    mantissa? ('.' :: (part ++ rest)) =
      some ([], part ++ rest.takeWhile isDigit, rest.dropWhile isDigit) := by
  rw [mantissa?, noDigitFirst_point, (noDigitFirst_point _).dropWhile]
  simp [List.takeWhile_append_of_pos hp.all_digits, List.dropWhile_append_of_pos hp.all_digits,
    hp.some_digit]

/-- A mantissa is read to its end where none goes on. -/
theorem MantissaAs.mantissa?_append (h : MantissaAs text whole part) (no_digit : NoDigitFirst rest)
    (no_point : rest.head? ≠ some '.') : mantissa? (text ++ rest) = some (whole, part, rest) := by
  cases h with
  | whole hw => exact mantissa?_digits hw no_digit no_point
  | point hw hp =>
    rw [List.append_assoc, List.cons_append, mantissa?_digits_point hw, takeWhile_digits hp no_digit,
      dropWhile_digits hp no_digit]
  | part hp =>
    rw [List.cons_append, mantissa?_point_digits hp, no_digit, no_digit.dropWhile, List.append_nil]

/-- Whatever follows a mantissa, it is read to its end at least. -/
theorem MantissaAs.exists_mantissa? (h : MantissaAs text whole part) (tail : List Char) :
    ∃ whole part rest, mantissa? (text ++ tail) = some (whole, part, rest) ∧ rest <:+ tail := by
  cases h with
  | whole hw =>
    -- the digits may go on in the tail, and a point may follow them there
    have cut := List.takeWhile_append_dropWhile (p := isDigit) (l := tail)
    have longer : Digits (text ++ tail.takeWhile isDigit) :=
      ⟨List.append_ne_nil_of_left_ne_nil hw.some_digit _,
        List.forall_mem_append.2 ⟨hw.all_digits, fun _ => List.mem_takeWhile_imp⟩⟩
    have no_digit := noDigitFirst_dropWhile tail
    have shorter := List.dropWhile_suffix isDigit (l := tail)
    generalize tail.takeWhile isDigit = more, tail.dropWhile isDigit = behind at *
    subst cut
    rw [← List.append_assoc]
    by_cases point : behind.head? = some '.'
    · obtain ⟨rest, rfl⟩ := List.head?_eq_some_iff.1 point
      refine ⟨_, _, _, mantissa?_digits_point longer rest, ?_⟩
      exact ((List.dropWhile_suffix _).trans (List.suffix_cons _ _)).trans shorter
    · exact ⟨_, _, _, mantissa?_digits longer no_digit point, shorter⟩
  | point hw hp =>
    have read := mantissa?_digits_point hw (part ++ tail)
    rw [List.dropWhile_append_of_pos hp] at read
    rw [List.append_assoc, List.cons_append]
    exact ⟨_, _, _, read, List.dropWhile_suffix _⟩
  | part hp => exact ⟨_, _, _, mantissa?_point_digits hp tail, List.dropWhile_suffix _⟩

/-- Whatever follows an exponent, it is read to its end at least. -/
theorem ExponentAs.exponentPart_suffix {power : ℤ} (h : ExponentAs text power) (tail : List Char) :
    (exponentPart (text ++ tail)).2 <:+ tail := by
  cases h with
  | none =>
    obtain ⟨exponent, cut, -⟩ := exists_exponentAs tail
    exact ⟨exponent, cut.symm⟩
  | power hm hs hd =>
    rw [List.cons_append, List.append_assoc, exponentPart_cons,
      hs.splitSign_append (Numeral.splitSign_digits_append hd tail),
      List.takeWhile_append_of_pos hd.all_digits, List.dropWhile_append_of_pos hd.all_digits,
      if_pos ⟨hm, List.append_ne_nil_of_left_ne_nil hd.some_digit _⟩]
    exact List.dropWhile_suffix _

/-- What a number in front does not go on with. -/
structure Ends (tail : List Char) : Prop where
  no_digit : NoDigitFirst tail
  no_mark : ∀ c, tail.head? = some c → c ≠ '.' ∧ c ≠ 'e' ∧ c ≠ 'E'

theorem ends_nil : Ends [] := ⟨rfl, nofun⟩

theorem Ends.no_point {tail : List Char} (h : Ends tail) : tail.head? ≠ some '.' :=
  fun point => (h.no_mark '.' point).1 rfl

theorem ExponentAs.exponentPart_append {power : ℤ} {tail : List Char} (h : ExponentAs text power)
    (ends : Ends tail) : exponentPart (text ++ tail) = (power, tail) := by
  cases h with
  | none =>
    cases tail with
    | nil => rfl
    | cons c more =>
      obtain ⟨-, small, large⟩ := ends.no_mark c rfl
      rw [List.nil_append, exponentPart_cons, if_neg fun mark => mark.1.elim small large]
  | power hm hs hd =>
    rw [List.cons_append, List.append_assoc, exponentPart_cons,
      hs.splitSign_append (Numeral.splitSign_digits_append hd tail),
      takeWhile_digits hd.all_digits ends.no_digit, dropWhile_digits hd.all_digits ends.no_digit,
      if_pos ⟨hm, hd.some_digit⟩]

/-- The mark of an exponent goes on with no mantissa. -/
theorem ends_at_mark {mark : Char} (hm : mark = 'e' ∨ mark = 'E') (rest : List Char) :
    NoDigitFirst (mark :: rest) ∧ (mark :: rest).head? ≠ some '.' := by
  rcases hm with rfl | rfl
  · exact ⟨noDigitFirst_cons (by decide) rest, by simp⟩
  · exact ⟨noDigitFirst_cons (by decide) rest, by simp⟩

theorem ExponentAs.ends_mantissa {power : ℤ} {tail : List Char} (h : ExponentAs text power)
    (ends : Ends tail) : NoDigitFirst (text ++ tail) ∧ (text ++ tail).head? ≠ some '.' := by
  cases h with
  | none => exact ⟨ends.no_digit, ends.no_point⟩
  | power mark _ _ => exact ends_at_mark mark _

/-- A mantissa begins with a digit or a point. -/
theorem MantissaAs.exists_first (h : MantissaAs text whole part) :
    ∃ c more, text = c :: more ∧ (isDigit c = true ∨ c = '.') := by
  have digit {digits : List Char} (h : Digits digits) (rest : List Char) :
      ∃ c more, digits ++ rest = c :: more ∧ (isDigit c = true ∨ c = '.') := by
    obtain ⟨c, more, rfl⟩ := List.exists_cons_of_ne_nil h.some_digit
    exact ⟨c, more ++ rest, rfl, .inl (h.all_digits c List.mem_cons_self)⟩
  cases h with
  | whole hw => simpa using digit hw []
  | point hw _ => exact digit hw _
  | part _ => exact ⟨'.', part, rfl, .inr rfl⟩

theorem MantissaAs.splitSign_append (h : MantissaAs text whole part) (rest : List Char) :
    Numeral.splitSign (text ++ rest) = (false, text ++ rest) := by
  obtain ⟨c, more, rfl, digit | rfl⟩ := h.exists_first
  · exact Numeral.splitSign_of_isDigit digit _
  · rfl

theorem leading?_of_mantissa {body : List Char} {negative : Bool}
    (hs : Numeral.splitSign text = (negative, body)) (hm : mantissa? body = some (whole, part, rest)) :
    leading? text = some (⟨negative, whole ++ part, (exponentPart rest).1 - part.length⟩,
      (exponentPart rest).2) := by
  simp only [leading?, sign_eq_splitSign, hs, hm]

/-- A number is read to its end where nothing follows that it could go on with. -/
theorem WrittenAs.leading?_append {d : DecimalText} {tail : List Char} (h : WrittenAs text d)
    (ends : Ends tail) : leading? (text ++ tail) = some (d, tail) := by
  obtain ⟨hs, hm, he⟩ := h
  obtain ⟨no_digit, no_point⟩ := he.ends_mantissa ends
  rw [List.append_assoc, List.append_assoc,
    leading?_of_mantissa (hs.splitSign_append (hm.splitSign_append _))
      (hm.mantissa?_append no_digit no_point), he.exponentPart_append ends]

/-- Whatever follows a number, it is read to its end at least. -/
theorem WrittenAs.exists_leading? {d : DecimalText} (h : WrittenAs text d) (tail : List Char) :
    ∃ d rest, leading? (text ++ tail) = some (d, rest) ∧ rest <:+ tail := by
  obtain @⟨_, mantissa, exponent, _, _, _, _, hs, hm, he⟩ := h
  obtain ⟨whole, part, rest, found, shorter⟩ : ∃ whole part rest,
      mantissa? (mantissa ++ (exponent ++ tail)) = some (whole, part, rest) ∧
        (exponentPart rest).2 <:+ tail := by
    cases he with
    | none =>
      obtain ⟨whole, part, rest, found, shorter⟩ := hm.exists_mantissa? tail
      exact ⟨whole, part, rest, found, (ExponentAs.none.exponentPart_suffix rest).trans shorter⟩
    | power mark sign digits =>
      obtain ⟨no_digit, no_point⟩ := ends_at_mark mark _
      exact ⟨_, _, _, hm.mantissa?_append no_digit no_point,
        (ExponentAs.power mark sign digits).exponentPart_suffix tail⟩
  rw [List.append_assoc, List.append_assoc,
    leading?_of_mantissa (hs.splitSign_append (hm.splitSign_append _)) found]
  exact ⟨_, _, rfl, shorter⟩

/-- The longest piece at the head of the text that is in the language. -/
structure LongestOf (language : Language Char) (text front : List Char) : Prop where
  at_head : front <+: text
  mem : front ∈ language
  longest : ∀ other, other <+: text → other ∈ language → other.length ≤ front.length

/-- What is read at the head of a text is the longest piece that follows the grammar. -/
theorem exists_longest {d : DecimalText} (h : leading? text = some (d, rest)) :
    ∃ front, LongestOf numbers text front ∧ WrittenAs front d := by
  obtain ⟨front, cut, written⟩ := exists_writtenAs h
  refine ⟨front, ⟨⟨rest, cut.symm⟩, mem_numbers.2 ⟨d, written⟩, ?_⟩, written⟩
  rintro other ⟨tail, cut'⟩ mem
  obtain ⟨d', written'⟩ := mem_numbers.1 mem
  obtain ⟨_, _, found, shorter⟩ := written'.exists_leading? tail
  rw [cut', h] at found
  cases found
  have less := shorter.length_le
  have same := congrArg List.length (cut'.trans cut)
  rw [List.length_append, List.length_append] at same
  omega

/-- Nothing is read only where no piece at the head follows the grammar. -/
theorem not_mem_of_leading?_eq_none (h : leading? text = none) {front : List Char}
    (hf : front <+: text) : front ∉ numbers := by
  rintro mem
  obtain ⟨tail, rfl⟩ := hf
  obtain ⟨d, written⟩ := mem_numbers.1 mem
  obtain ⟨_, _, found, -⟩ := written.exists_leading? tail
  rw [h] at found
  cases found

theorem whole?_eq_some_iff {d : DecimalText} : whole? text = some d ↔ WrittenAs text d := by
  constructor
  · intro found
    unfold whole? at found
    split at found
    · next read =>
      cases found
      obtain ⟨front, cut, written⟩ := exists_writtenAs read
      rw [List.append_nil] at cut
      exact cut ▸ written
    · cases found
  · intro written
    have read := written.leading?_append ends_nil
    rw [List.append_nil] at read
    rw [whole?, read]

theorem whole?_isSome_iff : (∃ d, whole? text = some d) ↔ text ∈ numbers := by
  simp only [whole?_eq_some_iff, mem_numbers]

end Reading

end DecimalText

end PeakSlowness
