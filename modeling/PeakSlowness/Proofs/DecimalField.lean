import PeakSlowness.Proofs.Written

set_option autoImplicit false

/-!
Decimal fields and the grammar of numbers. A text that follows the grammar stands for a number by
itself, and that is the number a field comes to: lenient reading takes the longest piece that
follows the grammar, strict reading the whole field or nothing.
-/

namespace PeakSlowness

open Text

namespace DecimalText

open Numeral (SignAs)

section Alone

variable {text : List Char}

theorem isDigit_of_isUpper {c : Char} (h : c.isUpper = true) : isDigit c = false := by
  have apart : ∀ z ∈ digitZeros, z + 10 ≤ 0x41 ∨ 0x5A < z := by decide
  simp only [Char.isUpper, decide_eq_true_eq, ge_iff_le, UInt32.le_iff_toNat_le] at h
  have low : 0x41 ≤ c.toNat := h.1
  have high : c.toNat ≤ 0x5A := h.2
  have none_here : ∀ z ∈ digitZeros, ¬ (z ≤ c.toNat ∧ c.toNat < z + 10) := by
    intro z hz
    have := apart z hz
    omega
  simpa [isDigit, digitValue?] using none_here

/-- What a number is written with besides digits. -/
def marks : List Char := ['+', '-', '.', 'e', 'E']

theorem mem_marks_of_signAs {sign : List Char} {negative : Bool} (h : SignAs sign negative) :
    ∀ c ∈ sign, c ∈ marks := by
  cases h <;> simp [marks]

theorem MantissaAs.mem {whole part : List Char} (h : MantissaAs text whole part) :
    ∀ c ∈ text, isDigit c = true ∨ c ∈ marks := by
  have digit {digits : List Char} (all : ∀ c ∈ digits, isDigit c = true) :
      ∀ c ∈ digits, isDigit c = true ∨ c ∈ marks := fun c hc => .inl (all c hc)
  have point : isDigit '.' = true ∨ '.' ∈ marks := .inr (by decide)
  cases h with
  | whole hw => exact digit hw.all_digits
  | point hw hp =>
    exact List.forall_mem_append.2 ⟨digit hw.all_digits, List.forall_mem_cons.2 ⟨point, digit hp⟩⟩
  | part hp => exact List.forall_mem_cons.2 ⟨point, digit hp.all_digits⟩

theorem ExponentAs.mem {power : ℤ} (h : ExponentAs text power) :
    ∀ c ∈ text, isDigit c = true ∨ c ∈ marks := by
  cases h with
  | none => exact nofun
  | power hm hs hd =>
    refine List.forall_mem_cons.2 ⟨.inr ?_, List.forall_mem_append.2 ⟨?_, ?_⟩⟩
    · rcases hm with rfl | rfl <;> decide
    · exact fun c hc => .inr (mem_marks_of_signAs hs c hc)
    · exact fun c hc => .inl (hd.all_digits c hc)

theorem WrittenAs.mem {d : DecimalText} (h : WrittenAs text d) :
    ∀ c ∈ text, isDigit c = true ∨ c ∈ marks := by
  obtain ⟨hs, hm, he⟩ := h
  refine List.forall_mem_append.2 ⟨List.forall_mem_append.2 ⟨?_, hm.mem⟩, he.mem⟩
  exact fun c hc => .inr (mem_marks_of_signAs hs c hc)

theorem underscoresBetweenDigits_of_not_mem {before : Char} (hb : before ≠ '_') (h : '_' ∉ text) :
    underscoresBetweenDigits before text = true := by
  induction text generalizing before with
  | nil => simpa [underscoresBetweenDigits] using hb
  | cons c rest ih =>
    rw [List.mem_cons, not_or] at h
    simp [underscoresBetweenDigits, hb, Ne.symm h.1, ih (Ne.symm h.1) h.2]

theorem WrittenAs.spelledOut?_eq {d : DecimalText} (h : WrittenAs text d) :
    spelledOut? text = none := by
  obtain @⟨_, _, exponent, _, _, _, _, hs, hm, he⟩ := h
  have unsigned := hs.splitSign_append (hm.splitSign_append exponent)
  obtain ⟨c, more, rfl, first⟩ := hm.exists_first
  have lower : c.toLower = c := by
    refine Char.toLower_eq_of_not_isUpper fun upper => ?_
    rcases first with digit | rfl
    · rw [isDigit_of_isUpper upper] at digit
      cases digit
    · cases upper
  have other {letter : Char} (hl : isDigit letter = false) (hp : letter ≠ '.') : c ≠ letter := by
    rintro rfl
    rcases first with digit | point
    · rw [hl] at digit
      cases digit
    · exact hp point
  have no_i : c ≠ 'i' := other (by decide) (by decide)
  have no_n : c ≠ 'n' := other (by decide) (by decide)
  rw [List.append_assoc, spelledOut?, sign_eq_splitSign, unsigned]
  simp [lower, no_i, no_n]

/-- A text that follows the grammar stands for the number it says. -/
theorem WrittenAs.read?_eq {d : DecimalText} (h : WrittenAs text d) :
    Binary64.read? text = some d.value := by
  have no_space : ∀ c ∈ text, isSpace c = false := by
    intro c hc
    rcases h.mem c hc with digit | mark
    · exact isSpace_of_isDigit digit
    · simp only [marks, List.mem_cons, List.not_mem_nil, or_false] at mark
      rcases mark with rfl | rfl | rfl | rfl | rfl <;> decide
  have no_underscore : '_' ∉ text := by
    intro hc
    rcases h.mem _ hc with digit | mark
    · cases digit
    · exact absurd mark (by decide)
  have alone : trimBy isSpace text = text := by
    rw [trimBy, dropWhile_of_not no_space, dropEnd_of_not no_space]
  have plain : text.filter (· != '_') = text :=
    List.filter_eq_self.2 fun c hc => bne_iff_ne.2 fun same => no_underscore (same ▸ hc)
  have whole := whole?_eq_some_iff.2 h
  have between : underscoresBetweenDigits ' ' text = true :=
    underscoresBetweenDigits_of_not_mem (by decide) no_underscore
  simp [Binary64.read?, alone, between, plain, h.spelledOut?_eq, whole]

end Alone

end DecimalText

namespace Field

open DecimalText

theorem decimal_strict_of_mem {text : List Char} (h : trim text ∈ numbers) :
    ∃ x, decimal .strict text = .ok x ∧ Binary64.read? (trim text) = some x := by
  obtain ⟨d, written⟩ := mem_numbers.1 h
  refine ⟨d.value, ?_, written.read?_eq⟩
  rw [decimal, whole?_eq_some_iff.2 written]

theorem decimal_strict_of_not_mem {text : List Char} (h : trim text ∉ numbers) :
    decimal .strict text = .error (.decimal (String.ofList text)) := by
  rw [← whole?_isSome_iff, not_exists] at h
  have none : whole? (trim text) = none := Option.eq_none_iff_forall_ne_some.2 h
  rw [decimal, none]

/-- A decimal field follows one grammar in both modes. Lenient reading takes the longest piece behind
the blanks that follows it, and zero if there is none. Strict reading takes the field without the
blanks around it if all of it follows the grammar, as the number that lenient reading comes to, and
rejects it otherwise. -/
theorem decimal_by_grammar (text : List Char) :
    (∃ x, decimal .lenient text = .ok x ∧
      ((∃ front, LongestOf numbers (text.dropWhile isBlank) front ∧ Binary64.read? front = some x) ∨
        ((∀ front, front <+: text.dropWhile isBlank → front ∉ numbers) ∧ x = .zero))) ∧
    (trim text ∈ numbers → ∃ x, decimal .strict text = .ok x ∧ decimal .lenient text = .ok x ∧
      Binary64.read? (trim text) = some x) ∧
    (trim text ∉ numbers → decimal .strict text = .error (.decimal (String.ofList text))) := by
  refine ⟨⟨decimalLeading text, rfl, ?_⟩, ?_, decimal_strict_of_not_mem⟩
  · unfold decimalLeading
    cases found : leading? (text.dropWhile isBlank) with
    | none => exact .inr ⟨fun _ => not_mem_of_leading?_eq_none found, rfl⟩
    | some read =>
      obtain ⟨front, longest, written⟩ := exists_longest found
      exact .inl ⟨front, longest, written.read?_eq⟩
  · intro mem
    obtain ⟨x, strict, value⟩ := decimal_strict_of_mem mem
    exact ⟨x, strict, decimal_lenient_of_strict strict, value⟩

/-- The sign of an exponent that does not follow. -/
theorem dangling_exponent_by_grammar :
    (∃ x, decimal .strict " -.5 ".toList = .ok x ∧ decimal .lenient " -.5 ".toList = .ok x ∧
      Binary64.read? "-.5".toList = some x) ∧
    decimal .strict "-.5e+".toList = .error (.decimal "-.5e+") ∧
    ∃ front, LongestOf numbers "-.5e+".toList front ∧
      Binary64.read? front = some { negative := true, magnitude := 0x3FE0000000000000 } := by
  obtain ⟨-, accepts, -⟩ := decimal_by_grammar " -.5 ".toList
  obtain ⟨⟨x, read, value⟩, -, rejects⟩ := decimal_by_grammar "-.5e+".toList
  refine ⟨accepts ?_, rejects ?_, ?_⟩
  · exact whole?_isSome_iff.1 ⟨_, rfl⟩
  · rw [← whole?_isSome_iff]
    rintro ⟨d, found⟩
    cases found
  · have half : x = { negative := true, magnitude := 0x3FE0000000000000 } := by
      cases read
      decide +kernel
    subst half
    rcases value with longest | ⟨-, zero⟩
    · exact longest
    · cases zero

end Field

end PeakSlowness
