import PeakSlowness.Field
import PeakSlowness.Proofs.Number.Grammar
import PeakSlowness.Proofs.Steps
import PeakSlowness.Proofs.Text.Blank

set_option autoImplicit false

/-!
Strict and lenient reading of one field. What is read strictly is read leniently as well. A decimal
field comes to the same number then, and so does an integer field whose digits are not grouped by
underscores; of grouped digits lenient reading takes the first group alone.
-/

namespace PeakSlowness

open Text

namespace Numeral

theorem digitIn?_ten (c : Char) : digitIn? 10 c = digitValue? c := by
  unfold digitIn?
  cases h : digitValue? c with
  | some d =>
    have small := digitValue?_lt h
    simpa using small
  | none =>
    dsimp only
    split
    · next small =>
      simp only [Bool.and_eq_true, decide_eq_true_eq, Char.le_def, UInt32.le_iff_toNat_le] at small
      have low : 97 ≤ c.toNat := small.1
      simp only [Option.filter_some, decide_eq_true_eq, ite_eq_right_iff, reduceCtorEq]
      omega
    · split
      · next large =>
        simp only [Bool.and_eq_true, decide_eq_true_eq, Char.le_def, UInt32.le_iff_toNat_le] at large
        have low : 65 ≤ c.toNat := large.1
        simp only [Option.filter_some, decide_eq_true_eq, ite_eq_right_iff, reduceCtorEq]
        omega
      · rfl

/-- What stands in a run of digits. -/
def inRun (c : Char) : Bool := isDigit c || c == '_'

theorem inRun_of_isDigit {c : Char} (h : isDigit c = true) : inRun c = true := by
  simp [inRun, h]

/-- The sign and the run of digits of a literal with a value. -/
structure Literal (text : List Char) (negative : Bool) (body : List Char) (n : Int) : Prop where
  sign : splitSign (text.dropWhile isSpace) = (negative, body)
  digit_first : (body.takeWhile inRun).head? ≠ some '_'
  digits : (body.takeWhile inRun).filterMap digitValue? ≠ []
  short : ((body.takeWhile inRun).filterMap digitValue?).length ≤ digitLimit
  value : n = signed negative (digitsValue 10 ((body.takeWhile inRun).filterMap digitValue?))

theorem dropBaseMark_ten (text : List Char) : dropBaseMark 10 text = text := by
  unfold dropBaseMark
  simp only [Nat.reduceEqDiff, if_false, List.contains_nil, Bool.false_eq_true]
  split <;> rfl

theorem exists_literal_of_read {text : List Char} {n : Int} (h : read text = .ok n) :
    ∃ negative body, Literal text negative body n := by
  have digit : digitIn? 10 = digitValue? := funext digitIn?_ten
  have run : (fun c => (digitValue? c).isSome || c == '_') = inRun := rfl
  unfold read readIn readShown at h
  simp only [dropBaseMark_ten, digit, run] at h
  split at h
  · cases h
  · next grouped =>
    split at h
    · cases h
    · next short =>
      split at h
      · cases h
      · next ends =>
        simp only [Bool.or_eq_true, not_or, decide_eq_true_eq, List.isEmpty_iff] at grouped ends
        have decimal : (!isBinaryBase 10) = true := rfl
        simp only [decimal, Bool.true_and, decide_eq_true_eq, Nat.not_lt] at short
        cases h
        exact ⟨_, _, rfl, grouped.1, ends.1, short, rfl⟩

theorem splitSign_append {text : List Char} (h : text ≠ []) (tail : List Char) :
    splitSign (text ++ tail) = ((splitSign text).1, (splitSign text).2 ++ tail) := by
  cases text with
  | nil => exact absurd rfl h
  | cons c rest =>
    rw [List.cons_append]
    unfold splitSign
    split <;> split <;> simp_all

theorem mem_of_mem_splitSign {c : Char} {text : List Char} (h : c ∈ (splitSign text).2) :
    c ∈ text := by
  unfold splitSign at h
  split at h
  · exact List.mem_cons_of_mem _ h
  · exact List.mem_cons_of_mem _ h
  · exact h

theorem filterMap_digitValue? {digits : List Char} (h : ∀ c ∈ digits, isDigit c = true) :
    digits.filterMap digitValue? = digits.map digitValue := by
  induction digits with
  | nil => rfl
  | cons c rest ih =>
    obtain ⟨d, hd⟩ := Option.isSome_iff_exists.1 (h c List.mem_cons_self)
    have value : digitValue c = d := by rw [digitValue, hd, Option.getD_some]
    rw [List.filterMap_cons_some hd, List.map_cons, value,
      ih fun c hc => h c (List.mem_cons_of_mem _ hc)]

namespace Literal

variable {text body : List Char} {negative : Bool} {n : Int}

/-- The digits before the first underscore. -/
theorem takeWhile_isDigit (body : List Char) :
    (body.takeWhile inRun).takeWhile isDigit = body.takeWhile isDigit := by
  rw [List.takeWhile_takeWhile]
  congr 1
  funext c
  cases h : isDigit c with
  | false => simp
  | true => simp [inRun_of_isDigit h]

theorem group_ne_nil (h : Literal text negative body n) : body.takeWhile isDigit ≠ [] := by
  rw [← takeWhile_isDigit]
  have first := h.digit_first
  have digits := h.digits
  have inside : ∀ c ∈ body.takeWhile inRun, inRun c = true :=
    fun c hc => List.all_eq_true.1 List.all_takeWhile c hc
  cases run : body.takeWhile inRun with
  | nil => exact absurd rfl (run ▸ digits)
  | cons c rest =>
    rw [run] at first inside
    have no_underscore : c ≠ '_' := fun hc => first (congrArg some hc)
    have digit : isDigit c = true := by
      simpa [inRun, no_underscore] using inside c List.mem_cons_self
    rw [List.takeWhile_cons, if_pos digit]
    exact List.cons_ne_nil _ _

theorem group_short (h : Literal text negative body n) :
    (body.takeWhile isDigit).length ≤ digitLimit := by
  have digits : ∀ c ∈ body.takeWhile isDigit, isDigit c = true :=
    fun c hc => List.all_eq_true.1 List.all_takeWhile c hc
  have part : (body.takeWhile isDigit).filterMap digitValue? <+:
      (body.takeWhile inRun).filterMap digitValue? := by
    rw [← takeWhile_isDigit]
    exact (List.takeWhile_prefix _).filterMap _
  have fewer := part.length_le
  rw [filterMap_digitValue? digits, List.length_map] at fewer
  exact Nat.le_trans fewer h.short

theorem value_of_plain (h : Literal text negative body n) (plain : '_' ∉ body) :
    n = signed negative (decimalValue (body.takeWhile isDigit)) := by
  have digits : ∀ c ∈ body.takeWhile inRun, isDigit c = true := by
    intro c hc
    have no_underscore : c ≠ '_' := by
      rintro rfl
      exact plain (List.takeWhile_subset _ hc)
    have inside : inRun c = true := List.all_eq_true.1 List.all_takeWhile c hc
    simpa [inRun, no_underscore] using inside
  have whole : body.takeWhile inRun = body.takeWhile isDigit := by
    rw [← takeWhile_isDigit, List.takeWhile_eq_self_iff.2 digits]
  rw [h.value, filterMap_digitValue? digits, whole, decimalValue]

end Literal

/-- A field that is a literal begins with an integer. It is the same one if nothing is grouped. -/
theorem readLeading_of_read {text : List Char} {n : Int} (h : read (trim text) = .ok n) :
    ∃ m, readLeading text = .ok m ∧ ('_' ∉ text → m = n) := by
  obtain ⟨negative, body, literal⟩ := exists_literal_of_read h
  obtain ⟨tail, blank, whole⟩ := dropWhile_isBlank_eq text
  have sign := literal.sign
  rw [dropWhile_isSpace_trim] at sign
  have something : trim text ≠ [] := by
    intro nothing
    rw [nothing] at sign
    cases sign
    exact literal.digits rfl
  have leading : leading? text = some (negative, body.takeWhile isDigit) := by
    unfold leading?
    simp only [whole, splitSign_append something, sign, blank.takeWhile_isDigit_append,
      List.isEmpty_iff, if_neg literal.group_ne_nil]
  refine ⟨signed negative (decimalValue (body.takeWhile isDigit)), ?_, ?_⟩
  · unfold readLeading
    simp only [leading, if_neg (Nat.not_lt.2 literal.group_short)]
  · intro plain
    refine (literal.value_of_plain fun underscore => plain ?_).symm
    -- the underscore would stand behind the sign, so in the trimmed text, so in the whole one
    have inside : '_' ∈ trim text := mem_of_mem_splitSign (by rw [sign]; exact underscore)
    exact List.dropWhile_subset _ (whole ▸ List.mem_append_left tail inside)

end Numeral

namespace DecimalText

/-- A number does not go on with blanks. -/
theorem ends_of_blank {tail : List Char} (h : Blank tail) : Ends tail := by
  refine ⟨h.takeWhile_isDigit, ?_⟩
  cases tail with
  | nil => exact nofun
  | cons c rest =>
    intro other first
    cases first
    have apart {d : Char} (hd : isBlank d = false) : c ≠ d := ne_of_isBlank h.of_cons hd
    exact ⟨apart (by decide), apart (by decide), apart (by decide)⟩

end DecimalText

namespace Field

/-- An integer field that is read strictly is read leniently. It is the same integer if nothing in it
is grouped. -/
theorem integer_lenient_of_strict {text : List Char} {n : Int} (h : integer .strict text = .ok n) :
    ∃ m, integer .lenient text = .ok m ∧ ('_' ∉ text → m = n) := by
  unfold integer at h ⊢
  rw [mapError_eq_ok_iff] at h
  obtain ⟨m, read, same⟩ := Numeral.readLeading_of_read h
  exact ⟨m, mapError_eq_ok_iff.2 read, same⟩

/-- A decimal field that is read strictly is read leniently as the same number. -/
theorem decimal_lenient_of_strict {text : List Char} {x : Binary64}
    (h : decimal .strict text = .ok x) : decimal .lenient text = .ok x := by
  obtain ⟨tail, blank, whole⟩ := dropWhile_isBlank_eq text
  simp only [decimal] at h ⊢
  split at h
  · next d found =>
    cases h
    have written := DecimalText.whole?_eq_some_iff.1 found
    rw [decimalLeading, whole, written.leading?_append (DecimalText.ends_of_blank blank)]
  · cases h

end Field

end PeakSlowness
