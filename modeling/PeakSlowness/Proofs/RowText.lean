import Mathlib
import PeakSlowness.Config.Lookup
import PeakSlowness.Proofs.Summary
import PeakSlowness.Proofs.WrittenFile

set_option autoImplicit false

/-!
Rows read back. A row has one comma, and neither half of it has a blank or a comma, so the comma shows
where the halves meet. Each half is a field as it is written, so it is read in either mode as
what was written, and no two rows are alike.
-/

namespace PeakSlowness

open Text

/-- An integer that is short enough to be written, and a finite number. -/
structure Writable (t : ℤ) (value : Binary64) : Prop where
  short : t.natAbs < 10 ^ Numeral.digitLimit
  finite : value.isFinite = true

/-- A text from which an integer and a number can be told: it is cut at its only comma, and either half is
a field that is read whole, whatever the mode. -/
structure ReadsBack (text : List Char) (t : ℤ) (value : Binary64) : Prop where
  one_comma : text.count ',' = 1
  no_blank : ∀ c ∈ text, isBlank c = false
  one_line : OneLine text
  halves : ∀ left right, text = left ++ ',' :: right → ∀ mode,
    Field.integer mode left = .ok t ∧ Field.decimal mode right = .ok value

theorem Numeral.write_of_short {t : ℤ} (h : t.natAbs < 10 ^ digitLimit) :
    write t = .ok (toString t) := if_neg (Nat.not_le.2 h)

theorem toList_row (t : ℤ) (value : Binary64) :
    (toString t ++ "," ++ value.toText).toList = (toString t).toList ++ ',' :: value.write := by
  simp [Binary64.toText]

/-- Rows are the same whether they are made of numbers or of settings that hold them. -/
theorem Setting.row_of_numbers (t : ℤ) (value : Binary64) :
    Setting.row (.scalar (.int t)) (.scalar (.float value)) =
      (PeakSlowness.row t value).mapError .numeral := by
  unfold Setting.row PeakSlowness.row
  cases h : Numeral.write t with
  | error fault => simp [h, toInteger]
  | ok shown => simp [h, toInteger, toDecimal]

namespace ReadsBack

variable {text : List Char} {t t' : ℤ} {value value' : Binary64}

/-- What is read from a text is told by it. -/
theorem unique (h : ReadsBack text t value) (h' : ReadsBack text t' value') :
    t = t' ∧ value = value' := by
  have comma : ',' ∈ text := List.count_pos_iff.1 (by rw [h.one_comma]; decide)
  obtain ⟨left, right, cut⟩ := List.append_of_mem comma
  obtain ⟨integer, decimal⟩ := h.halves left right cut .strict
  obtain ⟨integer', decimal'⟩ := h'.halves left right cut .strict
  rw [integer] at integer'
  rw [decimal] at decimal'
  exact ⟨Except.ok.inj integer', Except.ok.inj decimal'⟩

end ReadsBack

namespace Writable

variable {t : ℤ} {value : Binary64}

theorem row_eq (h : Writable t value) : row t value = .ok (toString t ++ "," ++ value.toText) :=
  row_of_write (Numeral.write_of_short h.short) value

theorem readsBack (h : Writable t value) :
    ReadsBack (toString t ++ "," ++ value.toText).toList t value := by
  have integer := Field.legible_toString t
  have decimal := Field.legible_write h.finite
  have no_blank : ∀ c ∈ (toString t).toList ++ ',' :: value.write, isBlank c = false :=
    List.forall_mem_append.2
      ⟨integer.not_isBlank, List.forall_mem_cons.2 ⟨by decide, decimal.not_isBlank⟩⟩
  rw [toList_row]
  refine ⟨?_, no_blank, oneLine_of_not_isBlank no_blank, ?_⟩
  · rw [List.count_append, List.count_cons_self, List.count_eq_zero.2 integer.no_comma,
      List.count_eq_zero.2 decimal.no_comma]
  · intro left right cut mode
    obtain ⟨rfl, -, rfl⟩ :=
      (List.append_cons_inj_of_notMem integer.no_comma decimal.no_comma).1 cut
    exact ⟨Field.integer_toString mode h.short, Field.decimal_write mode h.finite⟩

end Writable

/-- Every integer within the limit of digits makes a row with every finite number. The row reads back as the
two, bit for bit, so two rows that are alike are made of the same two. -/
theorem row_reads_back {t : ℤ} {value : Binary64} (h : Writable t value) :
    (∃ text, row t value = .ok text ∧
      Setting.row (.scalar (.int t)) (.scalar (.float value)) = .ok text ∧
      ReadsBack text.toList t value) ∧
    ∀ t' value', Writable t' value' → row t' value' = row t value → t' = t ∧ value' = value := by
  constructor
  · refine ⟨_, h.row_eq, ?_, h.readsBack⟩
    rw [Setting.row_of_numbers, h.row_eq, mapError_ok]
  · intro t' value' h' same
    rw [h.row_eq, h'.row_eq, Except.ok.injEq] at same
    have other := h'.readsBack
    rw [same] at other
    exact other.unique h.readsBack

/-- The number nearest to 0.3, and the one above it, which takes seventeen digits. -/
def threeTenths : Binary64 := .ofBits 0x3FD3333333333333

def aboveThreeTenths : Binary64 := .ofBits 0x3FD3333333333334

/-- The rows of two neighbouring numbers are told apart. -/
theorem row_reads_back_of_neighbours :
    Writable (-5) aboveThreeTenths ∧ row (-5) aboveThreeTenths = .ok "-5,0.30000000000000004" ∧
      ReadsBack "-5,0.30000000000000004".toList (-5) aboveThreeTenths ∧
      row (-5) threeTenths ≠ row (-5) aboveThreeTenths := by
  have short : (-5 : ℤ).natAbs < 10 ^ Numeral.digitLimit :=
    Nat.lt_of_lt_of_le (by decide : 5 < 10 ^ 1) (Nat.pow_le_pow_right (by decide) (by decide))
  have above : Writable (-5) aboveThreeTenths := ⟨short, by decide⟩
  have nearest : Writable (-5) threeTenths := ⟨short, by decide⟩
  have written : row (-5) aboveThreeTenths = .ok "-5,0.30000000000000004" := by
    rw [above.row_eq]
    decide +kernel
  obtain ⟨⟨text, made, -, reads⟩, unique⟩ := row_reads_back above
  rw [written] at made
  cases made
  refine ⟨above, written, reads, fun same => ?_⟩
  exact absurd (unique (-5) threeTenths nearest same).2 (by decide)

end PeakSlowness
