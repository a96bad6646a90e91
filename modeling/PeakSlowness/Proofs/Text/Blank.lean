import PeakSlowness.Text.Blank
import PeakSlowness.Text.DecimalDigit

set_option autoImplicit false

/-!
Blanks around a text. A blank is no digit, so a run of digits ends where blanks begin. Trimming
takes nothing but blanks away, and what it leaves begins with no blank.
-/

namespace PeakSlowness.Text

/-- Nothing but blanks. -/
def Blank (text : List Char) : Prop := ∀ c ∈ text, isBlank c = true

/-- The ranges of the blanks and those of the digits do not meet. -/
theorem blank_ranges_apart :
    ∀ r ∈ (0x1C, 0x1F) :: spaceRanges, ∀ z ∈ digitZeros, r.2 < z ∨ z + 10 ≤ r.1 := by
  decide

theorem exists_range_of_isBlank {c : Char} (h : isBlank c = true) :
    ∃ r ∈ (0x1C, 0x1F) :: spaceRanges, r.1 ≤ c.toNat ∧ c.toNat ≤ r.2 := by
  unfold isBlank isSpace inRanges at h
  rcases Bool.or_eq_true_iff.1 h with space | separator
  · obtain ⟨r, hr, inside⟩ := List.any_eq_true.1 space
    exact ⟨r, List.mem_cons_of_mem _ hr, by simpa using inside⟩
  · exact ⟨_, List.mem_cons_self, by simpa using separator⟩

theorem isDigit_of_isBlank {c : Char} (h : isBlank c = true) : isDigit c = false := by
  obtain ⟨r, hr, low, high⟩ := exists_range_of_isBlank h
  have none_here : ∀ z ∈ digitZeros, ¬ (z ≤ c.toNat ∧ c.toNat < z + 10) := by
    intro z hz inside
    rcases blank_ranges_apart r hr z hz with above | below
    · omega
    · omega
  simpa [isDigit, digitValue?] using none_here

theorem ne_of_isBlank {c d : Char} (h : isBlank c = true) (hd : isBlank d = false) : c ≠ d := by
  rintro rfl
  rw [h] at hd
  cases hd

namespace Blank

variable {tail : List Char}

theorem of_cons {c : Char} (h : Blank (c :: tail)) : isBlank c = true := h c List.mem_cons_self

theorem takeWhile_isDigit (h : Blank tail) : tail.takeWhile isDigit = [] := by
  cases tail with
  | nil => rfl
  | cons c rest => rw [List.takeWhile_cons, isDigit_of_isBlank h.of_cons, if_neg Bool.false_ne_true]

theorem takeWhile_isDigit_append (h : Blank tail) (text : List Char) :
    (text ++ tail).takeWhile isDigit = text.takeWhile isDigit := by
  induction text with
  | nil => exact h.takeWhile_isDigit
  | cons c rest ih => rw [List.cons_append, List.takeWhile_cons, List.takeWhile_cons, ih]

end Blank

/-- Behind the blanks that a text begins with there is the trimmed text, and then only blanks. -/
theorem dropWhile_isBlank_eq (text : List Char) :
    ∃ tail, Blank tail ∧ text.dropWhile isBlank = trim text ++ tail := by
  obtain ⟨tail, whole, blank⟩ := dropEnd_append_dropped isBlank (text.dropWhile isBlank)
  exact ⟨tail, blank, whole⟩

theorem not_isBlank_of_trim {text rest : List Char} {c : Char} (h : trim text = c :: rest) :
    isBlank c = false := by
  obtain ⟨tail, -, whole⟩ := dropWhile_isBlank_eq text
  rw [h, List.cons_append] at whole
  have first := List.head?_dropWhile_not isBlank text
  rw [whole] at first
  simpa using first

theorem dropWhile_isSpace_trim (text : List Char) : (trim text).dropWhile isSpace = trim text := by
  cases h : trim text with
  | nil => rfl
  | cons c rest =>
    have no_blank := not_isBlank_of_trim h
    have no_space : isSpace c = false := by
      rw [isBlank, Bool.or_eq_false_iff] at no_blank
      exact no_blank.1
    rw [List.dropWhile_cons, no_space, if_neg Bool.false_ne_true]

end PeakSlowness.Text
