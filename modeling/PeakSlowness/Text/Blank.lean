set_option autoImplicit false

/-!
Blank characters and trimming.

Two classes occur. `isSpace` is the Unicode property White_Space; it is what may stand around a
number. `isBlank` also holds of the four information separators U+001C to U+001F; it is what
trimming removes and what makes a line count as empty.
-/

namespace PeakSlowness.Text

/-- The Unicode property White_Space, by code point. -/
def spaceRanges : List (Nat × Nat) :=
  [(0x09, 0x0D), (0x20, 0x20), (0x85, 0x85), (0xA0, 0xA0), (0x1680, 0x1680), (0x2000, 0x200A),
   (0x2028, 0x2029), (0x202F, 0x202F), (0x205F, 0x205F), (0x3000, 0x3000)]

/-- Whether a code point lies in one of the given closed ranges. -/
def inRanges (ranges : List (Nat × Nat)) (n : Nat) : Bool :=
  ranges.any fun r => r.1 ≤ n && n ≤ r.2

def isSpace (c : Char) : Bool := inRanges spaceRanges c.toNat

/-- White space or one of the separators U+001C to U+001F. -/
def isBlank (c : Char) : Bool := isSpace c || (0x1C ≤ c.toNat && c.toNat ≤ 0x1F)

/-- Drops from the end what satisfies `p`. -/
def dropEnd (p : Char → Bool) (text : List Char) : List Char := (text.reverse.dropWhile p).reverse

/-- Drops from both ends what satisfies `p`. -/
def trimBy (p : Char → Bool) (text : List Char) : List Char := dropEnd p (text.dropWhile p)

def trim (text : List Char) : List Char := trimBy isBlank text

theorem isBlank_of_isSpace {c : Char} (h : isSpace c = true) : isBlank c = true := by
  simp [isBlank, h]

@[simp] theorem dropEnd_nil (p : Char → Bool) : dropEnd p [] = [] := rfl

/-- What is dropped from the end satisfies the condition. -/
theorem dropEnd_append_dropped (p : Char → Bool) (text : List Char) :
    ∃ tail, text = dropEnd p text ++ tail ∧ ∀ c ∈ tail, p c = true := by
  refine ⟨(text.reverse.takeWhile p).reverse, ?_, ?_⟩
  · rw [dropEnd, ← List.reverse_append, List.takeWhile_append_dropWhile, List.reverse_reverse]
  · intro c hc
    exact List.all_eq_true.1 List.all_takeWhile c (List.mem_reverse.1 hc)

end PeakSlowness.Text
