import PeakSlowness.Text.Line

set_option autoImplicit false

/-!
Lines of a text that comes in parts. What `unifyAfter` and `cutLines` hold back after the first part
is all that they need to go on with the next one. The lines that are complete in a part of a text
are complete in the whole text, and at the end one more may be left.
-/

namespace PeakSlowness.Text

/-- The line ends of a whole text, seen at once. -/
def translateEnds : List Char → List Char
  | [] => []
  | '\r' :: '\n' :: rest => '\n' :: translateEnds rest
  | '\r' :: rest => '\n' :: translateEnds rest
  | c :: rest => c :: translateEnds rest

theorem translateEnds_cons {c : Char} (h : c ≠ '\r') (rest : List Char) :
    translateEnds (c :: rest) = c :: translateEnds rest := by
  rw [translateEnds]
  · rintro _ rfl
    exact absurd rfl h
  · exact h

theorem translateEnds_return {c : Char} (h : c ≠ '\n') (rest : List Char) :
    translateEnds ('\r' :: c :: rest) = '\n' :: translateEnds (c :: rest) := by
  rw [translateEnds]
  rintro _ ⟨⟩
  exact absurd rfl h

theorem translateEnds_append {first : List Char} (h : '\r' ∉ first) (second : List Char) :
    translateEnds (first ++ second) = first ++ translateEnds second := by
  induction first with
  | nil => rfl
  | cons c rest ih =>
    rw [List.mem_cons, not_or] at h
    rw [List.cons_append, translateEnds_cons (Ne.symm h.1), ih h.2, List.cons_append]

/-- A carriage return that stands open is one more line end. -/
def closeReturn (read : List Char × Bool) : List Char := if read.2 then read.1 ++ ['\n'] else read.1

theorem closeReturn_cons (c : Char) (read : List Char × Bool) :
    closeReturn (c :: read.1, read.2) = c :: closeReturn read := by
  unfold closeReturn
  split <;> rfl

theorem closeReturn_unifyAfter (text : List Char) :
    closeReturn (unifyAfter false text) = translateEnds text ∧
      closeReturn (unifyAfter true text) = translateEnds ('\r' :: text) := by
  induction text with
  | nil => exact ⟨rfl, rfl⟩
  | cons c rest ih =>
    obtain ⟨closed, opened⟩ := ih
    by_cases hr : c = '\r'
    · subst hr
      simp only [unifyAfter, if_true, if_false, Bool.false_eq_true]
      refine ⟨opened, ?_⟩
      rw [closeReturn_cons, opened, translateEnds_return (by decide)]
    · by_cases hn : c = '\n'
      · subst hn
        simp only [unifyAfter, if_neg hr, if_true, if_false, Bool.false_eq_true]
        rw [closeReturn_cons, closed, translateEnds_cons hr, translateEnds]
        exact ⟨rfl, rfl⟩
      · simp only [unifyAfter, if_neg hr, if_neg hn, if_true, if_false, Bool.false_eq_true]
        rw [closeReturn_cons, closed, closeReturn_cons '\n' (c :: (unifyAfter false rest).1, _),
          closeReturn_cons, closed, translateEnds_return hn, translateEnds_cons hr]
        exact ⟨rfl, rfl⟩

/-- Translating line ends as they come is translating them all at once. -/
theorem unify_eq_translateEnds (text : List Char) : unify text = translateEnds text :=
  (closeReturn_unifyAfter text).1

theorem unifyAfter_append (isOpen : Bool) (first second : List Char) :
    unifyAfter isOpen (first ++ second) =
      ((unifyAfter isOpen first).1 ++ (unifyAfter (unifyAfter isOpen first).2 second).1,
        (unifyAfter (unifyAfter isOpen first).2 second).2) := by
  induction first generalizing isOpen with
  | nil => rfl
  | cons c rest ih =>
    simp only [List.cons_append, unifyAfter]
    by_cases hr : c = '\r'
    · simp only [if_pos hr, ih]
      split <;> rfl
    · simp only [if_neg hr, ih]
      split
      · split <;> rfl
      · rfl

theorem cutLines_append (first second : List Char) :
    cutLines (first ++ second) =
      ((cutLines first).1 ++ (cutLines ((cutLines first).2 ++ second)).1,
        (cutLines ((cutLines first).2 ++ second)).2) := by
  induction first with
  | nil => rfl
  | cons c rest ih =>
    simp only [List.cons_append, cutLines]
    by_cases hn : c = '\n'
    · simp only [if_pos hn, ih, List.cons_append]
    · simp only [if_neg hn, ih]
      cases (cutLines rest).1 with
      | nil =>
        simp only [List.nil_append, List.cons_append, cutLines, if_neg hn]
      | cons line more => rfl

/-- What is behind the last complete line holds no line end. -/
theorem not_mem_snd_cutLines (text : List Char) : '\n' ∉ (cutLines text).2 := by
  induction text with
  | nil => exact List.not_mem_nil
  | cons c rest ih =>
    simp only [cutLines]
    by_cases hn : c = '\n'
    · simpa only [if_pos hn] using ih
    · simp only [if_neg hn]
      cases (cutLines rest).1 with
      | nil =>
        intro h
        rcases List.mem_cons.1 h with h | h
        · exact hn h.symm
        · exact ih h
      | cons line more => exact ih

theorem cutLines_end_line {text : List Char} (h : '\n' ∉ text) :
    cutLines (text ++ ['\n']) = ([text ++ ['\n']], []) := by
  induction text with
  | nil => rfl
  | cons c rest ih =>
    have hn : c ≠ '\n' := fun e => h (e ▸ List.mem_cons_self)
    simp only [List.cons_append, cutLines, ih fun hm => h (List.mem_cons_of_mem c hm), if_neg hn]

theorem cutLines_of_not_mem {text : List Char} (h : '\n' ∉ text) : cutLines text = ([], text) := by
  induction text with
  | nil => rfl
  | cons c rest ih =>
    rw [List.mem_cons, not_or] at h
    simp only [cutLines, ih h.2, if_neg (Ne.symm h.1)]

theorem lines_of_not_mem {text : List Char} (h : '\n' ∉ text) :
    lines text = if text.isEmpty then [] else [text] := by
  simp [lines, cutLines_of_not_mem h]

theorem lines_append_feed {text : List Char} (h : '\n' ∉ text) (rest : List Char) :
    lines (text ++ '\n' :: rest) = (text ++ ['\n']) :: lines rest := by
  have cut : cutLines (text ++ '\n' :: rest) =
      ((text ++ ['\n']) :: (cutLines rest).1, (cutLines rest).2) := by
    rw [List.append_cons, cutLines_append, cutLines_end_line h]
    rfl
  simp only [lines, cut]
  split <;> rfl

theorem getLast?_of_mem_cutLines {text line : List Char} (h : line ∈ (cutLines text).1) :
    line.getLast? = some '\n' := by
  induction text generalizing line with
  | nil => cases h
  | cons c rest ih =>
    simp only [cutLines] at h
    by_cases hn : c = '\n'
    · simp only [if_pos hn, List.mem_cons] at h
      rcases h with rfl | h
      · rfl
      · exact ih h
    · simp only [if_neg hn] at h
      cases hc : (cutLines rest).1 with
      | nil => simp [hc] at h
      | cons line' more =>
        rw [hc] at h ih
        simp only [List.mem_cons] at h
        rcases h with rfl | h
        · rw [List.getLast?_cons, ih List.mem_cons_self]
          rfl
        · exact ih (List.mem_cons_of_mem _ h)

def endedLines (text : List Char) : List (List Char) :=
  (lines (translateEnds text)).filter fun line => line.getLast? = some '\n'

/-- The lines of a text that are complete, whatever comes behind it. -/
def completeLines (text : List Char) : List (List Char) := (cutLines (unifyAfter false text).1).1

/-- What stands behind the complete lines. It makes up a last line, unless it is empty. -/
def lastLine (text : List Char) : List Char :=
  closeReturn ((cutLines (unifyAfter false text).1).2, (unifyAfter false text).2)

theorem lines_unify (text : List Char) :
    lines (unify text) =
      completeLines text ++ if (lastLine text).isEmpty then [] else [lastLine text] := by
  have none_in := not_mem_snd_cutLines (unifyAfter false text).1
  have again := cutLines_append (unifyAfter false text).1
  simp only [lines, unify, completeLines, lastLine, closeReturn]
  split
  · rw [again, cutLines_end_line none_in]
    simp
  · split
    · rw [List.append_nil]
    · rfl

theorem completeLines_prefix_lines (text : List Char) :
    completeLines text <+: lines (unify text) := by
  rw [lines_unify]
  exact List.prefix_append ..

theorem completeLines_prefix_endedLines (text : List Char) :
    completeLines text <+: endedLines text := by
  have kept : (completeLines text).filter (fun line => line.getLast? = some '\n') =
      completeLines text :=
    List.filter_eq_self.2 fun line h => decide_eq_true (getLast?_of_mem_cutLines h)
  rw [← kept, endedLines, ← unify_eq_translateEnds]
  exact (completeLines_prefix_lines text).filter _

/-- A line that is complete stays complete. -/
theorem completeLines_mono {first text : List Char} (h : first <+: text) :
    completeLines first <+: completeLines text := by
  obtain ⟨second, rfl⟩ := h
  rw [completeLines, completeLines, unifyAfter_append, cutLines_append]
  exact List.prefix_append ..

section Splitting

variable {α β : Type} [DecidableEq α] [DecidableEq β] {sep : α} {text part : List α}

theorem not_mem_of_mem_splitOn (h : part ∈ splitOn sep text) : sep ∉ part := by
  induction text generalizing part with
  | nil =>
    obtain rfl := List.mem_singleton.1 h
    exact List.not_mem_nil
  | cons c rest ih =>
    rw [splitOn] at h
    split at h
    · rcases List.mem_cons.1 h with rfl | behind
      · exact List.not_mem_nil
      · exact ih behind
    · next other =>
      cases parts : splitOn sep rest with
      | nil => exact absurd parts (splitOn_ne_nil sep rest)
      | cons first more =>
        rw [parts] at h ih
        rcases List.mem_cons.1 h with rfl | behind
        · exact List.not_mem_cons_of_ne_of_not_mem (Ne.symm other) (ih List.mem_cons_self)
        · exact ih (List.mem_cons_of_mem _ behind)

theorem splitOn_map {f : α → β} (injective : f.Injective) (sep : α) (text : List α) :
    splitOn (f sep) (text.map f) = (splitOn sep text).map (List.map f) := by
  induction text with
  | nil => rfl
  | cons c rest ih =>
    rw [List.map_cons, splitOn, splitOn, ih]
    by_cases same : c = sep
    · rw [if_pos (congrArg f same), if_pos same]
      rfl
    · rw [if_neg (fun equal => same (injective equal)), if_neg same]
      cases splitOn sep rest <;> rfl

end Splitting

end PeakSlowness.Text
