import Mathlib
import PeakSlowness.Proofs.Number.Grammar
import PeakSlowness.Proofs.WrittenFile

set_option autoImplicit false

/-!
Lenient reading of a whole line. Each integer field counts by what it begins with: blanks, a sign or
none, and as many digits as there are. A field that begins otherwise counts as zero, so a line is
rejected only if it has too few fields or one of its integers has too many digits. What stands behind
the digits of an integer is of no account.
-/

namespace PeakSlowness

open Text

namespace Numeral

/-- The text begins with an integer, of this sign and with these digits. -/
inductive LeadingInteger : List Char → Bool → List Char → Prop
  | mk {blanks sign digits rest : List Char} {negative : Bool} (hb : Blank blanks)
      (hs : SignAs sign negative) (hd : Digits digits) (ends : NoDigitFirst rest) :
      LeadingInteger (blanks ++ (sign ++ (digits ++ rest))) negative digits

/-- The text begins with an integer of more digits than are read. -/
def TooLong (text : List Char) : Prop :=
  ∃ negative digits, LeadingInteger text negative digits ∧ digitLimit < digits.length

/-- The value of the integer that the text begins with, or zero if it begins with none. -/
def Leads (text : List Char) (n : ℤ) : Prop :=
  (∃ negative digits, LeadingInteger text negative digits ∧
    n = signed negative (decimalValue digits)) ∨
  ((∀ negative digits, ¬ LeadingInteger text negative digits) ∧ n = 0)

theorem dropWhile_isBlank_append {blanks sign digits : List Char} {negative : Bool}
    (hb : Blank blanks) (hs : SignAs sign negative) (hd : Digits digits) (rest : List Char) :
    (blanks ++ (sign ++ (digits ++ rest))).dropWhile isBlank = sign ++ (digits ++ rest) := by
  obtain ⟨c, more, rfl⟩ := List.exists_cons_of_ne_nil hd.some_digit
  have digit : isBlank c = false := isBlank_of_isDigit (hd.all_digits c List.mem_cons_self)
  rw [List.dropWhile_append_of_pos hb]
  cases hs with
  | none => exact List.dropWhile_cons_of_neg (by simp [digit])
  | plus => exact List.dropWhile_cons_of_neg (by decide)
  | minus => exact List.dropWhile_cons_of_neg (by decide)

theorem leading?_eq_some_iff {text digits : List Char} {negative : Bool} :
    leading? text = some (negative, digits) ↔ LeadingInteger text negative digits := by
  constructor
  · intro h
    have blanks : Blank (text.takeWhile isBlank) := fun _ => List.mem_takeWhile_imp
    obtain ⟨sign, cut, hs⟩ := exists_signAs (text.dropWhile isBlank)
    unfold leading? at h
    dsimp only at h
    split at h
    · cases h
    · next some_digit =>
      cases h
      have run := digits_takeWhile _ (mt List.isEmpty_iff.2 some_digit)
      have ends := noDigitFirst_dropWhile (splitSign (text.dropWhile isBlank)).2
      have whole := LeadingInteger.mk blanks hs run ends
      rwa [List.takeWhile_append_dropWhile, ← cut, List.takeWhile_append_dropWhile] at whole
  · rintro ⟨hb, hs, hd, ends⟩
    simp [leading?, dropWhile_isBlank_append hb hs hd,
      hs.splitSign_append (splitSign_digits_append hd _), takeWhile_digits hd.all_digits ends,
      hd.some_digit]

/-- What follows the digits of a leading integer, and begins with none, is of no account. -/
theorem LeadingInteger.append {text digits suffix : List Char} {negative : Bool}
    (h : LeadingInteger text negative digits) (hs : NoDigitFirst suffix) :
    LeadingInteger (text ++ suffix) negative digits := by
  obtain @⟨_, _, _, rest, _, hb, sign, hd, ends⟩ := h
  have further : NoDigitFirst (rest ++ suffix) := by
    cases rest with
    | nil => exact hs
    | cons c more => exact ends.append (List.cons_ne_nil c more) suffix
  simpa using LeadingInteger.mk hb sign hd further

theorem readLeading_append {text suffix : List Char}
    (h : ∃ negative digits, LeadingInteger text negative digits) (hs : NoDigitFirst suffix) :
    readLeading (text ++ suffix) = readLeading text := by
  obtain ⟨negative, digits, leading⟩ := h
  rw [readLeading, readLeading, leading?_eq_some_iff.2 leading,
    leading?_eq_some_iff.2 (leading.append hs)]

/-- A leading integer is read unless it is too long. -/
theorem readLeading_spec (text : List Char) :
    (TooLong text → ∃ fault, readLeading text = .error fault) ∧
      (¬ TooLong text → ∃ n, readLeading text = .ok n ∧ Leads text n) := by
  unfold readLeading
  cases found : leading? text with
  | none =>
    have nothing : ∀ negative digits, ¬ LeadingInteger text negative digits := by
      intro negative digits leading
      rw [leading?_eq_some_iff.2 leading] at found
      cases found
    refine ⟨?_, fun _ => ⟨0, rfl, .inr ⟨nothing, rfl⟩⟩⟩
    rintro ⟨negative, digits, leading, -⟩
    exact absurd leading (nothing negative digits)
  | some read =>
    obtain ⟨negative, digits⟩ := read
    have leading := leading?_eq_some_iff.1 found
    dsimp only
    constructor
    · rintro ⟨_, _, other, long⟩
      rw [← leading?_eq_some_iff, found] at other
      cases other
      exact ⟨_, if_pos long⟩
    · intro short
      refine ⟨_, if_neg fun long => short ⟨negative, digits, leading, long⟩, .inl ?_⟩
      exact ⟨negative, digits, leading, rfl⟩

/-- An integer in a short text is short. -/
theorem not_tooLong_of_length_le {text : List Char} (h : text.length ≤ digitLimit) :
    ¬ TooLong text := by
  rintro ⟨_, _, leading, long⟩
  obtain ⟨-, -, -, -⟩ := leading
  simp only [List.length_append] at h
  omega

theorem tooLong_of_digits {digits : List Char} (h : ∀ c ∈ digits, isDigit c = true)
    (long : digitLimit < digits.length) : TooLong digits := by
  have some_digit : digits ≠ [] := List.ne_nil_of_length_pos (Nat.zero_lt_of_lt long)
  have blank : Blank [] := fun _ hc => nomatch hc
  have ends : NoDigitFirst [] := rfl
  have leading := LeadingInteger.mk blank .none ⟨some_digit, h⟩ ends
  rw [List.nil_append, List.nil_append, List.append_nil] at leading
  exact ⟨false, digits, leading, long⟩

end Numeral

namespace Text

/-- What is dropped from the end is not sought before a character that stays. -/
theorem dropEnd_append_cons {p : Char → Bool} {c : Char} (h : p c = false)
    (front behind : List Char) :
    dropEnd p (front ++ c :: behind) = front ++ c :: dropEnd p behind := by
  have stop : (c :: front.reverse).dropWhile p = c :: front.reverse :=
    List.dropWhile_cons_of_neg (by simp [h])
  have turned : (front ++ c :: behind).reverse = behind.reverse ++ c :: front.reverse := by simp
  rw [dropEnd, turned, List.dropWhile_append, stop]
  split
  · next all =>
    have none : dropEnd p behind = [] := by simpa [dropEnd] using all
    simp [none]
  · simp [dropEnd]

theorem count_dropEnd {p : Char → Bool} {c : Char} (h : p c = false) (text : List Char) :
    (dropEnd p text).count c = text.count c := by
  obtain ⟨tail, cut, dropped⟩ := dropEnd_append_dropped p text
  have none : tail.count c = 0 := List.count_eq_zero.2 fun hc => by simp [dropped c hc] at h
  conv_rhs => rw [cut, List.count_append, none, Nat.add_zero]

theorem length_splitOn (sep : Char) (text : List Char) :
    (splitOn sep text).length = text.count sep + 1 := by
  induction text with
  | nil => rfl
  | cons c rest ih =>
    unfold splitOn
    split
    · next same => simp [same, ih]
    · next other =>
      cases h : splitOn sep rest with
      | nil => exact absurd h (splitOn_ne_nil sep rest)
      | cons part more => simp_all

theorem splitOn_flatMap {parts : List (List Char)} {sep : Char} (h : ∀ part ∈ parts, sep ∉ part)
    (rest : List Char) :
    splitOn sep (parts.flatMap (· ++ [sep]) ++ rest) = parts ++ splitOn sep rest := by
  induction parts with
  | nil => rfl
  | cons part more ih =>
    obtain ⟨here, there⟩ := List.forall_mem_cons.1 h
    rw [List.flatMap_cons, List.append_assoc, List.append_assoc, List.singleton_append,
      splitOn_append here, ih there, List.cons_append]

end Text

namespace StatLine

open Numeral

theorem length_fields (line : List Char) : (fields line).length = line.count ',' + 1 := by
  rw [fields, length_splitOn]
  exact congrArg (· + 1) (count_dropEnd (by decide) line)

/-- Cells of a line, each with its comma. -/
def closed (cells : List (List Char)) : List Char := cells.flatMap (· ++ [','])

/-- The fields of a line, one of them behind others and in front of a comma. -/
theorem fields_of_cells {cells : List (List Char)} {text : List Char}
    (hc : ∀ cell ∈ cells, ',' ∉ cell) (ht : ',' ∉ text) (more : List Char) :
    fields (closed cells ++ (text ++ ',' :: more)) =
      cells ++ text :: splitOn ',' (dropLineEnd more) := by
  have kept : dropLineEnd (closed cells ++ (text ++ ',' :: more)) =
      closed cells ++ (text ++ ',' :: dropLineEnd more) := by
    rw [← List.append_assoc, ← List.append_assoc]
    exact dropEnd_append_cons (by decide) _ more
  rw [fields, kept, closed, splitOn_flatMap hc, splitOn_append ht]

theorem length_fields_of_cells {cells : List (List Char)} {text : List Char}
    (hc : ∀ cell ∈ cells, ',' ∉ cell) (ht : ',' ∉ text) :
    (fields (closed cells ++ text)).length = cells.length + 1 := by
  rw [length_fields, ← length_splitOn, closed, splitOn_flatMap hc, splitOn_of_not_mem ht]
  simp

section Replace

variable {before behind : List (List Char)} {place : ℕ}

theorem getD_append_cons_of_ne (h : place ≠ before.length) (text text' : List Char)
    (behind : List (List Char)) :
    (before ++ text' :: behind).getD place [] = (before ++ text :: behind).getD place [] := by
  rcases Nat.lt_or_gt_of_ne h with front | back
  · simp [List.getD, List.getElem?_append_left front]
  · obtain ⟨n, hn⟩ : ∃ n, place - before.length = n + 1 := ⟨place - before.length - 1, by omega⟩
    simp [List.getD, List.getElem?_append_right back.le, hn]

/-- Of an integer field nothing counts but the integer that it begins with. -/
theorem ofFields_replace {text text' : List Char} (other : before.length ≠ slownessField)
    (same : readLeading text' = readLeading text) :
    ofFields .lenient (before ++ text' :: behind) = ofFields .lenient (before ++ text :: behind) := by
  have integers (place : ℕ) :
      Field.integer .lenient ((before ++ text' :: behind).getD place []) =
        Field.integer .lenient ((before ++ text :: behind).getD place []) := by
    by_cases here : place = before.length
    · rw [Entry.getD_append_cons here.symm, Entry.getD_append_cons here.symm, Field.integer, same]
      rfl
    · rw [getD_append_cons_of_ne here]
  have slowness := getD_append_cons_of_ne (Ne.symm other) text text' behind
  simp only [ofFields, integers, slowness, List.length_append, List.length_cons]

end Replace

theorem ofFields_lenient_eq_error {line : List Char}
    (h : (fields line).length < fewestFields ∨
      TooLong (fieldAt line releaseField) ∨ TooLong (fieldAt line durationField)) :
    ∃ reason, ofFields .lenient (fields line) = .error reason := by
  cases found : ofFields .lenient (fields line) with
  | error reason => exact ⟨reason, rfl⟩
  | ok a =>
    have described := ofFields_eq_ok_iff.1 found
    have unread {text : List Char} {n : ℤ} (read : Field.integer .lenient text = .ok n) :
        ¬ TooLong text := by
      intro long
      obtain ⟨fault, refused⟩ := (readLeading_spec text).1 long
      rw [Field.integer, refused] at read
      cases read
    rcases h with few | long | long
    · exact absurd described.enough (Nat.not_le.2 few)
    · exact absurd long (unread described.release)
    · exact absurd long (unread described.duration)

theorem ofFields_lenient_eq_ok {line : List Char} (enough : fewestFields ≤ (fields line).length)
    (hr : ¬ TooLong (fieldAt line releaseField)) (hd : ¬ TooLong (fieldAt line durationField)) :
    ∃ release duration slowness,
      ofFields .lenient (fields line) = .ok ⟨release, release + duration, slowness⟩ ∧
      Leads (fieldAt line releaseField) release ∧ Leads (fieldAt line durationField) duration ∧
      Field.decimal .lenient (fieldAt line slownessField) = .ok slowness := by
  obtain ⟨release, read, leads⟩ := (readLeading_spec _).2 hr
  obtain ⟨duration, read', leads'⟩ := (readLeading_spec _).2 hd
  refine ⟨release, duration, _, ofFields_eq_ok_iff.2 ?_, leads, leads', rfl⟩
  rw [Int.add_comm, Int.add_sub_cancel]
  exact ⟨enough, mapError_eq_ok_iff.2 read, mapError_eq_ok_iff.2 read', rfl⟩

theorem toOption_parse (mode : Mode) (number : ℤ) (line : List Char) :
    (parse mode number line).toOption = (ofFields mode (fields line)).toOption := by
  rw [parse_eq]
  cases ofFields mode (fields line) <;> rfl

/-- Lenient reading rejects a line if it has too few fields or an integer field of it is too long, and
for nothing else. Otherwise the line says what its integer fields begin with, and the slowness that
lenient reading finds. Text put in behind the integer of a field, if it begins with no digit and has
no comma, changes nothing about what the line says. -/
theorem parse_lenient_by_leading_integers (number : ℤ) (line : List Char) :
    ((∃ reason, parse .lenient number line =
        .error ⟨number, String.ofList (dropLineEnd line), reason⟩) ↔
      (fields line).length < fewestFields ∨
        TooLong (fieldAt line releaseField) ∨ TooLong (fieldAt line durationField)) ∧
    (fewestFields ≤ (fields line).length →
      ¬ TooLong (fieldAt line releaseField) → ¬ TooLong (fieldAt line durationField) →
      ∃ release duration slowness,
        parse .lenient number line = .ok ⟨release, release + duration, slowness⟩ ∧
        Leads (fieldAt line releaseField) release ∧ Leads (fieldAt line durationField) duration ∧
        Field.decimal .lenient (fieldAt line slownessField) = .ok slowness) ∧
    (∀ (cells : List (List Char)) (text rest suffix : List Char), line = closed cells ++ (text ++ rest) →
      cells.length = releaseField ∨ cells.length = durationField →
      (∀ cell ∈ cells, ',' ∉ cell) → ',' ∉ text → (rest = [] ∨ rest.head? = some ',') →
      (∃ negative digits, LeadingInteger text negative digits) →
      ',' ∉ suffix → NoDigitFirst suffix →
      (parse .lenient number (closed cells ++ (text ++ suffix ++ rest))).toOption =
        (parse .lenient number line).toOption) := by
  refine ⟨⟨?_, ?_⟩, ?_, ?_⟩
  · rintro ⟨reason, rejected⟩
    by_contra fine
    simp only [not_or, Nat.not_lt] at fine
    obtain ⟨enough, hr, hd⟩ := fine
    obtain ⟨_, _, _, read, -⟩ := ofFields_lenient_eq_ok enough hr hd
    rw [parse_eq, read] at rejected
    cases rejected
  · intro bad
    obtain ⟨reason, rejected⟩ := ofFields_lenient_eq_error bad
    exact ⟨reason, by rw [parse_eq, rejected, mapError_error]⟩
  · intro enough hr hd
    obtain ⟨release, duration, slowness, read, leads⟩ := ofFields_lenient_eq_ok enough hr hd
    exact ⟨release, duration, slowness, by rw [parse_eq, read, mapError_ok], leads⟩
  · rintro cells text rest suffix rfl place hc ht (rfl | comma) leading hs no_digit
    · have few {text : List Char} (ht : ',' ∉ text) :
          (fields (closed cells ++ text)).length < fewestFields := by
        rw [length_fields_of_cells hc ht]
        rcases place with here | here <;> rw [here] <;> decide
      have further : ',' ∉ text ++ suffix := by simp [ht, hs]
      rw [toOption_parse, toOption_parse, List.append_nil, List.append_nil, ofFields, ofFields,
        if_pos (few ht), if_pos (few further)]
      rfl
    · obtain ⟨more, rfl⟩ := List.head?_eq_some_iff.1 comma
      have further : ',' ∉ text ++ suffix := by simp [ht, hs]
      have other : cells.length ≠ slownessField := by
        rcases place with here | here <;> rw [here] <;> decide
      rw [toOption_parse, toOption_parse, fields_of_cells hc ht, fields_of_cells hc further,
        ofFields_replace other (readLeading_append leading no_digit)]

/-- The cells in front of the release date. -/
def sixCells : List (List Char) := [['a'], [], ['c'], ['d'], ['e'], ['f']]

/-- A line with this release date. -/
def released (text : List Char) : List Char :=
  closed sixCells ++ (text ++ ",h,i,12.5,k,-.5e\n".toList)

theorem fieldAt_released {text : List Char} (h : ',' ∉ text) :
    fieldAt (released text) releaseField = text := by
  have plain : ∀ cell ∈ sixCells, ',' ∉ cell := by decide
  have found := fields_of_cells plain h "h,i,12.5,k,-.5e\n".toList
  exact (congrArg (List.getD · releaseField []) found).trans (Entry.getD_append_cons rfl _ _)

/-- A release date with letters behind it, one with still more behind it, and one of too many
digits. -/
theorem parse_lenient_three_releases :
    (parse .lenient 3 (released " +7x".toList) =
        .ok ⟨7, 19, { negative := true, magnitude := 0x3FE0000000000000 }⟩ ∧
      Leads " +7x".toList 7 ∧ Leads "12.5".toList 12) ∧
    (parse .lenient 3 (released " +7x 8".toList)).toOption =
      some ⟨7, 19, { negative := true, magnitude := 0x3FE0000000000000 }⟩ ∧
    ∃ reason, parse .lenient 3 (released (List.replicate 4301 '0')) =
      .error ⟨3, String.ofList (dropLineEnd (released (List.replicate 4301 '0'))), reason⟩ := by
  obtain ⟨-, accepts, unmoved⟩ := parse_lenient_by_leading_integers 3 (released " +7x".toList)
  obtain ⟨rejects, -⟩ := parse_lenient_by_leading_integers 3 (released (List.replicate 4301 '0'))
  have read : parse .lenient 3 (released " +7x".toList) =
      .ok ⟨7, 19, { negative := true, magnitude := 0x3FE0000000000000 }⟩ := by rfl
  refine ⟨⟨read, ?_⟩, ?_, rejects.2 (.inr (.inl ?_))⟩
  · obtain ⟨release, duration, slowness, read', leads, leads', -⟩ := accepts (by decide)
      (not_tooLong_of_length_le (by decide)) (not_tooLong_of_length_le (by decide))
    simp only [read, Except.ok.injEq, Application.mk.injEq] at read'
    obtain ⟨rfl, total, -⟩ := read'
    obtain rfl : duration = 12 := by omega
    exact ⟨leads, leads'⟩
  · have seven : LeadingInteger " +7x".toList false ['7'] := leading?_eq_some_iff.1 rfl
    have same := unmoved sixCells _ _ " 8".toList rfl (.inl rfl) (by decide) (by decide) (.inr rfl)
      ⟨_, _, seven⟩ (by decide) rfl
    rw [read] at same
    exact same
  · have digits : ∀ c ∈ List.replicate 4301 '0', isDigit c = true := by
      intro c hc
      rw [List.eq_of_mem_replicate hc]
      rfl
    rw [fieldAt_released fun comma => absurd (digits _ comma) (by decide)]
    exact tooLong_of_digits digits (by rw [List.length_replicate, digitLimit]; decide)

end StatLine

end PeakSlowness
