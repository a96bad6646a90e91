import Mathlib
import PeakSlowness.CommandLine.Word
import PeakSlowness.Proofs.Steps

set_option autoImplicit false

/-!
What the words of a command line are taken for. A spelling alone is its option, and a spelling with
an equals sign behind it is the option with what follows as its value. Digits behind a minus sign
are a number, for no option has a digit for its letter.
-/

namespace PeakSlowness.CommandLine

open Text

theorem spelling_without_equals : ∀ e ∈ Flag.table, '=' ∉ e.1.toList := by decide

theorem ofSpelling?_of_mem : ∀ e ∈ Flag.table, Flag.ofSpelling? e.1 = some e.2 := by decide

/-- An option is a minus sign and something that is no digit. -/
theorem spelling_letter : ∀ e ∈ Flag.table,
    e.1.toList.head? = some '-' ∧
      e.1.toList.tail.head?.any (fun c => !isDigit c) = true := by decide

theorem ofSpelling?_eq_none {word : String} (h : ∀ e ∈ Flag.table, e.1 ≠ word) :
    Flag.ofSpelling? word = none := by
  rw [Flag.ofSpelling?, List.find?_eq_none.2, Option.map_none]
  intro e he
  simpa using h e he

theorem ofSpelling?_of_mem_equals {word : String} (h : '=' ∈ word.toList) :
    Flag.ofSpelling? word = none := by
  apply ofSpelling?_eq_none
  rintro e he rfl
  exact spelling_without_equals e he h

section Equals

variable {front : List Char}

theorem takeWhile_ne_equals (h : '=' ∉ front) : ∀ c ∈ front, (c != '=') = true := by
  intro c hc
  have apart : c ≠ '=' := fun same => h (same ▸ hc)
  simpa using apart

theorem cutAtEquals_append (h : '=' ∉ front) (rest : List Char) :
    cutAtEquals (front ++ '=' :: rest) = (front, some rest) := by
  have front_kept := takeWhile_ne_equals h
  have stop : ('=' != '=') = false := by decide
  unfold cutAtEquals
  rw [List.dropWhile_append_of_pos front_kept, List.takeWhile_append_of_pos front_kept,
    List.dropWhile_cons, List.takeWhile_cons, stop]
  simp

theorem cutAtEquals_of_not_mem (h : '=' ∉ front) : cutAtEquals front = (front, none) := by
  unfold cutAtEquals
  rw [List.dropWhile_eq_nil_iff.2 (takeWhile_ne_equals h)]

end Equals

theorem classify_spelling {e : String × Flag} (h : e ∈ Flag.table) :
    classify e.1 = .ok (.flag e.2 e.1 none) := by
  obtain ⟨rest, text⟩ := List.head?_eq_some_iff.1 (spelling_letter e h).1
  unfold classify
  rw [text]
  simp only [ofSpelling?_of_mem e h]

theorem classify_attached {e : String × Flag} (h : e ∈ Flag.table) (text : String) :
    classify (e.1 ++ "=" ++ text) = .ok (.flag e.2 e.1 (some (.behindEquals text))) := by
  obtain ⟨rest, spelling⟩ := List.head?_eq_some_iff.1 (spelling_letter e h).1
  have written : (e.1 ++ "=" ++ text).toList = e.1.toList ++ '=' :: text.toList := by
    rw [String.toList_append, String.toList_append, List.append_assoc]
    rfl
  have begins : (e.1 ++ "=" ++ text).toList = '-' :: (rest ++ '=' :: text.toList) := by
    rw [written, spelling, List.cons_append]
  have no_spelling : Flag.ofSpelling? (e.1 ++ "=" ++ text) = none :=
    ofSpelling?_of_mem_equals (by simp [written])
  have cut := cutAtEquals_append (spelling_without_equals e h) text.toList
  rw [← written, begins] at cut
  unfold classify
  rw [begins]
  simp only [no_spelling, cut, String.ofList_toList, ofSpelling?_of_mem e h]
  simp

theorem classify_of_head? {word : String} (h : word.toList.head? ≠ some '-') :
    classify word = .ok (.plain word) := by
  unfold classify
  split
  · next text => simp [text] at h
  · rfl

theorem looksNegative_of_digits {digits : List Char} (hn : digits ≠ [])
    (hd : ∀ c ∈ digits, isDigit c = true) : looksNegative ('-' :: digits) = true := by
  have feed : digits.getLast? ≠ some '\n' := by
    intro last
    have digit := hd _ (List.mem_of_getLast? last)
    revert digit
    decide
  obtain ⟨c, rest, rfl⟩ := List.exists_cons_of_ne_nil hn
  unfold looksNegative
  simp only [if_neg feed]
  rw [List.takeWhile_eq_self_iff.2 hd, List.dropWhile_eq_nil_iff.2 hd]

/-- A negative number is no option. -/
theorem classify_negative {word : String} {digits : List Char} (text : word.toList = '-' :: digits)
    (hn : digits ≠ []) (hd : ∀ c ∈ digits, isDigit c = true) :
    classify word = .ok (.plain word) := by
  obtain ⟨c, rest, rfl⟩ := List.exists_cons_of_ne_nil hn
  have digit : isDigit c = true := hd c List.mem_cons_self
  have no_letter : ∀ e ∈ Flag.table, e.1.toList.tail.head? ≠ some c := by
    intro e he same
    obtain ⟨-, letter⟩ := spelling_letter e he
    rw [same] at letter
    simp [digit] at letter
  have no_spelling : Flag.ofSpelling? word = none := by
    apply ofSpelling?_eq_none
    rintro e he rfl
    exact no_letter e he (by simp [text])
  have no_equals : '=' ∉ '-' :: c :: rest := by
    intro equals
    rcases List.mem_cons.1 equals with minus | inside
    · cases minus
    · exact absurd (hd _ inside) (by decide)
  have none_fits : candidates ('-' :: c :: rest) = [] := by
    have no_minus : c ≠ '-' := by
      rintro rfl
      exact absurd digit (by decide)
    have none_short : Flag.table.filter (fun e => e.1.toList = ['-', c]) = [] := by
      rw [List.filter_eq_nil_iff]
      intro e he same
      rw [decide_eq_true_eq] at same
      exact no_letter e he (by simp [same])
    simp [candidates, none_short]
  unfold classify
  rw [text]
  simp only [no_spelling, cutAtEquals_of_not_mem no_equals, none_fits]
  simp [ofForm, text, looksNegative_of_digits (List.cons_ne_nil _ _) hd]

theorem ofList_cons {text : String} {word : Word} {rest : List String} {words : List Word}
    (h : text ≠ "--") (first : classify text = .ok word) (others : Word.ofList rest = .ok words) :
    Word.ofList (text :: rest) = .ok (word :: words) := by
  rw [Word.ofList, if_neg h, first, ok_bind, others]
  rfl

end PeakSlowness.CommandLine
