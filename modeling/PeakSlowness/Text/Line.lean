set_option autoImplicit false

/-!
Lines. A line ends with a line feed, a carriage return, or a carriage return and a line feed, and
with nothing else. `unify` turns each of these ends into a line feed; it may be fed a text in pieces,
so it says whether a carriage return stands open at the end of a piece.
-/

namespace PeakSlowness.Text

/-- Each line end as one line feed, after a carriage return if `open` holds. A carriage return at
the very end is held back. -/
def unifyAfter (isOpen : Bool) : List Char → List Char × Bool
  | [] => ([], isOpen)
  | c :: rest =>
    if c = '\r' then
      let (text, last) := unifyAfter true rest
      (if isOpen then '\n' :: text else text, last)
    else
      let (text, last) := unifyAfter false rest
      if isOpen then (if c = '\n' then '\n' :: text else '\n' :: c :: text, last)
      else (c :: text, last)

/-- Each line end of a whole text as one line feed. -/
def unify (text : List Char) : List Char :=
  let (body, isOpen) := unifyAfter false text
  if isOpen then body ++ ['\n'] else body

/-- The complete lines of a text, each with its line feed, and what follows the last of them. -/
def cutLines : List Char → List (List Char) × List Char
  | [] => ([], [])
  | c :: rest =>
    let (lines, last) := cutLines rest
    if c = '\n' then (['\n'] :: lines, last)
    else match lines with
      | [] => ([], c :: last)
      | line :: more => ((c :: line) :: more, last)

/-- The lines of a text; the last may lack its line feed. -/
def lines (text : List Char) : List (List Char) :=
  let (whole, last) := cutLines text
  if last.isEmpty then whole else whole ++ [last]

def dropLineEnd (line : List Char) : List Char :=
  (line.reverse.dropWhile fun c => c = '\r' || c = '\n').reverse

/-- The parts of a text between the separators `sep`; always at least one. -/
def splitOn {α : Type} [DecidableEq α] (sep : α) : List α → List (List α)
  | [] => [[]]
  | c :: rest =>
    if c = sep then [] :: splitOn sep rest
    else match splitOn sep rest with
      | [] => [[c]]
      | part :: more => (c :: part) :: more

theorem splitOn_ne_nil {α : Type} [DecidableEq α] (sep : α) (text : List α) : splitOn sep text ≠ [] := by
  cases text with
  | nil => simp [splitOn]
  | cons c rest =>
    simp only [splitOn]
    split
    · simp
    · split <;> simp

end PeakSlowness.Text
