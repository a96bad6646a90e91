import PeakSlowness.Text.Lowercase
import PeakSlowness.Text.Quoted

set_option autoImplicit false

/-!
Texts that may hold halves of surrogate pairs. An escape can put a half into a text without its partner;
no such text is a string. Whatever is said about characters, a half is none: it has no lower case, it is
not printable, and it begins no number.
-/

namespace PeakSlowness.Text

/-- A character, or the code point of one half of a surrogate pair. -/
inductive Letter where
  | char (c : Char)
  | half (code : Nat)
  deriving DecidableEq, Repr

namespace Letter

def ofList (text : List Char) : List Letter := text.map .char

def ofString (text : String) : List Letter := ofList text.toList

def code : Letter → Nat
  | char c => c.toNat
  | half n => n

def char? : Letter → Option Char
  | char c => some c
  | half _ => none

def chars? (text : List Letter) : Option (List Char) := text.mapM char?

def string? (text : List Letter) : Option String := (chars? text).map String.ofList

/-- The characters of a text, each half being replaced by a NUL character. -/
def blanked (text : List Letter) : List Char := text.map fun l => l.char?.getD '\x00'

/-- The characters of a text, each half being replaced by its escape. -/
def escaped (text : List Letter) : List Char :=
  text.flatMap fun l =>
    match l with
    | char c => [c]
    | half n => escapeCode n

/-- The lower case of a text, `run` being the characters just before it, the nearest first. Halves part
words. -/
def lowerOn (run : List Char) : List Letter → List Letter
  | [] => ofList (lower run.reverse)
  | char c :: rest => lowerOn (c :: run) rest
  | half n :: rest => ofList (lower run.reverse) ++ half n :: lowerOn [] rest

def lower (text : List Letter) : List Letter := lowerOn [] text

def isBlank (l : Letter) : Bool := (l.char?.map Text.isBlank).getD false

def trim (text : List Letter) : List Letter :=
  ((text.dropWhile isBlank).reverse.dropWhile isBlank).reverse

def quoteFor (text : List Letter) : Char := Text.quoteFor (text.filterMap char?)

def quoted (text : List Letter) : List Char :=
  let quote := quoteFor text
  let shown := fun l : Letter =>
    match l with
    | char c => escape quote c
    | half n => escapeCode n
  [quote] ++ text.flatMap shown ++ [quote]

/-- The text in quotes, as a string. -/
def quotedString (text : List Letter) : String := String.ofList (quoted text)

@[simp] theorem chars?_ofList (text : List Char) : chars? (ofList text) = some text := by
  simp only [chars?, ofList]
  induction text with
  | nil => rfl
  | cons c rest ih => simp [List.mapM_cons, char?, ih]

/-- Without halves, quoting is that of characters. -/
theorem quoted_ofList (text : List Char) : quoted (ofList text) = Text.quoted text := by
  have h : (ofList text).filterMap char? = text := by
    induction text with
    | nil => rfl
    | cons c rest ih => simpa [ofList, char?] using ih
  simp only [quoted, Text.quoted, quoteFor, h]
  simp [ofList, List.flatMap_map]

end Letter

end PeakSlowness.Text
