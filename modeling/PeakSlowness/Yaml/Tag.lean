import PeakSlowness.Text.Letter
import PeakSlowness.Yaml.Timestamp

set_option autoImplicit false

/-!
Tags of nodes. A plain scalar without a tag takes one from its content: `Tag.ofContent` knows how truth
values, numbers, dates and the other kinds look.
-/

namespace PeakSlowness.Yaml

open Text

/-- The tags of the core language, and all others. -/
inductive Tag where
  | null
  | bool
  | int
  | float
  | binary
  | timestamp
  | text
  | list
  | map
  | set
  | omap
  | pairs
  /-- a key whose value is merged into the mapping -/
  | merge
  /-- a key whose value stands for the whole mapping -/
  | standIn
  | other
  deriving DecidableEq, Repr

namespace Tag

/-- What the names of the core tags begin with. -/
def coreNames : String := "tag:yaml.org,2002:"

def table : List (String × Tag) :=
  [("null", null), ("bool", bool), ("int", int), ("float", float), ("binary", binary),
   ("timestamp", timestamp), ("str", text), ("seq", list), ("map", map), ("set", set), ("omap", omap),
   ("pairs", pairs), ("merge", merge), ("value", standIn)]

def ofName (name : String) : Tag :=
  ((table.find? fun e => coreNames ++ e.1 = name).map (·.2)).getD other

/-- Words that are truth values, in lower case. -/
def boolWords : List (String × Bool) :=
  [("yes", true), ("no", false), ("true", true), ("false", false), ("on", true), ("off", false)]

/-- A word in lower case, in capitals, and with a capital first letter. -/
def cases (word : String) : List String := [word, word.toUpper, word.capitalize]

/-- Whether a text is one of some words, in lower case, in capitals, or with a capital first letter. -/
def isWord (words : List String) (text : List Char) : Bool :=
  (words.flatMap cases).contains (String.ofList text)

def isGrouped (c : Char) : Bool := c.isDigit || c = '_'

/-- Digits of a base, with underscores among them; at least one character. -/
def isRun (isDigit : Char → Bool) (text : List Char) : Bool :=
  !text.isEmpty && text.all fun c => isDigit c || c = '_'

/-- Digits that begin with one of a class, with underscores behind it. -/
def isNumberFrom (first : Char → Bool) : List Char → Bool
  | [] => false
  | c :: rest => first c && rest.all isGrouped

/-- Whether a text is one or two digits below sixty. -/
def isSixtieth : List Char → Bool
  | [c] => c.isDigit
  | [c, d] => '0' ≤ c && c ≤ '5' && d.isDigit
  | _ => false

/-- Numbers to the base of sixty, with colons between the digits; at least two of them. -/
def isSexagesimal (first : Char → Bool) (text : List Char) : Bool :=
  match splitOn ':' text with
  | head :: more => !more.isEmpty && isNumberFrom first head && more.all isSixtieth
  | [] => false

def isHexDigit (c : Char) : Bool :=
  c.isDigit || ('a' ≤ c && c ≤ 'f') || ('A' ≤ c && c ≤ 'F')

def isInt (text : List Char) : Bool :=
  let (_, body) := Numeral.splitSign text
  match body with
  | '0' :: 'b' :: digits => isRun (fun c => c = '0' || c = '1') digits
  | '0' :: 'x' :: digits => isRun isHexDigit digits
  | ['0'] => true
  | '0' :: digits => isRun (fun c => '0' ≤ c && c ≤ '7') digits
  | _ => isNumberFrom (fun c => c.isDigit && c != '0') body ||
      isSexagesimal (fun c => c.isDigit && c != '0') body

/-- Nothing, or an exponent with its sign. -/
def isExponent : List Char → Bool
  | [] => true
  | e :: s :: digits =>
    (e = 'e' || e = 'E') && (s = '+' || s = '-') && !digits.isEmpty && digits.all (·.isDigit)
  | _ => false

/-- Digits behind a point with an exponent after them. -/
def isFraction (text : List Char) : Bool := isExponent (text.dropWhile isGrouped)

/-- Whether a text looks like a decimal number. One that begins with a point takes no sign. -/
def isFloat (text : List Char) : Bool :=
  let (_, body) := Numeral.splitSign text
  match body with
  | '.' :: rest =>
    isWord ["inf"] rest ||
      (body == text && (rest == ['n', 'a', 'n'] || rest == ['N', 'a', 'N'] || rest == ['N', 'A', 'N'] ||
        ((rest.head?.map (·.isDigit)).getD false && isFraction rest)))
  | _ =>
    match body.takeWhile (· != '.'), body.dropWhile (· != '.') with
    | whole, _ :: part =>
      (isNumberFrom (·.isDigit) whole && isFraction part) ||
        (isSexagesimal (·.isDigit) whole && part.all isGrouped)
    | _, [] => false

/-- Whether a text has a form, one line feed at its end left aside. -/
def fits (form : List Char → Bool) (text : List Char) : Bool :=
  form text || (text.getLast? = some '\n' && form text.dropLast)

def ofContent (text : List Char) : Tag :=
  if text.isEmpty then null
  else if fits (isWord (boolWords.map (·.1))) text then bool
  else if fits isFloat text then float
  else if fits isInt text then int
  else if fits (· == ['<', '<']) text then merge
  else if fits (fun t => t == ['~'] || isWord ["null"] t) text then null
  else if fits isTimestamp text then timestamp
  else if fits (· == ['=']) text then standIn
  else if fits (fun t => t == ['!'] || t == ['&'] || t == ['*']) text then other
  else .text

/-- The tag of a scalar by its content, which is text if it holds half a surrogate pair. -/
def ofLetters (text : List Letter) : Tag := (Letter.chars? text).elim .text ofContent

end Tag

end PeakSlowness.Yaml
