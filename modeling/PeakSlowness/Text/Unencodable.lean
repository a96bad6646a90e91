import PeakSlowness.Text.Letter

set_option autoImplicit false

/-!
Texts that an encoding has no octets for. Two encodings occur: one octet for each of the first 256 code
points, and UTF-8 as file names have it, where the halves U+DC80 to U+DCFF stand for single octets and the
other halves for none.
-/

namespace PeakSlowness.Text

/-- The encodings of texts. -/
inductive Encoding where
  | latin1
  | utf8
  deriving DecidableEq, Repr

def Encoding.name : Encoding → String
  | .latin1 => "latin-1"
  | .utf8 => "utf-8"

def Encoding.reason : Encoding → String
  | .latin1 => "ordinal not in range(256)"
  | .utf8 => "surrogates not allowed"

/-- Letters of a text that an encoding does not have, from one position up to another, and the code point of
the first one. -/
structure Unencodable where
  encoding : Encoding
  code : Nat
  first : Nat
  last : Nat
  deriving DecidableEq, Repr

namespace Unencodable

/-- The wording for letters that an encoding does not have. -/
def message (u : Unencodable) : String :=
  let place :=
    if u.first = u.last then
      "character '" ++ String.ofList (escapeCode u.code) ++ "' in position " ++ toString u.first
    else "characters in position " ++ toString u.first ++ "-" ++ toString u.last
  "'" ++ u.encoding.name ++ "' codec can't encode " ++ place ++ ": " ++ u.encoding.reason

/-- The first letters of a text that have no octet of their own. -/
def inLatin1? (text : List Letter) : Option Unencodable :=
  let fits := fun l : Letter => decide (l.code < 256)
  match text.dropWhile fits with
  | [] => none
  | rest@(l :: _) =>
    let first := (text.takeWhile fits).length
    some ⟨.latin1, l.code, first, first + (rest.takeWhile (!fits ·)).length - 1⟩

/-- Whether a letter is half a surrogate pair. -/
def isHalf : Letter → Bool
  | .char _ => false
  | .half _ => true

/-- Whether a letter stands for a single octet in a file name. -/
def isOctet (l : Letter) : Bool := 0xDC80 ≤ l.code && l.code ≤ 0xDCFF

/-- The first halves in a text, from a position on, that stand for no octets; those behind them count with
them. -/
def inPathFrom? (position : Nat) : List Letter → Option Unencodable
  | [] => none
  | l :: rest =>
    if isHalf l && !isOctet l then
      some ⟨.utf8, l.code, position, position + (rest.takeWhile isHalf).length⟩
    else inPathFrom? (position + 1) rest

/-- The first letters of a path that have no octets. -/
def inPath? (text : List Letter) : Option Unencodable := inPathFrom? 0 text

end Unencodable

end PeakSlowness.Text
