import PeakSlowness.Config.Setting
import PeakSlowness.Yaml.Base64
import PeakSlowness.Yaml.Number
import PeakSlowness.Yaml.Tag

set_option autoImplicit false

/-!
The values of scalars: what a text means under a tag.
-/

namespace PeakSlowness.Yaml.ScalarValue

open Text (Letter)

/-- The truth value that a word stands for, whatever the case of its letters. -/
def bool (text : List Letter) : Except YamlFault Bool :=
  let word := Letter.lower text
  match Tag.boolWords.find? fun e => Letter.ofString e.1 = word with
  | some (_, b) => .ok b
  | none => .error (.notABool word)

/-- The octets that a text in base 64 stands for. -/
def octets (text : List Letter) : Except YamlFault (List UInt8) :=
  match Letter.chars? text with
  | none => .error .illFormed
  | some chars =>
    if chars.all (·.toNat < 0x80) then
      match Base64.read? chars with
      | some bytes => .ok bytes
      | none => .error .illFormed
    else .error .illFormed

/-- The day or moment that a text stands for. A line feed at its end does not count. -/
def timestamp (text : List Letter) : Except YamlFault Scalar :=
  let body := if text.getLast? = some (.char '\n') then text.dropLast else text
  match (Letter.chars? body).bind Timestamp.parse? with
  | none => .error .notATimestamp
  | some t =>
    match t.value with
    | .ok (.inl d) => .ok (.date d)
    | .ok (.inr m) => .ok (.moment m)
    | .error fault => .error (.calendar fault)

def read (tag : Tag) (text : List Letter) : Except YamlFault Scalar :=
  match tag with
  | .null => .ok .null
  | .bool => Scalar.bool <$> bool text
  | .int => Scalar.int <$> Number.integer text
  | .float => Scalar.float <$> Number.decimal text
  | .binary => Scalar.octets <$> octets text
  | .timestamp => timestamp text
  | .text => .ok (.ofLetters text)
  | _ => .error .illFormed

end PeakSlowness.Yaml.ScalarValue
