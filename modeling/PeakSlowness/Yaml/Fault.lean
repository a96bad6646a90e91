import PeakSlowness.Config.Calendar
import PeakSlowness.Number.Numeral
import PeakSlowness.Text.Letter
import PeakSlowness.Text.Utf8

set_option autoImplicit false

/-!
Why a configuration text has no value. Breaking the rules of the language is one fault, whatever the rule;
the others come from octets that are no text, and from characters and scalars that the rules admit.
-/

namespace PeakSlowness

open Text

/-- Why a configuration text has no value. -/
inductive YamlFault where
  /-- the text breaks the rules of the language, or a tag does not fit its node -/
  | illFormed
  | undecodable (fault : Utf8.Fault)
  | codePointBeyondUnicode
  | codePointBeyondWord
  | notABool (text : List Letter)
  | emptyNumber
  | numeral (fault : Numeral.Fault)
  | notANumberText (text : List Letter)
  | integerBeyondFloat
  | notATimestamp
  /-- a mapping that a scalar stands in for, where a timestamp belongs -/
  | timestampOfMapping
  | calendar (fault : CalendarFault)
  deriving DecidableEq

def YamlFault.message : YamlFault → String
  | illFormed => "<yaml error>"
  | undecodable fault => fault.message
  | codePointBeyondUnicode => "chr() arg not in range(0x110000)"
  | codePointBeyondWord => "Python int too large to convert to C int"
  | notABool text => Letter.quotedString text
  | emptyNumber => "string index out of range"
  | numeral fault => fault.message
  | notANumberText text => "could not convert string to float: " ++ Letter.quotedString text
  | integerBeyondFloat => "int too large to convert to float"
  | notATimestamp => "'NoneType' object has no attribute 'groupdict'"
  | timestampOfMapping => "expected string or bytes-like object, got 'list'"
  | calendar fault => fault.message

end PeakSlowness
