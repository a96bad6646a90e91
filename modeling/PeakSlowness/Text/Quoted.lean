import PeakSlowness.Text.Printable

set_option autoImplicit false

/-!
Quoted text, as messages show it. Apostrophes enclose it unless it holds an apostrophe and no double
quote. The enclosing quote and the backslash are escaped, and so is what is not printable: by a letter
for tab, line feed and carriage return, else by its code point in two, four or eight hexadecimal digits.
-/

namespace PeakSlowness.Text

/-- One hexadecimal digit, in lower case. -/
def hexDigit (n : Nat) : Char := Char.ofNat (if n < 10 then 0x30 + n else 0x57 + n)

/-- The last `width` hexadecimal digits of a number. -/
def hexDigits : Nat → Nat → List Char
  | 0, _ => []
  | width + 1, n => hexDigits width (n / 16) ++ [hexDigit (n % 16)]

def quoteFor (text : List Char) : Char :=
  if text.contains '\x27' && !text.contains '\x22' then '\x22' else '\x27'

def escapeCode (n : Nat) : List Char :=
  if n ≤ 0xFF then ['\x5c', 'x'] ++ hexDigits 2 n
  else if n ≤ 0xFFFF then ['\x5c', 'u'] ++ hexDigits 4 n
  else ['\x5c', 'U'] ++ hexDigits 8 n

def escape (quote c : Char) : List Char :=
  if c = quote || c = '\x5c' then ['\x5c', c]
  else if c = '\t' then ['\x5c', 't']
  else if c = '\n' then ['\x5c', 'n']
  else if c = '\r' then ['\x5c', 'r']
  else if isPrintable c then [c]
  else escapeCode c.toNat

def quoted (text : List Char) : List Char :=
  let quote := quoteFor text
  [quote] ++ text.flatMap (escape quote) ++ [quote]

def quotedString (text : String) : String := String.ofList (quoted text.toList)

/-- One octet between quotes: only printable ASCII stands for itself. -/
def escapeOctet (quote : Char) (b : UInt8) : List Char :=
  let c := Char.ofNat b.toNat
  if c = quote || c = '\x5c' then ['\x5c', c]
  else if c = '\t' then ['\x5c', 't']
  else if c = '\n' then ['\x5c', 'n']
  else if c = '\r' then ['\x5c', 'r']
  else if 0x20 ≤ b.toNat && b.toNat < 0x7F then [c]
  else escapeCode b.toNat

/-- Octets in quotes, marked by a leading letter. -/
def quotedOctets (octets : List UInt8) : List Char :=
  let quote := quoteFor (octets.map fun b => Char.ofNat b.toNat)
  ['b', quote] ++ octets.flatMap (escapeOctet quote) ++ [quote]

end PeakSlowness.Text
