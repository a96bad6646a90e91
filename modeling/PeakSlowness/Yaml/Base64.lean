set_option autoImplicit false

/-!
Octets in base 64. Characters outside the alphabet are skipped. Reading ends at padding that completes a
group; a group that is not complete at the end is a fault.
-/

namespace PeakSlowness.Yaml.Base64

/-- The six bits of a character of the alphabet. -/
def bits? (c : Char) : Option Nat :=
  if 'A' ≤ c && c ≤ 'Z' then some (c.toNat - 0x41)
  else if 'a' ≤ c && c ≤ 'z' then some (c.toNat - 0x61 + 26)
  else if c.isDigit then some (c.toNat - 0x30 + 52)
  else if c = '+' then some 62
  else if c = '/' then some 63
  else none

/-- Reads on: `place` is the number of characters in the group so far, `pads` that of the padding just
before, and `left` holds the bits that make no octet yet. -/
def readOn (place pads left : Nat) : List Char → Option (List UInt8)
  | [] => if place = 0 then some [] else none
  | c :: rest =>
    if c = '=' then
      if 2 ≤ place then
        if 4 ≤ place + pads + 1 then some [] else readOn place (pads + 1) left rest
      else readOn place pads left rest
    else
      match bits? c with
      | none => readOn place pads left rest
      | some b =>
        match place with
        | 0 => readOn 1 0 b rest
        | 1 => (readOn 2 0 (b % 16) rest).map (UInt8.ofNat (left * 4 + b / 16) :: ·)
        | 2 => (readOn 3 0 (b % 4) rest).map (UInt8.ofNat (left * 16 + b / 4) :: ·)
        | _ => (readOn 0 0 0 rest).map (UInt8.ofNat (left * 64 + b) :: ·)

def read? (text : List Char) : Option (List UInt8) := readOn 0 0 0 text

end PeakSlowness.Yaml.Base64
