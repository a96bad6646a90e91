import PeakSlowness.Text.Block
import PeakSlowness.Yaml.Fault

set_option autoImplicit false

/-!
A configuration text as it comes in. Its blocks are looked through for characters that may not stand in it
one by one, the first two together, so only what is behind a bad block stays unread.
-/

namespace PeakSlowness.Yaml

def isAllowed (c : Char) : Bool :=
  let n := c.toNat
  c = '\t' || c = '\n' || c = '\r' || (0x20 ≤ n && n ≤ 0x7E) || n = 0x85 || (0xA0 ≤ n && n ≤ 0xD7FF) ||
    (0xE000 ≤ n && n ≤ 0xFFFD) || 0x10000 ≤ n

/-- A text as far as it can be read, and the fault that is met behind it. -/
structure Source where
  text : List Char
  stop : Option YamlFault

namespace Source

/-- The text of parts up to the first one that holds a character which may not stand there. -/
def ofParts (stop : Option YamlFault) : List (List Char) → Source
  | [] => ⟨[], stop⟩
  | part :: rest =>
    if part.all isAllowed then
      let behind := ofParts stop rest
      ⟨part ++ behind.text, behind.stop⟩
    else ⟨[], some .illFormed⟩

/-- The text of blocks. The first two come together or not at all. -/
def ofBlocks (b : Text.Blocks) : Source :=
  let stop := b.fault.map .undecodable
  match b.blocks with
  | first :: second :: rest => ofParts stop ((first ++ second) :: rest)
  | [first] => ofParts stop (if stop.isSome then [] else [first])
  | [] => ⟨[], stop⟩

def ofOctets (octets : List UInt8) : Source := ofBlocks (.ofOctets octets)

end Source

end PeakSlowness.Yaml
