import PeakSlowness.Yaml.Document
import PeakSlowness.Yaml.Unfold

set_option autoImplicit false

/-!
Configuration texts: `read` gives the value that a text in the markup of configuration files stands for.
The text holds at most one document; without one its value is null.
-/

namespace PeakSlowness.Yaml

def read (source : Source) : Except YamlFault Setting := do
  match ← Document.ofSource? source with
  | none => return .scalar .null
  | some document =>
    let (root, heap) ← document.make
    return heap.setting root

/-- The value of the text that octets make up. -/
def readOctets (octets : List UInt8) : Except YamlFault Setting := read (.ofOctets octets)

end PeakSlowness.Yaml
