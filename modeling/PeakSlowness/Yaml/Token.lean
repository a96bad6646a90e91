import PeakSlowness.Yaml.Fault

set_option autoImplicit false

/-!
The tokens of a configuration text.
-/

namespace PeakSlowness.Yaml

open Text (Letter)

/-- A line that tells how to read a document. -/
inductive Directive where
  | version (major : Nat)
  /-- a handle that stands for the beginning of tag names -/
  | tag (handle start : String)
  | other
  deriving DecidableEq

/-- A token. -/
inductive Token where
  | directive (d : Directive)
  | documentStart
  | documentEnd
  | streamEnd
  | blockListStart
  | blockMapStart
  | blockEnd
  | flowListStart
  | flowListEnd
  | flowMapStart
  | flowMapEnd
  /-- the hyphen before an item -/
  | item
  | comma
  | key
  | value
  | alias (name : String)
  | anchor (name : String)
  | tag (handle : Option String) (suffix : String)
  | scalar (plain : Bool) (text : List Letter)
  deriving DecidableEq

end PeakSlowness.Yaml
