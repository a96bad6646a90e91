import PeakSlowness.Text.Letter
import PeakSlowness.Yaml.Tag

set_option autoImplicit false

/-!
Nodes of a document. A node is known by its number, so that an alias is the node it stands for, and a
collection may hold itself.
-/

namespace PeakSlowness.Yaml

open Text (Letter)

abbrev NodeId := Nat

/-- The nodes of an entry of a mapping, its key and its value. -/
abbrev NodeEntry := NodeId × NodeId

/-- What a node holds. -/
inductive Content where
  | scalar (text : List Letter)
  | list (items : List NodeId)
  | map (entries : List NodeEntry)
  deriving DecidableEq

/-- A node. -/
structure Node where
  tag : Tag
  content : Content
  deriving DecidableEq

abbrev Graph := Array Node

namespace Node

/-- A node where nothing is written. -/
def absent : Node := ⟨.null, .scalar []⟩

instance : Inhabited Node := ⟨absent⟩

end Node

namespace Graph

def tagOf (nodes : Graph) (id : NodeId) : Tag :=
  match nodes[id]? with
  | some node => node.tag
  | none => .other

def contentOf (nodes : Graph) (id : NodeId) : Content :=
  match nodes[id]? with
  | some node => node.content
  | none => .scalar []

def entries? (nodes : Graph) (id : NodeId) : Option (List NodeEntry) :=
  match nodes.contentOf id with
  | .map entries => some entries
  | _ => none

end Graph

/-- A document: its nodes and the root among them. -/
structure Document where
  nodes : Graph
  root : NodeId

end PeakSlowness.Yaml
