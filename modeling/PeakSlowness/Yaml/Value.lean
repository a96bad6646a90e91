import PeakSlowness.Yaml.Merge
import PeakSlowness.Yaml.ScalarValue

set_option autoImplicit false

/-!
The values of nodes. A scalar has its value at once; a collection is filled later, those met first before
those met in it. So of several faults the one in the collection met first counts. Two NaN are one key only
if they are the same value: the NaN that has a word of its own, or the NaN of one node.
-/

namespace PeakSlowness.Yaml

open Text (Letter)

/-- A scalar value, and the node it belongs to unless all nodes share it. -/
structure Leaf where
  value : Scalar
  owner : Option NodeId

/-- What a node stands for: a scalar, or the collection that is made of a node. -/
inductive Ref where
  | leaf (l : Leaf)
  | node (id : NodeId)

/-- What a collection holds. -/
inductive Filling where
  | list (items : List Ref)
  | map (entries : List (Leaf × Ref))
  | set (members : List Leaf)
  | pairs (items : List (Ref × Ref))

/-- The fillings of collections by the numbers of their nodes. -/
abbrev Heap := Array Filling

namespace Leaf

def sameKey (a b : Leaf) : Bool :=
  a.value.sameKey b.value || (a.value.isNaN && b.value.isNaN && a.owner = b.owner)

/-- Sets the value at a key among entries, the latest first: in place if the key is there. -/
def put (key : Leaf) (value : Ref) (entries : List (Leaf × Ref)) : List (Leaf × Ref) :=
  if entries.any fun e => e.1.sameKey key then
    entries.map fun e => if e.1.sameKey key then (e.1, value) else e
  else (key, value) :: entries

end Leaf

/-- Whether the value of a node with this tag is a collection. -/
def Tag.isCollection : Tag → Bool
  | list | map | set | omap | pairs => true
  | _ => false

namespace Graph

/-- The text of a scalar, or of the scalar that stands in for a mapping. The fuel bounds the mappings on the
way. -/
def textOf? (nodes : Graph) : Nat → NodeId → Option (List Letter)
  | 0, _ => none
  | fuel + 1, id =>
    match nodes.contentOf id with
    | .scalar text => some text
    | .list _ => none
    | .map entries => (entries.find? fun e => nodes.tagOf e.1 = .standIn).bind fun e => textOf? nodes fuel e.2

def leafOf (nodes : Graph) (id : NodeId) : Except YamlFault Leaf := do
  let tag := nodes.tagOf id
  let some text := nodes.textOf? (nodes.size + 1) id | throw .illFormed
  if tag = .timestamp && (nodes.entries? id).isSome then throw .timestampOfMapping
  let value ← ScalarValue.read tag text
  return ⟨value, if tag = .float && Number.namesNaN text then none else some id⟩

end Graph

/-- The making of values: the nodes, what they stand for as far as it is known, the collections that are
filled, and those that are not, the latest first. -/
structure Making where
  nodes : Graph
  /-- how many merge keys there are at most -/
  mergeKeys : Nat
  refs : Array (Option Ref)
  fillings : Heap
  waiting : List NodeId

abbrev Make := StateT Making (Except YamlFault)

namespace Make

def rework (step : Merge.Rework Unit) : Make Unit := do
  let m ← get
  set { m with nodes := #[] }
  let ((), nodes) ← step m.nodes
  modify ({ · with nodes })

/-- What a node stands for. A collection waits to be filled from when it is first met. -/
def refer (id : NodeId) : Make Ref := do
  match ((← get).refs[id]?).join with
  | some ref => return ref
  | none =>
    let ref ←
      if (← get).nodes.tagOf id |>.isCollection then
        modify fun m => { m with waiting := id :: m.waiting }
        pure (Ref.node id)
      else pure (Ref.leaf (← (← get).nodes.leafOf id))
    modify fun m => { m with refs := m.refs.setIfInBounds id (some ref) }
    return ref

/-- The entries of a mapping behind those made before, the latest first. Collections are no keys. -/
def entriesOn (before : List (Leaf × Ref)) : List NodeEntry → Make (List (Leaf × Ref))
  | [] => return before.reverse
  | (keyId, valueId) :: rest => do
    match ← refer keyId with
    | .node _ => throw .illFormed
    | .leaf key =>
      let value ← refer valueId
      entriesOn (key.put value before) rest

/-- The entries of a mapping with those merged into it. -/
def entries (id : NodeId) : Make (List (Leaf × Ref)) := do
  if ((← get).nodes.entries? id).isNone then throw .illFormed
  rework (merge (← get).mergeKeys id)
  entriesOn [] (((← get).nodes.entries? id).getD [])

/-- The pair that a mapping with one entry is. -/
def pair (id : NodeId) : Make (Ref × Ref) := do
  match (← get).nodes.entries? id with
  | some [(keyId, valueId)] =>
    let key ← refer keyId
    return (key, ← refer valueId)
  | _ => throw .illFormed

def filling (id : NodeId) : Make Filling := do
  let tag := (← get).nodes.tagOf id
  let content := (← get).nodes.contentOf id
  match tag, content with
  | .list, .list items => return .list (← items.mapM refer)
  | .map, _ => return .map (← entries id)
  | .set, _ => return .set ((← entries id).map (·.1))
  | .omap, .list items => return .pairs (← items.mapM pair)
  | .pairs, .list items => return .pairs (← items.mapM pair)
  | _, _ => throw .illFormed

def fill (id : NodeId) : Make Unit := do
  let filling ← filling id
  modify fun m => { m with fillings := m.fillings.setIfInBounds id filling }

/-- Fills the collections that wait, then those met in them, and so on. The fuel bounds the rounds. -/
def fillAll : Nat → Make Unit
  | 0 => pure ()
  | fuel + 1 => do
    let round := (← get).waiting.reverse
    if round.isEmpty then return
    modify ({ · with waiting := [] })
    round.forM fill
    fillAll fuel

end Make

/-- What the root of a document stands for, and the collections of the document. -/
def Document.make (d : Document) : Except YamlFault (Ref × Heap) := do
  let count := d.nodes.size
  let making : Making :=
    ⟨d.nodes, d.nodes.mergeCount, Array.replicate count none, Array.replicate count (.list []), []⟩
  let (root, m) ← (do
    let root ← Make.refer d.root
    Make.fillAll (count + 1)
    return root : Make Ref) making
  return (root, m.fillings)

end PeakSlowness.Yaml
