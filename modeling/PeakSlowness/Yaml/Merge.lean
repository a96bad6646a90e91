import PeakSlowness.Yaml.Fault
import PeakSlowness.Yaml.Node

set_option autoImplicit false

/-!
Merging mappings. An entry whose key has the merge tag gives way to the entries of the mappings it names,
which come before those of its own mapping; of a list of mappings those of the last one come first, so that
earlier ones prevail. Merging changes nodes for good: who refers to a merged mapping later finds the entries
there. It may meet a mapping that is being merged itself; its remaining merge keys are then dealt with
first.
-/

namespace PeakSlowness.Yaml

namespace Graph

/-- The first entry with the merge tag, between those before and behind it. -/
def splitMerge (nodes : Graph) (before : List NodeEntry) : List NodeEntry → Option (List NodeEntry × NodeId × List NodeEntry)
  | [] => none
  | (key, value) :: rest =>
    if nodes.tagOf key = .merge then some (before.reverse, value, rest)
    else splitMerge nodes ((key, value) :: before) rest

/-- How many entries have the merge tag. -/
def mergeCount (nodes : Graph) : Nat :=
  nodes.foldl (fun n node =>
    match node.content with
    | .map entries => n + entries.countP fun e => nodes.tagOf e.1 = .merge
    | _ => n) 0

def withEntries (nodes : Graph) (id : NodeId) (entries : List NodeEntry) : Graph :=
  nodes.modify id fun node => { node with content := .map entries }

/-- The nodes with a stand-in key taken for a text. -/
def withPlainKey (nodes : Graph) (key : NodeId) : Graph :=
  if nodes.tagOf key = .standIn then nodes.modify key fun node => { node with tag := .text } else nodes

end Graph

namespace Merge

abbrev Rework := StateT Graph (Except YamlFault)

/-- The entries of a node, which has to be a mapping. -/
def entriesOf (id : NodeId) : Rework (List NodeEntry) := do
  match (← get).entries? id with
  | some entries => return entries
  | none => throw .illFormed

/-- Ends the merging of a mapping: the inherited entries are put before its own, and in these a stand-in
key is a text. -/
def close (id : NodeId) (inherited own : List NodeEntry) : Rework Unit := do
  own.forM fun e => modify (·.withPlainKey e.1)
  modify (·.withEntries id (inherited ++ own))

/-- Merges into a mapping what its merge keys name, behind the entries inherited so far. The fuel bounds the
merge keys. -/
def mergeOn : Nat → NodeId → List NodeEntry → Rework Unit
  | 0, _, _ => pure ()
  | fuel + 1, id, inherited => do
    let own ← entriesOf id
    match (← get).splitMerge [] own with
    | none => close id inherited own
    | some (before, value, behind) =>
      modify (·.withEntries id (before ++ behind))
      let merged (source : NodeId) : Rework (List NodeEntry) := do
        discard (entriesOf source)
        mergeOn fuel source []
        entriesOf source
      match (← get).contentOf value with
      | .map _ => mergeOn fuel id (inherited ++ (← merged value))
      | .list sources =>
        let parts ← sources.mapM merged
        mergeOn fuel id (inherited ++ parts.reverse.flatten)
      | .scalar _ => throw .illFormed

end Merge

/-- Merges into a mapping what its merge keys name. The limit is the number of merge keys there are. -/
def merge (limit : Nat) (id : NodeId) : Merge.Rework Unit := Merge.mergeOn (limit + 1) id []

end PeakSlowness.Yaml
