import PeakSlowness.Config.SetOrder
import PeakSlowness.Yaml.Value

set_option autoImplicit false

/-!
Settings out of collections that refer to each other. A collection from which no way leads into a cycle
becomes one setting, whoever refers to it. The others are unfolded where they are referred to, down to the
first collection that is met inside itself. The outermost levels are unfolded regardless of that, so that
what an entry there holds is seen as it is by itself.
-/

namespace PeakSlowness.Yaml

namespace Filling

def inner (f : Filling) : List NodeId :=
  let ids := List.filterMap fun r : Ref =>
    match r with
    | .leaf _ => none
    | .node id => some id
  match f with
  | list items => ids items
  | map entries => ids (entries.map (·.2))
  | set _ => []
  | pairs items => ids (items.flatMap fun p => [p.1, p.2])

/-- The setting of a collection, given those of its parts. -/
def setting (part : Ref → Setting) : Filling → Setting
  | list items => .list (items.map part)
  | map entries => .map (entries.map fun e => (e.1.value, part e.2))
  | set members => .set (SetOrder.arrange (members.map (·.value)))
  | pairs items => .pairs (items.map fun p => (part p.1, part p.2))

/-- The setting that stands for a collection inside itself. -/
def cycle : Filling → Setting
  | map _ => .cycle true
  | _ => .cycle false

end Filling

/-- What is known about a collection: nothing, that it is being looked into, that a way leads from it into
a cycle, or its setting. -/
inductive Mark where
  | fresh
  | begun
  | looped
  | whole (s : Setting)

/-- The marks of collections by the numbers of their nodes. -/
abbrev Marks := Array Mark

namespace Heap

def fillingOf (heap : Heap) (id : NodeId) : Filling := heap[id]?.getD (.list [])

end Heap

namespace Marks

def markOf (marks : Marks) (id : NodeId) : Mark := marks[id]?.getD .looped

/-- The setting of what is known to lead into no cycle. -/
def settingOf (marks : Marks) : Ref → Setting
  | .leaf l => .scalar l.value
  | .node id =>
    match marks.markOf id with
    | .whole s => s
    | _ => .cycle false

/-- Looks into a collection and says whether no way leads from it into a cycle. The fuel bounds the
depth. -/
def visit (heap : Heap) : Nat → NodeId → StateM Marks Bool
  | 0, _ => return false
  | fuel + 1, id => do
    match (← get).markOf id with
    | .whole _ => return true
    | .begun | .looped => return false
    | .fresh =>
      modify (·.setIfInBounds id .begun)
      let filling := heap.fillingOf id
      if ← filling.inner.allM (visit heap fuel) then
        let s := filling.setting (← get).settingOf
        modify (·.setIfInBounds id (.whole s))
        return true
      else
        modify (·.setIfInBounds id .looped)
        return false

def ofHeap (heap : Heap) : Marks :=
  let visitAll := (List.range heap.size).forM fun id => discard (visit heap (heap.size + 1) id)
  (visitAll.run (Array.replicate heap.size .fresh)).2

/-- The setting of what is referred to from inside some collections. The fuel bounds their number. -/
def unfold (heap : Heap) (marks : Marks) : Nat → List NodeId → Ref → Setting
  | _, _, .leaf l => .scalar l.value
  | 0, _, .node id => (heap.fillingOf id).cycle
  | fuel + 1, inside, .node id =>
    match marks.markOf id with
    | .whole s => s
    | _ =>
      let filling := heap.fillingOf id
      if inside.contains id then filling.cycle
      else filling.setting (unfold heap marks fuel (id :: inside))

/-- The setting of what is referred to, some levels being unfolded regardless of cycles. -/
def unfoldLevels (heap : Heap) (marks : Marks) : Nat → Ref → Setting
  | 0, ref => unfold heap marks (heap.size + 1) [] ref
  | _ + 1, .leaf l => .scalar l.value
  | levels + 1, .node id =>
    match marks.markOf id with
    | .whole s => s
    | _ => (heap.fillingOf id).setting (unfoldLevels heap marks levels)

end Marks

/-- How many levels of a configuration are unfolded regardless of cycles: its own and that of sections. -/
def outerLevels : Nat := 2

def Heap.setting (heap : Heap) (root : Ref) : Setting :=
  Marks.unfoldLevels heap (Marks.ofHeap heap) outerLevels root

end PeakSlowness.Yaml
