import PeakSlowness.Yaml.Lexer
import PeakSlowness.Yaml.Node

set_option autoImplicit false

/-!
From tokens to the nodes of a document, with tags resolved. A token is read when it is needed, so a fault
of the text counts only if it comes before what else is wrong.
-/

namespace PeakSlowness.Yaml

open Text (Letter)

/-- The reading of a document between two tokens: the text behind, the handles of tags, the nodes so far,
and those with anchors. -/
structure Reader where
  lexer : Lexer
  handles : List (String × String) := []
  nodes : Graph := #[]
  anchors : List (String × NodeId) := []

abbrev Read := StateT Reader (Except YamlFault)

namespace Read

def peek : Read Token := do
  let lexer ← (← get).lexer.ready
  modify fun r => { r with lexer }
  match lexer.tokens with
  | token :: _ => return token
  | [] => throw .illFormed

def pass : Read Unit := modify fun r => { r with lexer := r.lexer.pass }

def isAt (tokens : List Token) : Read Bool := return tokens.contains (← peek)

/-- Leaves the next token behind if it is the given one. -/
def accept (token : Token) : Read Bool := do
  if (← peek) = token then
    pass
    return true
  return false

/-- Leaves the given token behind, which has to be next. -/
def expect (token : Token) : Read Unit := do
  if !(← accept token) then throw .illFormed

/-- An anchor, if one is next. -/
def anchor? : Read (Option String) := do
  match ← peek with
  | .anchor name =>
    pass
    return some name
  | _ => return none

/-- A tag in two parts, if one is next. -/
def tag? : Read (Option (Option String × String)) := do
  match ← peek with
  | .tag handle suffix =>
    pass
    return some (handle, suffix)
  | _ => return none

/-- The name of a tag, its handle being replaced by what it stands for. -/
def tagName : Option (Option String × String) → Read (Option String)
  | none => return none
  | some (none, suffix) => return some suffix
  | some (some handle, suffix) => do
    match (← get).handles.find? (·.1 = handle) with
    | some (_, start) => return some (start ++ suffix)
    | none => throw .illFormed

/-- An anchor and the name of a tag, in either order. -/
def properties : Read (Option String × Option String) := do
  match ← anchor? with
  | some name => return (some name, ← tagName (← tag?))
  | none =>
    match ← tag? with
    | none => return (none, none)
    | tag =>
      let anchor ← anchor?
      return (anchor, ← tagName tag)

/-- The node that an alias stands for. -/
def aliased (name : String) : Read NodeId := do
  match (← get).anchors.find? (·.1 = name) with
  | some (_, id) => return id
  | none => throw .illFormed

def add (node : Node) : Read NodeId := do
  let id := (← get).nodes.size
  modify fun r => { r with nodes := r.nodes.push node }
  return id

/-- Makes an anchor stand for a node; it must be new. -/
def declareAnchor (anchor : Option String) (id : NodeId) : Read Unit := do
  match anchor with
  | none => pure ()
  | some name =>
    if (← get).anchors.any (·.1 = name) then throw .illFormed
    modify fun r => { r with anchors := (name, id) :: r.anchors }

/-- The tag of a collection: the usual one unless another is written. -/
def collectionTag (usual : Tag) : Option String → Tag
  | none => usual
  | some name => if name = "!" then usual else .ofName name

/-- The tag of a scalar: its content decides where it is plain without a tag, or tagged by a lone
exclamation mark. -/
def scalarTag (plain : Bool) (text : List Letter) : Option String → Tag
  | none => if plain then .ofLetters text else .text
  | some name => if name = "!" then .ofLetters text else .ofName name

/-- Reads a collection whose first token is left behind. Its anchor is known inside it. -/
def collection (anchor : Option String) (tag : Tag) (content : Read Content) : Read NodeId := do
  let id ← add ⟨tag, .list []⟩
  declareAnchor anchor id
  let content ← content
  modify fun r => { r with nodes := r.nodes.setIfInBounds id ⟨tag, content⟩ }
  return id

def scalar (anchor tag : Option String) (plain : Bool) (text : List Letter) : Read NodeId := do
  let id ← add ⟨scalarTag plain text tag, .scalar text⟩
  declareAnchor anchor id
  return id

/-- A node where only an anchor or a tag is written. -/
def bare (anchor tag : Option String) : Read NodeId :=
  if anchor.isNone && tag.isNone then throw .illFormed else scalar anchor tag true []

mutual

/-- Reads a node. Block collections may begin where `inBlock` holds, and items without an indentation of
their own where `bareItems` holds. The fuel bounds the depth of the calls. -/
def node (inBlock bareItems : Bool) : Nat → Read NodeId
  | 0 => throw .illFormed
  | fuel + 1 => do
    match ← peek with
    | .alias name =>
      pass
      aliased name
    | _ =>
      let (anchor, tag) ← properties
      let listTag := collectionTag .list tag
      let mapTag := collectionTag .map tag
      match ← peek with
      | .item =>
        if bareItems then collection anchor listTag (bareList [] fuel)
        else bare anchor tag
      | .scalar plain text =>
        pass
        scalar anchor tag plain text
      | .flowListStart =>
        pass
        collection anchor listTag (flowList [] fuel)
      | .flowMapStart =>
        pass
        collection anchor mapTag (flowMap [] fuel)
      | .blockListStart =>
        if inBlock then
          pass
          collection anchor listTag (blockList [] fuel)
        else bare anchor tag
      | .blockMapStart =>
        if inBlock then
          pass
          collection anchor mapTag (blockMap [] fuel)
        else bare anchor tag
      | _ => bare anchor tag

/-- A node, or an absent one if the next token is one of some. -/
def nodeUnless (ends : List Token) (inBlock bareItems : Bool) : Nat → Read NodeId
  | 0 => throw .illFormed
  | fuel + 1 => do
    if ← isAt ends then add .absent else node inBlock bareItems fuel

/-- A value behind its mark, or an absent node if there is no mark. -/
def valueUnless (ends : List Token) (inBlock bareItems : Bool) : Nat → Read NodeId
  | 0 => throw .illFormed
  | fuel + 1 => do
    if ← accept .value then nodeUnless ends inBlock bareItems fuel else add .absent

/-- The items of a block list up to its end, behind those read before, the latest first. -/
def blockList (before : List NodeId) : Nat → Read Content
  | 0 => throw .illFormed
  | fuel + 1 => do
    if ← accept .item then
      let item ← nodeUnless [.item, .blockEnd] true false fuel
      blockList (item :: before) fuel
    else
      expect .blockEnd
      return .list before.reverse

/-- Items without an indentation of their own. -/
def bareList (before : List NodeId) : Nat → Read Content
  | 0 => throw .illFormed
  | fuel + 1 => do
    if ← accept .item then
      let item ← nodeUnless [.item, .key, .value, .blockEnd] true false fuel
      bareList (item :: before) fuel
    else return .list before.reverse

/-- The entries of a block mapping up to its end. -/
def blockMap (before : List NodeEntry) : Nat → Read Content
  | 0 => throw .illFormed
  | fuel + 1 => do
    if ← accept .key then
      let key ← nodeUnless [.key, .value, .blockEnd] true true fuel
      let value ← valueUnless [.key, .value, .blockEnd] true true fuel
      blockMap ((key, value) :: before) fuel
    else
      expect .blockEnd
      return .map before.reverse

/-- The items of a flow list up to its end. -/
def flowList (before : List NodeId) : Nat → Read Content
  | 0 => throw .illFormed
  | fuel + 1 => do
    if ← accept .flowListEnd then return .list before.reverse
    if !before.isEmpty then expect .comma
    if ← accept .flowListEnd then return .list before.reverse
    let item ← flowItem fuel
    flowList (item :: before) fuel

/-- An item of a flow list, which may be a single entry. -/
def flowItem : Nat → Read NodeId
  | 0 => throw .illFormed
  | fuel + 1 => do
    if ← isAt [.key] then
      collection none .map do
        pass
        let key ← nodeUnless [.value, .comma, .flowListEnd] false false fuel
        let value ← valueUnless [.comma, .flowListEnd] false false fuel
        return .map [(key, value)]
    else node false false fuel

/-- The entries of a flow mapping up to its end. -/
def flowMap (before : List NodeEntry) : Nat → Read Content
  | 0 => throw .illFormed
  | fuel + 1 => do
    if ← accept .flowMapEnd then return .map before.reverse
    if !before.isEmpty then expect .comma
    if ← accept .flowMapEnd then return .map before.reverse
    let entry ← flowEntry fuel
    flowMap (entry :: before) fuel

/-- An entry of a flow mapping; a key alone has an absent value. -/
def flowEntry : Nat → Read NodeEntry
  | 0 => throw .illFormed
  | fuel + 1 => do
    if ← accept .key then
      let key ← nodeUnless [.value, .comma, .flowMapEnd] false false fuel
      let value ← valueUnless [.comma, .flowMapEnd] false false fuel
      return (key, value)
    let key ← node false false fuel
    return (key, ← add .absent)

end

/-- The handles of tags that are always there. -/
def usualHandles : List (String × String) := [("!", "!"), ("!!", Tag.coreNames)]

/-- Reads directives behind those that gave the handles: at most one version, which has to be one, and
handles, each once. Each directive is looked at before the next token is read. The fuel bounds their
number. -/
def directives (versionSeen : Bool) (handles : List (String × String)) :
    Nat → Read (List (String × String))
  | 0 => return handles
  | fuel + 1 => do
    match ← peek with
    | .directive (.version major) =>
      pass
      if versionSeen || major != 1 then throw .illFormed
      directives true handles fuel
    | .directive (.tag handle start) =>
      pass
      if handles.any (·.1 = handle) then throw .illFormed
      directives versionSeen ((handle, start) :: handles) fuel
    | .directive .other =>
      pass
      directives versionSeen handles fuel
    | _ => return handles

def isDirective : Token → Bool
  | .directive _ => true
  | _ => false

/-- Takes in the directives in front of a document. -/
def takeDirectives (fuel : Nat) : Read Unit := do
  let handles ← directives false [] fuel
  modify fun r => { r with handles := handles ++ usualHandles }

/-- Reads the node of a document whose start is marked. -/
def markedDocument (fuel : Nat) : Read (Option NodeId) := do
  if ← accept .streamEnd then return none
  takeDirectives fuel
  expect .documentStart
  if isDirective (← peek) then return some (← add .absent)
  some <$> nodeUnless [.documentStart, .documentEnd, .streamEnd] true false fuel

/-- Leaves marks of the end of a document behind. The fuel bounds their number. -/
def passEnds : Nat → Read Unit
  | 0 => pure ()
  | fuel + 1 => do
    if ← accept .documentEnd then passEnds fuel

/-- The end of the text, after the end of its document. The directives of another document are still looked
at. -/
def finish (fuel : Nat) : Read Unit := do
  passEnds fuel
  if ← isAt [.streamEnd] then return
  takeDirectives fuel
  throw .illFormed

def document (fuel : Nat) : Read (Option NodeId) := do
  let first ← peek
  if isDirective first || first = .documentStart || first = .streamEnd then
    let root ← markedDocument fuel
    if root.isSome then finish fuel
    return root
  else
    modify fun r => { r with handles := usualHandles }
    let root ← node true false fuel
    finish fuel
    return some root

end Read

/-- The document in a text, if there is one. The fuel counts some steps for each character. -/
def Document.ofSource? (source : Source) : Except YamlFault (Option Document) := do
  let lexer := Lexer.start source
  let (root, r) ← Read.document (16 * lexer.cursor.left + 64) { lexer }
  return root.map fun root => ⟨r.nodes, root⟩

end PeakSlowness.Yaml
