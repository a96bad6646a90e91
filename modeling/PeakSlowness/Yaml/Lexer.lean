import PeakSlowness.Yaml.BlockText
import PeakSlowness.Yaml.TagText

set_option autoImplicit false

/-!
From a text to its tokens. Indentation opens and closes block collections. A key is known as one only at
the colon behind it, so the place of its first token is kept until then; such a key has to be short and
on one line. Tokens are read only as far as the next one needs it: `ready` reads on until the next token
can no longer be moved by a key.
-/

namespace PeakSlowness.Yaml

open Text (Letter)

/-- A token that a key may begin with: its place among the tokens and in the text, and whether it must be
a key. -/
structure PossibleKey where
  position : Nat
  isRequired : Bool
  index : Nat
  line : Nat
  column : Nat

/-- The longest key, in characters. -/
def keyLimit : Nat := 1024

/-- The reading of a text between two tokens. -/
structure Lexer where
  cursor : Cursor
  /-- how many flow collections are open -/
  flow : Nat := 0
  indent : Int := -1
  /-- the indentations outside the present one, innermost first -/
  outer : List Int := []
  keyAllowed : Bool := true
  /-- possible keys with the number of open flow collections around each -/
  keys : List (Nat × PossibleKey) := []
  /-- how many tokens have been taken -/
  taken : Nat := 0
  /-- the tokens that have been read and not taken -/
  tokens : List Token := []
  done : Bool := false

namespace Lexer

def start (source : Source) : Lexer := { cursor := .start source }

/-- Outside flow collections. -/
def inBlock (l : Lexer) : Bool := l.flow = 0

/-- The position of the next token to be read. -/
def position (l : Lexer) : Nat := l.taken + l.tokens.length

def emit (l : Lexer) (token : Token) : Lexer := { l with tokens := l.tokens ++ [token] }

/-- Adds a token at a position among those that have not been taken. -/
def emitAt (l : Lexer) (position : Nat) (token : Token) : Lexer :=
  { l with tokens := l.tokens.insertIdx (position - l.taken) token }

def scan {α : Type} (l : Lexer) (step : Scan α) : Except YamlFault (α × Lexer) := do
  let (a, cursor) ← step l.cursor
  return (a, { l with cursor })

def allowing (l : Lexer) (keyAllowed : Bool) : Lexer := { l with keyAllowed }

/-- Skips spaces, comments and breaks up to the next token. The answer is whether there were breaks, or
`broken` held. -/
def skipGaps : Nat → Bool → Scan Bool
  | 0, broken => return broken
  | fuel + 1, broken => do
    Scan.skipRun (· = ' ')
    Scan.skipComment
    match ← Scan.takeBreak? with
    | none => return broken
    | some _ => skipGaps fuel true

/-- Skips to the next token, and over a byte order mark at the start of the text. -/
def skipToToken : Scan Bool := do
  let c ← get
  if c.index = 0 then
    if ← Scan.isAt byteOrderMark then Scan.next
  skipGaps (c.left + 1) false

/-- Moves to the next token. Outside flow collections a key may begin a line. -/
def toNextToken (l : Lexer) : Except YamlFault Lexer := do
  let (broken, l) ← l.scan skipToToken
  return l.allowing (l.keyAllowed || (broken && l.inBlock))

/-- Whether a key can no longer end at the cursor. -/
def isStale (c : Cursor) (key : PossibleKey) : Bool := key.line != c.line || keyLimit < c.index - key.index

/-- Forgets possible keys that can no longer be keys. -/
def dropStale (l : Lexer) : Except YamlFault Lexer :=
  if l.keys.any fun k => isStale l.cursor k.2 && k.2.isRequired then .error .illFormed
  else .ok { l with keys := l.keys.filter fun k => !isStale l.cursor k.2 }

def key? (l : Lexer) : Option PossibleKey := (l.keys.find? (·.1 = l.flow)).map (·.2)

def withoutKey (l : Lexer) : Lexer := { l with keys := l.keys.filter (·.1 != l.flow) }

/-- Forgets the possible key at the present level, which must not be required. -/
def dropKey (l : Lexer) : Except YamlFault Lexer :=
  match l.key? with
  | none => .ok l
  | some key => if key.isRequired then .error .illFormed else .ok l.withoutKey

/-- Notes that the next token may begin a key. -/
def noteKey (l : Lexer) : Except YamlFault Lexer :=
  if l.keyAllowed then do
    let l ← l.dropKey
    let c := l.cursor
    let isRequired := l.inBlock && l.indent = c.column
    let key : PossibleKey := ⟨l.position, isRequired, c.index, c.line, c.column⟩
    return { l with keys := (l.flow, key) :: l.keys }
  else .ok l

/-- Closes the block collections that are indented more than `column`. -/
def closeTo (l : Lexer) (column : Int) : Lexer :=
  if l.inBlock then
    let levels := l.indent :: l.outer
    let closed := levels.takeWhile (column < ·)
    match levels.drop closed.length with
    | [] => l
    | indent :: outer =>
      { l with indent, outer, tokens := l.tokens ++ List.replicate closed.length Token.blockEnd }
  else l

def opensAt (l : Lexer) (column : Nat) : Bool := l.inBlock && l.indent < column

/-- Opens a block collection at a column, its token coming at the given position. -/
def openAt (l : Lexer) (column position : Nat) (token : Token) : Lexer :=
  if l.opensAt column then
    { l.emitAt position token with indent := column, outer := l.indent :: l.outer }
  else l

def openHere (l : Lexer) (token : Token) : Lexer := l.openAt l.cursor.column l.position token

/-- Some characters that are a token of their own. -/
def punctuation (l : Lexer) (length : Nat) (token : Token) : Except YamlFault Lexer := do
  let ((), l) ← l.scan (Scan.skip length)
  return l.emit token

def endStream (l : Lexer) : Except YamlFault Lexer := do
  let l ← (l.closeTo (-1)).dropKey
  return { l.emit .streamEnd with keys := [], done := true }

def separator (l : Lexer) (token : Token) : Except YamlFault Lexer := do
  let l ← (l.closeTo (-1)).dropKey
  (l.allowing false).punctuation 3 token

def directive (l : Lexer) : Except YamlFault Lexer := do
  let l ← (l.closeTo (-1)).dropKey
  let (d, l) ← l.scan TagText.directive
  return (l.allowing false).emit (.directive d)

def openFlow (l : Lexer) (token : Token) : Except YamlFault Lexer := do
  let l ← l.noteKey
  ({ l with flow := l.flow + 1 }.allowing true).punctuation 1 token

/-- The end of a flow collection, which has to be open. -/
def closeFlow (l : Lexer) (token : Token) : Except YamlFault Lexer := do
  let l ← (← l.dropKey).punctuation 1 token
  if l.flow = 0 then throw .illFormed
  return { l with flow := l.flow - 1 }.allowing false

def comma (l : Lexer) : Except YamlFault Lexer := do
  ((← l.dropKey).allowing true).punctuation 1 .comma

def item (l : Lexer) : Except YamlFault Lexer := do
  if l.inBlock && !l.keyAllowed then throw .illFormed
  let l ← (l.openHere .blockListStart).dropKey
  (l.allowing true).punctuation 1 .item

def explicitKey (l : Lexer) : Except YamlFault Lexer := do
  if l.inBlock && !l.keyAllowed then throw .illFormed
  let l ← (l.openHere .blockMapStart).dropKey
  (l.allowing l.inBlock).punctuation 1 .key

/-- A colon before a value. If a possible key is open, it is a key now. -/
def value (l : Lexer) : Except YamlFault Lexer := do
  match l.key? with
  | some key =>
    let l := l.withoutKey.emitAt key.position .key
    let l := l.openAt key.column key.position .blockMapStart
    (l.allowing false).punctuation 1 .value
  | none =>
    if l.inBlock && !l.keyAllowed then throw .illFormed
    let l ← ((l.openHere .blockMapStart).allowing l.inBlock).dropKey
    l.punctuation 1 .value

/-- A token that may begin a key, read by `read`. -/
def word (l : Lexer) (read : Scan Token) : Except YamlFault Lexer := do
  let l ← l.noteKey
  let (token, l) ← l.scan read
  return (l.allowing false).emit token

/-- A plain scalar. A key may follow if it ends with a break. -/
def plain (l : Lexer) : Except YamlFault Lexer := do
  let l ← l.noteKey
  let ((text, broken), l) ← l.scan (PlainText.read (!l.inBlock) (l.indent + 1))
  return (l.allowing broken).emit (.scalar true (Letter.ofList text))

def block (l : Lexer) (folded : Bool) : Except YamlFault Lexer := do
  let l ← l.dropKey
  let (text, l) ← l.scan (BlockText.read folded l.indent)
  return (l.allowing true).emit (.scalar false (Letter.ofList text))

/-- The characters that no plain scalar begins with. -/
def isIndicator (c : Char) : Bool :=
  ['-', '?', ':', ',', '[', ']', '\x7b', '\x7d', '#', '&', '*', '!', '|', '>', '\x27', '\x22', '%', '@',
    '\x60'].contains c

/-- Whether the character at the cursor is the last one of its word. -/
def isApart (l : Lexer) : Except YamlFault Bool := do
  let (following, _) ← l.scan (Scan.peekAt 1)
  return endsWord following

/-- Whether a question mark or a colon at the cursor is a mark and no text: in a flow collection it always
is, elsewhere if no text follows at once. -/
def isMark (l : Lexer) : Except YamlFault Bool := if l.inBlock then l.isApart else .ok true

/-- Reads the token that a character at the cursor tells. A hyphen, a question mark or a colon may begin a
plain scalar. -/
def tokenBy (l : Lexer) (x : Char) : Except YamlFault Lexer := do
  if x = '[' then l.openFlow .flowListStart
  else if x = '\x7b' then l.openFlow .flowMapStart
  else if x = ']' then l.closeFlow .flowListEnd
  else if x = '\x7d' then l.closeFlow .flowMapEnd
  else if x = ',' then l.comma
  else if x = '-' then if ← l.isApart then l.item else l.plain
  else if x = '?' then if ← l.isMark then l.explicitKey else l.plain
  else if x = ':' then if ← l.isMark then l.value else l.plain
  else if x = '*' then l.word (.alias <$> TagText.anchorName)
  else if x = '&' then l.word (.anchor <$> TagText.anchorName)
  else if x = '!' then l.word TagText.tag
  else if x = '|' && l.inBlock then l.block false
  else if x = '>' && l.inBlock then l.block true
  else if x = '\x27' then l.word (.scalar false <$> QuotedText.read false)
  else if x = '\x22' then l.word (.scalar false <$> QuotedText.read true)
  else if !(endsWord (some x) || isIndicator x) then l.plain
  else
    discard l.isApart
    throw .illFormed

/-- Whether a line that parts documents begins at the cursor, made of three times the given character. -/
def isSeparator (l : Lexer) (x : Char) : Except YamlFault Bool := do
  let (isTriple, _) ← l.scan (Scan.isAtTriple x)
  return isTriple

/-- Reads the token that begins with a character at the cursor. Some begin at the margin only. -/
def token (l : Lexer) (x : Char) : Except YamlFault Lexer := do
  if l.cursor.column != 0 then l.tokenBy x
  else if x = '%' then l.directive
  else if x = '-' then if ← l.isSeparator '-' then l.separator .documentStart else l.tokenBy x
  else if x = '.' then if ← l.isSeparator '.' then l.separator .documentEnd else l.tokenBy x
  else l.tokenBy x

def step (l : Lexer) : Except YamlFault Lexer := do
  let l ← (← l.toNextToken).dropStale
  let l := l.closeTo l.cursor.column
  match ← l.scan Scan.peek with
  | (none, l) => l.endStream
  | (some x, l) => l.token x

/-- Reads on until the next token is there and no key can come before it. The fuel bounds the tokens. -/
def readOn : Nat → Lexer → Except YamlFault Lexer
  | 0, l => .ok l
  | fuel + 1, l => do
    if l.done then return l
    if l.tokens.isEmpty then readOn fuel (← l.step)
    else
      let l ← l.dropStale
      if l.keys.any (·.2.position = l.taken) then readOn fuel (← l.step) else return l

def ready (l : Lexer) : Except YamlFault Lexer := l.readOn (l.cursor.left + 2)

def pass (l : Lexer) : Lexer := { l with taken := l.taken + 1, tokens := l.tokens.tail }

end Lexer

end PeakSlowness.Yaml
