import PeakSlowness.Yaml.QuotedText
import PeakSlowness.Yaml.Token

set_option autoImplicit false

/-!
Tags, anchors and directives as they are written.
-/

namespace PeakSlowness.Yaml.TagText

open Scan

/-- A character that stands for itself in a tag. -/
def isTagChar (c : Char) : Bool :=
  isNameChar c || [';', '/', '?', ':', '@', '&', '=', '+', '$', ',', '.', '!', '~', '*', '\x27', '(', ')',
    '[', ']'].contains c

/-- Reads octets that percent signs with two digits each stand for, behind those read before, the latest
first. -/
def octets : Nat → List UInt8 → Scan (List UInt8)
  | 0, before => return before.reverse
  | fuel + 1, before => do
    if !(← isAt '%') then return before.reverse
    next
    let n ← QuotedText.hexValue 0 0 2
    skip 2
    octets fuel (UInt8.ofNat n :: before)

/-- Reads the characters of a tag behind the parts read before, the latest first. -/
def uriOn : Nat → List (List Char) → Scan (List Char)
  | 0, parts => return parts.reverse.flatten
  | fuel + 1, parts => do
    let run ← takeRun isTagChar
    if !(← isAt '%') then return (run :: parts).reverse.flatten
    let bytes ← octets ((← get).left + 1) []
    match Text.Utf8.decode bytes with
    | .ok text => uriOn fuel (text :: run :: parts)
    | .error _ => throw .illFormed

/-- Reads a tag name or the beginning of tag names, which has at least one character. -/
def uri : Scan String := do
  let c ← get
  let text ← uriOn (c.left + 1) []
  if (← get).index = c.index then throw .illFormed
  return String.ofList text

/-- Reads a handle: an exclamation mark before a space, or a name between two of them. -/
def handle : Scan String := do
  if !(← isAt '!') then throw .illFormed
  next
  if ← isAt ' ' then return "!"
  let name ← takeRun isNameChar
  if !(← isAt '!') then throw .illFormed
  next
  return String.ofList ('!' :: name ++ ['!'])

/-- Whether a second exclamation mark stands in the word at the cursor. The word is looked at up to that
mark or to its end. -/
def hasHandle : Scan Bool := do
  let length := ((← get).rest.tail.takeWhile fun x => x != ' ' && !isBreak x && x != '!').length
  return (← peekAt (length + 1)) = some '!'

def tag : Scan Token := do
  let following ← peekAt 1
  let token ←
    if following = some '<' then do
      skip 2
      let suffix ← uri
      if !(← isAt '>') then throw .illFormed
      next
      pure (Token.tag none suffix)
    else if endsWord following then do
      next
      pure (Token.tag none "!")
    else do
      let head ← if ← hasHandle then handle else do
        next
        pure "!"
      pure (Token.tag (some head) (← uri))
  if !endsName (← peek) then throw .illFormed
  return token

/-- What may follow the name of an anchor. -/
def endsAnchor (x : Option Char) : Bool :=
  endsWord x || (x.map ['?', ':', ',', ']', '\x7d', '%', '@', '\x60'].contains).getD false

/-- Reads the name of an anchor or an alias, its mark being at the cursor. -/
def anchorName : Scan String := do
  next
  let name ← takeRun isNameChar
  if name.isEmpty || !endsAnchor (← peek) then throw .illFormed
  return String.ofList name

/-- Reads a decimal number. Its digits are at most as many as a number in writing may have. -/
def number : Scan Nat := do
  let digits ← takeRun (·.isDigit)
  if digits.isEmpty then throw .illFormed
  if Numeral.digitLimit < digits.length then throw (.numeral (.tooManyDigits digits.length))
  return Text.decimalValue digits

def directiveBody (name : List Char) : Scan Directive :=
  if name = ['Y', 'A', 'M', 'L'] then do
    skipRun (· = ' ')
    let major ← number
    if !(← isAt '.') then throw .illFormed
    next
    discard number
    if !endsName (← peek) then throw .illFormed
    return .version major
  else if name = ['T', 'A', 'G'] then do
    skipRun (· = ' ')
    let head ← handle
    if !(← isAt ' ') then throw .illFormed
    skipRun (· = ' ')
    let start ← uri
    if !endsName (← peek) then throw .illFormed
    return .tag head start
  else do
    skipRun (!isBreak ·)
    return .other

/-- Reads a directive, its percent sign being at the cursor. -/
def directive : Scan Directive := do
  next
  let name ← takeRun isNameChar
  if name.isEmpty || !endsName (← peek) then throw .illFormed
  let d ← directiveBody name
  endLine
  return d

end PeakSlowness.Yaml.TagText
