import PeakSlowness.Yaml.Cursor

set_option autoImplicit false

/-!
Block scalars: text on the lines below an indicator, indented. The literal style keeps its breaks, the
folded style makes a space of a single break between lines that begin with text. The header says how
far the lines are indented and what happens to the breaks at the end.
-/

namespace PeakSlowness.Yaml.BlockText

open Scan

/-- What happens to the breaks at the end: all but one go, all go, or all stay. -/
inductive Chomping where
  | clip
  | strip
  | keep
  deriving DecidableEq, Repr

/-- What a header says. -/
structure Header where
  chomping : Chomping
  indent : Option Nat

/-- Reads a chomping indicator, if one is at the cursor. -/
def chomping? : Scan (Option Chomping) := do
  match ← peek with
  | some '+' =>
    next
    return some .keep
  | some '-' =>
    next
    return some .strip
  | _ => return none

/-- Reads a digit that asks for an indentation, if one is at the cursor. It is not zero. -/
def indent? : Scan (Option Nat) := do
  match ← peek with
  | some c =>
    if !c.isDigit then return none
    if c = '0' then throw .illFormed
    next
    return some (c.toNat - 0x30)
  | none => return none

/-- Reads a header and the rest of its line. The two parts may come in either order. -/
def header : Scan Header := do
  let h : Header ←
    match ← chomping? with
    | some chomping => pure ⟨chomping, ← indent?⟩
    | none =>
      match ← indent? with
      | some n => pure ⟨(← chomping?).getD .clip, some n⟩
      | none => pure ⟨.clip, none⟩
  if !endsName (← peek) then throw .illFormed
  endLine
  return h

/-- Reads the breaks before lines of an unknown indentation, behind those read before, the latest first,
and gives the deepest column that spaces reach. -/
def findIndent : Nat → List Char → Nat → Scan (List Char × Nat)
  | 0, before, deepest => return (before.reverse, deepest)
  | fuel + 1, before, deepest => do
    if !(← takeRun (· = ' ')).isEmpty then
      findIndent fuel before (max deepest (← get).column)
    else
      match ← takeBreak? with
      | none => return (before.reverse, deepest)
      | some x => findIndent fuel (x :: before) deepest

def skipIndent (indent : Nat) : Scan Unit := do
  let c ← get
  skip (((c.rest.take (indent - c.column)).takeWhile (· = ' ')).length)

/-- Reads the breaks before lines of the given indentation. -/
def moreBreaks (indent : Nat) : Scan (List Char) := breaks (skipIndent indent)

/-- Whether a line of a scalar is at the cursor. -/
def isAtLine (indent : Nat) : Scan Bool := do
  if (← get).column = indent then return (← peek).isSome
  return false

def isAtGap : Scan Bool := return ((← peek).map isGap).getD false

/-- What the break between two lines counts for in text. -/
def joint (folded : Bool) (x : List Char) (textBefore textAfter : Bool) (more : List Char) : List Char :=
  if folded && x = ['\n'] && textBefore && textAfter then (if more.isEmpty then [' '] else []) else x

/-- The lines of a scalar: its text, the break behind it, and the breaks after that. -/
structure Lines where
  text : List Char
  last : List Char
  more : List Char

/-- Reads lines, `before` being the breaks in front of the first one, behind the parts read before, the
latest first. -/
def lines (folded : Bool) (indent : Nat) : Nat → List (List Char) → List Char → Scan Lines
  | 0, parts, before => return ⟨parts.reverse.flatten, [], before⟩
  | fuel + 1, parts, before => do
    if !(← isAtLine indent) then return ⟨parts.reverse.flatten, [], before⟩
    let textBefore := !(← isAtGap)
    let line ← takeRun (!isBreak ·)
    let x := (← takeBreak?).toList
    let more ← moreBreaks indent
    let parts := line :: before :: parts
    if !(← isAtLine indent) then return ⟨parts.reverse.flatten, x, more⟩
    let textAfter := !(← isAtGap)
    lines folded indent fuel (joint folded x textBefore textAfter more :: parts) more

/-- Reads a block scalar below a line with the given indentation, its indicator being at the cursor. -/
def read (folded : Bool) (outer : Int) : Scan (List Char) := do
  next
  let h ← header
  let least := (max 1 (outer + 1)).toNat
  let (before, indent) : List Char × Nat ←
    match h.indent with
    | none => do
      let (before, deepest) ← findIndent ((← get).left + 1) [] 0
      pure (before, max least deepest)
    | some n => do
      let indent := least + n - 1
      pure (← moreBreaks indent, indent)
  let l ← lines folded indent ((← get).left + 1) [] before
  let tail := match h.chomping with
    | .strip => []
    | .clip => l.last
    | .keep => l.last ++ l.more
  return l.text ++ tail

end PeakSlowness.Yaml.BlockText
