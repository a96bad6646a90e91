import PeakSlowness.CommandLine.Flag
import PeakSlowness.Text.DecimalDigit

set_option autoImplicit false

/-!
The words of a command line, told apart before any of them is used. A long option may be cut short as
long as it is the only one that begins so; a value may be attached to it behind an equals sign. A word
that looks like a negative number or has a space in it is no option.
-/

namespace PeakSlowness.CommandLine

open Text

/-- Text in the same word as an option. -/
inductive Attached where
  | behindEquals (text : String)
  | behindLetter (text : String)
  deriving DecidableEq

def Attached.text : Attached → String
  | behindEquals text => text
  | behindLetter text => text

/-- What stands right behind the option in the word. -/
def Attached.written : Attached → List Char
  | behindEquals text => '=' :: text.toList
  | behindLetter text => text.toList

/-- A word of a command line. -/
inductive Word where
  | plain (text : String)
  /-- the first double dash; behind it every word is plain -/
  | separator
  | flag (flag : Flag) (spelling : String) (attached : Option Attached)
  /-- a word that has the form of an option -/
  | unknown (text : String)
  deriving DecidableEq

/-- A word that more than one option begins with. -/
structure Ambiguity where
  word : String
  candidates : List String
  deriving DecidableEq

/-- A word at its first equals sign: what is before it, and what is behind it if there is one. -/
def cutAtEquals (text : List Char) : List Char × Option (List Char) :=
  match text.dropWhile (· != '=') with
  | [] => (text, none)
  | _ :: rest => (text.takeWhile (· != '='), some rest)

/-- Whether a word is a minus sign before digits, which may have a point before or among them. One line
feed at the end does not count. -/
def looksNegative (text : List Char) : Bool :=
  match text with
  | '-' :: rest =>
    let body := if rest.getLast? = some '\n' then rest.dropLast else rest
    match body.takeWhile isDigit, body.dropWhile isDigit with
    | _ :: _, [] => true
    | _, '.' :: part => !part.isEmpty && part.all isDigit
    | _, _ => false
  | _ => false

/-- The options that a word may stand for, cut short or with a value right behind a letter. -/
def candidates (text : List Char) : List Word :=
  let (head, value) := cutAtEquals text
  match text with
  | '-' :: '-' :: _ =>
    (Flag.table.filter fun e => head.isPrefixOf e.1.toList).map fun e =>
      .flag e.2 e.1 (value.map fun text => .behindEquals (String.ofList text))
  | '-' :: letter :: rest =>
    (Flag.table.filter fun e => e.1.toList = ['-', letter]).map fun e =>
      .flag e.2 e.1 (some (.behindLetter (String.ofList rest)))
  | _ => []

def Word.spelling : Word → String
  | .flag _ spelling _ => spelling
  | _ => ""

/-- What a word is by its form alone, where it spells no option out. -/
def ofForm (word : String) : Word :=
  if looksNegative word.toList || word.toList.contains ' ' then .plain word else .unknown word

def classify (word : String) : Except Ambiguity Word :=
  match word.toList with
  | '-' :: rest =>
    match Flag.ofSpelling? word with
    | some f => .ok (.flag f word none)
    | none =>
      if rest.isEmpty then .ok (.plain word)
      else
        let (head, value) := cutAtEquals word.toList
        match value, Flag.ofSpelling? (String.ofList head) with
        | some text, some f =>
          .ok (.flag f (String.ofList head) (some (.behindEquals (String.ofList text))))
        | _, _ =>
          match candidates word.toList with
          | [] => .ok (ofForm word)
          | [one] => .ok one
          | several => .error ⟨word, several.map Word.spelling⟩
  | _ => .ok (.plain word)

def Word.ofList : List String → Except Ambiguity (List Word)
  | [] => .ok []
  | word :: rest =>
    if word = "--" then .ok (.separator :: rest.map .plain)
    else do
      let first ← classify word
      return first :: (← Word.ofList rest)

end PeakSlowness.CommandLine
