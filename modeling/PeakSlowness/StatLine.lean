import PeakSlowness.Application
import PeakSlowness.Field
import PeakSlowness.Text.Line

set_option autoImplicit false

/-!
The lines of a statistics file. A line is data unless it is blank or begins with `#`. A data line has at
least twelve fields between commas; the seventh is the release date, the tenth the time the application
took from there, and the twelfth its slowness. Lines are counted from one, whatever they hold.
-/

namespace PeakSlowness.StatLine

open Text

/-- The place of the release date among the fields, from zero. -/
def releaseField : Nat := 6

def durationField : Nat := 9

def slownessField : Nat := 11

def fewestFields : Nat := slownessField + 1

/-- Why a data line was rejected. -/
inductive Reason where
  | tooFewFields (count : Nat)
  | field (fault : Field.Fault)
  deriving DecidableEq

def Reason.message : Reason → String
  | .tooFewFields count => "expected at least 12 fields, got " ++ toString count
  | .field fault => fault.message

/-- A rejected line: its number, its text without the line end, and the reason. -/
structure Malformed where
  number : Int
  line : String
  reason : Reason
  deriving DecidableEq

def Malformed.message (m : Malformed) : String :=
  "line " ++ toString m.number ++ ": " ++ m.reason.message ++ ": " ++ quotedString m.line

def isData (line : List Char) : Bool := !(trim line).isEmpty && line.head? != some '#'

/-- The application that the fields of a line describe. The first bad field decides. -/
def ofFields (mode : Mode) (fields : List (List Char)) : Except Reason Application :=
  if fields.length < fewestFields then .error (.tooFewFields fields.length)
  else
    let result : Except Field.Fault Application := do
      let release ← Field.integer mode (fields.getD releaseField [])
      let duration ← Field.integer mode (fields.getD durationField [])
      let slowness ← Field.decimal mode (fields.getD slownessField [])
      return ⟨release, release + duration, slowness⟩
    result.mapError .field

def parse (mode : Mode) (number : Int) (line : List Char) : Except Malformed Application :=
  let body := dropLineEnd line
  (ofFields mode (splitOn ',' body)).mapError fun reason => ⟨number, String.ofList body, reason⟩

/-- What reading lines led to: the applications in order, and the rejection that ended it, if one did. -/
structure Reading where
  apps : List Application
  fault : Option Malformed

/-- Reads lines whose first has the given number, up to the first one that is rejected. -/
def readFrom (mode : Mode) (number : Int) : List (List Char) → Reading
  | [] => ⟨[], none⟩
  | line :: rest =>
    if isData line then
      match parse mode number line with
      | .error fault => ⟨[], some fault⟩
      | .ok app =>
        let more := readFrom mode (number + 1) rest
        ⟨app :: more.apps, more.fault⟩
    else readFrom mode (number + 1) rest

def readLines (mode : Mode) (lines : List (List Char)) : Reading := readFrom mode 1 lines

end PeakSlowness.StatLine
