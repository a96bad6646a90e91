import PeakSlowness.StatLine
import PeakSlowness.Text.Piece
import PeakSlowness.Text.Utf8

set_option autoImplicit false

/-!
Statistics files. `readText` says what a whole text means: its lines, whichever way they end, are read in
order. `read` works on octets, a piece at a time, and reads the lines of a piece before it looks at the
next piece. So a bad octet is found before the lines of its own piece, and after those of the pieces
before.
-/

namespace PeakSlowness.StatFile

open Text

/-- Why a file was rejected. -/
inductive Fault where
  | notText (reason : Utf8.Reason)
  | malformed (line : StatLine.Malformed)
  deriving DecidableEq

def readText (mode : Mode) (text : List Char) : StatLine.Reading :=
  StatLine.readLines mode (lines (unify text))

/-- Reading between two pieces: the character and the line that are not complete, whether a carriage
return stands open, the number of the next line, and the applications so far. -/
structure Intake where
  begun : Utf8.Begun
  isOpen : Bool
  tail : List Char
  next : Int
  apps : List Application

def Intake.start : Intake := ⟨.none, false, [], 1, []⟩

def Intake.take (mode : Mode) (s : Intake) (whole : List (List Char)) : Except Fault Intake :=
  let reading := StatLine.readFrom mode s.next whole
  match reading.fault with
  | some line => .error (.malformed line)
  | none => .ok { s with next := s.next + whole.length, apps := s.apps ++ reading.apps }

/-- Reads a piece: all its octets become text before the first of its lines is read. -/
def Intake.feed (mode : Mode) (s : Intake) (piece : List UInt8) : Except Fault Intake := do
  let (text, begun) ← (Utf8.decodePiece s.begun 0 piece).mapError fun f => Fault.notText f.reason
  let (text, isOpen) := unifyAfter s.isOpen text
  let (whole, tail) := cutLines (s.tail ++ text)
  { s with begun, isOpen, tail }.take mode whole

def Intake.finish (mode : Mode) (s : Intake) : Except Fault (List Application) := do
  (s.begun.finish 0).mapError fun f => Fault.notText f.reason
  let last := if s.isOpen then s.tail ++ ['\n'] else s.tail
  let s ← s.take mode (if last.isEmpty then [] else [last])
  return s.apps

def read (mode : Mode) (octets : List UInt8) : Except Fault (List Application) := do
  let s ← (pieces pieceSize octets).foldlM (Intake.feed mode) Intake.start
  s.finish mode

end PeakSlowness.StatFile
