import PeakSlowness.Number.Binary64
import PeakSlowness.Text.Line
import PeakSlowness.Text.Piece
import PeakSlowness.Text.Utf8

set_option autoImplicit false

/-!
Blocks of a text. A reader that asks for `blockSize` characters at a time makes its octets text only as far
as a block needs them, so it may be done with the beginning of a file before it meets a bad octet further
on. Octets come in pieces of `pieceSize`, or in larger ones where the last piece tells that a block needs
more. Lines end with line feeds in blocks.
-/

namespace PeakSlowness.Text

/-- How many characters a block has, unless it is the last one. -/
def blockSize : Nat := 4096

/-- The blocks of a text as far as it can be read, and the fault that the next block meets. -/
structure Blocks where
  blocks : List (List Char)
  fault : Option Utf8.Fault

/-- A text on its way into blocks: the octets still to come, the character and the line end that are not
complete, the characters that no block holds yet, and how many octets a character of the last piece took. -/
structure Supply where
  octets : List UInt8
  begun : Utf8.Begun
  isOpen : Bool
  ready : List Char
  ratio : Binary64

namespace Supply

/-- The octets of a file before the first piece. -/
def start (octets : List UInt8) : Supply := ⟨octets, .none, false, [], .zero⟩

/-- How many octets are read at a time where `count` characters are wanted. -/
def nextSize (s : Supply) (count : Nat) : Nat :=
  let ratio := if s.ratio.lt (.ofInt 1) then .ofInt 1 else s.ratio
  max pieceSize (ratio.mul (.ofInt count)).truncate.toNat

/-- Makes the next piece text. An empty piece is the end of the file. -/
def fetch (s : Supply) (count : Nat) : Except Utf8.Fault Supply := do
  let size := s.nextSize count
  let piece := s.octets.take size
  let (text, begun) ← Utf8.decodePiece s.begun 0 piece
  let (text, isOpen) := unifyAfter s.isOpen text
  if piece.isEmpty then
    begun.finish 0
    return ⟨[], .none, false, if isOpen then text ++ ['\n'] else text, .zero⟩
  else
    let ratio := if text.isEmpty then .zero else Binary64.ofRatio false piece.length text.length
    return ⟨s.octets.drop size, begun, isOpen, text, ratio⟩

/-- Reads `count` characters behind those of a block, or as many as there are. -/
def fill (block : List Char) (count : Nat) : Nat → Supply → Except Utf8.Fault (List Char × Supply)
  | 0, s => .ok (block, s)
  | fuel + 1, s => do
    let part := s.ready.take count
    let block := block ++ part
    let s := { s with ready := s.ready.drop count }
    if part.length = count then return (block, s)
    let next ← s.fetch (count - part.length)
    if s.octets.isEmpty && next.ready.isEmpty then return (block, next)
    fill block (count - part.length) fuel next

/-- Reads blocks up to the end or a fault. The limit bounds the number of pieces in a block. -/
def blocks (limit : Nat) : Nat → Supply → Blocks
  | 0, _ => ⟨[], none⟩
  | fuel + 1, s =>
    match fill [] blockSize limit s with
    | .error fault => ⟨[], some fault⟩
    | .ok ([], _) => ⟨[], none⟩
    | .ok (block, s) =>
      let rest := blocks limit fuel s
      { rest with blocks := block :: rest.blocks }

end Supply

/-- The blocks of the text that octets make up. -/
def Blocks.ofOctets (octets : List UInt8) : Blocks :=
  let limit := octets.length + 3
  (Supply.start octets).blocks limit limit

end PeakSlowness.Text
