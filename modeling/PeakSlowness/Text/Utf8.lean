import PeakSlowness.Text.Quoted

set_option autoImplicit false

/-!
UTF-8, written and read octet by octet. The reader stops at the first octet that rules the text
out, keeps an unfinished character between two pieces of input, and says where and why it stopped.
-/

namespace PeakSlowness.Text.Utf8

/-- Why octets are no text. -/
inductive Reason where
  | badStart
  | badContinuation
  | truncated
  deriving DecidableEq, Repr

def Reason.message : Reason → String
  | .badStart => "invalid start byte"
  | .badContinuation => "invalid continuation byte"
  | .truncated => "unexpected end of data"

/-- The octets `bad`, the first of them at `offset`, are no character. -/
structure Fault where
  reason : Reason
  offset : Nat
  bad : List UInt8
  deriving DecidableEq, Repr

def Fault.message (fault : Fault) : String :=
  let place :=
    match fault.bad with
    | [b] => "byte 0x" ++ String.ofList (hexDigits 2 b.toNat) ++ " in position " ++ toString fault.offset
    | bad => "bytes in position " ++ toString fault.offset ++ "-" ++
        toString (fault.offset + bad.length - 1)
  "'utf-8' codec can't decode " ++ place ++ ": " ++ fault.reason.message

/-- A character begun: its octets so far, the bits they carry, how many octets are owed, and the
bounds of the next one. No octet is owed between characters. -/
structure Begun where
  octets : List UInt8
  bits : Nat
  owed : Nat
  low : Nat
  high : Nat
  deriving DecidableEq, Repr

/-- Between two characters. -/
def Begun.none : Begun := ⟨[], 0, 0, 0x80, 0xBF⟩

/-- The first two octets of a surrogate half. No octet fits behind them, yet they are given up only when
it is known what follows. -/
def Begun.half (first second : UInt8) : Begun := ⟨[first, second], 0, 1, 1, 0⟩

/-- A character begun in which no octet can follow. -/
def Begun.isHalf (s : Begun) : Bool := s.high < s.low

/-- The fault of giving up a character begun at `offset`. Of a surrogate half only the first octet is
bad. -/
def Begun.fault (s : Begun) (reason : Reason) (offset : Nat) : Fault :=
  if s.isHalf then ⟨.badContinuation, offset, s.octets.take 1⟩ else ⟨reason, offset, s.octets⟩

/-- What one octet leads to. -/
inductive Step where
  | char (c : Char)
  | more (begun : Begun)
  | bad
  deriving DecidableEq, Repr

/-- The first octet of a character. Overlong forms, surrogate halves and what lies above U+10FFFF are
kept out by the bounds on the second octet. -/
def first (b : UInt8) : Step :=
  let n := b.toNat
  if n ≤ 0x7F then .char (Char.ofNat n)
  else if n < 0xC2 then .bad
  else if n ≤ 0xDF then .more ⟨[b], n - 0xC0, 1, 0x80, 0xBF⟩
  else if n ≤ 0xEF then
    .more ⟨[b], n - 0xE0, 2, if n = 0xE0 then 0xA0 else 0x80, if n = 0xED then 0x9F else 0xBF⟩
  else if n ≤ 0xF4 then
    .more ⟨[b], n - 0xF0, 3, if n = 0xF0 then 0x90 else 0x80, if n = 0xF4 then 0x8F else 0xBF⟩
  else .bad

def Begun.step (s : Begun) (b : UInt8) : Step :=
  match s.owed with
  | 0 => first b
  | owed + 1 =>
    if s.low ≤ b.toNat ∧ b.toNat ≤ s.high then
      let bits := 64 * s.bits + (b.toNat - 0x80)
      if owed = 0 then .char (Char.ofNat bits) else .more ⟨s.octets ++ [b], bits, owed, 0x80, 0xBF⟩
    else if s.octets = [0xED] ∧ 0xA0 ≤ b.toNat ∧ b.toNat ≤ 0xBF then .more (.half 0xED b)
    else .bad

/-- Reads a piece of input after `begun`. Offsets count from the first octet of `begun`. The answer
is the characters that are complete and the one that is not. -/
def decodePiece (begun : Begun) (offset : Nat) : List UInt8 → Except Fault (List Char × Begun)
  | [] => .ok ([], begun)
  | b :: rest =>
    match begun.step b with
    | .char c => do
      let (text, last) ← decodePiece .none (offset + begun.octets.length + 1) rest
      return (c :: text, last)
    | .more next => decodePiece next offset rest
    | .bad =>
      if begun.owed = 0 then .error ⟨.badStart, offset, [b]⟩
      else .error (begun.fault .badContinuation offset)

/-- What an unfinished character means at the end of the input. -/
def Begun.finish (begun : Begun) (offset : Nat) : Except Fault Unit :=
  if begun.owed = 0 then .ok () else .error (begun.fault .truncated offset)

def decode (octets : List UInt8) : Except Fault (List Char) := do
  let (text, last) ← decodePiece .none 0 octets
  last.finish (octets.length - last.octets.length)
  return text

def encodeChar (c : Char) : List UInt8 :=
  let n := c.toNat
  let tail (k : Nat) : UInt8 := UInt8.ofNat (0x80 + k % 64)
  if n ≤ 0x7F then [UInt8.ofNat n]
  else if n ≤ 0x7FF then [UInt8.ofNat (0xC0 + n / 64), tail n]
  else if n ≤ 0xFFFF then [UInt8.ofNat (0xE0 + n / 4096), tail (n / 64), tail n]
  else [UInt8.ofNat (0xF0 + n / 262144), tail (n / 4096), tail (n / 64), tail n]

def encode (text : List Char) : List UInt8 := text.flatMap encodeChar

end PeakSlowness.Text.Utf8
