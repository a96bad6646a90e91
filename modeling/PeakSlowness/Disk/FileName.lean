import PeakSlowness.Text.Unencodable
import PeakSlowness.Text.Utf8

set_option autoImplicit false

/-!
The names of files. A name is octets, and it is a text as far as these are UTF-8: an octet that belongs to no
character is a half by itself, U+DC80 to U+DCFF. It is kept as a string all the same. No name has a slash, so
a slash in the string makes a half out of the character behind it.
-/

namespace PeakSlowness.FileName

open Text (Letter Unencodable)
open Text.Utf8 (Begun)

/-- The half that stands for an octet. -/
def halfOf (b : UInt8) : Letter := .half (0xDC00 + b.toNat)

/-- How a letter is kept in a name. -/
def kept : Letter → List Char
  | .char c => [c]
  | .half n => ['/', Char.ofNat (n - 0xD000)]

/-- The name that is spelled by letters. -/
def ofLetters (letters : List Letter) : String := String.ofList (letters.flatMap kept)

/-- The letters that characters of a name keep. -/
def lettersOf : List Char → List Letter
  | [] => []
  | '/' :: c :: rest => .half (0xD000 + c.toNat) :: lettersOf rest
  | c :: rest => .char c :: lettersOf rest

def letters (name : String) : List Letter := lettersOf name.toList

/-- The octets of a letter, for a half that stands for one. -/
def octetsOf : Letter → List UInt8
  | .char c => Text.Utf8.encodeChar c
  | .half n => [UInt8.ofNat (n - 0xDC00)]

def octets (letters : List Letter) : List UInt8 := letters.flatMap octetsOf

/-- Reads octets as letters behind a character begun. Those that belong to no character are halves. -/
def readOn (begun : Begun) : List UInt8 → List Letter
  | [] => begun.octets.map halfOf
  | b :: rest =>
    match begun.step b with
    | .char c => .char c :: readOn .none rest
    | .more next => readOn next rest
    | .bad =>
      begun.octets.map halfOf ++
        match Text.Utf8.first b with
        | .char c => .char c :: readOn .none rest
        | .more next => readOn next rest
        | .bad => halfOf b :: readOn .none rest

/-- The letters that octets are read as. -/
def read (octets : List UInt8) : List Letter := readOn .none octets

/-- The name that letters stand for: that of their octets, if all of them have any. -/
def named (letters : List Letter) : String :=
  if (Unencodable.inPath? letters).isNone then ofLetters (read (octets letters)) else ofLetters letters

/-- The length of a name in octets. -/
def size (name : String) : Nat := (octets (letters name)).length

end PeakSlowness.FileName
