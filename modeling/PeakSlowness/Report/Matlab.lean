import PeakSlowness.Table
import PeakSlowness.Text.Unencodable

set_option autoImplicit false

/-!
The matrix report: a level-five file with one structure variable. After a header of 128 octets it is a
stream of elements, each a type, a length and data filled up to eight octets; up to four octets of data
stand in the second half of the tag. The variable has two fields, `time` and `max_slowness`, each a
column of double-precision numbers, a time being rounded to the nearest one.
-/

namespace PeakSlowness.Matlab

open Text (Letter Unencodable)

/-- The types of data in elements. -/
inductive DataType where
  | int8
  | int32
  | uint32
  | double
  | matrix
  deriving DecidableEq, Repr

def DataType.code : DataType → Nat
  | .int8 => 1
  | .int32 => 5
  | .uint32 => 6
  | .double => 9
  | .matrix => 14

/-- The classes of arrays. -/
inductive ArrayClass where
  | struct
  | double
  deriving DecidableEq, Repr

def ArrayClass.code : ArrayClass → Nat
  | .struct => 2
  | .double => 6

/-- A number in `width` octets, the lowest first; higher octets are dropped. -/
def littleEndian : Nat → Nat → List UInt8
  | 0, _ => []
  | width + 1, n => UInt8.ofNat (n % 256) :: littleEndian width (n / 256)

/-- How many octets fill `length` up to a multiple of eight. -/
def padding (length : Nat) : Nat := (8 - length % 8) % 8

def element (type : DataType) (data : List UInt8) : List UInt8 :=
  if data.length ≤ 4 then
    littleEndian 2 type.code ++ littleEndian 2 data.length ++ data ++ List.replicate (4 - data.length) 0
  else
    littleEndian 4 type.code ++ littleEndian 4 data.length ++ data ++
      List.replicate (padding data.length) 0

/-- The elements in front of the data of every array: its class, its sizes and its name. -/
def preamble (cls : ArrayClass) (rows columns : Nat) (name : List UInt8) : List UInt8 :=
  element .uint32 (littleEndian 4 cls.code ++ littleEndian 4 0) ++
    element .int32 (littleEndian 4 rows ++ littleEndian 4 columns) ++ element .int8 name

/-- A column of numbers, without a name. -/
def column (values : List Binary64) : List UInt8 :=
  element .matrix (preamble .double values.length 1 [] ++
    element .double (values.flatMap fun x => littleEndian 8 x.bits))

/-- The octets of each field name, with the zeros that end it. -/
def fieldWidth : Nat := 13

def fieldName (name : String) : List UInt8 :=
  let octets := name.toList.map fun c => UInt8.ofNat c.toNat
  octets ++ List.replicate (fieldWidth - octets.length) 0

def tableVariable (name : List UInt8) (table : Table) : List UInt8 :=
  element .matrix (preamble .struct 1 1 name ++ element .int32 (littleEndian 4 fieldWidth) ++
    element .int8 (fieldName "time" ++ fieldName "max_slowness") ++
    column (table.rows.map fun r => .ofInt r.1) ++ column (table.rows.map (·.2)))

/-- The description that opens a file, 116 octets of text. -/
def description : List UInt8 :=
  let text := "MATLAB 5.0 MAT-file".toList.map fun c => UInt8.ofNat c.toNat
  text ++ List.replicate (116 - text.length) 0x20

/-- The header of 128 octets: the description, no subsystem data, the version, and the order of
octets. -/
def fileHeader : List UInt8 :=
  description ++ List.replicate 8 0 ++ littleEndian 2 0x0100 ++ ['I', 'M'].map fun c => UInt8.ofNat c.toNat

def encodeName (name : List Letter) : Except Unencodable (List UInt8) :=
  match Unencodable.inLatin1? name with
  | none => .ok (name.map fun l => UInt8.ofNat l.code)
  | some u => .error u

end PeakSlowness.Matlab
