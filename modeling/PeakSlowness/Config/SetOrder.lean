import PeakSlowness.Config.Setting

set_option autoImplicit false

/-!
The order in which the members of a set are gone through. Numbers stand in a table of slots, each at the
slot of its residue or, where that is taken, at the next free one on its way; other members keep the order
in which they came.
-/

namespace PeakSlowness.SetOrder

-- Powers are those of the core library, whatever else is in scope.
attribute [local instance (2000)] instPowNat

/-- The prime that residues are taken by, one below a power of two. -/
def modulus : Nat := 0x1FFFFFFFFFFFFFFF

/-- The number of bits of the modulus. Doubling as many times changes no residue. -/
def modulusBits : Nat := 61

/-- A residue with its sign; minus one is left out. -/
def signed (negative : Bool) (residue : Nat) : Int :=
  let r : Int := if negative then -(residue : Int) else residue
  if r = -1 then -2 else r

/-- The residue of a double-precision number that is no NaN. A division by two is a multiplication by as
many doublings as are left to `modulusBits`. -/
def residueOfFloat (x : Binary64) : Int :=
  if x.isInfinite then (if x.negative then -314159 else 314159)
  else
    let (num, den) := x.fraction
    let doublings := (modulusBits - den.log2 % modulusBits) % modulusBits
    signed x.negative (num.natAbs * 2 ^ doublings % modulus)

/-- The residue of a number; equal numbers have the same, whatever their kind. -/
def residue? : Scalar → Option Int
  | .bool b => some (if b then 1 else 0)
  | .int n => some (signed (n < 0) (n.natAbs % modulus))
  | .float x => if x.isNaN then none else some (residueOfFloat x)
  | _ => none

def leastSize : Nat := 8

/-- The first power of two from `size` on that is greater than `count`. The fuel bounds the doublings. -/
def sizeAbove (count : Nat) : Nat → Nat → Nat
  | 0, size => size
  | fuel + 1, size => if count < size then size else sizeAbove count fuel (2 * size)

/-- How many slots there are for a number of members. -/
def tableSize (count : Nat) : Nat :=
  if 5 * count < 3 * (leastSize - 1) then leastSize else sizeAbove (2 * count) count leastSize

def rowLength : Nat := 10

def free? (table : Array (Option Scalar)) (slots : List Nat) : Option Nat :=
  slots.find? fun k => (table[k]?.map Option.isNone).getD false

/-- The free slot on the way from `slot`. A row that would leave the table is one slot long. The fuel bounds
the rows. -/
def freeSlot (table : Array (Option Scalar)) : Nat → Nat → Nat → Nat
  | 0, _, slot => slot
  | fuel + 1, bits, slot =>
    let row := if slot + rowLength ≤ table.size then List.range' slot rowLength else [slot]
    match free? table row with
    | some k => k
    | none => freeSlot table fuel (bits / 32) ((slot * 5 + 1 + bits / 32) % table.size)

/-- Puts a member with a residue into its slot. -/
def place (table : Array (Option Scalar)) (member : Scalar × Int) : Array (Option Scalar) :=
  let bits := (member.2 % 0x10000000000000000).toNat
  table.setIfInBounds (freeSlot table (table.size + 64) bits (bits % table.size)) (some member.1)

/-- The members of a set in the order in which they are gone through. -/
def arrange (members : List Scalar) : List Scalar :=
  match members.mapM fun m => (residue? m).map fun r => (m, r) with
  | none => members
  | some numbers =>
    (numbers.foldl place (Array.replicate (tableSize members.length) none)).toList.filterMap id

end PeakSlowness.SetOrder
