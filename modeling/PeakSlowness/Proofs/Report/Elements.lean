import Mathlib.Data.List.Basic
import Mathlib.Tactic.Ring
import PeakSlowness.Report.Matlab

set_option autoImplicit false

/-!
Reading a stream of elements. The reader knows the layout of tags only: an element is a tag of eight octets
and its data, filled up to a multiple of eight, or, where the length stands in the upper half of the first
four octets, up to four octets of data in the tag itself. What is written as a row of elements is read as that
row.
-/

namespace PeakSlowness.Matlab

/-- The number that octets make up, the lowest first. -/
def number : List UInt8 → Nat
  | [] => 0
  | b :: rest => b.toNat + 256 * number rest

/-- An element of a stream: the code of its type, and its data. -/
structure Element where
  code : Nat
  data : List UInt8
  deriving DecidableEq, Repr

/-- Reads an element off the front of a stream, and gives what is behind it. -/
def Element.take? (octets : List UInt8) : Option (Element × List UInt8) :=
  if octets.length < 8 then none
  else
    let tag := number (octets.take 4)
    if tag / 65536 = 0 then
      let size := number ((octets.drop 4).take 4)
      let filled := (size + 7) / 8 * 8
      if octets.length < 8 + filled then none
      else some (⟨tag, (octets.drop 8).take size⟩, octets.drop (8 + filled))
    else if tag / 65536 ≤ 4 then
      some (⟨tag % 65536, (octets.drop 4).take (tag / 65536)⟩, octets.drop 8)
    else none

theorem Element.length_of_take? {octets rest : List UInt8} {e : Element}
    (h : take? octets = some (e, rest)) : rest.length < octets.length := by
  unfold take? at h
  split at h
  · cases h
  · dsimp only at h
    split at h
    · split at h
      · cases h
      · cases h
        rw [List.length_drop]
        omega
    · split at h
      · cases h
        rw [List.length_drop]
        omega
      · cases h

/-- The elements of a whole stream. There is nothing behind the last one. -/
def elements? (octets : List UInt8) : Option (List Element) :=
  if octets = [] then some []
  else
    match _h : Element.take? octets with
    | none => none
    | some (e, rest) => (elements? rest).map (e :: ·)
termination_by octets.length
decreasing_by exact Element.length_of_take? _h

section Writing

variable {width n : Nat} {data rest : List UInt8} {type : DataType}

@[simp] theorem length_littleEndian (width n : Nat) : (littleEndian width n).length = width := by
  induction width generalizing n with
  | zero => rfl
  | succ width ih => rw [littleEndian, List.length_cons, ih]

theorem number_littleEndian (width n : Nat) : number (littleEndian width n) = n % 256 ^ width := by
  induction width generalizing n with
  | zero => simp [littleEndian, number, Nat.mod_one]
  | succ width ih =>
    have low : (UInt8.ofNat (n % 256)).toNat = n % 256 := by simp
    rw [littleEndian, number, ih, low, Nat.pow_succ, Nat.mul_comm _ 256, Nat.mod_mul]

theorem number_append (front back : List UInt8) :
    number (front ++ back) = number front + 256 ^ front.length * number back := by
  induction front with
  | nil => simp [number]
  | cons b rest ih =>
    rw [List.cons_append, number, number, ih, List.length_cons, Nat.pow_succ]
    ring

theorem code_lt (type : DataType) : type.code < 65536 := by
  cases type <;> decide

theorem element_of_short (short : data.length ≤ 4) : element type data =
    littleEndian 2 type.code ++ littleEndian 2 data.length ++ data ++ List.replicate (4 - data.length) 0 :=
  if_pos short

theorem element_of_long (long : ¬ data.length ≤ 4) : element type data =
    littleEndian 4 type.code ++ littleEndian 4 data.length ++ data ++
      List.replicate (padding data.length) 0 :=
  if_neg long

/-- The two halves of a tag, and what is behind them. -/
theorem take?_append {half other back : List UInt8} (hh : half.length = 4) (ho : other.length = 4) :
    Element.take? (half ++ (other ++ back)) =
      if number half / 65536 = 0 then
        if back.length < (number other + 7) / 8 * 8 then none
        else some (⟨number half, back.take (number other)⟩, back.drop ((number other + 7) / 8 * 8))
      else if number half / 65536 ≤ 4 then
        some (⟨number half % 65536, other.take (number half / 65536)⟩, back)
      else none := by
  have first : (half ++ (other ++ back)).take 4 = half := List.take_left' hh
  have behind : (half ++ (other ++ back)).drop 4 = other ++ back := List.drop_left' hh
  have second : (other ++ back).take 4 = other := List.take_left' ho
  have later (n : Nat) : (half ++ (other ++ back)).drop (8 + n) = back.drop n := by
    have sum : 8 + n = 4 + (4 + n) := by omega
    rw [sum, ← List.drop_drop, behind, ← List.drop_drop, List.drop_left' ho]
  have length : (half ++ (other ++ back)).length = 8 + back.length := by
    simp only [List.length_append]
    omega
  unfold Element.take?
  rw [length, if_neg (by omega)]
  simp only [first, behind, second, later, later 0, Nat.add_lt_add_iff_left]
  split
  · rfl
  · split
    · next fits =>
      rw [List.take_append_of_le_length (by omega), List.drop_zero]
    · rfl

theorem filled_eq (length : Nat) : (length + 7) / 8 * 8 = length + padding length := by
  unfold padding
  omega

/-- What is written as an element is read as one. -/
theorem take?_element (small : data.length < 2 ^ 32) :
    Element.take? (element type data ++ rest) = some (⟨type.code, data⟩, rest) := by
  have code := code_lt type
  by_cases short : data.length ≤ 4
  · have half : number (littleEndian 2 type.code ++ littleEndian 2 data.length) =
        type.code + 65536 * data.length := by
      rw [number_append, number_littleEndian, number_littleEndian, length_littleEndian]
      omega
    have high : (type.code + 65536 * data.length) / 65536 = data.length := by omega
    have low : (type.code + 65536 * data.length) % 65536 = type.code := by omega
    rw [element_of_short short, List.append_assoc, List.append_assoc, ← List.append_assoc data,
      take?_append (by simp) (by simp; omega), half, high, low]
    by_cases none : data.length = 0
    · obtain rfl := List.length_eq_zero_iff.1 none
      simp [number]
    · rw [if_neg none, if_pos short, List.take_left]
  · have half : number (littleEndian 4 type.code) = type.code := by
      rw [number_littleEndian]
      omega
    have other : number (littleEndian 4 data.length) = data.length := by
      rw [number_littleEndian]
      exact Nat.mod_eq_of_lt small
    have fits : ¬ (data ++ (List.replicate (padding data.length) 0 ++ rest)).length <
        data.length + padding data.length := by
      simp only [List.length_append, List.length_replicate]
      omega
    have behind : (data ++ (List.replicate (padding data.length) 0 ++ rest)).drop
        (data.length + padding data.length) = rest := by
      rw [← List.append_assoc]
      exact List.drop_left' (by simp)
    rw [element_of_long short, List.append_assoc, List.append_assoc, List.append_assoc,
      take?_append (by simp) (by simp), half, other, filled_eq, if_pos (by omega), if_neg fits,
      List.take_left, behind]

theorem element_ne_nil : element type data ++ rest ≠ [] := by
  intro none
  have length := congrArg List.length none
  unfold element at length
  split at length
  · simp at length
  · simp at length

@[simp] theorem elements?_nil : elements? [] = some [] := by
  simp [elements?]

/-- A row of elements is read one after the other. -/
theorem elements?_element (small : data.length < 2 ^ 32) :
    elements? (element type data ++ rest) = (elements? rest).map (⟨type.code, data⟩ :: ·) := by
  rw [elements?, if_neg element_ne_nil]
  split
  · next none =>
    rw [take?_element small] at none
    cases none
  · next e rest' some =>
    rw [take?_element small] at some
    cases some
    rfl

/-- The last element of a stream. -/
theorem elements?_last (small : data.length < 2 ^ 32) :
    elements? (element type data) = some [⟨type.code, data⟩] := by
  have last : elements? (element type data ++ []) = _ := elements?_element small
  rw [List.append_nil, elements?_nil] at last
  exact last

end Writing

end PeakSlowness.Matlab
