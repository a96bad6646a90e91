import Mathlib.Data.List.Basic
import PeakSlowness.Proofs.Number.Binary64
import PeakSlowness.Proofs.Report.Elements

set_option autoImplicit false

/-!
Reading the variables of a matrix report. The reader knows the numbers that stand for types of data and for
classes of arrays, and nothing of how a table is written: every array is an element that holds a stream of its
own, opened by its class, its sizes and its name. A table is read as a structure variable with two columns.
-/

namespace PeakSlowness.Matlab

/-- The first `count` pieces of `width` octets each. -/
def pieces (width : Nat) : Nat → List UInt8 → List (List UInt8)
  | 0, _ => []
  | count + 1, octets => octets.take width :: pieces width count (octets.drop width)

/-- Octets cut into pieces of one width. There is no rest. -/
def cut? (width : Nat) (octets : List UInt8) : Option (List (List UInt8)) :=
  if octets.length = octets.length / width * width then some (pieces width (octets.length / width) octets)
  else none

/-- The text of octets that are a code point each. -/
def characters (octets : List UInt8) : List Char := octets.map fun b => Char.ofNat b.toNat

/-- What opens an array: its class with all flags, its sizes and its name. -/
structure Heading where
  cls : Nat
  sizes : List Nat
  name : List Char
  deriving DecidableEq

/-- Reads a heading and gives the elements behind it. A size takes 31 bits. -/
def Heading.read? : List Element → Option (Heading × List Element)
  | ⟨6, flags⟩ :: ⟨5, sizes⟩ :: ⟨1, name⟩ :: rest => do
    let sizes ← cut? 4 sizes
    if flags.length = 8 ∧ ∀ size ∈ sizes, number size < 2 ^ 31 then
      some (⟨number (flags.take 4), sizes.map number, characters name⟩, rest)
    else none
  | _ => none

/-- A matrix of double-precision numbers, column by column. -/
structure Matrix where
  sizes : List Nat
  entries : List Binary64
  deriving DecidableEq

/-- Reads a matrix without a name. It has no imaginary part, and as many numbers as its sizes say. -/
def Matrix.read? (e : Element) : Option Matrix :=
  if e.code = 14 then do
    match ← Heading.read? (← elements? e.data) with
    | (⟨6, sizes, []⟩, [⟨9, data⟩]) =>
      let entries ← cut? 8 data
      if entries.length = sizes.prod then
        some ⟨sizes, entries.map fun octets => .ofBits (number octets)⟩
      else none
    | _ => none
  else none

/-- A structure variable: its name, its sizes, and its fields in order. -/
structure Variable where
  name : List Char
  sizes : List Nat
  fields : List (List Char × Matrix)
  deriving DecidableEq

/-- Reads a structure of a single element whose fields are matrices. Its field names have one width and end
with the first zero. -/
def Variable.read? (e : Element) : Option Variable :=
  if e.code = 14 then do
    match ← Heading.read? (← elements? e.data) with
    | (⟨2, sizes, name⟩, ⟨5, width⟩ :: ⟨1, names⟩ :: arrays) =>
      let names ← cut? (number width) names
      let matrices ← arrays.mapM Matrix.read?
      if sizes.prod = 1 ∧ names.length = matrices.length then
        some ⟨name, sizes, (names.map fun octets => characters (octets.takeWhile (· ≠ 0))).zip matrices⟩
      else none
    | _ => none
  else none

/-- The variables of a stream, which is read to its end. -/
def variables? (octets : List UInt8) : Option (List Variable) := do
  (← elements? octets).mapM Variable.read?

section Writing

variable {width : Nat} {name : List UInt8} {rest : List UInt8} {cls : ArrayClass} {rows columns : Nat}
  {values : List Binary64} {table : Table}

theorem pieces_flatMap {α : Type} {f : α → List UInt8} {items : List α}
    (wide : ∀ x ∈ items, (f x).length = width) :
    pieces width items.length (items.flatMap f) = items.map f := by
  induction items with
  | nil => rfl
  | cons x items ih =>
    have first : (f x).length = width := wide x List.mem_cons_self
    rw [List.flatMap_cons, List.length_cons, pieces, List.take_left' first, List.drop_left' first,
      ih fun y hy => wide y (List.mem_cons_of_mem _ hy), List.map_cons]

theorem length_flatMap_of_wide {α : Type} {f : α → List UInt8} {items : List α}
    (wide : ∀ x ∈ items, (f x).length = width) :
    (items.flatMap f).length = items.length * width := by
  induction items with
  | nil => simp
  | cons x items ih =>
    rw [List.flatMap_cons, List.length_append, wide x List.mem_cons_self,
      ih fun y hy => wide y (List.mem_cons_of_mem _ hy), List.length_cons, Nat.succ_mul, Nat.add_comm]

/-- Octets written piece by piece are cut into these pieces. -/
theorem cut?_flatMap {α : Type} {f : α → List UInt8} {items : List α} (positive : 0 < width)
    (wide : ∀ x ∈ items, (f x).length = width) :
    cut? width (items.flatMap f) = some (items.map f) := by
  have count : (items.flatMap f).length / width = items.length := by
    rw [length_flatMap_of_wide wide, Nat.mul_div_cancel _ positive]
  unfold cut?
  rw [count, if_pos (length_flatMap_of_wide wide), pieces_flatMap wide]

theorem number_littleEndian_of_lt {n : Nat} (small : n < 256 ^ width) :
    number (littleEndian width n) = n := by
  rw [number_littleEndian, Nat.mod_eq_of_lt small]

theorem length_le_element (type : DataType) (data : List UInt8) :
    data.length + 4 ≤ (element type data).length := by
  unfold element
  split
  · simp only [List.length_append, length_littleEndian, List.length_replicate]
    omega
  · simp only [List.length_append, length_littleEndian, List.length_replicate]
    omega

/-- The elements that open an array. -/
def opening (cls : ArrayClass) (rows columns : Nat) (name : List UInt8) : List Element :=
  [⟨6, littleEndian 4 cls.code ++ littleEndian 4 0⟩,
    ⟨5, littleEndian 4 rows ++ littleEndian 4 columns⟩, ⟨1, name⟩]

theorem elements?_preamble (small : name.length < 2 ^ 32) :
    elements? (preamble cls rows columns name ++ rest) =
      (elements? rest).map (opening cls rows columns name ++ ·) := by
  unfold preamble
  rw [List.append_assoc, List.append_assoc, elements?_element (by simp), elements?_element (by simp),
    elements?_element small, Option.map_map, Option.map_map]
  rfl

theorem read?_opening (hr : rows < 2 ^ 31) (hc : columns < 2 ^ 31) (others : List Element) :
    Heading.read? (opening cls rows columns name ++ others) =
      some (⟨cls.code, [rows, columns], characters name⟩, others) := by
  have sizes : cut? 4 (littleEndian 4 rows ++ littleEndian 4 columns) =
      some [littleEndian 4 rows, littleEndian 4 columns] := by
    have cut : cut? 4 ([rows, columns].flatMap (littleEndian 4)) = _ :=
      cut?_flatMap (by decide) fun _ _ => length_littleEndian ..
    simpa using cut
  have rows_read : number (littleEndian 4 rows) = rows := number_littleEndian_of_lt (by omega)
  have columns_read : number (littleEndian 4 columns) = columns := number_littleEndian_of_lt (by omega)
  have cls_read : number (littleEndian 4 cls.code) = cls.code := by
    cases cls with
    | struct => decide
    | double => decide
  have flags : (littleEndian 4 cls.code ++ littleEndian 4 0).length = 8 := by simp
  have positive : ∀ size ∈ [littleEndian 4 rows, littleEndian 4 columns], number size < 2 ^ 31 := by
    simpa [rows_read, columns_read] using And.intro hr hc
  simp only [opening, List.cons_append, List.nil_append, Heading.read?]
  rw [sizes, Option.bind_eq_bind, Option.bind_some, if_pos ⟨flags, positive⟩,
    List.take_left' (length_littleEndian ..), cls_read]
  simp only [List.map_cons, List.map_nil, rows_read, columns_read]

/-- The elements inside a column. -/
def columnData (values : List Binary64) : List UInt8 :=
  preamble .double values.length 1 [] ++ element .double (values.flatMap fun x => littleEndian 8 x.bits)

/-- A column is read as a matrix of that many rows, every number bit for bit. -/
theorem read?_column (small : (columnData values).length < 2 ^ 32) :
    Matrix.read? ⟨14, columnData values⟩ = some ⟨[values.length, 1], values⟩ := by
  have wide : ∀ x ∈ values, (littleEndian 8 x.bits).length = 8 := fun x _ => length_littleEndian ..
  have length := length_flatMap_of_wide wide
  have inside := length_le_element .double (values.flatMap fun x => littleEndian 8 x.bits)
  have whole : (columnData values).length = (preamble .double values.length 1 []).length + _ :=
    List.length_append
  have stream : elements? (columnData values) = some (opening .double values.length 1 [] ++
      [⟨9, values.flatMap fun x => littleEndian 8 x.bits⟩]) := by
    rw [columnData, elements?_preamble (by decide), elements?_last (by omega)]
    rfl
  have entries : (values.map fun x => littleEndian 8 x.bits).map
      (fun octets => Binary64.ofBits (number octets)) = values := by
    have kept (x : Binary64) : number (littleEndian 8 x.bits) = x.bits :=
      number_littleEndian_of_lt (x.bits_lt.trans_eq (by decide))
    simp [Function.comp_def, kept]
  unfold Matrix.read?
  rw [if_pos rfl, stream, Option.bind_eq_bind, Option.bind_some,
    read?_opening (by omega) (by decide), Option.bind_eq_bind, Option.bind_some]
  simp only [ArrayClass.code, characters, List.map_nil]
  rw [cut?_flatMap (by decide) wide, Option.bind_eq_bind, Option.bind_some, entries]
  simp

/-- The elements inside a table. -/
def tableData (name : List UInt8) (table : Table) : List UInt8 :=
  preamble .struct 1 1 name ++ element .int32 (littleEndian 4 fieldWidth) ++
    element .int8 (fieldName "time" ++ fieldName "max_slowness") ++
    column (table.rows.map fun r => .ofInt r.1) ++ column (table.rows.map (·.2))

/-- What a table is read as, its times rounded to double-precision numbers. -/
def written (name : List Char) (table : Table) : Variable where
  name := name
  sizes := [1, 1]
  fields := [("time".toList, ⟨[table.rows.length, 1], table.rows.map fun r => .ofInt r.1⟩),
    ("max_slowness".toList, ⟨[table.rows.length, 1], table.rows.map (·.2)⟩)]

theorem length_le_column (values : List Binary64) :
    (columnData values).length ≤ (column values).length :=
  (Nat.le_add_right _ _).trans (length_le_element .matrix (columnData values))

theorem length_le_preamble (cls : ArrayClass) (rows columns : Nat) (name : List UInt8) :
    name.length ≤ (preamble cls rows columns name).length := by
  have inside := length_le_element .int8 name
  unfold preamble
  rw [List.length_append]
  omega

theorem elements?_column (small : (columnData values).length < 2 ^ 32) :
    elements? (column values ++ rest) = (elements? rest).map (⟨14, columnData values⟩ :: ·) :=
  elements?_element small

/-- The field names of a table, read from their pieces. -/
theorem cut?_fieldNames : cut? 13 (fieldName "time" ++ fieldName "max_slowness") =
    some [fieldName "time", fieldName "max_slowness"] := by
  decide

theorem characters_fieldNames : [fieldName "time", fieldName "max_slowness"].map
    (fun octets => characters (octets.takeWhile (· ≠ 0))) = ["time".toList, "max_slowness".toList] := by
  decide

theorem elements?_tableData (named : name.length < 2 ^ 32)
    (times : (columnData (table.rows.map fun r => .ofInt r.1)).length < 2 ^ 32)
    (peaks : (columnData (table.rows.map (·.2))).length < 2 ^ 32) :
    elements? (tableData name table) = some (opening .struct 1 1 name ++
      [⟨5, littleEndian 4 fieldWidth⟩, ⟨1, fieldName "time" ++ fieldName "max_slowness"⟩,
        ⟨14, columnData (table.rows.map fun r => .ofInt r.1)⟩,
        ⟨14, columnData (table.rows.map (·.2))⟩]) := by
  have last : elements? (column (table.rows.map (·.2))) = some [⟨14, columnData (table.rows.map (·.2))⟩] :=
    elements?_last peaks
  unfold tableData
  rw [List.append_assoc, List.append_assoc, List.append_assoc, elements?_preamble named,
    elements?_element (by decide), elements?_element (by decide), elements?_column times, last]
  rfl

/-- A table is read as a structure of its two columns, whatever its name. -/
theorem read?_table (small : (tableData name table).length < 2 ^ 32) :
    Variable.read? ⟨14, tableData name table⟩ = some (written (characters name) table) := by
  have named := length_le_preamble .struct 1 1 name
  have times := length_le_column (table.rows.map fun r => .ofInt r.1)
  have peaks := length_le_column (table.rows.map (·.2))
  simp only [tableData, List.length_append] at small
  replace named : name.length < 2 ^ 32 := by omega
  replace times : (columnData (table.rows.map fun r => .ofInt r.1)).length < 2 ^ 32 := by omega
  replace peaks : (columnData (table.rows.map (·.2))).length < 2 ^ 32 := by omega
  have arrays : [(⟨14, columnData (table.rows.map fun r => .ofInt r.1)⟩ : Element),
      ⟨14, columnData (table.rows.map (·.2))⟩].mapM Matrix.read? =
        some [⟨[table.rows.length, 1], table.rows.map fun r => .ofInt r.1⟩,
          ⟨[table.rows.length, 1], table.rows.map (·.2)⟩] := by
    rw [List.mapM_cons, List.mapM_cons, List.mapM_nil, read?_column times, read?_column peaks,
      List.length_map, List.length_map]
    rfl
  have wide : number (littleEndian 4 fieldWidth) = 13 := by decide
  unfold Variable.read?
  rw [if_pos rfl, elements?_tableData named times peaks, Option.bind_eq_bind, Option.bind_some,
    read?_opening (by decide) (by decide), Option.bind_eq_bind, Option.bind_some]
  simp only [ArrayClass.code]
  rw [wide, cut?_fieldNames, Option.bind_eq_bind, Option.bind_some, arrays, Option.bind_eq_bind,
    Option.bind_some, characters_fieldNames]
  rfl

/-- The stream of a table is read to its end as one variable. -/
theorem variables?_tableVariable (small : (tableVariable name table).length < 2 ^ 32) :
    variables? (tableVariable name table) = some [written (characters name) table] := by
  have inside := length_le_element .matrix (tableData name table)
  have fits : (tableData name table).length < 2 ^ 32 := by
    have same : (element .matrix (tableData name table)).length = (tableVariable name table).length := rfl
    omega
  have stream : elements? (tableVariable name table) = some [⟨14, tableData name table⟩] :=
    elements?_last fits
  rw [variables?, stream, Option.bind_eq_bind, Option.bind_some, List.mapM_cons, List.mapM_nil,
    read?_table fits]
  rfl

end Writing

end PeakSlowness.Matlab
