import PeakSlowness.Proofs.Filed
import PeakSlowness.Proofs.Number.Nearest
import PeakSlowness.Proofs.Report.Variable

set_option autoImplicit false

/-!
The matrix report of a series, read back. Whatever the number of rows and the length of the name, the stream
behind the header is read to its end as one structure variable, and its columns are the series, the times
being rounded. Times of up to 53 digits are not changed by rounding, and then the report tells the series.
-/

namespace PeakSlowness

open Text (Letter)

namespace Matlab

/-- A name and a table whose matrix report holds a variable: the name is not empty, does not begin with an
underscore and has code points of one octet each, and the stream is shorter than `2 ^ 32` octets. -/
structure Reportable (name : List Char) (table : Table) : Prop where
  named : name ≠ []
  latin : ∀ c ∈ name, c.toNat < 256
  visible : name.head? ≠ some '_'
  small : ((octets (Letter.ofList name) table).drop 128).length < 2 ^ 32

/-- The octets of a file are the header and a stream that is read as a series under a name: its times are
rounded to the nearest numbers, and its values are kept bit for bit. -/
structure ReadsAs (file : List UInt8) (name : List Char) (rows : Series) : Prop where
  header : file.take 128 = fileHeader
  stream : ∃ times : List Binary64,
    variables? (file.drop 128) =
      some [⟨name, [1, 1],
        [("time".toList, ⟨[rows.length, 1], times⟩),
          ("max_slowness".toList, ⟨[rows.length, 1], rows.map (·.2)⟩)]⟩] ∧
      List.Forall₂ (fun r x => Binary64.IsNearest (r.1 : ℚ) x) rows times

/-- The series that a report tells, its times being cut to integers. -/
def series? (file : List UInt8) : Option Series :=
  match variables? (file.drop 128) with
  | some [⟨_, _, [(_, times), (_, values)]⟩] => some ((times.entries.map (·.truncate)).zip values.entries)
  | _ => none

/-- All times are integers of up to 53 digits. -/
def Exact (rows : Series) : Prop := ∀ r ∈ rows, |r.1| ≤ 2 ^ 53

section Octets

variable {name : List Char} {table : Table}

theorem length_fileHeader : fileHeader.length = 128 := by rfl

theorem encodeName_ofList (latin : ∀ c ∈ name, c.toNat < 256) :
    encodeName (Letter.ofList name) = .ok (name.map fun c => UInt8.ofNat c.toNat) := by
  have all : (Letter.ofList name).dropWhile (fun l => decide (l.code < 256)) = [] := by
    rw [List.dropWhile_eq_nil_iff]
    intro l hl
    obtain ⟨c, hc, rfl⟩ := List.mem_map.1 hl
    exact decide_eq_true (latin c hc)
  have none : Text.Unencodable.inLatin1? (Letter.ofList name) = none := by
    simp only [Text.Unencodable.inLatin1?, all]
  rw [encodeName, none, Letter.ofList, List.map_map]
  rfl

theorem characters_of_latin (latin : ∀ c ∈ name, c.toNat < 256) :
    characters (name.map fun c => UInt8.ofNat c.toNat) = name := by
  rw [characters, List.map_map]
  refine (List.map_congr_left fun c hc => ?_).trans (List.map_id name)
  have octet : (UInt8.ofNat c.toNat).toNat = c.toNat := UInt8.toNat_ofNat_of_lt' (latin c hc)
  simp only [Function.comp_apply, octet, Char.ofNat_toNat, id_eq]

theorem Reportable.ofList_ne_nil (h : Reportable name table) : Letter.ofList name ≠ [] := by
  simpa [Letter.ofList] using h.named

theorem Reportable.ofList_ne_underscored (h : Reportable name table) (rest : List Letter) :
    Letter.ofList name ≠ .char '_' :: rest := by
  intro underscored
  apply h.visible
  obtain ⟨c, others, rfl⟩ := List.exists_cons_of_ne_nil h.named
  cases underscored
  rfl

theorem octets_eq (h : Reportable name table) : octets (Letter.ofList name) table =
    fileHeader ++ tableVariable (name.map fun c => UInt8.ofNat c.toNat) table := by
  rw [octets.eq_3 _ _ h.ofList_ne_nil h.ofList_ne_underscored, encodeName_ofList h.latin]

/-- The stream behind the header is read to its end as the table. -/
theorem variables?_octets (h : Reportable name table) :
    variables? ((octets (Letter.ofList name) table).drop 128) = some [written name table] := by
  have small := h.small
  rw [octets_eq h, List.drop_left' length_fileHeader] at small ⊢
  rw [variables?_tableVariable small, characters_of_latin h.latin]

theorem abs_lt_of_fitsSigned {t : ℤ} (fits : FitsSigned t) : |(t : ℚ)| < 2 ^ 1000 := by
  have bound : |t| ≤ 2 ^ 63 := by
    obtain ⟨low, high⟩ := fits
    exact abs_le.2 ⟨by omega, by omega⟩
  calc |(t : ℚ)| ≤ 2 ^ 63 := by exact_mod_cast bound
    _ < 2 ^ 1000 := pow_lt_pow_right₀ one_lt_two (by norm_num)

theorem readsAs_octets (h : Reportable name table) :
    ReadsAs (octets (Letter.ofList name) table) name table.rows where
  header := by
    rw [octets_eq h]
    exact List.take_left' length_fileHeader
  stream := by
    have read := variables?_octets h
    refine ⟨_, read, ?_⟩
    rw [List.forall₂_map_right_iff, List.forall₂_same]
    intro r hr
    exact Binary64.isNearest_ofInt (abs_lt_of_fitsSigned (table.fits r hr))

/-- Times that rounding does not change are told. -/
theorem series?_octets (h : Reportable name table) (exact : Exact table.rows) :
    series? (octets (Letter.ofList name) table) = some table.rows := by
  have times : table.rows.map (fun r => (Binary64.ofInt r.1).truncate) = table.rows.map (·.1) :=
    List.map_congr_left fun r hr => Binary64.truncate_of_value (Binary64.value_ofInt (exact r hr))
  have series : ((table.rows.map fun r => Binary64.ofInt r.1).map (·.truncate)).zip
      (table.rows.map (·.2)) = table.rows := by
    rw [List.map_map, Function.comp_def, times, List.zip_map', List.map_id']
  rw [series?, variables?_octets h]
  exact congrArg some series

/-- A report tells the name, and the series where its times are exact. -/
theorem eq_of_octets_eq {name' : List Char} {table' : Table} (h : Reportable name table)
    (h' : Reportable name' table')
    (same : octets (Letter.ofList name) table = octets (Letter.ofList name') table') :
    name = name' ∧ (Exact table.rows → Exact table'.rows → table.rows = table'.rows) := by
  constructor
  · have read := variables?_octets h
    rw [same, variables?_octets h', Option.some_inj, List.singleton_inj] at read
    exact (congrArg Variable.name read).symm
  · intro exact exact'
    have series := series?_octets h exact
    rw [same, series?_octets h' exact', Option.some_inj] at series
    exact series.symm

end Octets

end Matlab

namespace Action

variable {name : List Letter} {table : Table} {title : String} {base : FilePath} {w w' : World}

/-- What is put into an opened file is behind its path. -/
theorem holds_of_put {path : FilePath} {place : Place} {octets : List UInt8}
    (leads : w.disk.LeadsTo w.host.cwd path place) (host : w'.host = w.host)
    (put : w'.disk = w.disk.put place (.file octets)) : w'.Holds path octets := by
  obtain ⟨before, file⟩ := leads.exists_file
  have fits := Disk.Fits.file_of_file file octets
  refine ⟨place, ?_, ?_⟩
  · rw [host, put]
    exact leads.put fits
  · rw [put]
    exact Disk.find?_put_self fits.ne_root w.disk _

theorem withSuffix?_of_reportPath {suffix : String} {path : FilePath}
    (h : outcome (reportPath base suffix) w = (.ok path, w')) : base.withSuffix? suffix = some path := by
  unfold reportPath at h
  split at h
  · next there =>
    cases h
    exact there
  · cases h

/-- A matrix report that is written is behind its path. -/
theorem mat_of_writeMat {path : FilePath}
    (h : outcome (writeMat table base title name) w = (.ok path, w')) :
    base.withSuffix? ".mat" = some path ∧ w'.Holds path (Matlab.octets name table) := by
  unfold writeMat at h
  obtain ⟨path', w₁, suffixed, h⟩ := outcome_bind_eq_ok_iff.1 h
  obtain ⟨_, w₂, -, h⟩ := outcome_bind_eq_ok_iff.1 h
  obtain ⟨opened, w₃, opening, h⟩ := outcome_bind_eq_ok_iff.1 h
  split at h
  · cases h
  · cases h
  · next place =>
    obtain ⟨_, w₄, filling, h⟩ := outcome_bind_eq_ok_iff.1 h
    obtain ⟨host, disk⟩ := disk_of_fillMat filling
    cases h
    exact ⟨withSuffix?_of_reportPath suffixed, holds_of_put (leadsTo_of_opened opening) host disk⟩

/-- The matrix report is the last one that is written. -/
theorem mat_of_writeReports {format : ReportFormat} {paths : List FilePath} (included : format.HasMat)
    (h : outcome (writeReports table base title format name) w = (.ok paths, w')) :
    ∃ path ∈ paths, base.withSuffix? ".mat" = some path ∧ w'.Holds path (Matlab.octets name table) := by
  have last : ∃ first w₁, outcome (List.singleton <$> writeMat table base title name >>= fun second =>
      pure (first ++ second)) w₁ = (.ok paths, w') := by
    unfold writeReports at h
    by_cases csv : format.HasCsv
    · simp only [if_pos included, if_pos csv] at h
      obtain ⟨first, w₁, -, h⟩ := outcome_bind_eq_ok_iff.1 h
      exact ⟨first, w₁, h⟩
    · simp only [if_pos included, if_neg csv] at h
      obtain ⟨first, w₁, -, h⟩ := outcome_bind_eq_ok_iff.1 h
      exact ⟨first, w₁, h⟩
  obtain ⟨first, w₁, last⟩ := last
  obtain ⟨second, w₂, mat, same⟩ := outcome_bind_eq_ok_iff.1 last
  obtain ⟨path, written, rfl⟩ := outcome_map_eq_ok_iff.1 mat
  obtain ⟨suffixed, holds⟩ := mat_of_writeMat written
  cases same
  exact ⟨path, List.mem_append_right _ List.mem_cons_self, suffixed, holds⟩

/-- An opened matrix report is filled. -/
theorem outcome_fillMat {name : List Char} (h : Matlab.Reportable name table) (place : Place) (w : World) :
    ∃ w', outcome (fillMat table place (Letter.ofList name)) w = (.ok (), w') ∧ w'.host = w.host ∧
      w'.disk = w.disk.put place (.file (Matlab.octets (Letter.ofList name) table)) := by
  have filled : ∃ w', outcome (fillMat table place (Letter.ofList name)) w = (.ok (), w') := by
    unfold fillMat
    split
    · next none => exact absurd none h.ofList_ne_nil
    · next rest underscored => exact absurd underscored (h.ofList_ne_underscored rest)
    · rw [Matlab.encodeName_ofList h.latin]
      exact ⟨_, rfl⟩
  obtain ⟨w', filled⟩ := filled
  exact ⟨w', filled, disk_of_fillMat filled⟩

/-- A matrix report is written if its file can be opened in a directory that is there or can be made. -/
theorem outcome_writeReports_mat {name : List Char} (h : Matlab.Reportable name table) {path : FilePath}
    {w₁ : World} {place : Place} {disk : Disk} (suffixed : base.withSuffix? ".mat" = some path)
    (made : outcome (makeDirectories path.anchor path.parts.dropLast) w = (.ok (), w₁))
    (opened : w₁.disk.openToWrite w₁.host.cwd path = .ok (place, disk)) :
    ∃ w', outcome (writeReports table base title .mat (Letter.ofList name)) w = (.ok [path], w') := by
  have suffix : reportPath base ".mat" = pure path := by
    rw [reportPath, suffixed]
  have written : ∃ w', outcome (writeMat table base title (Letter.ofList name)) w = (.ok path, w') := by
    unfold writeMat
    rw [suffix, pure_bind, outcome_bind_of_ok made,
      outcome_bind_of_ok (outcome_openFile_of_opened opened)]
    obtain ⟨w₂, filled, -⟩ := outcome_fillMat h place ⟨w₁.host, disk, .fileOpened place :: w₁.past⟩
    change ∃ w', outcome (fillMat table place (Letter.ofList name) >>= _) _ = _
    rw [outcome_bind_of_ok filled]
    exact ⟨_, rfl⟩
  obtain ⟨w', written⟩ := written
  have single : outcome (List.singleton <$> writeMat table base title (Letter.ofList name)) w =
      (.ok [path], w') := outcome_map_eq_ok_iff.2 ⟨path, written, rfl⟩
  refine ⟨w', ?_⟩
  unfold writeReports
  simp only [if_pos (show ReportFormat.mat.HasMat by decide),
    if_neg (show ¬ ReportFormat.mat.HasCsv by decide), pure_bind]
  rw [outcome_bind_of_ok single]
  rfl

/-- A matrix report decodes to its series. Whatever the format, a report that is written is behind its path,
and one is written wherever its file can be opened. The stream behind the header is read to its end, as one
structure of two columns. Where all times are integers of up to 53 digits, the series is told, and no other
series has the same octets. -/
theorem mat_report_reads_back {name : List Char} (h : Matlab.Reportable name table) :
    (∀ (format : ReportFormat) (base : FilePath) (title : String) (paths : List FilePath) (w w' : World),
      format.HasMat →
      outcome (writeReports table base title format (Letter.ofList name)) w = (.ok paths, w') →
      ∃ path ∈ paths, base.withSuffix? ".mat" = some path ∧
        w'.Holds path (Matlab.octets (Letter.ofList name) table)) ∧
    (∀ (base path : FilePath) (title : String) (w w₁ : World) (place : Place) (disk : Disk),
      base.withSuffix? ".mat" = some path →
      outcome (makeDirectories path.anchor path.parts.dropLast) w = (.ok (), w₁) →
      w₁.disk.openToWrite w₁.host.cwd path = .ok (place, disk) →
      ∃ w', outcome (writeReports table base title .mat (Letter.ofList name)) w = (.ok [path], w')) ∧
    Matlab.ReadsAs (Matlab.octets (Letter.ofList name) table) name table.rows ∧
    (Matlab.Exact table.rows →
      Matlab.series? (Matlab.octets (Letter.ofList name) table) = some table.rows ∧
      ∀ (name' : List Char) (table' : Table), Matlab.Reportable name' table' → Matlab.Exact table'.rows →
        Matlab.octets (Letter.ofList name) table = Matlab.octets (Letter.ofList name') table' →
        name = name' ∧ table.rows = table'.rows) := by
  refine ⟨fun format base title paths w w' included => mat_of_writeReports included, ?_,
    Matlab.readsAs_octets h, fun exact => ⟨Matlab.series?_octets h exact, ?_⟩⟩
  · intro base path title w w₁ place disk suffixed made opened
    exact outcome_writeReports_mat h suffixed made opened
  · intro name' table' h' exact' same
    obtain ⟨names, rows⟩ := Matlab.eq_of_octets_eq h h' same
    exact ⟨names, rows exact exact'⟩

/-- A table of two rows, one of them without a number. -/
def pairOfRows : Table where
  rows := [(-1000, .nan false), (2000, .infinity true)]
  fits := by decide

theorem mat_report_reads_back_pair : Matlab.Reportable "slow".toList pairOfRows ∧
    Matlab.ReadsAs (Matlab.octets (Letter.ofList "slow".toList) pairOfRows) "slow".toList
      [(-1000, .nan false), (2000, .infinity true)] ∧
    Matlab.series? (Matlab.octets (Letter.ofList "slow".toList) pairOfRows) =
      some [(-1000, .nan false), (2000, .infinity true)] := by
  have reportable : Matlab.Reportable "slow".toList pairOfRows :=
    ⟨by decide, by simp, by decide, by decide +kernel⟩
  have exact : Matlab.Exact pairOfRows.rows := by
    unfold Matlab.Exact pairOfRows
    simp
  obtain ⟨-, -, reads, told⟩ := mat_report_reads_back reportable
  exact ⟨reportable, reads, (told exact).1⟩

end Action

end PeakSlowness
