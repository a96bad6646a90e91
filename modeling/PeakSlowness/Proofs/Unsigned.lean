import Mathlib
import PeakSlowness.Proofs.Late
import PeakSlowness.Proofs.Number.Spelling
import PeakSlowness.Proofs.Printed

set_option autoImplicit false

/-!
No NaN and no sign in what a run writes. No field is read as a NaN, so no application has one for
its slowness; a peak is zero or a slowness above zero, and the text of such a number begins with a
digit, if it is not infinite. So it is with every row on standard output and in the text report.
-/

namespace PeakSlowness

open PeakSlowness.Action Text

namespace Binary64

theorem isNaN_ofMagnitude (negative : Bool) (m : ℕ) : (ofMagnitude negative m).isNaN = false :=
  decide_eq_false (Nat.not_lt.2 (Nat.min_le_right ..))

theorem isNaN_ofDecimal (negative : Bool) (digits : ℕ) (exponent : ℤ) :
    (ofDecimal negative digits exponent).isNaN = false := by
  rw [ofDecimal_eq]
  exact isNaN_ofMagnitude _ _

/-- A number of which the text needs no sign. -/
structure Unsigned (x : Binary64) : Prop where
  number : x.isNaN = false
  positive : x.negative = false

theorem unsigned_zero : Unsigned zero := ⟨rfl, rfl⟩

theorem unsigned_of_zero_lt {x : Binary64} (h : zero.lt x = true) : Unsigned x :=
  ⟨isNaN_of_zero_lt h, negative_of_zero_lt h⟩

/-- The text of a number without a sign begins with a digit, or says that it is infinite. -/
theorem Unsigned.write {x : Binary64} (h : Unsigned x) :
    x.write = ['i', 'n', 'f'] ∨ ∃ c rest, x.write = c :: rest ∧ c.isDigit = true := by
  by_cases infinite : x.isInfinite = true
  · left
    simp [Binary64.write, h.number, h.positive, infinite]
  · right
    have finite : x.isFinite = true := by
      have number := h.number
      simp only [isNaN, isInfinite, decide_eq_false_iff_not, beq_iff_eq] at number infinite
      simp only [isFinite, decide_eq_true_eq]
      omega
    obtain ⟨r, spelled, -⟩ := spells_writeFinite finite
    rw [write_of_isFinite finite, h.positive]
    exact spelled.exists_digit

theorem Unsigned.toText {x : Binary64} (h : Unsigned x) :
    x.toText.toList.head? ≠ some '-' ∧ x.toText ≠ "nan" ∧ x.toText ≠ "" := by
  have text : x.toText.toList = x.write := String.toList_ofList
  have apart {s : String} (hs : x.write ≠ s.toList) : x.toText ≠ s := by
    rintro same
    exact hs (text.symm.trans (congrArg String.toList same))
  rw [text]
  rcases h.write with written | ⟨c, rest, written, digit⟩
  · rw [written] at apart ⊢
    exact ⟨by decide, apart (by decide), apart (by decide)⟩
  · rw [written] at apart ⊢
    refine ⟨?_, apart ?_, apart (List.cons_ne_nil _ _)⟩
    · rintro ⟨⟩
      cases digit
    · intro same
      cases same
      cases digit

end Binary64

open Binary64 (Unsigned)

/-- No field is read as a NaN. -/
theorem Field.isNaN_of_decimal {mode : Mode} {text : List Char} {x : Binary64}
    (h : decimal mode text = .ok x) : x.isNaN = false := by
  cases mode with
  | lenient =>
    simp only [decimal, Except.ok.injEq] at h
    rw [← h, decimalLeading]
    split
    · exact Binary64.isNaN_ofDecimal _ _ _
    · rfl
  | strict =>
    simp only [decimal] at h
    split at h
    · cases h
      exact Binary64.isNaN_ofDecimal _ _ _
    · cases h

theorem StatLine.Describes.not_isNaN {mode : Mode} {line : List Char} {release duration : ℤ}
    {slowness : Binary64} (h : Describes mode line release duration slowness) :
    slowness.isNaN = false :=
  Field.isNaN_of_decimal h.slowness

namespace Action

open StatLine

/-- What has been loaded is what the data lines of a text describe. -/
theorem exists_lines_of_load {path : FilePath} {cfg : Setting} {w : World} {apps : List Application}
    (h : (outcome (load path cfg) w).1 = .ok apps) :
    ∃ mode, ∃ lines : List (List Char), apps = lines.filterMap (application? mode) := by
  cases hm : Config.mode cfg with
  | error failure =>
    have stopped : outcome (load path cfg) w = (.error failure, w) := by
      rw [load, hm]
      rfl
    rw [stopped] at h
    cases h
  | ok mode =>
    cases ho : w.disk.read w.host.cwd path with
    | error fault =>
      rw [load, hm] at h
      simp only [outcome_bind, outcome_ofExcept_ok, readFile, outcome_query, ho] at h
      cases fault <;> cases h
    | ok octets =>
      by_cases isText : ∃ text, octets = Utf8.encode text
      · obtain ⟨text, rfl⟩ := isText
        rw [(says_load_encode hm ho).result, ofReading] at h
        split at h
        · cases h
        · next none_rejected =>
          cases h
          refine ⟨mode, lines (translateEnds text), ?_⟩
          rw [readLines, readFrom_of_accepted (fault_eq_none_iff.1 none_rejected)]
      · obtain ⟨failure, lost, -⟩ := outcome_load_of_not_text hm ho (not_exists.1 isText)
        rw [lost] at h
        cases h

theorem not_isNaN_of_load {path : FilePath} {cfg : Setting} {w : World} {apps : List Application}
    (h : (outcome (load path cfg) w).1 = .ok apps) : ∀ a ∈ apps, a.slowness.isNaN = false := by
  obtain ⟨mode, lines, rfl⟩ := exists_lines_of_load h
  intro a ha
  obtain ⟨line, -, -, described⟩ := mem_applications_iff.1 ha
  exact (ofFields_eq_ok_iff.1 described).not_isNaN

end Action

/-- A value of a row: zero, or a slowness above zero of an application active at the time. -/
def Peaks (apps : List Application) (r : ℤ × Binary64) : Prop :=
  r.2 = .zero ∨ Binary64.zero.lt r.2 = true ∧ Offered apps r.1 r.2

theorem peaks_series {apps : List Application} {sweep : Sweep} :
    ∀ r ∈ series apps sweep, Peaks apps r := by
  intro r hr
  obtain ⟨t, -, rfl⟩ := List.mem_map.1 hr
  rcases isPeak_peakAt apps t with ⟨⟨offered, above⟩, -⟩ | ⟨none, -⟩
  · exact .inr ⟨above, offered⟩
  · exact .inl none

theorem Peaks.unsigned {apps : List Application} {r : ℤ × Binary64} (h : Peaks apps r) :
    Unsigned r.2 := by
  rcases h with none | ⟨above, -⟩
  · rw [none]
    exact Binary64.unsigned_zero
  · exact Binary64.unsigned_of_zero_lt above

/-- The times of a table may be others than those of its series, but the values are the same. -/
theorem Table.values_of_ofSeries? {s : Series} {table : Table} (h : ofSeries? s = some table) :
    table.rows.map (·.2) = s.map (·.2) := by
  rw [rows_of_ofSeries? h, List.map_map]
  rfl

namespace Action

section Goes

variable {apps : List Application} {cfg : Setting} {w : World} {result : Except Failure Table}
  {trace : List Event}

/-- What a summary prints are rows of its series. -/
theorem Goes.exists_rows (h : Goes apps cfg w result trace) :
    ∃ rows : Series, texts trace = rows.map rowLine ∧ ∀ r ∈ rows, Peaks apps r := by
  cases swept : Config.sweep cfg with
  | error failure =>
    have unplanned := Plan.ofConfig_of_rejects (.sweep swept)
    cases h with
    | unplanned _ => exact ⟨[], rfl, nofun⟩
    | unrooted hp _ _ _ | unprinted hp _ _ _ | printed hp _ _ _ _ _ _ =>
      rw [unplanned] at hp
      cases hp
  | ok sweep =>
    have part := List.prefix_iff_eq_take.1 (h.texts_prefix swept)
    rw [← List.map_take] at part
    exact ⟨_, part, fun r hr => peaks_series r (List.mem_of_mem_take hr)⟩

/-- What a summary writes into files are reports of the values of its series. -/
theorem Goes.exists_table (h : Goes apps cfg w result trace) {place : Place} {octets : List UInt8}
    (written : .fileWritten place octets ∈ trace) :
    ∃ table, IsReport table octets ∧ ∀ r ∈ table.rows, Unsigned r.2 := by
  cases h with
  | unplanned _ => cases written
  | unrooted _ _ ready _ => exact absurd trivial (ready.not_opens _ written)
  | unprinted _ ready speaks _ =>
    rcases List.mem_append.1 written with prepared | spoken
    · exact absurd trivial (ready.not_opens _ prepared)
    · exact absurd trivial (speaks _ spoken).not_opens
  | @printed plan prepared spoken filed table root result hp ready speaks stops reports _ _ =>
    rcases List.mem_append.1 written with early | filing
    · rcases List.mem_append.1 early with prepared | spoken
      · exact absurd trivial (ready.not_opens _ prepared)
      · exact absurd trivial (speaks _ spoken).not_opens
    · have held := stops.ofSeries?_of_ok
      refine ⟨table, reports _ filing, fun r hr => ?_⟩
      have value : r.2 ∈ table.rows.map (·.2) := List.mem_map_of_mem hr
      rw [Table.values_of_ofSeries? held] at value
      obtain ⟨q, hq, same⟩ := List.mem_map.1 value
      rw [← same]
      exact (peaks_series q hq).unsigned

end Goes

end Action

namespace Run

variable {argv : List String} {host : Host} {disk : Disk}

/-- A run loads these applications. -/
def Loaded (argv : List String) (w : World) (cfg : Setting) (apps : List Application) (w₁ : World) :
    Prop :=
  ∃ args w', CommandLine.Arguments.parse argv = .ok args ∧ outcome (settle args) w = (.ok cfg, w') ∧
    Loads cfg w' apps w₁

/-- A run refuses its command line, or comes to nothing before it has loaded applications, or
summarizes them. -/
theorem refused_or_silent_or_summarized (argv : List String) (w : World) :
    (∃ refusal, (ofCommandLine argv w).ending = .refused refusal ∧
      w.Alike (ofCommandLine argv w).world) ∨
      (∀ refusal, (ofCommandLine argv w).ending ≠ .refused refusal) ∧
        (w.Alike (ofCommandLine argv w).world ∨
          ∃ cfg apps w₁, Loaded argv w cfg apps w₁ ∧ w.Alike w₁ ∧
            (outcome (summarize apps cfg) w₁).2.Alike (ofCommandLine argv w).world) := by
  cases parsed : CommandLine.Arguments.parse argv with
  | error refusal =>
    rw [ofCommandLine, parsed]
    exact .inl ⟨refusal, rfl, .refl w⟩
  | ok args =>
    right
    have settling := (quiet_settle args).alike w
    rcases settled : outcome (settle args) w with ⟨failure | cfg, w'⟩
    · obtain ⟨ending, alike⟩ := ofCommandLine_of_unsettled parsed settled
      rw [ending]
      exact ⟨endingOf_ne_refused _, .inl alike⟩
    · rw [settled] at settling
      have run := ofCommandLine_of_settled parsed settled
      have works := works_work cfg w'
      rw [run]
      refine ⟨endingOf_ne_refused _, ?_⟩
      dsimp only
      generalize (outcome (work cfg) w').1 = result at works
      generalize (outcome (work cfg) w').2 = w'' at works
      cases works with
      | unfound _ still => exact .inl (settling.trans still)
      | unloaded _ _ still => exact .inl (settling.trans still)
      | @summarized apps w₁ _ loads there =>
        exact .inr ⟨cfg, apps, w₁, ⟨args, w', parsed, settled, loads⟩,
          settling.trans loads.alike, there⟩

end Run

/-- No NaN and no sign, in what is read, in what is printed, and in what is written into files: what
a file holds behind a run it held before, or it is empty, or it is a report, and the text report has
a value in every row. -/
theorem no_nan_and_no_sign :
    (∀ mode text x, Field.decimal mode text = .ok x → x.isNaN = false) ∧
    (∀ path cfg w apps, (outcome (load path cfg) w).1 = .ok apps →
      ∀ a ∈ apps, a.slowness.isNaN = false) ∧
    ∀ argv host disk,
      ((∃ refusal, (Run.ofCommandLine argv ⟨host, disk, []⟩).ending = .refused refusal ∧
          (Run.ofCommandLine argv ⟨host, disk, []⟩).world.printed = []) ∨
        ∃ rows : Series,
          (Run.ofCommandLine argv ⟨host, disk, []⟩).output = String.join (rows.map rowLine) ∧
          ∀ r ∈ rows,
            (r.2 = .zero ∨ Binary64.zero.lt r.2 = true ∧
              ∃ cfg apps w₁, Run.Loaded argv ⟨host, disk, []⟩ cfg apps w₁ ∧ Offered apps r.1 r.2) ∧
            r.2.toText.toList.head? ≠ some '-' ∧ r.2.toText ≠ "nan") ∧
      ∀ place octets,
        (Run.ofCommandLine argv ⟨host, disk, []⟩).world.disk.find? place = some (.file octets) →
          disk.find? place = some (.file octets) ∨ octets = [] ∨ Matlab.fileHeader <+: octets ∨
            octets = plotOctets ∨ ∃ table : Table,
              octets = Utf8.encode (Csv.header ++ String.join (table.rows.map Csv.line)).toList ∧
              ∀ r ∈ table.rows, Csv.line r = toString r.1 ++ "," ++ r.2.toText ++ "\n" ∧
                r.2.toText ≠ "" := by
  refine ⟨fun _ _ _ => Field.isNaN_of_decimal, fun _ _ _ _ => not_isNaN_of_load, ?_⟩
  intro argv host disk
  rcases Run.refused_or_silent_or_summarized argv ⟨host, disk, []⟩ with
    ⟨refusal, refused, still⟩ | ⟨ended, still | ⟨cfg, apps, w₁, loaded, before, there⟩⟩
  · refine ⟨.inl ⟨refusal, refused, still.printed⟩, fun place octets file => .inl ?_⟩
    rwa [still.disk] at file
  · refine ⟨.inr ⟨[], ?_, nofun⟩, fun place octets file => .inl ?_⟩
    · rw [Run.output_eq ended, still.printed]
      rfl
    · rwa [still.disk] at file
  · obtain ⟨trace, after, goes⟩ := goes_summarize apps cfg w₁
    rw [after] at there
    constructor
    · obtain ⟨rows, printed, peaks⟩ := goes.exists_rows
      refine .inr ⟨rows, ?_, fun r hr => ?_⟩
      · rw [Run.output_eq ended, there.printed, World.printed_after, before.printed, printed]
        rfl
      · obtain ⟨no_sign, no_nan, -⟩ := (peaks r hr).unsigned.toText
        refine ⟨(peaks r hr).imp_right ?_, no_sign, no_nan⟩
        exact And.imp_right fun offered => ⟨cfg, apps, w₁, loaded, offered⟩
    · intro place octets file
      rw [there.disk] at file
      rcases World.exists_of_find?_after file with kept | ⟨other, ⟨-, empty⟩ | written⟩
      · rw [before.disk] at kept
        exact .inl kept
      · exact .inr (.inl empty)
      · obtain ⟨table, report, unsigned⟩ := goes.exists_table written
        rcases report with rfl | matrix | plot
        · refine .inr (.inr (.inr (.inr ⟨table, rfl, fun r hr => ?_⟩)))
          have number := (unsigned r hr).number
          refine ⟨?_, (unsigned r hr).toText.2.2⟩
          simp [Csv.line, Csv.cell, number]
        · exact .inr (.inr (.inl matrix))
        · exact .inr (.inr (.inr (.inl plot)))

/-- A slowness that is too large to be finite, one below zero, and one that is no number. -/
def hugeSlowness : List Char :=
  "a,b,c,d,e,f,0,h,i,2,k,1e999\na,b,c,d,e,f,0,h,i,3,k,-1\na,b,c,d,e,f,0,h,i,3,k,nan\n".toList

theorem no_sign_behind_huge_slowness :
    (Run.ofCommandLine Run.threeCheckpoints (Run.onlyFile hugeSlowness)).output =
        "0,inf\n1,inf\n2,0.0\n" ∧
      ∃ rows : Series, (Run.ofCommandLine Run.threeCheckpoints (Run.onlyFile hugeSlowness)).output =
          String.join (rows.map rowLine) ∧
        ∀ r ∈ rows, r.2.toText.toList.head? ≠ some '-' ∧ r.2.toText ≠ "nan" := by
  obtain ⟨cfg, plan, opens, hm, hp, hr, hs⟩ := Run.opens_threeCheckpoints hugeSlowness
  obtain ⟨ended, printed⟩ := Run.ofCommandLine_of_opens opens hm hp hr
  have faultless :
      (StatLine.readLines .lenient (lines (translateEnds hugeSlowness))).fault = none := by decide
  have all := StatLine.fault_eq_none_iff.1 faultless
  constructor
  · have size : (⟨0, 2, 1, by decide, by decide⟩ : Sweep).size? = some 3 := by decide
    have fits : ∀ t ∈ (⟨0, 2, 1, by decide, by decide⟩ : Sweep).times, FitsSigned t := by decide
    rw [hs, tabulate_of_accepted all, summary_of_fits size (fits_series fits _)] at printed
    exact printed.trans (by rfl)
  · rcases (no_nan_and_no_sign.2.2 Run.threeCheckpoints ⟨[], "", []⟩
      ⟨[(["a"], .file (Utf8.encode hugeSlowness))]⟩).1 with
        ⟨refusal, refused, -⟩ | ⟨rows, output, values⟩
    · exact absurd (ended.symm.trans refused) (Run.endingOf_ne_refused _ _)
    · exact ⟨rows, output, fun r hr => (values r hr).2⟩

end PeakSlowness
