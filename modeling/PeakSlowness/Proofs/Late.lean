import PeakSlowness.Proofs.Status

set_option autoImplicit false

/-!
What a failed run leaves behind. Nothing has been printed and no file is another one, unless a run
fails late: at a time that is too long to be written, or at a report when all rows have been
printed.
-/

namespace PeakSlowness

open PeakSlowness.Action

/-- The files of a tree are those of another one. -/
def Disk.SameFiles (disk disk' : Disk) : Prop :=
  ∀ place octets, disk'.find? place = some (.file octets) ↔ disk.find? place = some (.file octets)

theorem Disk.SameFiles.refl (disk : Disk) : disk.SameFiles disk := fun _ _ => Iff.rfl

namespace Action

variable {w : World} {prepared spoken : List Event}

theorem Ready.sameFiles (ready : Ready w prepared) : w.disk.SameFiles (w.after prepared).disk :=
  fun place octets => ⟨World.find?_of_after ready.not_opens, ready.kept place octets⟩

theorem Ready.sameFiles_append (ready : Ready w prepared) (speaks : ∀ e ∈ spoken, e.Speaks) :
    w.disk.SameFiles (w.after (prepared ++ spoken)).disk := by
  rw [World.after_append, World.disk_after_of_speaks speaks]
  exact ready.sameFiles

end Action

namespace Run

/-- A run has printed nothing, and no file is another one behind it. -/
structure Clean (disk : Disk) (r : Run) : Prop where
  output : r.output = ""
  files : disk.SameFiles r.world.disk

/-- A run fails at a row that cannot be written, or at its reports after all rows. -/
inductive Late (cfg : Setting) (apps : List Application) (disk : Disk) (r : Run) : Prop where
  | unwritten {plan : Plan} {first rest : Series} {q : Int × Binary64} :
      Plan.ofConfig cfg = .ok plan → series apps plan.sweep = first ++ q :: rest →
      10 ^ Numeral.digitLimit ≤ q.1.natAbs → r.output = String.join (first.map rowLine) →
      disk.SameFiles r.world.disk → Late cfg apps disk r
  | unfiled {plan : Plan} {table : Table} {directory : FilePath} {w w' : World}
      {failure : Failure} :
      Plan.ofConfig cfg = .ok plan → plan.root.isSome →
      Table.ofSeries? (series apps plan.sweep) = some table →
      r.output = String.join ((series apps plan.sweep).map rowLine) → disk.SameFiles w.disk →
      outcome (writeFiles plan table directory) w = (.error failure, w') →
      r.world.disk = w'.disk → Late cfg apps disk r

theorem clean_of_alike {w : World} {r : Run} (ended : ∀ refusal, r.ending ≠ .refused refusal)
    (silent : w.printed = []) (h : w.Alike r.world) : Clean w.disk r := by
  refine ⟨?_, ?_⟩
  · rw [output_eq ended, h.printed, silent]
    rfl
  · rw [h.disk]
    exact .refl _

theorem eq_ok_of_endingOf {result : Except Failure Nat} {code : Nat}
    (h : endingOf result = .status code) : result = .ok code := by
  cases result with
  | error failure => cases h
  | ok code' =>
    cases h
    rfl

theorem digits_of_row {t : Int} {value : Binary64} {fault : Numeral.Fault}
    (h : row t value = .error fault) : 10 ^ Numeral.digitLimit ≤ t.natAbs := by
  rcases bind_eq_error h with unwritten | ⟨_, _, h⟩
  · unfold Numeral.write at unwritten
    split at unwritten
    · next long => exact long
    · cases unwritten
  · cases h

end Run

namespace Action

open Run

theorem Goes.clean_or_late {apps : List Application} {cfg : Setting} {w : World}
    {result : Except Failure Table} {trace : List Event} {r : Run}
    (h : Goes apps cfg w result trace)
    (failed : reported runReport (result.map fun _ => ()) = .ok 1) (silent : w.printed = [])
    (ended : ∀ refusal, r.ending ≠ .refused refusal) (there : (w.after trace).Alike r.world) :
    Clean w.disk r ∨ Late cfg apps w.disk r := by
  have output : r.output = String.join (texts trace) := by
    rw [output_eq ended, there.printed, World.printed_after, silent]
    rfl
  cases h with
  | unplanned _ => exact .inl (clean_of_alike ended silent there)
  | unrooted _ _ ready _ =>
    rw [ready.texts_eq] at output
    refine .inl ⟨output, ?_⟩
    rw [there.disk]
    exact ready.sameFiles
  | unprinted hp ready speaks stops =>
    have files := ready.sameFiles_append speaks
    rw [← there.disk] at files
    rw [texts_append, ready.texts_eq, List.nil_append] at output
    generalize texts _ = lines at stops output
    cases stops with
    | uncounted _ => exact .inl ⟨output, files⟩
    | unwritten _ cut unwritten =>
      exact .inr (.unwritten hp cut (digits_of_row unwritten) output files)
    | untabled _ _ => cases failed
  | @printed plan prepared spoken filed table root result hp ready speaks stops files asked run =>
    rw [texts_append, texts_append, ready.texts_eq, texts_of_files fun e he => (files e he).files,
      List.append_nil, List.nil_append, stops.texts_of_ok] at output
    cases result with
    | ok _ => cases failed
    | error failure =>
      cases root with
      | none => cases run
      | some directory =>
        have held := stops.ofSeries?_of_ok
        have files := ready.sameFiles_append speaks
        exact .inr (.unfiled hp (asked rfl) held output files run there.disk)

end Action

namespace Run

variable {argv : List String} {host : Host} {disk : Disk}

/-- A run with status one has printed nothing and left all files alone, or it fails late. -/
theorem clean_or_late_of_status_one
    (failed : (ofCommandLine argv ⟨host, disk, []⟩).ending = .status 1) :
    Clean disk (ofCommandLine argv ⟨host, disk, []⟩) ∨
      ∃ args cfg w apps w₁, CommandLine.Arguments.parse argv = .ok args ∧
        outcome (settle args) ⟨host, disk, []⟩ = (.ok cfg, w) ∧ Loads cfg w apps w₁ ∧
        Late cfg apps disk (ofCommandLine argv ⟨host, disk, []⟩) := by
  have ended : ∀ refusal, (ofCommandLine argv ⟨host, disk, []⟩).ending ≠ .refused refusal := by
    intro refusal refused
    rw [refused] at failed
    cases failed
  cases parsed : CommandLine.Arguments.parse argv with
  | error refusal =>
    rw [ofCommandLine, parsed] at failed
    cases failed
  | ok args =>
    have settling := (quiet_settle args).alike ⟨host, disk, []⟩
    rcases settled : outcome (settle args) ⟨host, disk, []⟩ with ⟨failure | cfg, w⟩
    · obtain ⟨-, alike⟩ := ofCommandLine_of_unsettled parsed settled
      exact .inl (clean_of_alike ended rfl alike)
    · rw [settled] at settling
      have run := ofCommandLine_of_settled parsed settled
      have alike {w' : World} (h : w'.Alike (outcome (work cfg) w).2) :
          w'.Alike (ofCommandLine argv ⟨host, disk, []⟩).world := by
        rw [run]
        exact h
      rw [run] at failed
      have works := works_work cfg w
      generalize (outcome (work cfg) w).1 = result at works failed
      generalize last : (outcome (work cfg) w).2 = w' at works
      cases works with
      | unfound _ _ => cases failed
      | unloaded _ _ still =>
        rw [← last] at still
        exact .inl (clean_of_alike ended rfl (settling.trans (alike still)))
      | @summarized apps w₁ _ loads there =>
        have before := settling.trans loads.alike
        obtain ⟨trace, after, goes⟩ := goes_summarize apps cfg w₁
        rw [← last, after] at there
        have one := eq_ok_of_endingOf failed
        have outcomes := goes.clean_or_late one before.printed ended (alike there)
        rw [before.disk] at outcomes
        rcases outcomes with clean | late
        · exact .inl clean
        · exact .inr ⟨args, cfg, w, apps, w₁, rfl, settled, loads, late⟩

section TakenReport

open StatLine Text

def oneLine : String := "a,b,c,d,e,f,0,h,i,500,k,2.5\n"

/-- A statistics file of one line, and a directory where the text report should be. -/
def takenReport : Disk :=
  ⟨[(["a"], .file (Utf8.encode oneLine.toList)), (["o"], .directory),
    (["o", "slowness.csv"], .directory)]⟩

def bareHost : Host := ⟨[], "", []⟩

def reportArguments : CommandLine.Arguments :=
  { input := some "/a", out := some (.ofPlace ["o"]), stop := some 0 }

/-- What the arguments make of the standard configuration. -/
def reportConfig : Setting :=
  .map
    [(.text "input", .map [Config.entry "path" (.text "/a")]),
     (.text "parsing", .map [Config.entry "mode" (.text "lenient")]),
     (.text "checkpoints", .map
       [Config.entry "start" (.int 0), Config.entry "end" (.int 0),
        Config.entry "step" (.int 1000)]),
     (.text "output", .map
       [Config.entry "root" (.text "/o"), Config.entry "format" (.text "csv"),
        Config.entry "mat_variable" (.text "slowness"), Config.entry "plot" (.bool false)]),
     (.text "logging", .map [Config.entry "verbose" (.bool false)])]

def reportApplications : List Application := [⟨0, 500, slowApplication.slowness⟩]

theorem parse_report :
    CommandLine.Arguments.parse ["/a", "--out", "/o", "--end", "0"] = .ok reportArguments := by rfl

theorem settle_report (w : World) : outcome (settle reportArguments) w = (.ok reportConfig, w) := by
  rfl

variable {w : World}

theorem load_report (disk : w.disk = takenReport) (host : w.host = bareHost) :
    Says (load (.ofPlace ["a"]) reportConfig) w (.ok reportApplications) [] := by
  have mode : Config.mode reportConfig = .ok .lenient := by rfl
  have content : w.disk.read w.host.cwd (.ofPlace ["a"]) = .ok (Utf8.encode oneLine.toList) := by
    rw [disk, host]
    cbv
  have read : ofReading (readLines .lenient (lines (translateEnds oneLine.toList))) =
      .ok reportApplications := by rfl
  have loaded := says_load_encode mode content
  rwa [read] at loaded

theorem refused_report :
    takenReport.openToWrite bareHost.cwd (csvPath directoryO) = .error (.errno .isDirectory) := by
  have spot : takenReport.locate bareHost.cwd .write (csvPath directoryO) =
      .ok (.taken ["o", "slowness.csv"] .directory) :=
    Disk.locate_eq_ok_iff.2 ⟨⟨rfl, by decide, by decide⟩, Disk.walk_eq_ok_iff.1 (by cbv)⟩
  rw [Disk.openToWrite, spot]
  rfl

theorem summarize_report (disk : w.disk = takenReport) (host : w.host = bareHost) :
    ∃ w', outcome (summarize reportApplications reportConfig) w =
        (.error (.system .isDirectory (csvPath directoryO)), w') ∧
      w'.printed = w.printed ++ ["0,2.5\n"] := by
  obtain ⟨host, disk, past⟩ := w
  subst disk host
  obtain ⟨plan, name, hp, hn, hr, hf, hs⟩ : ∃ plan name, Plan.ofConfig reportConfig = .ok plan ∧
      plan.variableName = .ok name ∧ plan.root = some (.scalar (.text "/o")) ∧ plan.format = .csv ∧
      plan.sweep = ⟨0, 0, 1000, by decide, by decide⟩ := ⟨_, _, rfl, rfl, rfl, rfl, rfl⟩
  have fits : ∀ t ∈ plan.sweep.times, FitsSigned t := by
    rw [hs]
    decide
  have size : plan.sweep.size? = some 1 := by
    rw [hs]
    rfl
  have prepared : outcome (prepareRoot (.scalar (.text "/o"))) ⟨bareHost, takenReport, past⟩ =
      (.ok directoryO, ⟨bareHost, takenReport, past⟩) := by cbv
  obtain ⟨⟨host, disk, past'⟩, rfl, rfl, printed, run⟩ :=
    @outcome_summarize_eq_files reportApplications _ _ _ _ _ _ _ hp hr prepared size fits
  have there : takenReport.locate bareHost.cwd .find directoryO =
      .ok (.taken ["o"] .directory) := by cbv
  have made : outcome (makeDirectories directoryO.anchor directoryO.parts)
      ⟨bareHost, takenReport, past'⟩ = (.ok (), ⟨bareHost, takenReport, past'⟩) :=
    outcome_makeDirectories_of_there there
  have rows : (series reportApplications plan.sweep).map rowLine = ["0,2.5\n"] := by
    rw [hs]
    decide +kernel
  rw [outcome_map, outcome_writeFiles_of_refused hn hf made refused_report] at run
  rw [rows] at printed
  exact ⟨_, run, printed⟩

theorem work_report : (outcome (work reportConfig) ⟨bareHost, takenReport, []⟩).1 = .ok 1 ∧
    (outcome (work reportConfig) ⟨bareHost, takenReport, []⟩).2.printed = ["0,2.5\n"] := by
  have named : (outcome (inputPath reportConfig) ⟨bareHost, takenReport, []⟩).1 =
      .ok (.ofPlace ["a"]) := by cbv
  have finding := (quiet_inputPath reportConfig).alike ⟨bareHost, takenReport, []⟩
  rcases found : outcome (inputPath reportConfig) ⟨bareHost, takenReport, []⟩ with ⟨result, w₁⟩
  rw [found] at named finding
  cases named
  have loaded := load_report finding.disk finding.host
  obtain ⟨w₂, summarized, printed⟩ := summarize_report (loaded.disk.trans finding.disk)
    (loaded.host.trans finding.host)
  have failed : outcome (load (.ofPlace ["a"]) reportConfig >>= fun apps =>
      discard (summarize apps reportConfig)) w₁ =
        (.error (.system .isDirectory (csvPath directoryO)), w₂) := by
    rw [outcome_bind_of_ok loaded.outcome_eq]
    change outcome ((fun _ => ()) <$> _) _ = _
    rw [outcome_map, summarized]
    rfl
  obtain ⟨result, alike⟩ := outcome_reporting_alike runReport
    (load (.ofPlace ["a"]) reportConfig >>= fun apps => discard (summarize apps reportConfig)) w₁
  rw [failed] at result alike
  rw [work, outcome_bind_of_ok found, result]
  refine ⟨rfl, ?_⟩
  rw [alike.printed, printed, loaded.printed, finding.printed]
  rfl

theorem run_report :
    (ofCommandLine ["/a", "--out", "/o", "--end", "0"] ⟨bareHost, takenReport, []⟩).ending =
        .status 1 ∧
      (ofCommandLine ["/a", "--out", "/o", "--end", "0"] ⟨bareHost, takenReport, []⟩).output =
        "0,2.5\n" := by
  obtain ⟨result, printed⟩ := work_report
  rw [ofCommandLine_of_settled parse_report (settle_report _)]
  refine ⟨congrArg endingOf result, ?_⟩
  rw [output_eq (endingOf_ne_refused _), printed]
  rfl

/-- A report that cannot be opened makes a run fail late. -/
theorem late_of_taken_report : ∃ cfg apps, Late cfg apps takenReport
    (ofCommandLine ["/a", "--out", "/o", "--end", "0"] ⟨bareHost, takenReport, []⟩) := by
  rcases clean_or_late_of_status_one run_report.1 with
    clean | ⟨args, cfg, w, apps, w₁, -, -, -, late⟩
  · have shown := run_report.2
    rw [clean.output] at shown
    exact absurd shown (by decide)
  · exact ⟨cfg, apps, late⟩

/-- Rows are printed although the report cannot be opened. -/
theorem not_always_clean :
    ¬ ∀ (argv : List String) (host : Host) (disk : Disk),
      (ofCommandLine argv ⟨host, disk, []⟩).ending = .status 1 →
      Clean disk (ofCommandLine argv ⟨host, disk, []⟩) := by
  intro always
  have clean := always _ _ _ run_report.1
  have shown := run_report.2
  rw [clean.output] at shown
  exact absurd shown (by decide)

end TakenReport

end Run

end PeakSlowness
