import Mathlib
import PeakSlowness.Proofs.Output
import PeakSlowness.Proofs.Summary

set_option autoImplicit false

/-!
The reports of a summary. The printed rows, the table and the text report are one series, as long as
no other report of the same summary is written into the file of the text report.
-/

namespace PeakSlowness

open Text PeakSlowness.Action

theorem line_eq_rowLine {r : Int × Binary64} (h : r.2.isNaN = false) : Csv.line r = rowLine r := by
  unfold Csv.line Csv.cell rowLine
  rw [if_neg (by simp [h])]

theorem not_isNaN_of_mem_series {apps : List Application} {sweep : Sweep} {r : Int × Binary64}
    (h : r ∈ series apps sweep) : r.2.isNaN = false := by
  obtain ⟨t, -, rfl⟩ := List.mem_map.1 h
  exact (isPeak_peakAt apps t).not_isNaN

theorem csv_text {table : Table} {apps : List Application} {sweep : Sweep}
    (h : table.rows = series apps sweep) :
    Csv.text table = "# Time, maximum slowness\n" ++ String.join (table.rows.map rowLine) := by
  have lines : table.rows.map Csv.line = table.rows.map rowLine := by
    apply List.map_congr_left
    intro r hr
    rw [h] at hr
    exact line_eq_rowLine (not_isNaN_of_mem_series hr)
  rw [Csv.text, lines]
  rfl

theorem of_summary_eq_ok {sweep : Sweep} {s : Series} {table : Table}
    (fits : ∀ r ∈ s, FitsSigned r.1)
    (h : (summary sweep s).2 = .ok table) : (summary sweep s).1 = s.map rowLine ∧
    table.rows = s := by
  cases size : sweep.size? with
  | none =>
    rw [summary, size] at h
    cases h
  | some n =>
    rw [summary_of_fits size fits] at h ⊢
    cases h
    exact ⟨rfl, rfl⟩

/-- The reports that a plan asks for besides the text report. -/
def otherReports (plan : Plan) (directory : FilePath) : List FilePath :=
  matPaths plan.format directory ++ if plan.plot then [plotPath directory] else []

def plotStep (plan : Plan) (table : Table) (directory : FilePath) : Action Unit :=
  if plan.plot then discard (savePlot table directory) else pure ()

theorem writeFiles_eq (plan : Plan) (table : Table) (directory : FilePath) :
    writeFiles plan table directory =
      ofExcept id plan.variableName >>= fun name =>
        discard (writeReports table (reportBase directory) reportTitle plan.format name) >>=
          fun _ =>
          plotStep plan table directory := rfl

theorem writes_plotStep (plan : Plan) (table : Table) (directory : FilePath) (w : World) :
    Writes (if plan.plot then [plotPath directory] else []) (plotStep plan table directory) w := by
  unfold plotStep
  split
  · exact (writes_savePlot table directory w).map _
  · exact (says_pure () w).writes _

theorem writes_writeFiles (plan : Plan) (table : Table) (directory : FilePath) (w : World) :
    Writes (csvPath directory :: otherReports plan directory)
      (writeFiles plan table directory) w := by
  rw [writeFiles_eq]
  apply Writes.bind ((says_ofExcept _ _ _).writes _)
  intro name _
  have reported (w : World) := writes_writeReports table directory reportTitle plan.format name w
  refine Writes.bind (((reported _).map _).mono ?_) ?_
  · unfold otherReports
    exact List.cons_subset_cons _ (List.subset_append_left _ _)
  · intro _ _
    apply (writes_plotStep plan table directory _).mono
    unfold otherReports
    exact List.subset_cons_of_subset _ (List.subset_append_right _ _)

theorem csv_of_writeFiles {plan : Plan} {table : Table} {directory : FilePath} {w w' : World}
    (hf : plan.format.HasCsv) (h : outcome (writeFiles plan table directory) w = (.ok (), w'))
    (apart : ∀ p ∈ otherReports plan directory, w'.Apart (csvPath directory) p) :
    w'.Holds (csvPath directory) (Csv.octets table) := by
  rw [writeFiles_eq] at h
  obtain ⟨name, w₁, -, h⟩ := outcome_bind_eq_ok_iff.1 h
  obtain ⟨_, w₂, reported, h⟩ := outcome_bind_eq_ok_iff.1 h
  obtain ⟨paths, written, -⟩ := outcome_map_eq_ok_iff.1 reported
  have plotted := writes_plotStep plan table directory w₂
  obtain rfl : (outcome (plotStep plan table directory) w₂).2 = w' := congrArg Prod.snd h
  have there : w₂.Holds (csvPath directory) (Csv.octets table) :=
    csv_of_writeReports hf written fun p hp => plotted.apart (apart p (List.mem_append_left _ hp))
  exact plotted.holds there fun p hp => apart p (List.mem_append_right _ hp)

/-- Behind its reports, a summary comes to what its plot comes to. -/
theorem outcome_writeFiles_of_reports {plan : Plan} {table : Table} {directory : FilePath}
    {w w₁ : World} {name : List Letter} {paths : List FilePath} (hn : plan.variableName = .ok name)
    (written : outcome (writeReports table (reportBase directory) reportTitle plan.format name) w =
      (.ok paths, w₁)) :
    outcome (writeFiles plan table directory) w = outcome (plotStep plan table directory) w₁ := by
  have done :
      outcome (discard (writeReports table (reportBase directory) reportTitle plan.format name)) w =
        (.ok (), w₁) := by
    change outcome ((fun _ => ()) <$> _) w = _
    rw [outcome_map, written]
    rfl
  rw [writeFiles_eq, hn, outcome_bind_of_ok (outcome_ofExcept_ok id name w), outcome_bind_of_ok done]

theorem outcome_writeFiles_of_csv {plan : Plan} {table : Table} {directory : FilePath}
    {w w₁ : World} {name : List Letter} (hn : plan.variableName = .ok name)
    (hf : plan.format = .csv) {path : FilePath}
    (written : outcome (writeCsv table (reportBase directory) reportTitle) w = (.ok path, w₁)) :
    outcome (writeFiles plan table directory) w = outcome (plotStep plan table directory) w₁ := by
  have csv : outcome (csvStep table directory reportTitle .csv) w = (.ok [path], w₁) := by
    rw [csvStep, if_pos (by decide), outcome_map, written]
    rfl
  have reports : outcome (writeReports table (reportBase directory) reportTitle .csv name) w =
      (.ok [path], w₁) := by
    rw [writeReports_eq, outcome_bind_of_ok csv]
    rfl
  rw [← hf] at reports
  exact outcome_writeFiles_of_reports hn reports

/-- The reports of a summary fail if the text report cannot be opened. -/
theorem outcome_writeFiles_of_refused {plan : Plan} {table : Table} {directory : FilePath}
    {w : World} {name : List Letter} (hn : plan.variableName = .ok name) (hf : plan.format = .csv)
    (made : outcome (makeDirectories directory.anchor directory.parts) w = (.ok (), w))
    {fault : CallFault}
    (refused : w.disk.openToWrite w.host.cwd (csvPath directory) = .error fault) :
    outcome (writeFiles plan table directory) w =
      (.error (.ofCall (csvPath directory) fault), w) := by
  have csv : outcome (csvStep table directory reportTitle .csv) w =
      (.error (.ofCall (csvPath directory) fault), w) := by
    rw [csvStep, if_pos (by decide), outcome_map,
      outcome_writeCsv_of_refused table reportTitle made refused]
    rfl
  rw [writeFiles_eq, hn, hf, outcome_bind_of_ok (outcome_ofExcept_ok id name w)]
  apply outcome_bind_of_error
  change outcome ((fun _ => ()) <$> _) w = _
  rw [outcome_map, writeReports_eq, outcome_bind_of_error csv]
  rfl

/-- With all rows printed, a summary comes to what its reports come to. -/
theorem outcome_summarize_eq_files {apps : List Application} {cfg root : Setting} {plan : Plan}
    {w w₁ : World} {directory : FilePath} {n : Nat} (hp : Plan.ofConfig cfg = .ok plan)
    (hr : plan.root = some root) (prepared : outcome (prepareRoot root) w = (.ok directory, w₁))
    (size : plan.sweep.size? = some n) (fits : ∀ t ∈ plan.sweep.times, FitsSigned t) :
    ∃ w₂, w₂.host = w₁.host ∧ w₂.disk = w₁.disk ∧
      w₂.printed = w₁.printed ++ (series apps plan.sweep).map rowLine ∧
      outcome (summarize apps cfg) w =
        outcome ((fun _ => ⟨series apps plan.sweep, fits_series fits apps⟩) <$>
          writeFiles plan ⟨series apps plan.sweep, fits_series fits apps⟩ directory) w₂ := by
  have found : outcome (Option.mapM prepareRoot (some root)) w = (.ok (some directory), w₁) := by
    change outcome (some <$> prepareRoot root) w = _
    rw [outcome_map, prepared]
    rfl
  have warned := says_warning plan (some directory) w₁
  have rows := says_printing plan.sweep apps (outcome (warning plan (some directory)) w₁).2
  rw [summary_of_fits size (fits_series fits apps)] at rows
  refine ⟨_, rows.host.trans warned.host, rows.disk.trans warned.disk, ?_, ?_⟩
  · rw [rows.printed, warned.printed, List.append_nil]
  · rw [summarize_eq hp, hr, outcome_bind_of_ok found, outcome_bind_of_ok warned.outcome_eq,
      outcome_bind_of_ok rows.outcome_eq]
    rfl

theorem outcome_summarize_of_files {apps : List Application} {cfg root : Setting} {plan : Plan}
    {w w₁ : World}
    {directory : FilePath} {n : Nat} (hp : Plan.ofConfig cfg = .ok plan)
    (hr : plan.root = some root) (prepared : outcome (prepareRoot root) w = (.ok directory, w₁))
    (size : plan.sweep.size? = some n) (fits : ∀ t ∈ plan.sweep.times, FitsSigned t)
    {after : World → Prop}
    (files : ∀ w₂ : World, w₂.host = w₁.host → w₂.disk = w₁.disk → ∃ w',
      outcome (writeFiles plan ⟨series apps plan.sweep, fits_series fits apps⟩ directory) w₂ =
        (.ok (), w') ∧ after w') :
    ∃ w', outcome (summarize apps cfg) w =
      (.ok ⟨series apps plan.sweep, fits_series fits apps⟩, w') ∧ after w' := by
  obtain ⟨w₂, host, disk, -, run⟩ := outcome_summarize_eq_files hp hr prepared size fits
  obtain ⟨w', filed, there⟩ := files w₂ host disk
  rw [outcome_map, filed] at run
  exact ⟨w', run, there⟩

/-- A plot that is saved through a link to the text report takes its place. -/
theorem plot_of_writeFiles {plan : Plan} {table : Table} {directory : FilePath} {w : World}
    {name : List Letter}
    {here place : Place} (hn : plan.variableName = .ok name) (hf : plan.format = .csv)
    (hp : plan.plot = true)
    (rows : table.rows.isEmpty = false) (ticks : Plot.check table = .ok ())
    (there : w.disk.locate w.host.cwd .find directory = .ok (.taken here .directory))
    (writable : w.disk.may place.dropLast .write ∧ w.disk.may place .write)
    (csv : w.disk.locate w.host.cwd .write (csvPath directory) = .ok (.free place))
    (plot : w.disk.locate w.host.cwd .write (plotPath directory) = .ok (.free place)) :
    ∃ w', outcome (writeFiles plan table directory) w = (.ok (), w') ∧
      w'.Holds (csvPath directory) plotOctets := by
  have opened := Disk.openToWrite_of_free writable.1 csv
  obtain ⟨-, -, leads⟩ := Disk.leadsTo_of_openToWrite opened
  have fits := Disk.Fits.file_of_none (Disk.find?_of_locate_free csv)
  obtain ⟨w₁, written, host, disk⟩ := outcome_writeCsv_of_opened table reportTitle
    (outcome_makeDirectories_of_there there) opened
  -- behind the report the directory is still there, and the path of the plot leads to the report
  have there' := Disk.locate_put there (fits (Csv.octets table))
  have apart := (fits []).ne_of_directory (Disk.find?_of_locate_taken there)
  have plot' := Disk.locate_put plot (fits (Csv.octets table))
  rw [Disk.after, if_neg apart, ← disk, ← host] at there'
  rw [Disk.after, if_pos rfl, ← disk, ← host] at plot'
  have writable' : w₁.disk.may place .write := by
    rw [disk, Disk.may_put]
    exact writable.2
  obtain ⟨w', saved, host', disk'⟩ := outcome_savePlot_of_opened rows ticks
    (outcome_makeDirectories_of_there there') (Disk.openToWrite_of_file writable' plot')
  have filed : outcome (writeFiles plan table directory) w = (.ok (), w') := by
    rw [outcome_writeFiles_of_csv hn hf written, plotStep, if_pos hp]
    change outcome ((fun _ => ()) <$> savePlot table directory) w₁ = _
    rw [outcome_map, saved]
    rfl
  have again : w'.disk = (w.disk.put place (.file [])).put place (.file plotOctets) := by
    rw [disk', disk, Disk.put_put, Disk.put_put]
  refine ⟨w', filed, place, ?_, ?_⟩
  · rw [again, host', host]
    apply leads.put
    exact .file_of_file (Disk.find?_put_self (fits []).ne_root w.disk _) plotOctets
  · rw [disk']
    exact Disk.find?_put_self (fits []).ne_root w₁.disk _

/-- The printed rows, the table and the text report of a summary are one series. -/
theorem csv_agrees_with_rows {apps : List Application} {cfg root : Setting} {plan : Plan}
    {w w' : World} {table : Table} (hp : Plan.ofConfig cfg = .ok plan) (hr : plan.root = some root)
    (hf : plan.format.HasCsv) (fits : ∀ t ∈ plan.sweep.times, FitsSigned t)
    (run : outcome (summarize apps cfg) w = (.ok table, w')) :
    ∃ directory w₁, outcome (prepareRoot root) w = (.ok directory, w₁) ∧
      w'.printed = w.printed ++ table.rows.map rowLine ∧ table.rows = series apps plan.sweep ∧
      ((∀ p ∈ otherReports plan directory, w'.Apart (csvPath directory) p) →
        w'.Holds (csvPath directory)
          (Utf8.encode ("# Time, maximum slowness\n" ++
            String.join (table.rows.map rowLine)).toList)) := by
  rw [summarize_eq hp, hr] at run
  obtain ⟨found, w₁, found_eq, run⟩ := outcome_bind_eq_ok_iff.1 run
  obtain ⟨directory, prepared, rfl⟩ := outcome_map_eq_ok_iff.1 found_eq
  obtain ⟨_, w₂, warned, run⟩ := outcome_bind_eq_ok_iff.1 run
  obtain ⟨table', w₃, printed, run⟩ := outcome_bind_eq_ok_iff.1 run
  obtain ⟨_, w₄, filed, run⟩ := outcome_bind_eq_ok_iff.1 run
  cases run
  have ready := (writes_prepareRoot root w).printed
  have silent := (says_warning plan (some directory) w₁).printed
  have rows := says_printing plan.sweep apps w₂
  have files : (outcome (filing plan table (some directory)) w₃).2.printed = w₃.printed :=
    (writes_writeFiles plan table directory w₃).printed
  rw [prepared] at ready
  rw [warned, List.append_nil] at silent
  rw [filed] at files
  obtain ⟨texts, same⟩ := of_summary_eq_ok (fits_series fits apps)
    (rows.result.symm.trans (congrArg Prod.fst printed))
  have shown := rows.printed
  rw [printed, texts] at shown
  refine ⟨directory, w₁, prepared, ?_, same, ?_⟩
  · rw [files, shown, silent, ready, same]
  · intro apart
    rw [← csv_text same]
    exact csv_of_writeFiles hf filed apart

def directoryO : FilePath := ⟨.root, ["o"], none⟩

def reportsIn (links : List (String × String)) : World :=
  ⟨⟨[], "", []⟩, ⟨(["o"], .directory) :: links.map fun link => (["o", link.1], .link link.2)⟩, []⟩

theorem locate_reportsIn : (reportsIn []).disk.locate [] .find directoryO =
    .ok (.taken ["o"] .directory) := by cbv

/-- The text report can be opened where there is none. -/
theorem openToWrite_reportsIn : (reportsIn []).disk.openToWrite [] (csvPath directoryO) =
    .ok (["o", "slowness.csv"], (reportsIn []).disk.put ["o", "slowness.csv"] (.file [])) := by
  have free : (reportsIn []).disk.locate [] .write (csvPath directoryO) =
      .ok (.free ["o", "slowness.csv"]) :=
    Disk.locate_eq_ok_iff.2 ⟨⟨rfl, by decide, by decide⟩, Disk.walk_eq_ok_iff.1 (by cbv)⟩
  exact Disk.openToWrite_of_free rfl free

/-- A configuration with a checkpoint before the start, one at it and one behind it, and a report
directory. -/
def aroundStart : Setting :=
  .map
    [(.text "checkpoints",
        .map [Config.entry "start" (.int (-7)), Config.entry "end" (.int 7), Config.entry "step" (.int 7)]),
     (.text "output", .map [Config.entry "root" (.text "/o")])]

theorem aroundStart_plan :
    ∃ plan name, Plan.ofConfig aroundStart = .ok plan ∧ plan.variableName = .ok name ∧
      plan.root = some (.scalar (.text "/o")) ∧ plan.format = .csv ∧ plan.plot = false ∧
      plan.sweep = ⟨-7, 7, 7, by decide, by decide⟩ := ⟨_, _, rfl, rfl, rfl, rfl, rfl, rfl⟩

/-- Applications that have run fifty thousand times as fast as alone, ten quadrillion times as slow, and without
end. -/
def extremes : List Application :=
  [⟨-9, -2, false, 0x3EF4F8B588E368F1, by decide⟩, ⟨-1, 4, false, 0x4341C37937E08000, by decide⟩,
    ⟨4, 9, .infinity false⟩]

/-- The rows and the text report of a summary with a negative time, and with the two forms of an exponent. -/
theorem csv_agrees_with_three_rows :
    ∃ table w', outcome (summarize extremes aroundStart) (reportsIn []) = (.ok table, w') ∧
      w'.printed = ["-7,2e-05\n", "0,1e+16\n", "7,inf\n"] ∧
      w'.disk.read w'.host.cwd (csvPath directoryO) =
        .ok (Utf8.encode "# Time, maximum slowness\n-7,2e-05\n0,1e+16\n7,inf\n".toList) := by
  obtain ⟨plan, name, hp, hn, hr, hf, plot, hs⟩ := aroundStart_plan
  have fits : ∀ t ∈ plan.sweep.times, FitsSigned t := by
    rw [hs]
    decide
  have size : plan.sweep.size? = some 3 := by
    rw [hs]
    rfl
  have prepared : outcome (prepareRoot (.scalar (.text "/o"))) (reportsIn []) =
      (.ok directoryO, reportsIn []) := by cbv
  have finished : ∃ w', outcome (summarize extremes aroundStart) (reportsIn []) =
      (.ok ⟨series extremes plan.sweep, fits_series fits _⟩, w') ∧
        w'.disk.may = (reportsIn []).disk.may := by
    refine outcome_summarize_of_files hp hr prepared size fits ?_
    rintro ⟨host, disk, past⟩ rfl rfl
    have made : outcome (makeDirectories directoryO.anchor directoryO.parts)
        ⟨(reportsIn []).host, (reportsIn []).disk, past⟩ =
          (.ok (), ⟨(reportsIn []).host, (reportsIn []).disk, past⟩) :=
      outcome_makeDirectories_of_there locate_reportsIn
    obtain ⟨w₁, written, -, disk⟩ := outcome_writeCsv_of_opened
      ⟨series extremes plan.sweep, fits_series fits _⟩ reportTitle made openToWrite_reportsIn
    have filed := outcome_writeFiles_of_csv hn hf written
    rw [plotStep, plot] at filed
    refine ⟨w₁, filed, ?_⟩
    rw [disk, Disk.may_put]
  obtain ⟨w', run, may⟩ := finished
  obtain ⟨directory, w₁, found, printed, same, csv⟩ :=
    csv_agrees_with_rows hp hr (by rw [hf]; decide) fits run
  rw [prepared] at found
  cases found
  have none_else : otherReports plan directoryO = [] := by
    rw [otherReports, hf, plot]
    rfl
  have content := csv (by rw [none_else]; exact fun p hp => absurd hp List.not_mem_nil)
  have rows : (series extremes plan.sweep).map rowLine = ["-7,2e-05\n", "0,1e+16\n", "7,inf\n"] := by
    rw [hs]
    decide +kernel
  rw [same, rows] at content printed
  refine ⟨_, w', run, printed, ?_⟩
  exact content.read_eq fun place => by rw [may]; rfl

/-- A configuration with one checkpoint and a report directory. -/
def oneCheckpoint (plot : Bool) : Setting :=
  .map
    [(.text "checkpoints", .map [Config.entry "start" (.int 0), Config.entry "end" (.int 0)]),
     (.text "output", .map [Config.entry "root" (.text "/o"), Config.entry "plot" (.bool plot)])]

theorem oneCheckpoint_plan (plot : Bool) :
    ∃ plan name, Plan.ofConfig (oneCheckpoint plot) = .ok plan ∧ plan.variableName = .ok name ∧
      plan.root = some (.scalar (.text "/o")) ∧ plan.format = .csv ∧ plan.plot = plot ∧
      plan.sweep = ⟨0, 0, 1000, by decide, by decide⟩ := by
  cases plot with
  | false => exact ⟨_, _, rfl, rfl, rfl, rfl, rfl, rfl⟩
  | true => exact ⟨_, _, rfl, rfl, rfl, rfl, rfl, rfl⟩

/-- An application that has run two and a half times as slow as alone. -/
def slowApplication : Application := ⟨0, 1, false, 0x4004000000000000, by decide⟩

def slowTable : Table :=
    ⟨series [slowApplication] ⟨0, 0, 1000, by decide, by decide⟩, by decide +kernel⟩

/-- A report directory where the plot is a link to the text report. -/
def linkedReports : World := reportsIn [("slowness_by_time.png", "slowness.csv")]

theorem linkedReports_plot :
    linkedReports.disk.locate [] .write (plotPath directoryO) =
      .ok (.free ["o", "slowness.csv"]) := by
  have directory : linkedReports.disk.find? ["o"] = some .directory := by decide
  have link : linkedReports.disk.find? ["o", "slowness_by_time.png"] =
      some (.link "slowness.csv") := by decide
  have nothing : linkedReports.disk.find? ["o", "slowness.csv"] = none := by decide
  have names : linkNames "slowness.csv".toList ++ [] = ["slowness.csv"] := by decide
  refine Disk.locate_eq_ok_iff.2 ⟨⟨rfl, by decide, by decide⟩, ?_⟩
  apply Disk.Walks.enter ⟨by decide, by decide, by decide⟩ rfl directory
  apply Disk.Walks.follow ⟨by decide, by decide, by decide⟩ rfl (by decide) link
  rw [names]
  exact Disk.Walks.free ⟨by decide, by decide, by decide⟩ rfl nothing

theorem check_slowTable : Plot.check slowTable = .ok () := by
  have checked : (Plot.check slowTable).isOk := by decide +kernel
  generalize Plot.check slowTable = result at checked ⊢
  cases result with
  | error fault => cases checked
  | ok _ => rfl

/-- The text report of a summary is lost if the plot is saved through a link to it. -/
theorem csv_not_always_rows :
    ¬ ∀ (apps : List Application) (cfg root : Setting) (plan : Plan) (w w₁ w' : World)
      (table : Table)
        (directory : FilePath),
      (∀ a ∈ apps, a.slowness.isNaN = false) → Plan.ofConfig cfg = .ok plan →
      plan.root = some root →
      plan.format.HasCsv → (∀ t ∈ plan.sweep.times, FitsSigned t) → plan.sweep.size?.isSome →
      outcome (prepareRoot root) w = (.ok directory, w₁) →
      (∃ opened, w₁.disk.openToWrite w₁.host.cwd (csvPath directory) = .ok opened) →
      outcome (summarize apps cfg) w = (.ok table, w') →
      w'.Holds (csvPath directory)
        (Utf8.encode ("# Time, maximum slowness\n" ++
          String.join (table.rows.map rowLine)).toList) := by
  intro always
  obtain ⟨plan, name, hp, hn, hr, hf, plot, hs⟩ := oneCheckpoint_plan true
  have fits : ∀ t ∈ plan.sweep.times, FitsSigned t := by
    rw [hs]
    decide
  have size : plan.sweep.size? = some 1 := by
    rw [hs]
    rfl
  have prepared : outcome (prepareRoot (.scalar (.text "/o"))) linkedReports =
      (.ok directoryO, linkedReports) := by
    cbv
  have there : linkedReports.disk.locate [] .find directoryO =
      .ok (.taken ["o"] .directory) := by cbv
  have csv : linkedReports.disk.locate [] .write (csvPath directoryO) =
      .ok (.free ["o", "slowness.csv"]) :=
    Disk.locate_eq_ok_iff.2 ⟨⟨rfl, by decide, by decide⟩, Disk.walk_eq_ok_iff.1 (by cbv)⟩
  have same : ⟨series [slowApplication] plan.sweep, fits_series fits _⟩ = slowTable := by
    simp only [slowTable, hs]
  have finished : ∃ w', outcome (summarize [slowApplication] (oneCheckpoint true)) linkedReports =
      (.ok slowTable, w') ∧ w'.Holds (csvPath directoryO) plotOctets := by
    rw [← same]
    apply outcome_summarize_of_files hp hr prepared size fits
    rintro ⟨host, disk, past⟩ rfl rfl
    rw [same]
    exact plot_of_writeFiles hn hf plot rfl check_slowTable there ⟨rfl, rfl⟩ csv linkedReports_plot
  obtain ⟨w', run, lost⟩ := finished
  have content := always [slowApplication] (oneCheckpoint true) _ plan linkedReports linkedReports
      w' _ directoryO
    (by decide) hp hr (by rw [hf]; decide) fits (by rw [size]; rfl) prepared
    ⟨_, Disk.openToWrite_of_free rfl csv⟩ run
  have octets := lost.unique content
  rw [String.toList_append] at octets
  have first := congrArg List.head? octets
  cases first

end PeakSlowness
