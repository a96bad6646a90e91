import PeakSlowness.Proofs.Filed

set_option autoImplicit false

/-!
Summaries one after the other, in one report directory. Each report is as the latest summary has
left it whose format includes it, whatever has been there before.
-/

namespace PeakSlowness

open PeakSlowness.Action

/-- A summary of applications, what it plans, and the table it comes to. -/
structure Call where
  apps : List Application
  cfg : Setting
  plan : Plan
  table : Table

namespace Call

/-- What a call writes into the file of a report that its format includes. -/
def content (c : Call) : Report → List UInt8 := c.plan.content c.table

def files (c : Call) : List (String × List UInt8) := c.plan.files c.table

/-- A call returns its table. Its root, however it is written, comes to the report directory. -/
structure Returns (directory : FilePath) (c : Call) (w w' : World) : Prop where
  planned : Plan.ofConfig c.cfg = .ok c.plan
  rooted : ∃ root w₁, c.plan.root = some root ∧ outcome (prepareRoot root) w = (.ok directory, w₁)
  returns : outcome (summarize c.apps c.cfg) w = (.ok c.table, w')

variable {directory : FilePath} {c : Call} {w w' : World} {here : Place} {r : Report}

/-- A call that returns has prepared its directory, and then written its files. -/
theorem Returns.steps (h : c.Returns directory w w') :
    Table.ofSeries? (series c.apps c.plan.sweep) = some c.table ∧
      ∃ root w₁ w₂, outcome (prepareRoot root) w = (.ok directory, w₁) ∧
        w₂.host = w₁.host ∧ w₂.disk = w₁.disk ∧
        outcome (writeFiles c.plan c.table directory) w₂ = (.ok (), w') := by
  obtain ⟨planned, ⟨root, w₁, hr, prepared⟩, run⟩ := h
  have found : outcome (Option.mapM prepareRoot (some root)) w = (.ok (some directory), w₁) := by
    change outcome (some <$> prepareRoot root) w = _
    rw [outcome_map, prepared]
    rfl
  rw [summarize_eq planned, hr, outcome_bind_of_ok found] at run
  obtain ⟨_, w₂, warned, run⟩ := outcome_bind_eq_ok_iff.1 run
  obtain ⟨table, w₃, printed, run⟩ := outcome_bind_eq_ok_iff.1 run
  obtain ⟨_, w₄, filed, run⟩ := outcome_bind_eq_ok_iff.1 run
  cases run
  have silent := says_warning c.plan (some directory) w₁
  have rows := says_printing c.plan.sweep c.apps w₂
  have stops := stops_summary c.plan.sweep (series c.apps c.plan.sweep)
  rw [← rows.result, printed] at stops
  have host := rows.host
  have disk := rows.disk
  have host' := silent.host
  have disk' := silent.disk
  rw [warned] at host' disk'
  rw [printed, host'] at host
  rw [printed, disk'] at disk
  exact ⟨stops.ofSeries?_of_ok, root, w₁, w₃, prepared, host, disk, filed⟩

theorem Returns.filed (h : c.Returns directory w w')
    (there : w.disk.locate w.host.cwd .find directory = .ok (.taken here .directory)) :
    w.Filed directory c.files w' := by
  obtain ⟨-, root, w₁, w₂, prepared, host, disk, written⟩ := h.steps
  obtain ⟨host', disk'⟩ := unchanged_of_prepareRoot there prepared
  have host := host.trans host'
  have disk := disk.trans disk'
  rw [← host, ← disk] at there
  exact (filed_of_writeFiles there written).of_same host disk

/-- In a tree, the directory of a call may be new. -/
theorem Returns.settled (h : c.Returns directory w w') (tree : w.disk.IsTree w.host.cwd) :
    ∃ here, ∃ w₁ : World, w₁.host = w.host ∧ Disk.Settled w.host.cwd directory here w.disk w₁.disk ∧
      w₁.Filed directory c.files w' := by
  obtain ⟨-, root, w₁, w₂, prepared, host, disk, written⟩ := h.steps
  obtain ⟨host', here, settled⟩ := settled_of_prepareRoot tree prepared
  have there := settled.there
  rw [← host', ← host, ← disk] at there
  exact ⟨here, w₁, host', settled, (filed_of_writeFiles there written).of_same host disk⟩

end Call

/-- Calls with one report directory that all return, one after the other. -/
inductive Calls (directory : FilePath) : World → List Call → World → Prop where
  | none (w : World) : Calls directory w [] w
  | next {w w₁ w' : World} {c : Call} {calls : List Call} :
      c.Returns directory w w₁ → Calls directory w₁ calls w' → Calls directory w (c :: calls) w'

namespace Calls

variable {directory : FilePath} {calls : List Call} {w w' : World} {here : Place}

theorem filed (h : Calls directory w calls w')
    (there : w.disk.locate w.host.cwd .find directory = .ok (.taken here .directory)) :
    w.Filed directory (calls.flatMap Call.files) w' := by
  induction h with
  | none w => exact .done rfl rfl
  | next returns _ ih =>
    have first := returns.filed there
    exact first.append (ih (first.there there))

theorem settled (h : Calls directory w calls w') (some : calls ≠ [])
    (tree : w.disk.IsTree w.host.cwd) :
    ∃ here, ∃ w₁ : World, w₁.host = w.host ∧ Disk.Settled w.host.cwd directory here w.disk w₁.disk ∧
      w₁.Filed directory (calls.flatMap Call.files) w' := by
  cases h with
  | none => exact absurd rfl some
  | next returns later =>
    obtain ⟨here, w₁, host, settled, first⟩ := returns.settled tree
    have there := settled.there
    rw [← host] at there
    exact ⟨here, w₁, host, settled, first.append (later.filed (first.there there))⟩

theorem tabled (h : Calls directory w calls w') {c : Call} (hc : c ∈ calls) :
    Table.ofSeries? (series c.apps c.plan.sweep) = some c.table := by
  induction h with
  | none w => exact absurd hc List.not_mem_nil
  | next returns _ ih =>
    rcases List.mem_cons.1 hc with rfl | later
    · exact returns.steps.1
    · exact ih later

end Calls

namespace Report

/-- The latest call whose format includes a report. -/
def latest? (r : Report) (calls : List Call) : Option Call :=
  (calls.filter (·.plan.format.Has r)).getLast?

theorem filter_flatMap_files (r : Report) (calls : List Call) :
    (calls.flatMap Call.files).filter (·.1 = r.fileName) =
      (calls.filter (·.plan.format.Has r)).map fun c => (r.fileName, c.content r) := by
  induction calls with
  | nil => rfl
  | cons c calls ih =>
    rw [List.flatMap_cons, List.filter_append, ih, Call.files, Plan.filter_files]
    by_cases has : c.plan.format.Has r
    · rw [if_pos has, List.filter_cons_of_pos (by simpa using has)]
      rfl
    · rw [if_neg has, List.filter_cons_of_neg (by simpa using has)]
      rfl

theorem latest?_files (r : Report) (calls : List Call) :
    World.Filed.latest? r.fileName (calls.flatMap Call.files) =
      (r.latest? calls).map (·.content r) := by
  rw [World.Filed.latest?, filter_flatMap_files, List.getLast?_map, Option.map_map]
  rfl

end Report

/-- There is nothing at a place, or a file. -/
def Disk.FileOrNothing (disk : Disk) (place : Place) : Prop :=
  disk.find? place = none ∨ ∃ octets, disk.find? place = some (.file octets)

theorem Disk.FileOrNothing.no_link {disk : Disk} {place : Place} (h : disk.FileOrNothing place)
    (target : String) : disk.find? place ≠ some (.link target) := by
  intro link
  rcases h with none | ⟨octets, file⟩
  · rw [link] at none
    cases none
  · rw [link] at file
    cases file

/-- A call leaves these octets in the file of a report wherever its report directory is empty. -/
def Call.Leaves (c : Call) (r : Report) (octets : List UInt8) : Prop :=
  ∀ (directory : FilePath) (here : Place) (table : Table) (w w' : World),
    w.disk.locate w.host.cwd .find directory = .ok (.taken here .directory) →
    (∀ name, w.disk.find? (here ++ [name]) = none) →
    ({ c with table := table } : Call).Returns directory w w' →
    w'.disk.find? (here ++ [r.fileName]) = some (.file octets)

theorem Call.leaves_content {c : Call} {r : Report}
    (tabled : Table.ofSeries? (series c.apps c.plan.sweep) = some c.table)
    (has : c.plan.format.Has r) : c.Leaves r (c.content r) := by
  intro directory here table w w' there nothing returns
  obtain rfl : table = c.table := Option.some.inj (returns.steps.1.symm.trans tabled)
  have filed : w.Filed directory c.files w' := returns.filed there
  have no_link (name : String) (target : String) :
      w.disk.find? (here ++ [name]) ≠ some (.link target) := by
    rw [nothing]
    exact nofun
  have apart : ∀ f ∈ c.files, f.1 ≠ r.fileName →
      ¬ w'.disk.LeadsTo w'.host.cwd (directory.child f.1) (here ++ [r.fileName]) := by
    intro f hf other leads
    have name : Disk.IsName f.1 := by
      rcases Plan.mem_files hf with ⟨r', same⟩ | ⟨same, -⟩
      · exact same ▸ r'.isName_fileName
      · exact same ▸ isName_plotFileName
    have same := leads.eq_child (filed.there there) name (filed.no_link (no_link f.1))
    exact other (List.append_singleton_inj.1 same).2.symm
  have latest : World.Filed.latest? r.fileName c.files = some (c.content r) := by
    rw [World.Filed.latest?, Call.files, Plan.filter_files, if_pos has]
    rfl
  rw [filed.find?_eq there r.isName_fileName (no_link _) apart, latest]
  rfl

/-- The reports of calls are as the latest ones have left them, whatever has been there before. -/
theorem reports_of_latest_calls {directory : FilePath} {w w' : World} {calls : List Call}
    (tree : w.disk.IsTree w.host.cwd) (run : Calls directory w calls w') (called : calls ≠ []) :
    ∃ here, w'.disk.locate w'.host.cwd .find directory = .ok (.taken here .directory) ∧
      ((∀ r : Report, w.disk.FileOrNothing (here ++ [r.fileName])) →
        (∀ c ∈ calls, c.plan.plot = true → ∀ r : Report,
          ¬ w'.disk.LeadsTo w'.host.cwd (plotPath directory) (here ++ [r.fileName])) →
        ∀ r : Report,
          match r.latest? calls with
          | none => w'.disk.find? (here ++ [r.fileName]) = w.disk.find? (here ++ [r.fileName])
          | some c => w'.disk.find? (here ++ [r.fileName]) = some (.file (c.content r)) ∧
              c.Leaves r (c.content r)) := by
  obtain ⟨here, w₁, host, settled, filed⟩ := run.settled called tree
  have there := settled.there
  rw [← host] at there
  refine ⟨here, filed.there there, ?_⟩
  intro plain apart r
  have no_link (r : Report) (target : String) :
      w₁.disk.find? (here ++ [r.fileName]) ≠ some (.link target) := by
    rw [settled.below]
    exact (plain r).no_link target
  have apart : ∀ f ∈ calls.flatMap Call.files, f.1 ≠ r.fileName →
      ¬ w'.disk.LeadsTo w'.host.cwd (directory.child f.1) (here ++ [r.fileName]) := by
    intro f hf other leads
    obtain ⟨c, hc, hf⟩ := List.mem_flatMap.1 hf
    rcases Plan.mem_files hf with ⟨r', same⟩ | ⟨same, plotted⟩
    · rw [same] at leads other
      have place := leads.eq_child (filed.there there) r'.isName_fileName
        (filed.no_link (no_link r'))
      exact other (List.append_singleton_inj.1 place).2.symm
    · rw [same] at leads
      exact apart c hc plotted r leads
  have content := filed.find?_eq there r.isName_fileName (no_link r) apart
  rw [r.latest?_files, settled.below] at content
  cases latest : r.latest? calls with
  | none =>
    rw [latest] at content
    exact content
  | some c =>
    rw [latest] at content
    obtain ⟨hc, has⟩ := List.mem_filter.1 (List.mem_of_getLast? latest)
    exact ⟨content, Call.leaves_content (run.tabled hc) (by simpa using has)⟩

/-- A report directory with two reports of other summaries. -/
def oldReports (octets : List UInt8) : Disk where
  entries :=
    [(["o"], .directory), (["o", "slowness.csv"], .file octets),
      (["o", "slowness.mat"], .file [2])]

/-- A table with a value at time zero alone. -/
def oneRow (value : Binary64) : Table where
  rows := [(0, value)]
  fits := List.forall_mem_singleton.2 (show FitsSigned 0 by decide)

theorem Call.returns_of_files {apps : List Application} {cfg root : Setting} {plan : Plan}
    {w w₁ : World} {directory : FilePath} {n : Nat} {table : Table}
    (hp : Plan.ofConfig cfg = .ok plan) (hr : plan.root = some root)
    (prepared : outcome (prepareRoot root) w = (.ok directory, w₁))
    (size : plan.sweep.size? = some n) (fits : ∀ t ∈ plan.sweep.times, FitsSigned t)
    (rows : table.rows = series apps plan.sweep) {after : World → Prop}
    (files : ∀ w₂ : World, w₂.host = w₁.host → w₂.disk = w₁.disk → ∃ w',
      outcome (writeFiles plan table directory) w₂ = (.ok (), w') ∧ after w') :
    ∃ w', Call.Returns directory ⟨apps, cfg, plan, table⟩ w w' ∧ after w' := by
  obtain ⟨_, _⟩ := table
  cases rows
  obtain ⟨w', run, there⟩ := outcome_summarize_of_files hp hr prepared size fits files
  exact ⟨w', ⟨hp, ⟨root, w₁, hr, prepared⟩, run⟩, there⟩

/-- A call with one checkpoint writes the text report over another one. -/
theorem returns_over {apps : List Application} {table : Table}
    (rows : table.rows = series apps ⟨0, 0, 1000, by decide, by decide⟩) (octets : List UInt8)
    (past : List Event) :
    ∃ plan w', Call.Returns directoryO ⟨apps, oneCheckpoint false, plan, table⟩
        ⟨⟨[], "", []⟩, oldReports octets, past⟩ w' ∧ plan.format = .csv ∧ plan.plot = false ∧
      w'.host = ⟨[], "", []⟩ ∧ w'.disk = oldReports (Csv.octets table) := by
  obtain ⟨plan, name, hp, hn, hr, hf, plot, hs⟩ := oneCheckpoint_plan false
  have fits : ∀ t ∈ plan.sweep.times, FitsSigned t := by
    rw [hs]
    decide
  have size : plan.sweep.size? = some 1 := by
    rw [hs]
    rfl
  have prepared : outcome (prepareRoot (.scalar (.text "/o")))
      ⟨⟨[], "", []⟩, oldReports octets, past⟩ =
        (.ok directoryO, ⟨⟨[], "", []⟩, oldReports octets, past⟩) := by cbv
  have there : (oldReports octets).locate [] .find directoryO =
      .ok (.taken ["o"] .directory) := by cbv
  have file : (oldReports octets).locate [] .write (csvPath directoryO) =
      .ok (.taken ["o", "slowness.csv"] (.file octets)) :=
    Disk.locate_eq_ok_iff.2 ⟨⟨rfl, by decide, by decide⟩, Disk.walk_eq_ok_iff.1 (by cbv)⟩
  rw [← hs] at rows
  obtain ⟨w', returns, ended⟩ : ∃ w', Call.Returns directoryO
        ⟨apps, oneCheckpoint false, plan, table⟩ ⟨⟨[], "", []⟩, oldReports octets, past⟩ w' ∧
      w'.host = ⟨[], "", []⟩ ∧ w'.disk = oldReports (Csv.octets table) := by
    apply Call.returns_of_files hp hr prepared size fits rows
    rintro ⟨host, disk, past'⟩ rfl rfl
    have made : outcome (makeDirectories directoryO.anchor directoryO.parts)
        ⟨⟨[], "", []⟩, oldReports octets, past'⟩ =
          (.ok (), ⟨⟨[], "", []⟩, oldReports octets, past'⟩) :=
      outcome_makeDirectories_of_there there
    obtain ⟨w', written, host, disk⟩ :=
      outcome_writeCsv_of_opened table reportTitle made (Disk.openToWrite_of_file rfl file)
    have filed := outcome_writeFiles_of_csv hn hf written
    rw [plotStep, plot] at filed
    exact ⟨w', filed, host, disk⟩
  exact ⟨plan, w', returns, hf, plot, ended⟩

/-- Of two calls the second one has left its rows, and the other report is as before. -/
theorem reports_of_second_call :
    ∃ calls w', Calls directoryO ⟨⟨[], "", []⟩, oldReports [1], []⟩ calls w' ∧
      calls.map Call.apps = [[], [⟨0, 1, .infinity false⟩]] ∧
      w'.disk.find? ["o", "slowness.csv"] =
        some (.file (Text.Utf8.encode "# Time, maximum slowness\n0,inf\n".toList)) ∧
      w'.disk.find? ["o", "slowness.mat"] = some (.file [2]) := by
  have empty : (oneRow .zero).rows = series [] ⟨0, 0, 1000, by decide, by decide⟩ := rfl
  have slow : (oneRow (.infinity false)).rows =
      series [⟨0, 1, .infinity false⟩] ⟨0, 0, 1000, by decide, by decide⟩ := rfl
  obtain ⟨plan, ⟨_, _, past⟩, first, hf, plot, rfl, rfl⟩ := returns_over empty [1] []
  obtain ⟨plan', w', second, hf', plot', host, disk⟩ := returns_over slow _ past
  have run := Calls.next first (.next second (.none w'))
  have tree : (oldReports [1]).IsTree [] := Disk.isTree_of_entries rfl (by decide)
  obtain ⟨here, there, reports⟩ := reports_of_latest_calls tree run (by simp)
  have at_o : w'.disk.locate w'.host.cwd .find directoryO = .ok (.taken ["o"] .directory) := by
    rw [host, disk]
    cbv
  obtain rfl : here = ["o"] := by
    rw [at_o] at there
    cases there
    rfl
  have plain (r : Report) : (oldReports [1]).FileOrNothing (["o"] ++ [r.fileName]) := by
    cases r with
    | csv => exact .inr ⟨_, rfl⟩
    | mat => exact .inr ⟨_, rfl⟩
  have reports := reports plain (by simp [plot, plot'])
  have csv := reports .csv
  have mat := reports .mat
  have has_csv : ReportFormat.csv.Has .csv := by decide
  have lacks_mat : ¬ ReportFormat.csv.Has .mat := by decide
  simp only [Report.latest?, List.filter_cons, List.filter_nil, hf, hf', has_csv, lacks_mat,
    decide_true, decide_false, if_true, Bool.false_eq_true, if_false, List.getLast?_cons_cons,
    List.getLast?_singleton, List.getLast?_nil] at csv mat
  exact ⟨_, w', run, rfl, csv.1, mat⟩

theorem Csv.head?_octets (table : Table) : (Csv.octets table).head? = some 0x23 := by
  rw [Csv.octets, Csv.text, String.toList_append]
  rfl

/-- The text report of a call is lost if its plot is saved through a link to it. -/
theorem reports_not_always_of_latest_calls :
    ¬ ∀ (directory : FilePath) (w w' : World) (calls : List Call) (here : Place),
      w.disk.IsTree w.host.cwd → Calls directory w calls w' →
      w'.disk.locate w'.host.cwd .find directory = .ok (.taken here .directory) →
      (∀ r : Report, w.disk.FileOrNothing (here ++ [r.fileName])) →
      ∀ (r : Report) (c : Call), r.latest? calls = some c →
        w'.disk.find? (here ++ [r.fileName]) = some (.file (c.content r)) := by
  intro always
  obtain ⟨plan, name, hp, hn, hr, hf, plot, hs⟩ := oneCheckpoint_plan true
  have fits : ∀ t ∈ plan.sweep.times, FitsSigned t := by
    rw [hs]
    decide
  have size : plan.sweep.size? = some 1 := by
    rw [hs]
    rfl
  have prepared : outcome (prepareRoot (.scalar (.text "/o"))) linkedReports =
      (.ok directoryO, linkedReports) := by
    cbv
  have there : linkedReports.disk.locate [] .find directoryO =
      .ok (.taken ["o"] .directory) := by cbv
  have csv : linkedReports.disk.locate [] .write (csvPath directoryO) =
      .ok (.free ["o", "slowness.csv"]) :=
    Disk.locate_eq_ok_iff.2 ⟨⟨rfl, by decide, by decide⟩, Disk.walk_eq_ok_iff.1 (by cbv)⟩
  have rows : slowTable.rows = series [slowApplication] plan.sweep := by
    rw [hs]
    rfl
  obtain ⟨w', returns, here, leads, file⟩ : ∃ w', Call.Returns directoryO
      ⟨[slowApplication], oneCheckpoint true, plan, slowTable⟩ linkedReports w' ∧
      w'.Holds (csvPath directoryO) plotOctets := by
    apply Call.returns_of_files hp hr prepared size fits rows
    rintro ⟨host, disk, past⟩ rfl rfl
    exact plot_of_writeFiles hn hf plot rfl check_slowTable there ⟨rfl, rfl⟩ csv linkedReports_plot
  have tree : linkedReports.disk.IsTree [] := Disk.isTree_of_entries rfl (by decide)
  have filed := returns.filed there
  have plain (r : Report) : linkedReports.disk.FileOrNothing (["o"] ++ [r.fileName]) := by
    cases r with
    | csv => exact .inl rfl
    | mat => exact .inl rfl
  have latest : Report.csv.latest? [⟨[slowApplication], oneCheckpoint true, plan, slowTable⟩] =
      some ⟨[slowApplication], oneCheckpoint true, plan, slowTable⟩ := by
    rw [Report.latest?, List.filter_cons_of_pos (by rw [hf]; decide)]
    rfl
  have kept := always directoryO linkedReports w' _ ["o"] tree (.next returns (.none w'))
    (filed.there there) plain .csv _ latest
  obtain rfl := leads.eq_child (filed.there there) Report.csv.isName_fileName
    (filed.no_link (plain .csv).no_link)
  have octets : plotOctets = Csv.octets slowTable :=
    Entry.file.inj (Option.some.inj (file.symm.trans kept))
  have first := Csv.head?_octets slowTable
  rw [← octets] at first
  cases first

end PeakSlowness
