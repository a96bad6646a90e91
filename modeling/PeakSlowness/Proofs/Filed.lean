import PeakSlowness.Proofs.Prepared
import PeakSlowness.Proofs.Reports

set_option autoImplicit false

/-!
The files of a summary. In a report directory that is there, a summary writes one file after the
other through fixed names. A name that is no link holds what has been written through it last,
unless another name leads to the same file.
-/

namespace PeakSlowness

open Text (Letter)
open Disk (IsName)

/-- Files have been written through names in a directory, one after the other. -/
inductive World.Filed (directory : FilePath) :
    World → List (String × List UInt8) → World → Prop where
  | done {w w' : World} : w'.host = w.host → w'.disk = w.disk → Filed directory w [] w'
  | file {w w₁ w' : World} {place : Place} {name : String} {octets : List UInt8}
      {files : List (String × List UInt8)} :
      w.disk.Fits place (.file octets) → w₁.host = w.host →
      w₁.disk = w.disk.put place (.file octets) →
      w₁.disk.LeadsTo w₁.host.cwd (directory.child name) place → Filed directory w₁ files w' →
      Filed directory w ((name, octets) :: files) w'

namespace World.Filed

variable {directory : FilePath} {w w₁ w' w'' : World} {files more : List (String × List UInt8)}
  {here : Place} {name : String}

theorem of_same (host : w₁.host = w.host) (disk : w₁.disk = w.disk)
    (h : Filed directory w₁ files w') : Filed directory w files w' := by
  cases h with
  | done host' disk' => exact .done (host'.trans host) (disk'.trans disk)
  | file fits host' put leads later =>
    rw [host] at host'
    rw [disk] at fits put
    exact .file fits host' put leads later

theorem append (h : Filed directory w files w') (h' : Filed directory w' more w'') :
    Filed directory w (files ++ more) w'' := by
  induction h with
  | done host disk => exact h'.of_same host disk
  | file fits host put leads _ ih => exact .file fits host put leads (ih h')

theorem host (h : Filed directory w files w') : w'.host = w.host := by
  induction h with
  | done host _ => exact host
  | file _ host _ _ _ ih => exact ih.trans host

theorem leads {p : FilePath} (h : Filed directory w files w')
    (leads : w.disk.LeadsTo w.host.cwd p here) : w'.disk.LeadsTo w'.host.cwd p here := by
  induction h with
  | done host disk =>
    rw [host, disk]
    exact leads
  | file fits host put _ _ ih =>
    apply ih
    rw [host, put]
    exact leads.put fits

theorem there {p : FilePath} (h : Filed directory w files w')
    (there : w.disk.locate w.host.cwd .find p = .ok (.taken here .directory)) :
    w'.disk.locate w'.host.cwd .find p = .ok (.taken here .directory) := by
  induction h with
  | done host disk =>
    rw [host, disk]
    exact there
  | file fits host put _ _ ih =>
    apply ih
    rw [host, put]
    exact fits.stays there

theorem no_link (h : Filed directory w files w')
    (none : ∀ target, w.disk.find? here ≠ some (.link target)) (target : String) :
    w'.disk.find? here ≠ some (.link target) := by
  induction h with
  | done _ disk =>
    rw [disk]
    exact none target
  | @file w w₁ w' place name octets files fits _ put _ _ ih =>
    apply ih
    intro target link
    rw [put] at link
    by_cases same : here = place
    · subst same
      rw [Disk.find?_put_self fits.ne_root] at link
      cases link
    · rw [Disk.find?_put_of_ne same] at link
      exact none target link

/-- What has been written through a name last, if anything has been. -/
def latest? (name : String) (files : List (String × List UInt8)) : Option (List UInt8) :=
  ((files.filter (·.1 = name)).getLast?).map (·.2)

theorem latest?_cons (name : String) (f : String × List UInt8)
    (files : List (String × List UInt8)) :
    latest? name (f :: files) =
      (latest? name files).or (if f.1 = name then some f.2 else none) := by
  unfold latest?
  by_cases same : f.1 = name
  · rw [if_pos same, List.filter_cons_of_pos (by simpa using same), List.getLast?_cons]
    cases (files.filter (·.1 = name)).getLast? with
    | none => rfl
    | some last => rfl
  · rw [if_neg same, List.filter_cons_of_neg (by simpa using same), Option.or_none]

/-- A name that is no link holds what has been written through it last, if no other leads to it. -/
theorem find?_eq (h : Filed directory w files w')
    (there : w.disk.locate w.host.cwd .find directory = .ok (.taken here .directory))
    (hn : IsName name)
    (none : ∀ target, w.disk.find? (here ++ [name]) ≠ some (.link target))
    (apart : ∀ f ∈ files, f.1 ≠ name →
      ¬ w'.disk.LeadsTo w'.host.cwd (directory.child f.1) (here ++ [name])) :
    w'.disk.find? (here ++ [name]) =
      ((latest? name files).map .file).or (w.disk.find? (here ++ [name])) := by
  induction h with
  | done _ disk => rw [disk]; rfl
  | @file w w₁ w' place other octets files fits host put leads later ih =>
    have step : Filed directory w [(other, octets)] w₁ := .file fits host put leads (.done rfl rfl)
    have there₁ := step.there there
    have none₁ := step.no_link none
    have held : w₁.disk.find? (here ++ [name]) =
        if other = name then some (.file octets) else w.disk.find? (here ++ [name]) := by
      by_cases same : other = name
      · subst same
        obtain rfl := leads.eq_child there₁ hn none₁
        rw [put, if_pos rfl]
        exact Disk.find?_put_self fits.ne_root w.disk _
      · have elsewhere : here ++ [name] ≠ place := by
          rintro rfl
          exact apart _ List.mem_cons_self same (later.leads leads)
        rw [put, if_neg same]
        exact Disk.find?_put_of_ne elsewhere w.disk _
    rw [ih there₁ none₁ fun f hf => apart f (List.mem_cons_of_mem _ hf), held, latest?_cons]
    by_cases same : other = name
    · cases latest? name files with
      | none => simp [same]
      | some last => rfl
    · cases latest? name files with
      | none => simp [same]
      | some last => rfl

end World.Filed

/-- What a matrix report holds behind a run that has written one. -/
def Matlab.octets (name : List Letter) (table : Table) : List UInt8 :=
  match name with
  | [] => fileHeader
  | .char '_' :: _ => fileHeader
  | name =>
    match encodeName name with
    | .ok octets => fileHeader ++ tableVariable octets table
    | .error _ => fileHeader

namespace Action

variable {w w₁ w' : World} {directory : FilePath} {table : Table} {title name : String}
  {here : Place}

theorem filed_of_openFile {place : Place} {octets : List UInt8}
    (opened : outcome (openFile (directory.child name)) w = (.ok (.ok place), w₁))
    (host : w'.host = w₁.host) (disk : w'.disk = w₁.disk.put place (.file octets)) :
    w.Filed directory [(name, octets)] w' := by
  cases tried : w.disk.openToWrite w.host.cwd (directory.child name) with
  | error fault =>
    rw [outcome_openFile_of_refused tried] at opened
    cases opened
  | ok result =>
    obtain ⟨here, disk'⟩ := result
    rw [outcome_openFile_of_opened tried] at opened
    cases opened
    obtain ⟨fits, rfl, leads⟩ := Disk.leadsTo_of_openToWrite tried
    have self := Disk.find?_put_self fits.ne_root w.disk (.file [])
    have on := leads.put (.file_of_file self octets)
    rw [Disk.put_put] at disk on
    refine .file (fits.refile octets) host disk ?_ (.done rfl rfl)
    rw [host, disk]
    exact on

theorem filed_of_writeCsv {path : FilePath}
    (there : w.disk.locate w.host.cwd .find directory = .ok (.taken here .directory))
    (h : outcome (writeCsv table (reportBase directory) title) w = (.ok path, w')) :
    w.Filed directory [("slowness.csv", Csv.octets table)] w' := by
  unfold writeCsv at h
  rw [outcome_inDirectory (outcome_makeDirectories_of_there there)] at h
  obtain ⟨opened, w₁, opening, h⟩ := outcome_bind_eq_ok_iff.1 h
  cases opened with
  | error fault => cases h
  | ok place =>
    cases h
    exact filed_of_openFile opening rfl rfl

/-- A matrix report is written twice, first without its variable. -/
theorem disk_of_fillMat {place : Place} {letters : List Letter}
    (h : outcome (fillMat table place letters) w = (.ok (), w')) :
    w'.host = w.host ∧ w'.disk = w.disk.put place (.file (Matlab.octets letters table)) := by
  unfold fillMat at h
  obtain ⟨_, w₁, header, h⟩ := outcome_bind_eq_ok_iff.1 h
  cases header
  split at h
  · cases h
  · cases h
    exact ⟨rfl, rfl⟩
  · next named underscored =>
    have content : Matlab.octets letters table =
        match Matlab.encodeName letters with
        | .ok octets => Matlab.fileHeader ++ Matlab.tableVariable octets table
        | .error _ => Matlab.fileHeader := Matlab.octets.eq_3 letters table named underscored
    rw [content]
    cases encoded : Matlab.encodeName letters with
    | error u =>
      rw [encoded] at h
      cases h
    | ok octets =>
      rw [encoded] at h
      cases h
      exact ⟨rfl, Disk.put_put w.disk place _ _⟩

theorem filed_of_writeMat {letters : List Letter} {path : FilePath}
    (there : w.disk.locate w.host.cwd .find directory = .ok (.taken here .directory))
    (h : outcome (writeMat table (reportBase directory) title letters) w = (.ok path, w')) :
    w.Filed directory [("slowness.mat", Matlab.octets letters table)] w' := by
  unfold writeMat at h
  rw [outcome_inDirectory (outcome_makeDirectories_of_there there)] at h
  obtain ⟨opened, w₁, opening, h⟩ := outcome_bind_eq_ok_iff.1 h
  split at h
  · cases h
  · cases h
  · obtain ⟨_, w₂, filling, h⟩ := outcome_bind_eq_ok_iff.1 h
    obtain ⟨host, disk⟩ := disk_of_fillMat filling
    cases h
    exact filed_of_openFile opening host disk

theorem filed_of_savePlot {path : Option FilePath}
    (there : w.disk.locate w.host.cwd .find directory = .ok (.taken here .directory))
    (h : outcome (savePlot table directory) w = (.ok path, w')) :
    w.Filed directory (if table.rows.isEmpty then [] else [(plotFileName, plotOctets)]) w' := by
  have made := outcome_makeDirectories_of_there there
  unfold savePlot at h
  split at h
  · next empty =>
    cases h
    rw [if_pos empty]
    exact .done rfl rfl
  · next rows =>
    rw [outcome_bind_of_ok made] at h
    obtain ⟨_, w₁, checked, h⟩ := outcome_bind_eq_ok_iff.1 h
    obtain rfl : w = w₁ := congrArg Prod.snd ((outcome_ofExcept _ _ w).symm.trans checked)
    obtain ⟨opened, w₂, opening, h⟩ := outcome_bind_eq_ok_iff.1 h
    rw [if_neg rows]
    cases opened with
    | error fault => cases h
    | ok place =>
      cases h
      exact filed_of_openFile opening rfl rfl

end Action

/-- The two files that a report may be written to. -/
inductive Report where
  | csv
  | mat
  deriving DecidableEq

def Report.fileName : Report → String
  | csv => "slowness.csv"
  | mat => "slowness.mat"

theorem Report.isName_fileName (r : Report) : Disk.IsName r.fileName := by
  cases r with
  | csv => exact ⟨by decide, by decide, by decide⟩
  | mat => exact ⟨by decide, by decide, by decide⟩

theorem isName_plotFileName : Disk.IsName plotFileName := ⟨by decide, by decide, by decide⟩

/-- A format includes a report. -/
def ReportFormat.Has (format : ReportFormat) : Report → Prop
  | .csv => format.HasCsv
  | .mat => format.HasMat

instance (format : ReportFormat) : DecidablePred format.Has
  | .csv => inferInstanceAs (Decidable format.HasCsv)
  | .mat => inferInstanceAs (Decidable format.HasMat)

namespace Plan

/-- What a summary writes into the file of a report. -/
def content (plan : Plan) (table : Table) : Report → List UInt8
  | .csv => Csv.octets table
  | .mat =>
    match plan.variableName with
    | .ok letters => Matlab.octets letters table
    | .error _ => []

/-- The files of a summary that returns, in the order in which they are written. -/
def files (plan : Plan) (table : Table) : List (String × List UInt8) :=
  ([Report.csv, Report.mat].filter plan.format.Has).map
      (fun r => (r.fileName, plan.content table r)) ++
    if plan.plot && !table.rows.isEmpty then [(plotFileName, plotOctets)] else []

theorem filter_files (plan : Plan) (table : Table) (r : Report) :
    (plan.files table).filter (·.1 = r.fileName) =
      if plan.format.Has r then [(r.fileName, plan.content table r)] else [] := by
  have no_plot :
      (if plan.plot && !table.rows.isEmpty then [(plotFileName, plotOctets)] else []).filter
        (·.1 = r.fileName) = [] := by
    rw [List.filter_eq_nil_iff]
    intro f hf
    obtain ⟨-, rfl⟩ := List.mem_ite_nil_right.1 hf |>.imp_right List.mem_singleton.1
    cases r with
    | csv => decide
    | mat => decide
  rw [files, List.filter_append, no_plot, List.append_nil, List.filter_map]
  obtain ⟨sweep, format, plot, root, output⟩ := plan
  cases r with
  | csv => cases format <;> rfl
  | mat => cases format <;> rfl

theorem mem_files {plan : Plan} {table : Table} {f : String × List UInt8}
    (h : f ∈ plan.files table) :
    (∃ r : Report, f.1 = r.fileName) ∨ (f.1 = plotFileName ∧ plan.plot = true) := by
  rcases List.mem_append.1 h with report | plot
  · obtain ⟨r, -, rfl⟩ := List.mem_map.1 report
    exact .inl ⟨r, rfl⟩
  · obtain ⟨asked, here⟩ := List.mem_ite_nil_right.1 plot
    rw [List.mem_singleton.1 here]
    simp only [Bool.and_eq_true] at asked
    exact .inr ⟨rfl, asked.1⟩

end Plan

namespace Action

variable {w w' : World} {directory : FilePath} {table : Table} {here : Place} {plan : Plan}

/-- A report that a format may not include. -/
theorem filed_of_ite {included : Prop} [Decidable included] {x : Action FilePath} {name : String}
    {octets : List UInt8} {paths : List FilePath}
    (written : ∀ path, outcome x w = (.ok path, w') → w.Filed directory [(name, octets)] w')
    (h : outcome (if included then List.singleton <$> x else pure []) w = (.ok paths, w')) :
    w.Filed directory (if included then [(name, octets)] else []) w' := by
  by_cases has : included
  · rw [if_pos has] at h ⊢
    obtain ⟨path, ended, -⟩ := outcome_map_eq_ok_iff.1 h
    exact written path ended
  · rw [if_neg has] at h ⊢
    cases h
    exact .done rfl rfl

theorem filed_of_plotStep
    (there : w.disk.locate w.host.cwd .find directory = .ok (.taken here .directory))
    (h : outcome (plotStep plan table directory) w = (.ok (), w')) :
    w.Filed directory
      (if plan.plot && !table.rows.isEmpty then [(plotFileName, plotOctets)] else []) w' := by
  unfold plotStep at h
  by_cases plotted : plan.plot = true
  · rw [if_pos plotted] at h
    obtain ⟨path, saved, -⟩ := outcome_map_eq_ok_iff.1 h
    have filed := filed_of_savePlot there saved
    rw [plotted]
    cases rows : table.rows.isEmpty with
    | true =>
      rw [rows] at filed
      exact filed
    | false =>
      rw [rows] at filed
      exact filed
  · rw [if_neg plotted] at h
    cases h
    rw [if_neg (by simp [plotted])]
    exact .done rfl rfl

/-- In a report directory that is there, a summary that returns has written its files in order. -/
theorem filed_of_writeFiles
    (there : w.disk.locate w.host.cwd .find directory = .ok (.taken here .directory))
    (h : outcome (writeFiles plan table directory) w = (.ok (), w')) :
    w.Filed directory (plan.files table) w' := by
  rw [writeFiles_eq] at h
  obtain ⟨letters, w₁, read, h⟩ := outcome_bind_eq_ok_iff.1 h
  obtain ⟨_, w₂, reported, plotted⟩ := outcome_bind_eq_ok_iff.1 h
  rw [outcome_ofExcept] at read
  obtain rfl : w = w₁ := congrArg Prod.snd read
  have named : plan.variableName = .ok letters := mapError_eq_ok_iff.1 (congrArg Prod.fst read)
  obtain ⟨paths, reported, -⟩ := outcome_map_eq_ok_iff.1 reported
  rw [writeReports_eq] at reported
  obtain ⟨first, w₃, csv, reported⟩ := outcome_bind_eq_ok_iff.1 reported
  obtain ⟨second, w₄, mat, reported⟩ := outcome_bind_eq_ok_iff.1 reported
  cases reported
  have csv := filed_of_ite (fun path => filed_of_writeCsv there) csv
  have mat := filed_of_ite (fun path => filed_of_writeMat (csv.there there)) mat
  have plot := filed_of_plotStep (mat.there (csv.there there)) plotted
  have content : plan.content table .mat = Matlab.octets letters table := by
    rw [Plan.content, named]
  have files : plan.files table =
      ((if plan.format.HasCsv then [("slowness.csv", Csv.octets table)] else []) ++
        if plan.format.HasMat then [("slowness.mat", Matlab.octets letters table)] else []) ++
          if plan.plot && !table.rows.isEmpty then [(plotFileName, plotOctets)] else [] := by
    rw [Plan.files, ← content]
    congr 1
    obtain ⟨sweep, format, plot, root, output⟩ := plan
    cases format <;> rfl
  rw [files]
  exact (csv.append mat).append plot

end Action

end PeakSlowness
