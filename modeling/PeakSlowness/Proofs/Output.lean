import PeakSlowness.Output
import PeakSlowness.Proofs.Disk.Directory
import PeakSlowness.Proofs.Settling

set_option autoImplicit false

/-!
What writing reports does to the file tree. A step writes only the files that its paths lead to.
What leads to a file before a step leads to the same place after it, so whether two paths lead to
one file can be told at the end.
-/

namespace PeakSlowness

/-- A path leads to a file with these octets. -/
def World.Holds (w : World) (p : FilePath) (octets : List UInt8) : Prop :=
  ∃ here, w.disk.LeadsTo w.host.cwd p here ∧ w.disk.find? here = some (.file octets)

/-- Two paths do not lead to one file. -/
def World.Apart (w : World) (p q : FilePath) : Prop :=
  ∀ here, w.disk.LeadsTo w.host.cwd p here → ¬ w.disk.LeadsTo w.host.cwd q here

namespace World.Holds

variable {w : World} {p : FilePath} {octets octets' : List UInt8}

theorem unique (h : w.Holds p octets) (h' : w.Holds p octets') : octets = octets' := by
  obtain ⟨here, leads, file⟩ := h
  obtain ⟨here', leads', file'⟩ := h'
  cases leads.unique leads'
  rw [file] at file'
  cases file'
  rfl

/-- What is in a file is read from it, if that is allowed at each place. -/
theorem read_eq (h : w.Holds p octets) (readable : ∀ place, w.disk.may place .read) :
    w.disk.read w.host.cwd p = .ok octets := by
  obtain ⟨here, leads, file⟩ := h
  exact Disk.read_of_leadsTo leads (readable here) file

end World.Holds

namespace Action

variable {α β : Type}

/-- A step prints nothing and writes no files but those that some paths lead to behind it. -/
structure Writes (paths : List FilePath) (x : Action α) (w : World) : Prop where
  host : (outcome x w).2.host = w.host
  printed : (outcome x w).2.printed = w.printed
  leads : ∀ p here, w.disk.LeadsTo w.host.cwd p here →
    (outcome x w).2.disk.LeadsTo (outcome x w).2.host.cwd p here
  kept : ∀ here octets, w.disk.find? here = some (.file octets) →
    (∀ p ∈ paths, ¬ (outcome x w).2.disk.LeadsTo (outcome x w).2.host.cwd p here) →
      (outcome x w).2.disk.find? here = some (.file octets)

section Writes

variable {paths : List FilePath} {x : Action α} {w : World}

theorem Says.writes {result : Except Failure α} (h : Says x w result []) (paths : List FilePath) :
    Writes paths x w := by
  refine ⟨h.host, h.printed.trans (List.append_nil _), ?_, ?_⟩
  · intro p here leads
    rw [h.disk, h.host]
    exact leads
  · intro here octets file _
    rw [h.disk]
    exact file

theorem Writes.trans {y z : Action β} {w' : World} (hx : Writes paths x w)
    (hw : (outcome x w).2 = w')
    (hy : Writes paths y w') (hz : (outcome z w).2 = (outcome y w').2) : Writes paths z w := by
  subst hw
  refine ⟨?_, ?_, ?_, ?_⟩ <;> rw [hz]
  · exact hy.host.trans hx.host
  · exact hy.printed.trans hx.printed
  · exact fun p here leads => hy.leads p here (hx.leads p here leads)
  · intro here octets file apart
    refine hy.kept here octets (hx.kept here octets file ?_) apart
    exact fun p hp leads => apart p hp (hy.leads p here leads)

/-- A file stays as it is if none of the paths leads to it. -/
theorem Writes.holds (hx : Writes paths x w) {p : FilePath} {octets : List UInt8}
    (h : w.Holds p octets)
    (apart : ∀ q ∈ paths, (outcome x w).2.Apart p q) : (outcome x w).2.Holds p octets := by
  obtain ⟨here, leads, file⟩ := h
  have on := hx.leads p here leads
  exact ⟨here, on, hx.kept here octets file fun q hq => apart q hq here on⟩

/-- Paths that do not lead to one file behind a step did not before it. -/
theorem Writes.apart (hx : Writes paths x w) {p q : FilePath} (h : (outcome x w).2.Apart p q) :
    w.Apart p q :=
  fun here leads leads' => h here (hx.leads p here leads) (hx.leads q here leads')

theorem Writes.bind {f : α → Action β} (hx : Writes paths x w)
    (hf : ∀ a, (outcome x w).1 = .ok a → Writes paths (f a) (outcome x w).2) :
    Writes paths (x >>= f) w := by
  have run := outcome_bind x f w
  rcases h : outcome x w with ⟨failure | a, w'⟩ <;> rw [h] at run hf
  · refine hx.trans (congrArg Prod.snd h) ((says_throw failure w').writes paths) ?_
    rw [run]
    rfl
  · exact hx.trans (congrArg Prod.snd h) (hf a rfl) (congrArg Prod.snd run)

theorem Writes.of_outcome_eq {y : Action α} (same : outcome x w = outcome y w)
    (hy : Writes paths y w) : Writes paths x w := by
  refine ⟨?_, ?_, ?_, ?_⟩ <;> rw [same]
  · exact hy.host
  · exact hy.printed
  · exact hy.leads
  · exact hy.kept

theorem Writes.map (f : α → β) (hx : Writes paths x w) : Writes paths (f <$> x) w := by
  have same : (outcome (f <$> x) w).2 = (outcome x w).2 := congrArg Prod.snd (outcome_map f x w)
  refine ⟨?_, ?_, ?_, ?_⟩ <;> rw [same]
  · exact hx.host
  · exact hx.printed
  · exact hx.leads
  · exact hx.kept

theorem Writes.mono {more : List FilePath} (hx : Writes paths x w) (sub : paths ⊆ more) :
    Writes more x w :=
  ⟨hx.host, hx.printed, hx.leads, fun here octets file apart =>
    hx.kept here octets file fun p hp => apart p (sub hp)⟩

theorem Writes.tryCatch {handle : Failure → Action α} (hx : Writes paths x w)
    (hf : ∀ failure, Writes paths (handle failure) (outcome x w).2) :
    Writes paths (tryCatch x handle) w := by
  have run := outcome_tryCatch x handle w
  rcases h : outcome x w with ⟨failure | a, w'⟩ <;> rw [h] at run hf
  · exact hx.trans (congrArg Prod.snd h) (hf failure) (congrArg Prod.snd run)
  · refine hx.trans (congrArg Prod.snd h) ((says_pure a w').writes paths) ?_
    rw [run]
    rfl

/-- A step that puts one entry where it fits, which one of the paths leads to if it is a file. -/
theorem writes_of_put {place : Place} {entry : Entry} {event : Event}
    (silent : event.printed? = none)
    (run : (outcome x w).2 = (World.mk w.host (w.disk.put place entry) w.past).record event)
    (fits : w.disk.Fits place entry)
    (named : w.disk.find? place = none ∨
    ∃ p ∈ paths, (w.disk.put place entry).LeadsTo w.host.cwd p place) :
    Writes paths x w := by
  refine ⟨?_, ?_, ?_, ?_⟩ <;> rw [run]
  · rfl
  · rw [World.record_printed, silent]
    exact List.append_nil _
  · intro p here leads
    exact leads.put fits
  · intro here octets file apart
    have ne : here ≠ place := by
      rintro rfl
      rcases named with none | ⟨p, hp, leads⟩
      · rw [file] at none
        cases none
      · exact apart p hp leads
    exact (Disk.find?_put_of_ne ne w.disk entry).trans file

theorem outcome_makeDirectory (p : FilePath) (w : World) :
    outcome (makeDirectory p) w =
      match w.disk.makeDirectory w.host.cwd p with
      | .error fault => (.ok (.error fault), w)
      | .ok (place, disk) =>
        (.ok (.ok ()), ⟨w.host, disk, .directoryMade place :: w.past⟩) := by
  unfold makeDirectory
  rw [outcome_bind_of_ok (outcome_get w)]
  cases w.disk.makeDirectory w.host.cwd p with
  | error fault => rfl
  | ok made => rfl

theorem writes_makeDirectory (paths : List FilePath) (p : FilePath) (w : World) :
    Writes paths (makeDirectory p) w := by
  have run := outcome_makeDirectory p w
  cases h : w.disk.makeDirectory w.host.cwd p with
  | error fault =>
    rw [h] at run
    have still : Says (makeDirectory p) w (.ok (.error fault)) [] :=
      says_of_outcome run rfl rfl (List.append_nil _).symm
    exact still.writes paths
  | ok made =>
    rw [h] at run
    obtain ⟨place, disk⟩ := made
    obtain ⟨fits, rfl⟩ := Disk.fits_of_makeDirectory h
    refine writes_of_put rfl (congrArg Prod.snd run) fits (.inl ?_)
    rcases fits.2 with none | ⟨-, _, -, he⟩
    · exact none
    · cases he

theorem outcome_openFile_of_refused {p : FilePath} {fault : CallFault}
    (h : w.disk.openToWrite w.host.cwd p = .error fault) :
    outcome (openFile p) w = (.ok (.error fault), w) := by
  unfold openFile
  rw [outcome_bind_of_ok (outcome_get w), h]
  rfl

theorem outcome_openFile_of_opened {p : FilePath} {place : Place} {disk : Disk}
    (h : w.disk.openToWrite w.host.cwd p = .ok (place, disk)) :
    outcome (openFile p) w = (.ok (.ok place), ⟨w.host, disk, .fileOpened place :: w.past⟩) := by
  unfold openFile
  rw [outcome_bind_of_ok (outcome_get w), h]
  rfl

theorem writes_openFile {p : FilePath} (hp : p ∈ paths) (w : World) :
    Writes paths (openFile p) w := by
  cases h : w.disk.openToWrite w.host.cwd p with
  | error fault =>
    have still : Says (openFile p) w (.ok (.error fault)) [] :=
      says_of_outcome (outcome_openFile_of_refused h) rfl rfl (List.append_nil _).symm
    exact still.writes paths
  | ok opened =>
    obtain ⟨place, disk⟩ := opened
    have run := outcome_openFile_of_opened h
    obtain ⟨fits, rfl, leads⟩ := Disk.leadsTo_of_openToWrite h
    exact writes_of_put rfl (congrArg Prod.snd run) fits (.inr ⟨p, hp, leads⟩)

theorem leadsTo_of_openFile {p : FilePath} {place : Place}
    (h : (outcome (openFile p) w).1 = .ok (.ok place)) :
    (outcome (openFile p) w).2.disk.LeadsTo (outcome (openFile p) w).2.host.cwd p place := by
  cases opened : w.disk.openToWrite w.host.cwd p with
  | error fault =>
    rw [outcome_openFile_of_refused opened] at h
    cases h
  | ok result =>
    obtain ⟨here, disk⟩ := result
    rw [outcome_openFile_of_opened opened] at h ⊢
    cases h
    exact (Disk.leadsTo_of_openToWrite opened).2.2

theorem leadsTo_of_opened {p : FilePath} {place : Place} {w' : World}
    (h : outcome (openFile p) w = (.ok (.ok place), w')) : w'.disk.LeadsTo w'.host.cwd p place := by
  have leads := leadsTo_of_openFile (congrArg Prod.fst h)
  rwa [h] at leads

theorem writes_writeFile {p : FilePath} (hp : p ∈ paths) {place : Place}
    (leads : w.disk.LeadsTo w.host.cwd p place) (octets : List UInt8) :
    Writes paths (writeFile place octets) w := by
  obtain ⟨before, file⟩ := leads.exists_file
  have fits := Disk.Fits.file_of_file file octets
  exact writes_of_put rfl rfl fits (.inr ⟨p, hp, leads.put fits⟩)

theorem find?_of_writeFile {p : FilePath} {place : Place}
    (leads : w.disk.LeadsTo w.host.cwd p place) (octets : List UInt8) :
    (outcome (writeFile place octets) w).2.disk.find? place = some (.file octets) := by
  obtain ⟨before, file⟩ := leads.exists_file
  have fits := Disk.Fits.file_of_file file octets
  exact Disk.find?_put_self fits.ne_root w.disk _

theorem writes_excuse (paths : List FilePath) (p : FilePath) (fault : CallFault) (w : World) :
    Writes paths (excuse p fault) w := by
  unfold excuse
  cases fault with
  | unencodable u => exact (says_throw _ w).writes paths
  | nul => exact (says_throw _ w).writes paths
  | errno e =>
    apply Writes.bind ((says_query _ w).writes paths)
    intro found _
    split
    · exact (says_pure () _).writes paths
    · exact (says_throw _ _).writes paths
    · exact (says_throw _ _).writes paths

theorem writes_makeDirectories (paths : List FilePath) (anchor : Anchor) (parts : List String)
    (w : World) :
    Writes paths (makeDirectories anchor parts) w := by
  induction size : parts.length using Nat.strongRecOn generalizing parts w with
  | ind n ih =>
    rw [makeDirectories]
    apply Writes.bind (writes_makeDirectory paths _ w)
    intro made _
    split
    · exact (says_pure () _).writes paths
    · split
      · exact (says_throw _ _).writes paths
      · next above =>
        -- the directory above it comes first
        have shorter : parts.dropLast.length < n := by
          have := List.length_pos_iff.2 above
          rw [List.length_dropLast]
          omega
        apply Writes.bind (ih _ shorter parts.dropLast _ rfl)
        intro _ _
        apply Writes.bind (writes_makeDirectory paths _ _)
        intro made _
        split
        · exact (says_pure () _).writes paths
        · exact (says_throw _ _).writes paths
        · exact writes_excuse paths _ _ _
    · exact writes_excuse paths _ _ _

end Writes

section Reports

def reportBase (directory : FilePath) : FilePath := directory.child "slowness"

def csvPath (directory : FilePath) : FilePath := directory.child "slowness.csv"

def matPath (directory : FilePath) : FilePath := directory.child "slowness.mat"

def plotPath (directory : FilePath) : FilePath := directory.child plotFileName

/-- The reports of a format besides the text report. -/
def matPaths (format : ReportFormat) (directory : FilePath) : List FilePath :=
  if format.HasMat then [matPath directory] else []

theorem reportPath_base (directory : FilePath) (suffix : String) :
    reportPath (reportBase directory) suffix = pure (directory.child ("slowness" ++ suffix)) := by
  have last : (reportBase directory).name = "slowness" := by
    simp [reportBase, FilePath.name, FilePath.child]
  have others : (reportBase directory).parts.dropLast = directory.parts := by
    simp [reportBase, FilePath.child]
  have path : (reportBase directory).withSuffix? suffix =
      some (directory.child ("slowness" ++ suffix)) := by
    unfold FilePath.withSuffix?
    rw [last, others]
    rfl
  rw [reportPath, path]

/-- A report is written behind the making of its directory, under its own name there. -/
theorem outcome_inDirectory {α : Type} {directory : FilePath} {w w₁ : World}
    (made : outcome (makeDirectories directory.anchor directory.parts) w = (.ok (), w₁))
    (suffix : String) (f : FilePath → Action α) :
    outcome (do
      let path ← reportPath (reportBase directory) suffix
      makeDirectories path.anchor path.parts.dropLast
      f path) w = outcome (f (directory.child ("slowness" ++ suffix))) w₁ := by
  have above : (directory.child ("slowness" ++ suffix)).parts.dropLast = directory.parts :=
    List.dropLast_concat
  rw [reportPath_base, pure_bind, above]
  exact outcome_bind_of_ok made

variable (table : Table) (directory : FilePath) (title : String) (format : ReportFormat)
    (name : List Text.Letter)

theorem writes_writeCsv (w : World) :
    Writes [csvPath directory] (writeCsv table (reportBase directory) title) w := by
  unfold writeCsv
  rw [reportPath_base, pure_bind]
  apply Writes.bind (writes_makeDirectories _ _ _ w)
  intro _ _
  apply Writes.bind (writes_openFile (List.mem_singleton_self _) _)
  intro opened h
  cases opened with
  | error fault => exact (says_throw _ _).writes _
  | ok place =>
    have leads := leadsTo_of_openFile h
    apply Writes.bind (writes_writeFile (List.mem_singleton_self _) leads _)
    intro _ _
    exact Writes.bind ((says_log _ _ _).writes _) fun _ _ => (says_pure _ _).writes _

theorem writes_fillMat {p : FilePath} {place : Place} {w : World}
    (leads : w.disk.LeadsTo w.host.cwd p place) : Writes [p] (fillMat table place name) w := by
  have header := writes_writeFile (List.mem_singleton_self p) leads Matlab.fileHeader
  have still := header.leads _ _ leads
  unfold fillMat
  apply Writes.bind header
  intro _ _
  split
  · exact (says_throw _ _).writes _
  · exact (says_pure () _).writes _
  · have encoded (w : World) :=
      (says_ofExcept Failure.unencodable (Matlab.encodeName name) w).writes [p]
    exact Writes.bind (encoded _) fun octets _ =>
      writes_writeFile (List.mem_singleton_self p) ((encoded _).leads _ _ still) _

theorem writes_writeMat (w : World) :
    Writes [matPath directory] (writeMat table (reportBase directory) title name) w := by
  unfold writeMat
  rw [reportPath_base, pure_bind]
  apply Writes.bind (writes_makeDirectories _ _ _ w)
  intro _ _
  apply Writes.bind (writes_openFile (List.mem_singleton_self _) _)
  intro opened h
  split
  · exact (says_throw _ _).writes _
  · exact (says_throw _ _).writes _
  · apply Writes.bind (writes_fillMat table name (leadsTo_of_openFile h))
    intro _ _
    exact Writes.bind ((says_log _ _ _).writes _) fun _ _ => (says_pure _ _).writes _

theorem writes_savePlot (w : World) : Writes [plotPath directory] (savePlot table directory) w := by
  unfold savePlot
  split
  · exact Writes.bind ((says_log _ _ _).writes _) fun _ _ => (says_pure _ _).writes _
  · apply Writes.bind (writes_makeDirectories _ _ _ w)
    intro _ _
    apply Writes.bind ((says_ofExcept _ _ _).writes _)
    intro _ _
    apply Writes.bind (writes_openFile (List.mem_singleton_self _) _)
    intro opened h
    cases opened with
    | error fault => exact (says_throw _ _).writes _
    | ok place =>
      apply Writes.bind (writes_writeFile (List.mem_singleton_self _) (leadsTo_of_openFile h) _)
      intro _ _
      exact Writes.bind ((says_log _ _ _).writes _) fun _ _ => (says_pure _ _).writes _

def csvStep : Action (List FilePath) :=
  if format.HasCsv then List.singleton <$> writeCsv table (reportBase directory) title else pure []

def matStep : Action (List FilePath) :=
  if format.HasMat then List.singleton <$> writeMat table (reportBase directory) title name
  else pure []

theorem writeReports_eq :
    writeReports table (reportBase directory) title format name =
      csvStep table directory title format >>= fun first =>
        matStep table directory title format name >>= fun second => pure (first ++ second) := by
  unfold writeReports csvStep matStep
  by_cases csv : format.HasCsv <;> by_cases mat : format.HasMat
  · simp only [if_pos csv, if_pos mat]
  · simp only [if_pos csv, if_neg mat]
  · simp only [if_neg csv, if_pos mat]
  · simp only [if_neg csv, if_neg mat]

theorem writes_csvStep (w : World) :
    Writes [csvPath directory] (csvStep table directory title format) w := by
  unfold csvStep
  split
  · exact (writes_writeCsv table directory title w).map _
  · exact (says_pure _ w).writes _

theorem writes_matStep (w : World) :
    Writes (matPaths format directory) (matStep table directory title format name) w := by
  unfold matStep matPaths
  split
  · exact (writes_writeMat table directory title name w).map _
  · exact (says_pure _ w).writes _

theorem writes_writeReports (w : World) :
    Writes (csvPath directory :: matPaths format directory)
      (writeReports table (reportBase directory) title format name) w := by
  have csv := writes_csvStep table directory title format w
  have mat := fun w => writes_matStep table directory title format name w
  rw [writeReports_eq]
  apply Writes.bind (csv.mono (by simp))
  intro first _
  exact Writes.bind ((mat _).mono (List.subset_cons_self _ _)) fun second _ =>
    (says_pure _ _).writes _

variable {table directory title format name} {w w' : World}

theorem csv_of_writeCsv {path : FilePath}
    (h : outcome (writeCsv table (reportBase directory) title) w = (.ok path, w')) :
    w'.Holds (csvPath directory) (Csv.octets table) := by
  unfold writeCsv at h
  rw [reportPath_base, pure_bind] at h
  obtain ⟨_, w₁, -, h⟩ := outcome_bind_eq_ok_iff.1 h
  obtain ⟨opened, w₂, opening, h⟩ := outcome_bind_eq_ok_iff.1 h
  cases opened with
  | error fault => cases h
  | ok place =>
    have leads := leadsTo_of_opened opening
    have filled := writes_writeFile (List.mem_singleton_self _) leads (Csv.octets table)
    have content := find?_of_writeFile leads (Csv.octets table)
    cases h
    exact ⟨place, filled.leads _ _ leads, content⟩

theorem csv_of_csvStep (hf : format.HasCsv) {paths : List FilePath}
    (h : outcome (csvStep table directory title format) w = (.ok paths, w')) :
    w'.Holds (csvPath directory) (Csv.octets table) := by
  rw [csvStep, if_pos hf] at h
  obtain ⟨path, written, -⟩ := outcome_map_eq_ok_iff.1 h
  exact csv_of_writeCsv written

/-- After the reports of a format, the text report is there, if the matrix report is not the same
file. -/
theorem csv_of_writeReports (hf : format.HasCsv) {paths : List FilePath}
    (h : outcome (writeReports table (reportBase directory) title format name) w = (.ok paths, w'))
    (apart : ∀ p ∈ matPaths format directory, w'.Apart (csvPath directory) p) :
    w'.Holds (csvPath directory) (Csv.octets table) := by
  rw [writeReports_eq] at h
  obtain ⟨first, w₁, csv, h⟩ := outcome_bind_eq_ok_iff.1 h
  obtain ⟨second, w₂, mat, h⟩ := outcome_bind_eq_ok_iff.1 h
  cases h
  have kept := (writes_matStep table directory title format name w₁).holds (csv_of_csvStep hf csv)
  rw [mat] at kept
  exact kept apart

/-- Where there is a directory, none is made. -/
theorem outcome_makeDirectories_of_there {p : FilePath} {here : Place}
    (there : w.disk.locate w.host.cwd .find p = .ok (.taken here .directory)) :
    outcome (makeDirectories p.anchor p.parts) w = (.ok (), w) := by
  obtain ⟨callable, walks⟩ := Disk.locate_eq_ok_iff.1 there
  obtain ⟨anchor, parts, flaw⟩ := p
  cases callable.1
  obtain ⟨here', entry, on⟩ := walks.findLink_of_find
  have taken : w.disk.makeDirectory w.host.cwd { anchor, parts } = .error (.errno .exists) := by
    rw [Disk.makeDirectory, Disk.locate_eq_ok_iff.2 ⟨callable, on⟩]
    rfl
  have refused := outcome_makeDirectory { anchor, parts } w
  rw [taken] at refused
  rw [makeDirectories, outcome_bind_of_ok refused]
  refine (outcome_bind_of_ok (outcome_query _ w)).trans ?_
  rw [Disk.isDirectory_eq_true_iff.2 ⟨here, there⟩]
  rfl

/-- A text report is written if its file can be opened in a directory that is there. -/
theorem outcome_writeCsv_of_opened (table : Table) (title : String)
    (made : outcome (makeDirectories directory.anchor directory.parts) w = (.ok (), w))
    {place : Place}
    (opened : w.disk.openToWrite w.host.cwd (csvPath directory) =
      .ok (place, w.disk.put place (.file []))) :
    ∃ w', outcome (writeCsv table (reportBase directory) title) w = (.ok (csvPath directory), w') ∧
      w'.host = w.host ∧ w'.disk = w.disk.put place (.file (Csv.octets table)) := by
  unfold writeCsv
  rw [outcome_inDirectory made]
  refine ⟨_, outcome_bind_of_ok (outcome_openFile_of_opened opened), rfl, ?_⟩
  exact Disk.put_put w.disk place _ _

theorem outcome_writeCsv_of_refused (table : Table) (title : String)
    (made : outcome (makeDirectories directory.anchor directory.parts) w = (.ok (), w))
    {fault : CallFault}
    (refused : w.disk.openToWrite w.host.cwd (csvPath directory) = .error fault) :
    outcome (writeCsv table (reportBase directory) title) w =
      (.error (.ofCall (csvPath directory) fault), w) := by
  unfold writeCsv
  rw [outcome_inDirectory made]
  exact outcome_bind_of_ok (outcome_openFile_of_refused refused)

/-- A plot is saved if it can be drawn and its file can be opened in a directory that is there. -/
theorem outcome_savePlot_of_opened (rows : table.rows.isEmpty = false)
    (ticks : Plot.check table = .ok ())
    (made : outcome (makeDirectories directory.anchor directory.parts) w = (.ok (), w))
    {place : Place}
    (opened : w.disk.openToWrite w.host.cwd (plotPath directory) =
      .ok (place, w.disk.put place (.file []))) :
    ∃ w', outcome (savePlot table directory) w = (.ok (some (plotPath directory)), w') ∧
      w'.host = w.host ∧ w'.disk = w.disk.put place (.file plotOctets) := by
  unfold savePlot
  rw [rows, ticks]
  simp only [Bool.false_eq_true, if_false]
  rw [outcome_bind_of_ok made, outcome_bind_of_ok (outcome_ofExcept_ok Failure.plot () w)]
  change ∃ w', outcome (openFile (plotPath directory) >>= _) w = _ ∧ _
  rw [outcome_bind_of_ok (outcome_openFile_of_opened opened)]
  exact ⟨_, rfl, rfl, Disk.put_put w.disk place _ _⟩

theorem writes_makeRoot (directory : FilePath) (w : World) : Writes [] (makeRoot directory) w := by
  have made : Writes [] (makeDirectories directory.anchor directory.parts) w :=
    writes_makeDirectories _ _ _ w
  unfold makeRoot
  refine Writes.bind (made.tryCatch ?_) fun _ _ => Writes.bind ((says_query _ _).writes _) ?_
  · intro failure
    split
    · exact (says_throw _ _).writes _
    · exact (says_throw _ _).writes _
  · intro usable _
    split
    · exact (says_pure _ _).writes _
    · exact (says_throw _ _).writes _

theorem writes_settleRoot (p : FilePath) (w : World) : Writes [] (settleRoot p) w := by
  rcases declined_or_made p w with ⟨failure, -, stopped⟩ | ⟨-, made⟩
  · exact (says_of_outcome stopped rfl rfl (List.append_nil _).symm).writes []
  · exact (writes_makeRoot _ w).of_outcome_eq made

theorem writes_prepareRoot (root : Setting) (w : World) : Writes [] (prepareRoot root) w := by
  unfold prepareRoot preparePath
  apply Writes.bind ((says_ofExcept _ _ _).writes _)
  intro named _
  apply Writes.bind ((quiet_expandHome named _).writes _)
  exact fun p _ => writes_settleRoot p _

end Reports

end Action

end PeakSlowness
