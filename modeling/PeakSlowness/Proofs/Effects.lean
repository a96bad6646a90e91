import PeakSlowness.Program
import PeakSlowness.Proofs.Reports
import PeakSlowness.Proofs.Trace

set_option autoImplicit false

/-!
The events and the failures of the parts of a summary. Preparing the report directory makes
directories alone, and filing the reports prints nothing. All failures on the way are reported, but
for a few that are named with what it takes.
-/

namespace PeakSlowness

namespace Failure

/-- A failure that the program reports when it loads or summarizes. -/
def Reportable (failure : Failure) : Prop := failure.kind ≠ .yaml ∧ failure.kind ≠ .abort

variable {failure : Failure}

theorem Reportable.of_problem (h : failure.kind = .problem) : failure.Reportable := by
  rw [Reportable, h]
  decide

theorem Reportable.of_value (h : failure.kind = .value) : failure.Reportable := by
  rw [Reportable, h]
  decide

theorem Reportable.of_system (h : failure.kind = .system) : failure.Reportable := by
  rw [Reportable, h]
  decide

theorem reportable_ofCall (p : FilePath) (fault : CallFault) : (ofCall p fault).Reportable := by
  cases fault with
  | unencodable u => exact .of_value rfl
  | nul => exact .of_value rfl
  | errno e => exact .of_system rfl

end Failure

theorem Action.runReport_of_reportable {failure : Failure} (h : failure.Reportable) :
    ∃ text, runReport failure = some text := by
  unfold runReport
  obtain ⟨known, sound⟩ := h
  cases kind : failure.kind with
  | problem | value | system => exact ⟨_, rfl⟩
  | yaml => exact absurd kind known
  | abort => exact absurd kind sound

/-- What is written into the file of a report: the text report, a matrix report, though its variable may
be missing, or the plot. -/
def IsReport (table : Table) (octets : List UInt8) : Prop :=
  octets = Csv.octets table ∨ Matlab.fileHeader <+: octets ∨ octets = plotOctets

/-- All but text on standard output, and no other files than reports of a table. -/
def Event.Reports (table : Table) : Event → Prop
  | printed _ => False
  | fileWritten _ octets => IsReport table octets
  | _ => True

theorem Event.Reports.files {table : Table} {e : Event} (h : e.Reports table) : e.Files := by
  cases e with
  | printed text => exact h.elim
  | logged _ _ | directoryMade _ | fileOpened _ | fileWritten _ _ => rfl

/-- A path begins with a home directory that is not known. -/
def FilePath.LosesHome (p : FilePath) (host : Host) (failure : Failure) : Prop :=
  ∃ user, p.user? = some user ∧ host.LosesHome user failure

namespace Action

variable {events : Event → Prop} {w : World}

section Directories

theorem within_expandHome (p : FilePath) (w : World) :
    Within events (p.LosesHome w.host) (expandHome p) w :=
  within_of_outcome _ [] (outcome_expandHome p w) nofun fun _ => FilePath.expanded_eq_error_iff.1

/-- Why the directories of a path are not made: one of them is refused, or a name has a NUL character. -/
inductive Unmade (parts : List String) : Failure → Prop where
  | refused (e : Errno) (p : FilePath) : Unmade parts (.system e p)
  | nul {name : String} (named : name ∈ parts) (nul : '\x00' ∈ name.toList) :
      Unmade parts .nulInPath

variable {anchor : Anchor} {parts : List String}

theorem Unmade.reportable {failure : Failure} (h : Unmade parts failure) : failure.Reportable := by
  cases h with
  | refused e p => exact .of_system rfl
  | nul _ _ => exact .of_value rfl

theorem Unmade.of_above {failure : Failure} (h : Unmade parts.dropLast failure) :
    Unmade parts failure := by
  cases h with
  | refused e p => exact .refused e p
  | nul named nul => exact .nul (List.dropLast_subset _ named) nul

theorem within_excuse {fault : CallFault}
    (refused : w.disk.makeDirectory w.host.cwd { anchor, parts } = .error fault) (w' : World) :
    Within events (Unmade parts) (excuse { anchor, parts } fault) w' := by
  rcases Disk.fault_of_makeDirectory rfl refused with ⟨rfl, nul⟩ | ⟨e, rfl⟩
  · obtain ⟨name, named, nul⟩ : ∃ name ∈ parts, '\x00' ∈ name.toList := by
      simpa [FilePath.hasNul] using nul
    exact within_throw (.nul named nul) w'
  · apply Within.bind (within_query _ w')
    intro found _
    split
    · exact within_pure () _
    · exact within_throw (.refused _ _) _
    · exact within_throw (.refused _ _) _

theorem refused_of_outcome {fault : CallFault}
    (h : (outcome (makeDirectory { anchor, parts }) w).1 = .ok (.error fault)) :
    w.disk.makeDirectory w.host.cwd { anchor, parts } = .error fault := by
  rw [outcome_makeDirectory] at h
  cases tried : w.disk.makeDirectory w.host.cwd { anchor, parts } with
  | ok made =>
    rw [tried] at h
    cases h
  | error other =>
    rw [tried] at h
    cases h
    rfl

theorem within_makeDirectories (made : ∀ place, events (.directoryMade place)) (anchor : Anchor)
    (parts : List String) (w : World) :
    Within events (Unmade parts) (makeDirectories anchor parts) w := by
  induction size : parts.length using Nat.strongRecOn generalizing parts w with
  | ind n ih =>
    rw [makeDirectories]
    apply Within.bind (within_makeDirectory made _ w)
    intro result first
    split
    · exact within_pure () _
    · split
      · exact within_throw (.refused _ _) _
      · next above =>
        -- the directory above it comes first
        have shorter : parts.dropLast.length < n := by
          have := List.length_pos_iff.2 above
          rw [List.length_dropLast]
          omega
        apply Within.bind ((ih _ shorter parts.dropLast _ rfl).mono (fun _ h => h) fun _ => .of_above)
        intro _ _
        apply Within.bind (within_makeDirectory made _ _)
        intro result second
        split
        · exact within_pure () _
        · exact within_throw (.refused _ _) _
        · exact within_excuse (refused_of_outcome second) _
    · exact within_excuse (refused_of_outcome first) _

theorem reportable_makeDirectories (made : ∀ place, events (.directoryMade place))
    (anchor : Anchor) (parts : List String) (w : World) :
    Within events Failure.Reportable (makeDirectories anchor parts) w :=
  (within_makeDirectories made anchor parts w).mono (fun _ h => h) fun _ => Unmade.reportable

/-- Why a report directory cannot be had. All but the causes named here are reported. -/
inductive RootLost (root : Setting) (w : World) : Failure → Prop where
  | reported {failure : Failure} : failure.Reportable → RootLost root w failure
  | noPath {fault : ValueFault} : root.toPath = .error fault → RootLost root w (.value fault)
  | noHome {p : FilePath} : root.toPath = .ok p → p.LosesHome w.host .noHome → RootLost root w .noHome
  | linkLoop {p q : FilePath} : root.toPath = .ok p → (outcome (expandHome p) w).1 = .ok q →
      w.disk.entryAt w.host.cwd (w.disk.canonical w.host.cwd q) = .error (.errno .tooManyLinks) →
      RootLost root w (.linkLoop (w.disk.canonical w.host.cwd q))

theorem within_makeRoot (directory : FilePath) (w : World) :
    Within Event.Prepares Failure.Reportable (makeRoot directory) w := by
  unfold makeRoot
  refine Within.bind (Within.tryCatch (reportable_makeDirectories (fun _ => trivial) _ _ w) ?_)
    fun _ _ => Within.bind (within_query _ _) ?_
  · intro failure reportable
    split
    · exact within_throw (.of_problem rfl) _
    · exact within_throw reportable _
  · intro usable _
    split
    · exact within_pure _ _
    · exact within_throw (.of_problem rfl) _

/-- Why a report directory cannot be settled at a path. All but a loop of links is reported. -/
inductive Unsettled (q : FilePath) (w : World) : Failure → Prop where
  | reported {failure : Failure} : failure.Reportable → Unsettled q w failure
  | linkLoop : w.disk.entryAt w.host.cwd (w.disk.canonical w.host.cwd q) =
      .error (.errno .tooManyLinks) → Unsettled q w (.linkLoop (w.disk.canonical w.host.cwd q))

theorem within_settleRoot (q : FilePath) (w : World) :
    Within Event.Prepares (Unsettled q w) (settleRoot q) w := by
  have unsettled {failure : Failure} (declined : Declined q w failure) : Unsettled q w failure := by
    cases declined with
    | unencodable _ | nul _ _ => exact .reported (.of_value rfl)
    | linkLoop _ loop => exact .linkLoop loop
    | refused _ _ _ => exact .reported (.of_system rfl)
    | taken _ _ _ => exact .reported (.of_problem rfl)
  rcases declined_or_made q w with ⟨failure, declined, stopped⟩ | ⟨-, made⟩
  · refine within_of_outcome _ [] stopped nofun ?_
    rintro _ ⟨⟩
    exact unsettled declined
  · exact ((within_makeRoot _ w).mono (fun _ h => h) fun _ => .reported).of_outcome_eq made

theorem within_prepareRoot (root : Setting) (w : World) :
    Within Event.Prepares (RootLost root w) (prepareRoot root) w := by
  unfold prepareRoot preparePath
  cases named : root.toPath with
  | error fault => exact Within.bind (within_throw (.noPath named) w) nofun
  | ok p =>
    apply Within.bind (within_pure p w)
    rintro _ ⟨⟩
    have expanded : Within Event.Prepares (RootLost root w) (expandHome p) w := by
      refine (within_expandHome p w).mono (fun _ h => h) ?_
      rintro failure ⟨user, tilde, lost⟩
      cases lost with
      | unencodable _ | nul _ _ => exact .reported (.of_value rfl)
      | unknown no_flaw no_nul unknown =>
        exact .noHome named ⟨user, tilde, .unknown no_flaw no_nul unknown⟩
    apply Within.bind expanded
    intro q there
    rw [outcome_expandHome]
    refine (within_settleRoot q w).mono (fun _ h => h) ?_
    intro failure unsettled
    cases unsettled with
    | reported reportable => exact .reported reportable
    | linkLoop loop => exact .linkLoop named there loop

end Directories

section Filing

variable (table : Table) (directory : FilePath) (title : String) (format : ReportFormat)
    (name : List Text.Letter)

theorem reports_writeFile {causes : Failure → Prop} (place : Place) {octets : List UInt8}
    (h : IsReport table octets) (w : World) :
    Within (Event.Reports table) causes (writeFile place octets) w := by
  have report : (Event.fileWritten place octets).Reports table := h
  exact within_writeFile report w

theorem reports_log {causes : Failure → Prop} (level : Level) (text : String) (w : World) :
    Within (Event.Reports table) causes (log level text) w := by
  have silent : (Event.logged level text).Reports table := trivial
  exact within_log silent w

theorem within_writeCsv (w : World) :
    Within (Event.Reports table) Failure.Reportable (writeCsv table (reportBase directory) title) w := by
  unfold writeCsv
  rw [reportPath_base, pure_bind]
  apply Within.bind (reportable_makeDirectories (fun _ => trivial) _ _ w)
  intro _ _
  apply Within.bind (within_openFile (fun _ => trivial) _ _)
  intro opened _
  cases opened with
  | error fault => exact within_throw (Failure.reportable_ofCall _ _) _
  | ok place =>
    apply Within.bind (reports_writeFile table _ (.inl rfl) _)
    intro _ _
    exact Within.bind (reports_log table _ _ _) fun _ _ => within_pure _ _

theorem within_fillMat (place : Place) (w : World) :
    Within (Event.Reports table)
      (fun failure => failure.Reportable ∨ failure = .emptyVariableName ∧ name = [])
      (fillMat table place name) w := by
  unfold fillMat
  apply Within.bind (reports_writeFile table _ (.inr (.inl List.prefix_rfl)) w)
  intro _ _
  split
  · exact within_throw (.inr ⟨rfl, rfl⟩) _
  · exact within_pure () _
  · apply Within.bind (within_ofExcept _ _)
    · exact fun octets _ => reports_writeFile table _ (.inr (.inl (List.prefix_append _ _))) _
    · exact fun u _ => .inl (.of_value rfl)

theorem within_writeMat (w : World) :
    Within (Event.Reports table)
      (fun failure => failure.Reportable ∨ failure = .emptyVariableName ∧ name = [])
      (writeMat table (reportBase directory) title name) w := by
  unfold writeMat
  rw [reportPath_base, pure_bind]
  apply Within.bind
    ((reportable_makeDirectories (fun _ => trivial) _ _ w).mono (fun _ h => h) fun _ => .inl)
  intro _ _
  apply Within.bind (within_openFile (fun _ => trivial) _ _)
  intro opened _
  split
  · exact within_throw (.inl (.of_system rfl)) _
  · exact within_throw (.inl (Failure.reportable_ofCall _ _)) _
  · apply Within.bind (within_fillMat table name _ _)
    intro _ _
    exact Within.bind (reports_log table _ _ _) fun _ _ => within_pure _ _

theorem within_savePlot (w : World) :
    Within (Event.Reports table)
      (fun failure => failure.Reportable ∨
        failure = .plot .infiniteTick ∧ Plot.check table = .error .infiniteTick)
      (savePlot table directory) w := by
  unfold savePlot
  split
  · exact Within.bind (reports_log table _ _ w) fun _ _ => within_pure _ _
  · apply Within.bind
      ((reportable_makeDirectories (fun _ => trivial) _ _ w).mono (fun _ h => h) fun _ => .inl)
    intro _ _
    refine Within.bind (within_ofExcept ?_ _) ?_
    · intro fault checked
      cases fault with
      | noTicks => exact .inl (.of_value rfl)
      | infiniteTick => exact .inr ⟨rfl, checked⟩
    · intro _ _
      apply Within.bind (within_openFile (fun _ => trivial) _ _)
      intro opened _
      cases opened with
      | error fault => exact within_throw (.inl (Failure.reportable_ofCall _ _)) _
      | ok place =>
        apply Within.bind (reports_writeFile table _ (.inr (.inr rfl)) _)
        intro _ _
        exact Within.bind (reports_log table _ _ _) fun _ _ => within_pure _ _

/-- Why the reports of a table cannot be filed. All but the causes named here are reported. -/
inductive FilesLost (plan : Plan) (table : Table) : Failure → Prop where
  | reported {failure : Failure} : failure.Reportable → FilesLost plan table failure
  | noName {failure : Failure} : plan.variableName = .error failure → FilesLost plan table failure
  | emptyName : plan.format.HasMat → plan.variableName = .ok [] →
      FilesLost plan table .emptyVariableName
  | infiniteTick : plan.plot = true → Plot.check table = .error .infiniteTick →
      FilesLost plan table (.plot .infiniteTick)

theorem within_writeFiles (plan : Plan) (w : World) :
    Within (Event.Reports table) (FilesLost plan table) (writeFiles plan table directory) w := by
  rw [writeFiles_eq]
  cases named : plan.variableName with
  | error failure => exact Within.bind (within_throw (.noName named) w) nofun
  | ok name =>
    apply Within.bind (within_pure name w)
    rintro _ ⟨⟩
    refine Within.bind (Within.map _ ?_) ?_
    · rw [writeReports_eq, csvStep, matStep]
      refine Within.bind ?_ fun first _ => Within.bind ?_ fun second _ => within_pure _ _
      · split
        · exact ((within_writeCsv table directory _ _).mono (fun _ h => h) fun _ => .reported).map _
        · exact within_pure _ _
      · split
        · next mat =>
          refine ((within_writeMat table directory _ name _).mono (fun _ h => h) ?_).map _
          rintro failure (reportable | ⟨rfl, rfl⟩)
          · exact .reported reportable
          · exact .emptyName mat named
        · exact within_pure _ _
    · intro _ _
      rw [plotStep]
      split
      · next plotted =>
        refine ((within_savePlot table directory _).mono (fun _ h => h) ?_).map _
        rintro failure (reportable | ⟨rfl, checked⟩)
        · exact .reported reportable
        · exact .infiniteTick plotted checked
      · exact within_pure _ _

end Filing

end Action

end PeakSlowness
