import PeakSlowness.Proofs.Disk.Touched
import PeakSlowness.Proofs.Latest
import PeakSlowness.Proofs.Order
import PeakSlowness.Proofs.ReportRoot
import PeakSlowness.Proofs.Sweep
import PeakSlowness.Proofs.Table

set_option autoImplicit false

/-!
What a summary touches, whatever it comes to. Preparing a report directory makes nothing but directories on
the way to it, also where it fails half-way. Behind that, the directory is there for good, and each writer
opens one file in it and writes to that one; without links in the directory the file is where its name is.
-/

namespace PeakSlowness

open Text (Letter)
open Disk (IsName Touch)

/-- Nothing has been touched but what is on the way to a report directory and files with some names in it. -/
structure World.Touched (root : FilePath) (names : String → Prop) (w w' : World) : Prop where
  host : w'.host = w.host
  disk : Disk.Touched w.host.cwd root names w.disk w'.disk

/-- Where a value leads as a report directory, if it is a path and its home directory is known. -/
def World.reportRoot? (w : World) (value : Setting) : Option FilePath :=
  match value.toPath with
  | .error _ => none
  | .ok p =>
    match p.expanded w.host with
    | .error _ => none
    | .ok q => some (w.disk.canonical w.host.cwd q)

/-- There are no links in a directory, if that is there. -/
def World.Unlinked (w : World) (root : FilePath) : Prop :=
  ∀ here, w.disk.locate w.host.cwd .find root = .ok (.taken here .directory) →
    ∀ name target, w.disk.find? (here ++ [name]) ≠ some (.link target)

/-- A report directory is there, in a tree, and there are no links in it. -/
structure World.Rooted (root : FilePath) (here : Place) (w : World) : Prop where
  tree : w.disk.IsTree w.host.cwd
  there : w.disk.locate w.host.cwd .find root = .ok (.taken here .directory)
  no_link : ∀ name target, w.disk.find? (here ++ [name]) ≠ some (.link target)

variable {root : FilePath} {names : String → Prop} {w w' w'' : World} {here : Place}

namespace World.Touched

theorem of_same (host : w'.host = w.host) (disk : w'.disk = w.disk)
    (tree : w.disk.IsTree w.host.cwd) : w.Touched root names w' where
  host := host
  disk := by
    rw [disk]
    exact .refl tree

theorem trans (h : w.Touched root names w') (h' : w'.Touched root names w'') :
    w.Touched root names w'' :=
  ⟨h'.host.trans h.host, h.disk.trans (h.host ▸ h'.disk)⟩

theorem tree (h : w.Touched root names w') : w'.disk.IsTree w'.host.cwd := h.host ▸ h.disk.tree

theorem leads {p : FilePath} {place : Place} (h : w.Touched root names w')
    (leads : w.disk.LeadsTo w.host.cwd p place) : w'.disk.LeadsTo w'.host.cwd p place :=
  h.host ▸ h.disk.leads p place leads

theorem rooted (h : w.Touched root names w') (rooted : w.Rooted root here) : w'.Rooted root here where
  tree := h.tree
  there := h.host ▸ h.disk.stays root here rooted.there
  no_link name target link := rooted.no_link name target (h.disk.link link)

end World.Touched

namespace World.Filed

variable {files : List (String × List UInt8)}

theorem touched (h : w.Filed root files w') (rooted : w.Rooted root here)
    (named : ∀ f ∈ files, IsName f.1 ∧ names f.1) : w.Touched root names w' := by
  induction h with
  | done host disk => exact .of_same host disk rooted.tree
  | @file w w₁ w' place name octets files fits host put leads later ih =>
    have step : Filed root w [(name, octets)] w₁ := .file fits host put leads (.done rfl rfl)
    obtain ⟨hn, wanted⟩ := named _ List.mem_cons_self
    -- as the name is no link, the file is in the directory itself
    obtain rfl := leads.eq_child (step.there rooted.there) hn (step.no_link (rooted.no_link name))
    have first : w.Touched root names w₁ :=
      ⟨host, put ▸ Disk.touched_of_file rooted.tree rooted.there hn wanted fits⟩
    exact first.trans (ih (first.rooted rooted) fun f hf => named f (List.mem_cons_of_mem _ hf))

/-- Behind the writing, each name leads to a file. -/
theorem leadsTo_of_mem (h : w.Filed root files w') {f : String × List UInt8} (hf : f ∈ files) :
    ∃ place, w'.disk.LeadsTo w'.host.cwd (root.child f.1) place := by
  induction h with
  | done _ _ => exact absurd hf List.not_mem_nil
  | @file w w₁ w' place name octets files fits host put leads later ih =>
    rcases List.mem_cons.1 hf with rfl | hf
    · exact ⟨place, later.leads leads⟩
    · exact ih hf

end World.Filed

namespace Action

variable {α β : Type} {x : Action α}

/-- An action touches nothing else, whatever it comes to. -/
def Touches (root : FilePath) (names : String → Prop) (x : Action α) (w : World) : Prop :=
  w.Touched root names (outcome x w).2

theorem touches_of_world (same : (outcome x w).2 = w) (tree : w.disk.IsTree w.host.cwd) :
    Touches root names x w :=
  .of_same (congrArg World.host same) (congrArg World.disk same) tree

theorem Says.touches {result : Except Failure α} {texts : List String} (h : Says x w result texts)
    (tree : w.disk.IsTree w.host.cwd) : Touches root names x w :=
  .of_same h.host h.disk tree

theorem Touches.bind {f : α → Action β} (hx : Touches root names x w)
    (hf : ∀ a w', outcome x w = (.ok a, w') → w.Touched root names w' →
      Touches root names (f a) w') : Touches root names (x >>= f) w := by
  have run := outcome_bind x f w
  unfold Touches at hx ⊢
  rcases h : outcome x w with ⟨failure | a, w'⟩
  · rw [h] at run hx
    rw [run]
    exact hx
  · rw [h] at run hx
    rw [run]
    exact hx.trans (hf a w' h hx)

theorem Touches.map (f : α → β) (hx : Touches root names x w) : Touches root names (f <$> x) w := by
  unfold Touches at hx ⊢
  rw [outcome_map]
  exact hx

section Preparing

variable {parts : List String} {directory : FilePath} {value : Setting}

theorem touches_makeDirectory (tree : w.disk.IsTree w.host.cwd) (up_to : parts <+: root.parts) :
    Touches root names (makeDirectory { anchor := root.anchor, parts }) w := by
  unfold Touches
  rw [outcome_makeDirectory]
  cases made : w.disk.makeDirectory w.host.cwd { anchor := root.anchor, parts } with
  | error fault => exact .of_same rfl rfl tree
  | ok result => exact ⟨rfl, Disk.touched_of_made tree up_to made⟩

theorem world_of_excuse (p : FilePath) (fault : CallFault) (w : World) :
    (outcome (excuse p fault) w).2 = w := by
  cases fault with
  | unencodable u => rfl
  | nul => rfl
  | errno e =>
    rw [excuse, outcome_bind_of_ok (outcome_query _ w)]
    split
    · rfl
    · rfl
    · rfl

/-- Directories that are made before one fails are on the way as well. -/
theorem touches_makeDirectories (tree : w.disk.IsTree w.host.cwd) (up_to : parts <+: root.parts) :
    Touches root names (makeDirectories root.anchor parts) w := by
  induction size : parts.length using Nat.strongRecOn generalizing parts w with
  | ind n ih =>
    rw [makeDirectories]
    refine (touches_makeDirectory tree up_to).bind fun made w₁ _ first => ?_
    split
    · exact (says_pure () w₁).touches first.tree
    · split
      · exact (says_throw _ w₁).touches first.tree
      · next above =>
        -- the directory above it comes first
        have shorter : parts.dropLast.length < n := by
          have := List.length_pos_iff.2 above
          rw [List.length_dropLast]
          omega
        have up_to' := (List.dropLast_prefix parts).trans up_to
        refine (ih _ shorter first.tree up_to' rfl).bind fun _ w₂ _ second => ?_
        refine (touches_makeDirectory second.tree up_to).bind fun made w₃ _ third => ?_
        split
        · exact (says_pure () w₃).touches third.tree
        · exact (says_throw _ w₃).touches third.tree
        · exact touches_of_world (world_of_excuse _ _ w₃) third.tree
    · exact touches_of_world (world_of_excuse _ _ w₁) first.tree

theorem world_of_makeRoot (root : FilePath) (w : World) :
    (outcome (makeRoot root) w).2 = (outcome (makeDirectories root.anchor root.parts) w).2 := by
  rw [outcome_makeRoot]
  rcases outcome (makeDirectories root.anchor root.parts) w with ⟨failure | _, w'⟩
  · cases failure <;> rfl
  · rfl

theorem touches_makeRoot (tree : w.disk.IsTree w.host.cwd) : Touches root names (makeRoot root) w := by
  unfold Touches
  rw [world_of_makeRoot]
  exact touches_makeDirectories tree List.prefix_rfl

theorem touches_settleRoot (tree : w.disk.IsTree w.host.cwd) (q : FilePath) :
    Touches (w.disk.canonical w.host.cwd q) names (settleRoot q) w := by
  rcases declined_or_made q w with ⟨failure, -, stopped⟩ | ⟨-, made⟩
  · exact touches_of_world (congrArg Prod.snd stopped) tree
  · unfold Touches
    rw [made]
    exact touches_makeRoot tree

theorem reportRoot?_eq_some_iff :
    w.reportRoot? value = some directory ↔ ∃ p q, value.toPath = .ok p ∧
      p.expanded w.host = .ok q ∧ directory = w.disk.canonical w.host.cwd q := by
  unfold World.reportRoot?
  constructor
  · intro h
    split at h
    · cases h
    · next p named =>
      split at h
      · cases h
      · next q home =>
        cases h
        exact ⟨p, q, named, home, rfl⟩
  · rintro ⟨p, q, named, home, rfl⟩
    rw [named]
    dsimp only
    rw [home]

theorem world_of_prepareRoot (h : w.reportRoot? value = none) :
    (outcome (prepareRoot value) w).2 = w := by
  have lost {p q : FilePath} (named : value.toPath = .ok p) : p.expanded w.host ≠ .ok q := by
    intro home
    rw [reportRoot?_eq_some_iff.2 ⟨p, q, named, home, rfl⟩] at h
    cases h
  cases named : value.toPath with
  | error fault =>
    rw [prepareRoot, named]
    rfl
  | ok p =>
    cases home : p.expanded w.host with
    | error failure =>
      rw [outcome_prepareRoot named, preparePath, outcome_bind_of_error]
      rw [outcome_expandHome, home]
    | ok q => exact absurd home (lost named)

theorem touches_prepareRoot (tree : w.disk.IsTree w.host.cwd)
    (h : w.reportRoot? value = some directory) : Touches directory names (prepareRoot value) w := by
  obtain ⟨p, q, named, home, rfl⟩ := reportRoot?_eq_some_iff.1 h
  unfold Touches
  rw [outcome_prepareRoot named, outcome_preparePath home]
  exact touches_settleRoot tree q

theorem reportRoot?_of_prepared (h : outcome (prepareRoot value) w = (.ok directory, w')) :
    w.reportRoot? value = some directory := by
  cases named : value.toPath with
  | error fault =>
    rw [prepareRoot, named] at h
    cases h
  | ok p =>
    rw [outcome_prepareRoot named] at h
    obtain ⟨q, home, same, -⟩ := makes_of_preparePath h
    exact reportRoot?_eq_some_iff.2 ⟨p, q, named, home, same⟩

/-- A directory that has just been made is empty. -/
theorem rooted_of_settled (tree : w.disk.IsTree w.host.cwd) (unlinked : w.Unlinked directory)
    (host : w'.host = w.host) (settled : Disk.Settled w.host.cwd directory here w.disk w'.disk) :
    w'.Rooted directory here := by
  refine ⟨host ▸ settled.tree, host ▸ settled.there, fun name target => ?_⟩
  rw [settled.below]
  rcases settled.fresh with same | free
  · exact unlinked here (same ▸ settled.there) name target
  · rw [tree.nothing_below (by rw [free]; exact nofun)]
    exact nofun

end Preparing

section Writing

variable {table : Table} {title name : String} {letters : List Letter} {place : Place}

theorem touches_openFile (rooted : w.Rooted root here) (hn : IsName name) (wanted : names name) :
    Touches root names (openFile (root.child name)) w := by
  unfold Touches
  cases tried : w.disk.openToWrite w.host.cwd (root.child name) with
  | error fault =>
    rw [outcome_openFile_of_refused tried]
    exact .of_same rfl rfl rooted.tree
  | ok result =>
    obtain ⟨place, disk⟩ := result
    have opened := outcome_openFile_of_opened tried
    obtain ⟨-, rfl, -⟩ := Disk.leadsTo_of_openToWrite tried
    rw [opened]
    have emptied := filed_of_openFile opened rfl (Disk.put_put w.disk place _ (.file [])).symm
    exact emptied.touched rooted (List.forall_mem_singleton.2 ⟨hn, wanted⟩)

theorem touches_writeFile (rooted : w.Rooted root here) (hn : IsName name) (wanted : names name)
    (leads : w.disk.LeadsTo w.host.cwd (root.child name) place) (octets : List UInt8) :
    Touches root names (writeFile place octets) w := by
  obtain ⟨before, file⟩ := leads.exists_file
  have fits := Disk.Fits.file_of_file file octets
  let w₁ := (outcome (writeFile place octets) w).2
  have host : w₁.host = w.host := rfl
  have put : w₁.disk = w.disk.put place (.file octets) := rfl
  have filed : w.Filed root [(name, octets)] w₁ :=
    .file fits host put (leads.put fits) (.done rfl rfl)
  exact filed.touched rooted (List.forall_mem_singleton.2 ⟨hn, wanted⟩)

/-- A wanted file is opened, and what follows has its place. -/
theorem touches_opening {f : Except CallFault Place → Action α} (rooted : w.Rooted root here)
    (hn : IsName name) (wanted : names name)
    (refused : ∀ fault w', w'.disk.IsTree w'.host.cwd → Touches root names (f (.error fault)) w')
    (opened : ∀ place w', w'.Rooted root here →
      w'.disk.LeadsTo w'.host.cwd (root.child name) place → Touches root names (f (.ok place)) w') :
    Touches root names (openFile (root.child name) >>= f) w := by
  refine (touches_openFile rooted hn wanted).bind fun tried w' opening first => ?_
  cases tried with
  | error fault => exact refused fault w' first.tree
  | ok place => exact opened place w' (first.rooted rooted) (leadsTo_of_opened opening)

theorem touches_logged (tree : w.disk.IsTree w.host.cwd) (level : Level) (text : String) (a : α) :
    Touches root names (log level text >>= fun _ => pure a) w :=
  ((says_log level text w).then (says_pure a _)).touches tree

theorem touches_writeCsv (rooted : w.Rooted root here) (wanted : names Report.csv.fileName) :
    Touches root names (writeCsv table (reportBase root) title) w := by
  have proper := Report.csv.isName_fileName
  unfold Touches writeCsv
  rw [outcome_inDirectory (outcome_makeDirectories_of_there rooted.there)]
  refine touches_opening rooted proper wanted (fun fault w₁ tree => ?_) fun place w₁ rooted leads => ?_
  · exact (says_throw _ w₁).touches tree
  · refine (touches_writeFile rooted proper wanted leads _).bind fun _ w₂ _ second => ?_
    exact touches_logged second.tree _ _ _

theorem touches_fillMat (rooted : w.Rooted root here) (wanted : names Report.mat.fileName)
    (leads : w.disk.LeadsTo w.host.cwd (root.child Report.mat.fileName) place) :
    Touches root names (fillMat table place letters) w := by
  have proper := Report.mat.isName_fileName
  unfold fillMat
  refine (touches_writeFile rooted proper wanted leads _).bind fun _ w₁ _ first => ?_
  split
  · exact (says_throw _ w₁).touches first.tree
  · exact (says_pure () w₁).touches first.tree
  · refine ((says_ofExcept _ _ w₁).touches first.tree).bind fun octets w₂ _ second => ?_
    exact touches_writeFile (second.rooted (first.rooted rooted)) proper wanted
      (second.leads (first.leads leads)) _

theorem touches_writeMat (rooted : w.Rooted root here) (wanted : names Report.mat.fileName) :
    Touches root names (writeMat table (reportBase root) title letters) w := by
  have proper := Report.mat.isName_fileName
  unfold Touches writeMat
  rw [outcome_inDirectory (outcome_makeDirectories_of_there rooted.there)]
  refine touches_opening rooted proper wanted (fun fault w₁ tree => ?_) fun place w₁ rooted leads => ?_
  · cases fault with
    | unencodable u => exact (says_throw _ w₁).touches tree
    | nul => exact (says_throw _ w₁).touches tree
    | errno e => exact (says_throw _ w₁).touches tree
  · refine (touches_fillMat rooted wanted leads).bind fun _ w₂ _ second => ?_
    exact touches_logged second.tree _ _ _

theorem touches_savePlot (rooted : w.Rooted root here) (wanted : names plotFileName) :
    Touches root names (savePlot table root) w := by
  have proper := isName_plotFileName
  unfold savePlot
  split
  · exact touches_logged rooted.tree _ _ _
  · have made : Touches root names (makeDirectories root.anchor root.parts) w :=
      touches_makeDirectories rooted.tree List.prefix_rfl
    refine made.bind fun _ w₁ _ first => ?_
    refine ((says_ofExcept _ _ w₁).touches first.tree).bind fun _ w₂ _ second => ?_
    refine touches_opening (second.rooted (first.rooted rooted)) proper wanted
      (fun fault w₃ tree => ?_) fun place w₃ rooted leads => ?_
    · exact (says_throw _ w₃).touches tree
    · refine (touches_writeFile rooted proper wanted leads plotOctets).bind fun _ w₄ _ fourth => ?_
      exact touches_logged fourth.tree _ _ _

end Writing

end Action

/-- The files that a plan asks for. -/
inductive Plan.Wants (plan : Plan) : String → Prop where
  | report (r : Report) (has : plan.format.Has r) : plan.Wants r.fileName
  | plot (asked : plan.plot = true) : plan.Wants plotFileName

namespace Action

variable {plan : Plan} {table : Table}

theorem touches_writeFiles (rooted : w.Rooted root here) :
    Touches root plan.Wants (writeFiles plan table root) w := by
  rw [writeFiles_eq]
  refine ((says_ofExcept _ _ w).touches rooted.tree).bind fun letters w₁ _ first => ?_
  have rooted₁ := first.rooted rooted
  have reports : Touches root plan.Wants
      (writeReports table (reportBase root) reportTitle plan.format letters) w₁ := by
    rw [writeReports_eq]
    have csv : Touches root plan.Wants (csvStep table root reportTitle plan.format) w₁ := by
      unfold csvStep
      split
      · next has => exact (touches_writeCsv rooted₁ (.report .csv has)).map _
      · exact (says_pure _ w₁).touches rooted₁.tree
    refine csv.bind fun paths w₂ _ second => ?_
    have mat : Touches root plan.Wants (matStep table root reportTitle plan.format letters) w₂ := by
      unfold matStep
      split
      · next has => exact (touches_writeMat (second.rooted rooted₁) (.report .mat has)).map _
      · exact (says_pure _ w₂).touches second.tree
    exact mat.bind fun more w₃ _ third => (says_pure _ w₃).touches third.tree
  refine (reports.map _).bind fun _ w₂ _ second => ?_
  unfold plotStep
  split
  · next asked => exact (touches_savePlot (second.rooted rooted₁) (.plot asked)).map _
  · exact (says_pure () w₂).touches second.tree

variable {apps : List Application} {cfg value : Setting} {directory : FilePath}

/-- All that a summary touches is on the way to its report directory or wanted in it. -/
theorem touches_summarize (hp : Plan.ofConfig cfg = .ok plan) (hr : plan.root = some value)
    (tree : w.disk.IsTree w.host.cwd) (h : w.reportRoot? value = some directory)
    (unlinked : w.Unlinked directory) : Touches directory plan.Wants (summarize apps cfg) w := by
  rw [summarize_eq hp, hr]
  refine ((touches_prepareRoot tree h).map some).bind fun found w₁ found_eq first => ?_
  obtain ⟨directory', prepared, rfl⟩ := outcome_map_eq_ok_iff.1 found_eq
  obtain rfl : directory = directory' :=
    Option.some.inj (h.symm.trans (reportRoot?_of_prepared prepared))
  obtain ⟨host, here, settled⟩ := settled_of_prepareRoot tree prepared
  have rooted := rooted_of_settled tree unlinked host settled
  refine ((says_warning plan _ w₁).touches first.tree).bind fun _ w₂ _ second => ?_
  refine ((says_printing plan.sweep apps w₂).touches second.tree).bind fun table w₃ _ third => ?_
  have files : Touches directory plan.Wants (writeFiles plan table directory) w₃ :=
    touches_writeFiles (third.rooted (second.rooted rooted))
  exact files.bind fun _ w₄ _ fourth => (says_pure table w₄).touches fourth.tree

theorem world_of_summarize (hp : Plan.ofConfig cfg = .ok plan) (hr : plan.root = some value)
    (h : w.reportRoot? value = none) : (outcome (summarize apps cfg) w).2 = w := by
  have stopped := world_of_prepareRoot h
  rcases prepared : outcome (prepareRoot value) w with ⟨failure | directory, w'⟩
  · rw [prepared] at stopped
    rw [outcome_summarize_of_unrooted hp hr prepared]
    exact stopped
  · rw [reportRoot?_of_prepared prepared] at h
    cases h

theorem returns_of_summarize (hp : Plan.ofConfig cfg = .ok plan) (hr : plan.root = some value)
    (h : w.reportRoot? value = some directory)
    (run : outcome (summarize apps cfg) w = (.ok table, w')) :
    Call.Returns directory ⟨apps, cfg, plan, table⟩ w w' := by
  have steps := run
  rw [summarize_eq hp, hr] at steps
  obtain ⟨found, w₁, found_eq, -⟩ := outcome_bind_eq_ok_iff.1 steps
  obtain ⟨directory', prepared, -⟩ := outcome_map_eq_ok_iff.1 found_eq
  obtain rfl : directory = directory' :=
    Option.some.inj (h.symm.trans (reportRoot?_of_prepared prepared))
  exact ⟨hp, ⟨value, w₁, hr, prepared⟩, run⟩

end Action

namespace Plan

variable {plan : Plan} {table : Table} {name : String}

theorem Wants.isName (h : plan.Wants name) : IsName name := by
  cases h with
  | report r _ => exact r.isName_fileName
  | plot _ => exact isName_plotFileName

theorem Wants.exists_mem_files (h : plan.Wants name) (rows : table.rows.isEmpty = false) :
    ∃ octets, (name, octets) ∈ plan.files table := by
  cases h with
  | report r has =>
    have listed : r ∈ [Report.csv, Report.mat].filter plan.format.Has := by
      refine List.mem_filter.2 ⟨?_, decide_eq_true has⟩
      cases r <;> decide
    exact ⟨_, List.mem_append_left _ (List.mem_map.2 ⟨r, listed, rfl⟩)⟩
  | plot asked =>
    refine ⟨plotOctets, List.mem_append_right _ ?_⟩
    rw [if_pos (by rw [asked, rows]; rfl)]
    exact List.mem_singleton_self _

end Plan

/-- A sweep has a checkpoint, so a table has a row. -/
theorem rows_of_series {apps : List Application} {s : Sweep} {table : Table}
    (h : Table.ofSeries? (series apps s) = some table) : table.rows.isEmpty = false := by
  have some := s.isGrid_times.ne_nil
  rw [Table.rows_of_ofSeries? h, series]
  simpa using some

/-- Behind a call that returns, every file is there that is asked for. -/
theorem Call.Returns.exists_files {directory : FilePath} {c : Call}
    (h : c.Returns directory w w') (tree : w.disk.IsTree w.host.cwd)
    (unlinked : w.Unlinked directory) :
    ∃ here, w'.disk.locate w'.host.cwd .find directory = .ok (.taken here .directory) ∧
      ∀ name, c.plan.Wants name → ∃ octets, w'.disk.find? (here ++ [name]) = some (.file octets) := by
  have rows := rows_of_series h.steps.1
  obtain ⟨here, w₁, host, settled, filed⟩ := h.settled tree
  have rooted := Action.rooted_of_settled tree unlinked host settled
  have there := filed.there rooted.there
  refine ⟨here, there, fun name wanted => ?_⟩
  obtain ⟨octets, listed⟩ := wanted.exists_mem_files rows
  obtain ⟨place, leads⟩ := filed.leadsTo_of_mem listed
  obtain rfl := leads.eq_child there wanted.isName (filed.no_link (rooted.no_link name))
  exact leads.exists_file

/-- The entry of the output section with a name, or what stands for it. -/
def Setting.outputEntry (cfg : Setting) (name : String) (otherwise : Setting) :
    Except ValueFault Setting := do
  (← cfg.sectionAt "output").getD name otherwise

theorem Plan.root_of_ofConfig {cfg value : Setting} {plan : Plan} (h : ofConfig cfg = .ok plan)
    (entry : cfg.outputEntry "root" (.scalar .null) = .ok value) :
    plan.root = if value.truthy then some value else none := by
  obtain ⟨output, there, read⟩ := bind_eq_ok_iff.1 entry
  obtain ⟨sweep, -, h⟩ := bind_eq_ok_iff.1 h
  rw [there, mapError_ok, ok_bind] at h
  obtain ⟨format, -, h⟩ := bind_eq_ok_iff.1 h
  obtain ⟨plot, -, h⟩ := bind_eq_ok_iff.1 h
  rw [read, mapError_ok, ok_bind] at h
  cases h
  rfl

/-- A matrix report whose variable has a name that is not written, and a plot. -/
def matAndPlot : Setting :=
  .map
    [(.text "checkpoints", .map [Config.entry "start" (.int 0), Config.entry "end" (.int 0)]),
     (.text "output",
       .map [Config.entry "root" (.text "/o"), Config.entry "format" (.text "mat"),
         Config.entry "mat_variable" (.text "_x"), Config.entry "plot" (.bool true)])]

theorem matAndPlot_plan :
    ∃ plan, Plan.ofConfig matAndPlot = .ok plan ∧
      plan.variableName = .ok [.char '_', .char 'x'] ∧ plan.root = some (.scalar (.text "/o")) ∧
      plan.format = .mat ∧ plan.plot = true ∧ plan.sweep = ⟨0, 0, 1000, by decide, by decide⟩ :=
  ⟨_, rfl, rfl, rfl, rfl, rfl, rfl⟩

/-- A file tree with nothing in it. -/
def bareWorld : World := ⟨⟨[], "", []⟩, ⟨[]⟩, []⟩

namespace Action

theorem locate_in_directoryO {disk : Disk} {name : String}
    (directory : disk.find? ["o"] = some .directory) (nothing : disk.find? ["o", name] = none)
    (proper : IsName name) (short : FileName.size name ≤ nameLimit)
    (searchable : disk.may = fun _ _ => true)
    (callable : (directoryO.child name).flaw = none ∧ (directoryO.child name).hasNul = false ∧
      (directoryO.child name).size ≤ pathLimit) :
    disk.locate [] .write (directoryO.child name) = .ok (.free ["o", name]) := by
  refine Disk.locate_eq_ok_iff.2 ⟨callable, ?_⟩
  apply Disk.Walks.enter ⟨by decide, fun both => ?_, by decide⟩ (by rw [searchable]) directory
  · exact Disk.Walks.free ⟨proper, by decide, short⟩ (by rw [searchable]) nothing
  · exact proper.1 (List.cons.inj both.2).1

/-- A matrix report is written if its file can be opened, also one that holds no variable. -/
theorem outcome_writeMat_of_opened {directory : FilePath} (table : Table) (title : String)
    (rest : List Letter)
    (made : outcome (makeDirectories directory.anchor directory.parts) w = (.ok (), w))
    {place : Place}
    (opened : w.disk.openToWrite w.host.cwd (matPath directory) =
      .ok (place, w.disk.put place (.file []))) :
    ∃ w', outcome (writeMat table (reportBase directory) title (.char '_' :: rest)) w =
        (.ok (matPath directory), w') ∧
      w'.host = w.host ∧ w'.disk = w.disk.put place (.file Matlab.fileHeader) := by
  unfold writeMat
  rw [outcome_inDirectory made]
  refine ⟨_, outcome_bind_of_ok (outcome_openFile_of_opened opened), rfl, ?_⟩
  exact Disk.put_put w.disk place _ _

theorem outcome_writeFiles_of_mat {plan : Plan} {table : Table} {directory : FilePath}
    {name : List Letter} {path : FilePath} (hn : plan.variableName = .ok name)
    (hf : plan.format = .mat)
    (written : outcome (writeMat table (reportBase directory) reportTitle name) w = (.ok path, w')) :
    outcome (writeFiles plan table directory) w = outcome (plotStep plan table directory) w' := by
  have csv : outcome (csvStep table directory reportTitle .mat) w = (.ok [], w) := rfl
  have mat : outcome (matStep table directory reportTitle .mat name) w = (.ok [path], w') := by
    rw [matStep, if_pos (by decide), outcome_map, written]
    rfl
  have reports : outcome (writeReports table (reportBase directory) reportTitle .mat name) w =
      (.ok [path], w') := by
    rw [writeReports_eq, outcome_bind_of_ok csv, outcome_bind_of_ok mat]
    rfl
  rw [← hf] at reports
  exact outcome_writeFiles_of_reports hn reports

/-- In an empty directory, the matrix report and the plot can be written. -/
theorem files_of_matAndPlot {plan : Plan} (hn : plan.variableName = .ok [.char '_', .char 'x'])
    (hf : plan.format = .mat) (plotted : plan.plot = true) (host : w.host = bareWorld.host)
    (disk : w.disk = (reportsIn []).disk) :
    ∃ w', outcome (writeFiles plan slowTable directoryO) w = (.ok (), w') := by
  have there : w.disk.locate w.host.cwd .find directoryO = .ok (.taken ["o"] .directory) := by
    rw [host, disk]
    cbv
  have free : w.disk.may = fun _ _ => true := by
    rw [disk]
    rfl
  have mat : w.disk.locate w.host.cwd .write (matPath directoryO) =
      .ok (.free ["o", "slowness.mat"]) := by
    rw [host, disk]
    exact locate_in_directoryO rfl rfl (by decide) (by decide +kernel) rfl ⟨rfl, by decide, by decide +kernel⟩
  obtain ⟨w₁, written, host₁, disk₁⟩ := outcome_writeMat_of_opened slowTable reportTitle [.char 'x']
    (outcome_makeDirectories_of_there there) (Disk.openToWrite_of_free (by rw [free]) mat)
  have fits := Disk.Fits.file_of_none (Disk.find?_of_locate_free mat) Matlab.fileHeader
  have there₁ := fits.stays there
  rw [← disk₁, ← host₁] at there₁
  have plot : w₁.disk.locate w₁.host.cwd .write (plotPath directoryO) =
      .ok (.free ["o", plotFileName]) := by
    rw [host₁, host, disk₁, disk]
    refine locate_in_directoryO ?_ ?_ isName_plotFileName (by decide) rfl
      ⟨rfl, by decide, by decide +kernel⟩
    · rw [Disk.find?_put_of_ne (by decide)]
      rfl
    · rw [Disk.find?_put_of_ne (by decide)]
      rfl
  have free₁ : w₁.disk.may ["o", plotFileName].dropLast .write := by
    rw [disk₁, Disk.may_put, free]
  obtain ⟨w₂, saved, -⟩ := outcome_savePlot_of_opened rfl check_slowTable
    (outcome_makeDirectories_of_there there₁) (Disk.openToWrite_of_free free₁ plot)
  refine ⟨w₂, ?_⟩
  rw [outcome_writeFiles_of_mat hn hf written, plotStep, if_pos plotted]
  change outcome ((fun _ => ()) <$> savePlot slowTable directoryO) w₁ = _
  rw [outcome_map, saved]
  rfl

/-- What a summary does to the file tree, whether it returns or fails. A rejected configuration and one without
a report directory leave it as it is, and so does a value that leads nowhere. Otherwise nothing is touched
but directories on the way and the files that are asked for, and these are there if it returns. -/
theorem summarize_touches_only (apps : List Application) (cfg : Setting) (w : World)
    (tree : w.disk.IsTree w.host.cwd) :
    ((∀ plan, Plan.ofConfig cfg ≠ .ok plan) → (outcome (summarize apps cfg) w).2.disk = w.disk) ∧
      ∀ value, cfg.outputEntry "root" (.scalar .null) = .ok value →
        (value.truthy = false → (outcome (summarize apps cfg) w).2.disk = w.disk) ∧
        ∀ plan, value.truthy = true → Plan.ofConfig cfg = .ok plan →
          (w.reportRoot? value = none → (outcome (summarize apps cfg) w).2.disk = w.disk) ∧
          ∀ directory, w.reportRoot? value = some directory → w.Unlinked directory →
            (∀ place, Touch w.host.cwd directory plan.Wants w.disk
              (outcome (summarize apps cfg) w).2.disk place) ∧
            ∀ table w', outcome (summarize apps cfg) w = (.ok table, w') →
              ∃ here, w'.disk.locate w'.host.cwd .find directory = .ok (.taken here .directory) ∧
                ∀ name, plan.Wants name →
                  ∃ octets, w'.disk.find? (here ++ [name]) = some (.file octets) := by
  have rejected : (∀ plan, Plan.ofConfig cfg ≠ .ok plan) →
      (outcome (summarize apps cfg) w).2.disk = w.disk := by
    intro rejected
    cases planned : Plan.ofConfig cfg with
    | ok plan => exact absurd planned (rejected plan)
    | error failure => rw [outcome_summarize_of_unplanned planned]
  refine ⟨rejected, fun value entry => ⟨fun falsy => ?_, fun plan truthy planned => ?_⟩⟩
  · cases planned : Plan.ofConfig cfg with
    | error failure => exact rejected fun plan same => nomatch planned.symm.trans same
    | ok plan =>
      have unrooted := Plan.root_of_ofConfig planned entry
      rw [falsy] at unrooted
      exact (says_summarize planned unrooted apps w).disk
  · have hr := Plan.root_of_ofConfig planned entry
    rw [truthy, if_pos rfl] at hr
    refine ⟨fun lost => ?_, fun directory leads unlinked => ⟨?_, fun table w' run => ?_⟩⟩
    · rw [world_of_summarize planned hr lost]
    · exact (touches_summarize planned hr tree leads unlinked).disk.only
    · exact (returns_of_summarize planned hr leads run).exists_files tree unlinked

/-- From nothing, a summary makes its directory and the two files, one of them without a variable. -/
theorem summarize_touches_only_in_new_directory :
    ∃ plan table w', Plan.ofConfig matAndPlot = .ok plan ∧
      outcome (summarize [slowApplication] matAndPlot) bareWorld = (.ok table, w') ∧
      (∀ place, Touch [] directoryO plan.Wants bareWorld.disk w'.disk place) ∧
      ∃ here mat plot, w'.disk.find? (here ++ ["slowness.mat"]) = some (.file mat) ∧
        w'.disk.find? (here ++ ["slowness_by_time.png"]) = some (.file plot) := by
  obtain ⟨plan, hp, hn, hr, hf, plotted, hs⟩ := matAndPlot_plan
  have fits : ∀ t ∈ plan.sweep.times, FitsSigned t := by
    rw [hs]
    decide
  have size : plan.sweep.size? = some 1 := by
    rw [hs]
    rfl
  have prepared : outcome (prepareRoot (.scalar (.text "/o"))) bareWorld =
      (.ok directoryO, ⟨bareWorld.host, (reportsIn []).disk, [.directoryMade ["o"]]⟩) := by cbv
  have same : ⟨series [slowApplication] plan.sweep, fits_series fits _⟩ = slowTable := by
    simp only [slowTable, hs]
  obtain ⟨w', run, -⟩ : ∃ w', outcome (summarize [slowApplication] matAndPlot) bareWorld =
      (.ok slowTable, w') ∧ True := by
    rw [← same]
    apply outcome_summarize_of_files hp hr prepared size fits
    intro w₂ host disk
    rw [same]
    obtain ⟨w', filed⟩ := files_of_matAndPlot hn hf plotted host disk
    exact ⟨w', filed, trivial⟩
  have tree : bareWorld.disk.IsTree bareWorld.host.cwd := Disk.isTree_of_entries rfl (by decide)
  have leads : bareWorld.reportRoot? (.scalar (.text "/o")) = some directoryO := by cbv
  have unlinked : bareWorld.Unlinked directoryO := by
    intro here there name target link
    have nothing : bareWorld.disk.find? (here ++ [name]) = none := by simp [Disk.find?, bareWorld]
    rw [nothing] at link
    cases link
  obtain ⟨only, files⟩ := (((summarize_touches_only [slowApplication] matAndPlot bareWorld tree).2 _
    rfl).2 plan rfl hp).2 directoryO leads unlinked
  obtain ⟨here, -, wanted⟩ := files slowTable w' run
  obtain ⟨mat, mat_file⟩ := wanted _ (.report .mat (by rw [hf]; decide))
  obtain ⟨plot, plot_file⟩ := wanted _ (.plot plotted)
  rw [run] at only
  exact ⟨plan, slowTable, w', hp, run, only, here, mat, plot, mat_file, plot_file⟩

end Action

end PeakSlowness
