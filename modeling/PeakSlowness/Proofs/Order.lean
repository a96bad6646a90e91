import PeakSlowness.Proofs.Course
import PeakSlowness.Proofs.Program

set_option autoImplicit false

/-!
The order of effects. Nothing has happened when a configuration is rejected, nothing has been
printed when the report directory cannot be had, and no file is opened before all rows are printed.
-/

namespace PeakSlowness

open PeakSlowness.Action

namespace Plan

theorem sweep_of_ofConfig {cfg : Setting} {plan : Plan} (h : ofConfig cfg = .ok plan) :
    Config.sweep cfg = .ok plan.sweep := by
  obtain ⟨sweep, found, h⟩ := bind_eq_ok_iff.1 h
  obtain ⟨output, -, h⟩ := bind_eq_ok_iff.1 h
  obtain ⟨format, -, h⟩ := bind_eq_ok_iff.1 h
  obtain ⟨plot, -, h⟩ := bind_eq_ok_iff.1 h
  obtain ⟨root, -, h⟩ := bind_eq_ok_iff.1 h
  cases h
  exact found

/-- A sweep or a format is rejected, the sweep first. -/
inductive Rejects (cfg : Setting) : Failure → Prop where
  | sweep {failure : Failure} : Config.sweep cfg = .error failure → Rejects cfg failure
  | format {s : Sweep} {output : Setting} {failure : Failure} : Config.sweep cfg = .ok s →
      cfg.sectionAt "output" = .ok output → readFormat output = .error failure → Rejects cfg failure

theorem ofConfig_of_rejects {cfg : Setting} {failure : Failure} (h : Rejects cfg failure) :
    ofConfig cfg = .error failure := by
  unfold ofConfig
  cases h with
  | sweep rejected =>
    rw [rejected]
    rfl
  | format found there rejected =>
    rw [found, there, ok_bind, mapError_ok, ok_bind, rejected]
    rfl

end Plan

namespace Action

variable {apps : List Application} {cfg : Setting} {w : World}

theorem outcome_summarize_of_unplanned {failure : Failure} (h : Plan.ofConfig cfg = .error failure)
    (apps : List Application) (w : World) :
    outcome (summarize apps cfg) w = (.error failure, w) := by
  rw [summarize, h]
  rfl

theorem outcome_summarize_of_unrooted {plan : Plan} {root : Setting} {failure : Failure}
    {w' : World} (hp : Plan.ofConfig cfg = .ok plan) (hr : plan.root = some root)
    (h : outcome (prepareRoot root) w = (.error failure, w')) (apps : List Application) :
    outcome (summarize apps cfg) w = (.error failure, w') := by
  rw [summarize_eq hp, hr]
  apply outcome_bind_of_error
  change outcome (some <$> prepareRoot root) w = _
  rw [outcome_map, h]
  rfl

section Goes

variable {result : Except Failure Table} {trace : List Event}

theorem sweep_eq {plan : Plan} {sweep : Sweep} (hp : Plan.ofConfig cfg = .ok plan)
    (hs : Config.sweep cfg = .ok sweep) : plan.sweep = sweep := by
  have found := Plan.sweep_of_ofConfig hp
  rw [hs] at found
  cases found
  rfl

theorem Goes.texts_prefix (h : Goes apps cfg w result trace) {sweep : Sweep}
    (hs : Config.sweep cfg = .ok sweep) : texts trace <+: (series apps sweep).map rowLine := by
  cases h with
  | unplanned _ => exact List.nil_prefix
  | unrooted _ _ ready _ =>
    rw [ready.texts_eq]
    exact List.nil_prefix
  | unprinted hp ready _ stops =>
    rw [texts_append, ready.texts_eq, ← sweep_eq hp hs]
    exact stops.texts_prefix
  | printed hp ready _ stops files _ _ =>
    rw [texts_append, texts_append, ready.texts_eq, texts_of_files fun e he => (files e he).files, List.append_nil,
      ← sweep_eq hp hs]
    exact stops.texts_prefix

/-- Where the checkpoints cannot be counted, nothing is printed. -/
theorem Goes.texts_of_uncounted (h : Goes apps cfg w result trace) {sweep : Sweep}
    (hs : Config.sweep cfg = .ok sweep) (size : sweep.size? = none) :
    texts trace = [] ∧ ∃ failure, result = .error failure := by
  cases h with
  | unplanned _ => exact ⟨rfl, _, rfl⟩
  | unrooted _ _ ready _ => exact ⟨ready.texts_eq, _, rfl⟩
  | unprinted hp ready _ stops =>
    rw [sweep_eq hp hs] at stops
    rw [texts_append, ready.texts_eq, (stops.of_uncounted size).1]
    exact ⟨rfl, _, rfl⟩
  | printed hp _ _ stops _ _ _ =>
    rw [sweep_eq hp hs] at stops
    cases (stops.of_uncounted size).2

/-- All rows have been printed when a file is opened. -/
theorem Goes.texts_of_opens (h : Goes apps cfg w result trace) {before after : List Event}
    {e : Event} (cut : trace = before ++ e :: after) (opens : e.Opens) {sweep : Sweep}
    (hs : Config.sweep cfg = .ok sweep) : texts before = (series apps sweep).map rowLine := by
  have all : texts before <+: (series apps sweep).map rowLine := by
    rw [cut] at h
    exact (texts_mono (List.prefix_append _ _)).trans (h.texts_prefix hs)
  have named : e ∈ trace := by simp [cut]
  cases h with
  | unplanned _ => cases named
  | unrooted _ _ ready _ => exact absurd opens (ready.not_opens e named)
  | unprinted _ ready speaks _ =>
    rcases List.mem_append.1 named with prepared | spoken
    · exact absurd opens (ready.not_opens e prepared)
    · exact absurd opens (speaks e spoken).not_opens
  | printed hp ready speaks stops files _ _ =>
    -- the file is opened by the filing, so all that was spoken is in `before`
    have early :=
      List.forall_mem_append.2 ⟨ready.not_opens, fun e he => (speaks e he).not_opens⟩
    have printed := texts_mono (prefix_of_opens cut opens early)
    rw [texts_append, ready.texts_eq, stops.texts_of_ok, sweep_eq hp hs] at printed
    exact all.eq_of_length_le printed.length_le

end Goes

theorem quiet_load (path : FilePath) (cfg : Setting) : Quiet (load path cfg) := by
  unfold load
  apply quiet_bind (quiet_ofExcept _ _)
  intro mode
  apply quiet_bind (quiet_query _)
  intro content
  extract_lets rest
  have parsed : ∀ octets, Quiet (rest octets) := by
    intro octets
    apply quiet_bind (quiet_ofExcept _ _)
    intro apps
    exact quiet_bind (fun w => says_log _ _ w) fun _ => quiet_pure _
  split
  · exact quiet_bind (quiet_pure _) parsed
  · exact quiet_bind (quiet_throw _) parsed
  · exact quiet_bind (quiet_throw _) parsed

end Action

namespace Run

/-- A run that cannot load its applications has printed nothing and changed nothing. -/
theorem ofCommandLine_of_unloaded {argv : List String} {args : CommandLine.Arguments}
    {cfg : Setting} {path : FilePath} {failure : Failure} {host : Host} {disk : Disk}
    {w₁ w₂ : World}
    (parsed : CommandLine.Arguments.parse argv = .ok args)
    (settled : outcome (settle args) ⟨host, disk, []⟩ = (.ok cfg, w₁))
    (found : outcome (inputPath cfg) w₁ = (.ok path, w₂))
    (lost : (outcome (load path cfg) w₂).1 = .error failure) :
    (ofCommandLine argv ⟨host, disk, []⟩).output = "" ∧
      (ofCommandLine argv ⟨host, disk, []⟩).world.disk = disk := by
  have settling := quiet_settle args ⟨host, disk, []⟩
  have finding := quiet_inputPath cfg w₁
  have loading := quiet_load path cfg w₂
  rw [lost] at loading
  rw [found] at finding
  rw [settled] at settling
  have worked : Says (work cfg) w₁ (reported runReport (.error failure)) [] := by
    refine finding.then ?_
    rw [found]
    exact says_reporting runReport loading.bind_of_error
  have disk_eq := settling.disk
  have printed := settling.printed
  rw [settled] at disk_eq printed
  rw [ofCommandLine_of_settled parsed settled]
  refine ⟨?_, worked.disk.trans disk_eq⟩
  rw [output_eq (endingOf_ne_refused _), worked.printed, printed]
  rfl

end Run

/-- The effects of a summary come in order, wherever it stops; those of loading, not at all. -/
theorem effects_in_order (apps : List Application) (cfg : Setting) (w : World) :
    (∀ failure, Plan.Rejects cfg failure →
      outcome (summarize apps cfg) w = (.error failure, w)) ∧
    (∀ plan root failure w', Plan.ofConfig cfg = .ok plan → plan.root = some root →
      outcome (prepareRoot root) w = (.error failure, w') →
      outcome (summarize apps cfg) w = (.error failure, w') ∧ w'.printed = w.printed) ∧
    (∀ sweep, Config.sweep cfg = .ok sweep → 0x8000000000000000 ≤ sweep.count →
      (∃ failure, (outcome (summarize apps cfg) w).1 = .error failure) ∧
        (outcome (summarize apps cfg) w).2.printed = w.printed) ∧
    (∃ trace, (outcome (summarize apps cfg) w).2 = w.after trace ∧
      ∀ sweep, Config.sweep cfg = .ok sweep → ∀ before after, trace = before ++ after →
        texts before <+: (series apps sweep).map rowLine ∧
        ∀ e rest, after = e :: rest → e.Opens → texts before = (series apps sweep).map rowLine) ∧
    ∀ argv args cfg path failure host disk w₁ w₂, CommandLine.Arguments.parse argv = .ok args →
      outcome (settle args) ⟨host, disk, []⟩ = (.ok cfg, w₁) →
      outcome (inputPath cfg) w₁ = (.ok path, w₂) →
      (outcome (load path cfg) w₂).1 = .error failure →
      (Run.ofCommandLine argv ⟨host, disk, []⟩).output = "" ∧
        (Run.ofCommandLine argv ⟨host, disk, []⟩).world.disk = disk := by
  obtain ⟨trace, there, goes⟩ := goes_summarize apps cfg w
  refine ⟨?_, ?_, ?_, ⟨trace, there, ?_⟩, ?_⟩
  · intro failure rejects
    exact outcome_summarize_of_unplanned (Plan.ofConfig_of_rejects rejects) apps w
  · intro plan root failure w' hp hr stopped
    refine ⟨outcome_summarize_of_unrooted hp hr stopped apps, ?_⟩
    have silent := (writes_prepareRoot root w).printed
    rwa [stopped] at silent
  · intro sweep hs many
    have size : sweep.size? = none := if_neg (Nat.not_lt.2 many)
    obtain ⟨silent, failed⟩ := goes.texts_of_uncounted hs size
    refine ⟨failed, ?_⟩
    rw [there, World.printed_after, silent, List.append_nil]
  · intro sweep hs before after cut
    constructor
    · have part := goes.texts_prefix hs
      rw [cut] at part
      exact (texts_mono (List.prefix_append _ _)).trans part
    · rintro e rest rfl opens
      exact goes.texts_of_opens cut opens hs
  · intro argv args cfg path failure host disk w₁ w₂ parsed settled found lost
    exact Run.ofCommandLine_of_unloaded parsed settled found lost

/-- A configuration with one checkpoint more than can be counted. -/
def uncountedCheckpoints : Setting :=
  .map [(.text "checkpoints", .map
    [Config.entry "end" (.int 0x8000000000000000), Config.entry "step" (.int 1)])]

/-- A configuration whose format is none. -/
def unknownFormat : Setting :=
  .map [(.text "output", .map [Config.entry "root" (.text "/o"), Config.entry "format" (.text "xml")])]

/-- A report directory in which nothing may be made. -/
def sealedReports : World :=
  { reportsIn [] with
    disk := { (reportsIn []).disk with rights := ⟨fun _ right => right != .write⟩ } }

theorem prepareRoot_sealedReports : outcome (prepareRoot (.scalar (.text "/o"))) sealedReports =
    (.error (.output directoryO .denied), sealedReports) := by cbv

/-- Nothing has happened where the format is rejected, or the report directory for want of a right, and nothing
is printed where the checkpoints cannot be counted, with an application to print rows of. -/
theorem silent_where_rejected :
    outcome (summarize [slowApplication] unknownFormat) (reportsIn []) =
        (.error (.value (.unknownFormat [.char 'x', .char 'm', .char 'l'])), reportsIn []) ∧
      outcome (summarize [slowApplication] (oneCheckpoint false)) sealedReports =
        (.error (.output directoryO .denied), sealedReports) ∧
      (outcome (summarize [slowApplication] uncountedCheckpoints) (reportsIn [])).2.printed = [] := by
  refine ⟨?_, ?_, ?_⟩
  · exact (effects_in_order [slowApplication] unknownFormat (reportsIn [])).1 _ (.format rfl rfl rfl)
  · obtain ⟨plan, name, hp, -, hr, -⟩ := oneCheckpoint_plan false
    exact ((effects_in_order [slowApplication] (oneCheckpoint false) sealedReports).2.1 plan _ _ _ hp hr
      prepareRoot_sealedReports).1
  · have sweep : Config.sweep uncountedCheckpoints =
        .ok ⟨0, 0x8000000000000000, 1, by decide, by decide⟩ := by rfl
    exact ((effects_in_order [slowApplication] uncountedCheckpoints (reportsIn [])).2.2.1 _ sweep
      (by decide)).2

end PeakSlowness
