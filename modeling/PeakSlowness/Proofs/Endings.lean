import PeakSlowness.Proofs.Order
import PeakSlowness.Proofs.Rejection
import PeakSlowness.Proofs.Table

set_option autoImplicit false

/-!
How a run of the program ends. Most failures are reported and end it with status one; the few that
are not are named here, each with what it takes.
-/

namespace PeakSlowness

open PeakSlowness.Action Config

/-- What a configuration names as its input. -/
def NamesInput (cfg v : Setting) : Prop :=
  ∃ part named, cfg.sectionAt "input" = .ok (.map part) ∧
    named = (valueAt? part (.text "path")).getD (.scalar .null) ∧
    v = if named.truthy then named else .ofText statFileName

namespace Disk

theorem isDirectory_error {disk : Disk} {cwd : Place} {p : FilePath} {e : Errno}
    (h : disk.isDirectory cwd p = .error e) :
    disk.entryAt cwd p = .error (.errno e) ∧ e.tellsAbsence = false := by
  unfold isDirectory at h
  split at h
  · cases h
  · next refused =>
    split at h
    · cases h
    · next untold =>
      cases h
      exact ⟨refused, Bool.eq_false_iff.2 untold⟩
  · cases h

end Disk

namespace Action

variable {events : Event → Prop} {cfg : Setting} {w : World}

theorem within_logWritten {causes : Failure → Prop} (h : ∀ level text, events (.logged level text))
    (level : Level) (text : Except Numeral.Fault String) (w : World) :
    Within events causes (logWritten level text) w := by
  cases text with
  | error fault => exact within_pure () w
  | ok text => exact within_log (h level text) w

/-- A path that cannot be followed to a file or a directory, for its tilde, or for an error that leaves open
where it leads. -/
inductive Astray (p : FilePath) (w : World) : Failure → Prop where
  | noHome {failure : Failure} : p.LosesHome w.host failure → Astray p w failure
  | refused {q : FilePath} {e : Errno} : (outcome (expandHome p) w).1 = .ok q →
      w.disk.entryAt w.host.cwd q = .error (.errno e) → e.tellsAbsence = false →
      Astray p w (.system e q)

theorem within_resolveInput (p : FilePath) (w : World) :
    Within events (Astray p w) (resolveInput p) w := by
  unfold resolveInput
  apply Within.bind
    ((within_expandHome p w).mono (fun _ h => h) fun _ lost => .noHome lost)
  intro q there
  rw [outcome_expandHome]
  apply Within.bind (within_query _ w)
  rintro found ⟨⟩
  split
  · exact within_pure _ _
  · exact within_pure _ _
  · next e missed =>
    have missed : w.disk.isDirectory w.host.cwd q = .error e := missed
    obtain ⟨refused, untold⟩ := Disk.isDirectory_error missed
    exact within_throw (.refused there refused untold) _

/-- The input is named by what is no path, or by a path that goes astray. -/
inductive InputLost (cfg : Setting) (w : World) : Failure → Prop where
  | noPath {v : Setting} {fault : ValueFault} : NamesInput cfg v → v.toPath = .error fault →
      InputLost cfg w (.value fault)
  | astray {v : Setting} {p : FilePath} {failure : Failure} : NamesInput cfg v →
      v.toPath = .ok p → Astray p w failure → InputLost cfg w failure

theorem within_inputPath (settled : Settled cfg) (w : World) :
    Within Event.Prepares (InputLost cfg w) (inputPath cfg) w := by
  have named : "input" ∈ sectionNames := by decide
  obtain ⟨part, there⟩ := settled.sectionAt named
  have named : "parsing" ∈ sectionNames := by decide
  obtain ⟨parsing, found⟩ := settled.sectionAt named
  unfold inputPath sectionEntry
  rw [there, found, ok_bind, ok_bind, getD_map, getD_map]
  apply Within.bind (within_pure _ w)
  rintro v ⟨⟩
  have names : NamesInput cfg _ := ⟨part, _, there, rfl, rfl⟩
  refine Within.bind (within_ofExcept (fun fault lost => .noPath names lost) w) ?_
  intro p path
  rw [outcome_ofExcept] at path ⊢
  refine Within.bind ((within_resolveInput p _).mono (fun _ h => h) ?_) ?_
  · exact fun _ lost => .astray names (mapError_eq_ok_iff.1 path) lost
  · intro q _
    apply Within.bind (within_pure _ _)
    intro mode _
    exact Within.bind (within_logWritten (fun _ _ => trivial) _ _ _) fun _ _ => within_pure _ _

theorem within_load (settled : Settled cfg) (path : FilePath) (w : World) :
    Within Event.Prepares Failure.Reportable (load path cfg) w := by
  unfold load
  refine Within.bind (within_ofExcept (fun failure lost => mode_error settled lost) w) ?_
  intro mode _
  apply Within.bind (within_query _ _)
  intro content _
  extract_lets rest
  have parsed : ∀ octets w, Within Event.Prepares Failure.Reportable (rest octets) w := by
    intro octets w
    refine Within.bind (within_ofExcept ?_ w) ?_
    · intro fault _
      cases fault with
      | notText reason => exact .of_problem rfl
      | malformed line => exact .of_problem rfl
    · intro apps _
      exact Within.bind (within_log trivial _) fun _ _ => within_pure _ _
  split
  · exact Within.bind (within_pure _ _) fun octets _ => parsed octets _
  · exact Within.bind (within_throw (.of_problem rfl) _) nofun
  · exact Within.bind (within_throw (Failure.reportable_ofCall _ _) _) nofun

/-- The configuration text that arguments name is a value, if it can be read. -/
def Readable (args : CommandLine.Arguments) (w : World) : Prop :=
  ∀ path octets, args.config = some path → w.disk.read w.host.cwd path = .ok octets →
    ∃ value, Yaml.readOctets octets = .ok value

theorem outcome_loadConfig_of_refused {path : FilePath} {fault : CallFault}
    (h : w.disk.read w.host.cwd path = .error fault) :
    outcome (loadConfig path) w = (.error (.ofCall path fault), w) := by
  unfold loadConfig readFile
  rw [outcome_bind_of_ok (outcome_query _ w), h]
  rfl

theorem outcome_loadConfig_of_read {path : FilePath} {octets : List UInt8} {value : Setting}
    (h : w.disk.read w.host.cwd path = .ok octets) (parsed : Yaml.readOctets octets = .ok value) :
    outcome (loadConfig path) w = ((ofValue value).mapError .value, w) := by
  unfold loadConfig readFile
  rw [outcome_bind_of_ok (outcome_query _ w), h]
  dsimp only
  rw [parsed, outcome_bind_of_ok (outcome_ofExcept_ok _ value w), outcome_ofExcept]

theorem within_settle {args : CommandLine.Arguments} (readable : Readable args w) :
    Within (fun _ => False) (fun failure => failure.kind ≠ .abort) (settle args) w := by
  have overridden {v cfg : Setting} (h : ofValue v = .ok cfg) (w : World) :
      Within (fun _ => False) (fun failure => failure.kind ≠ .abort)
        (ofExcept .value (args.override cfg)) w := by
    obtain ⟨cfg', settled⟩ := exists_override args h
    rw [settled]
    exact within_pure _ _
  unfold settle
  cases named : args.config with
  | none =>
    apply Within.bind (within_pure _ w)
    rintro _ ⟨⟩
    have standard : ofValue Config.standard = .ok Config.standard := by rfl
    exact overridden standard _
  | some path =>
    cases content : w.disk.read w.host.cwd path with
    | error fault =>
      have refused := outcome_loadConfig_of_refused content
      refine Within.bind (within_of_outcome _ [] refused nofun ?_) ?_
      · rintro _ ⟨⟩
        exact (Failure.reportable_ofCall path fault).2
      · rw [refused]
        exact nofun
    | ok octets =>
      obtain ⟨value, parsed⟩ := readable path octets named content
      have loaded := outcome_loadConfig_of_read content parsed
      refine Within.bind (within_of_outcome _ [] loaded nofun ?_) ?_
      · intro failure lost
        obtain ⟨fault, rejected, rfl⟩ := mapError_eq_error lost
        rw [kind_of_ofValue_error rejected]
        decide
      · rw [loaded]
        intro cfg read
        exact overridden (mapError_eq_ok_iff.1 read) w

theorem settled_of_settle {args : CommandLine.Arguments} {w' : World}
    (h : outcome (settle args) w = (.ok cfg, w')) : Settled cfg := by
  have overridden {x : Action Setting}
      (h : outcome (x >>= fun cfg => ofExcept .value (args.override cfg)) w = (.ok cfg, w')) :
      Settled cfg := by
    obtain ⟨old, w₁, -, last⟩ := outcome_bind_eq_ok_iff.1 h
    rw [outcome_ofExcept] at last
    exact settled_of_override (mapError_eq_ok_iff.1 (congrArg Prod.fst last))
  unfold settle at h
  cases named : args.config with
  | none =>
    rw [named] at h
    exact overridden h
  | some path =>
    rw [named] at h
    exact overridden h

/-- A summary goes wrong in a way that is not reported. -/
inductive SummaryLost (cfg : Setting) (apps : List Application) (w : World) : Failure → Prop where
  | infiniteCheckpoint : InfiniteCheckpoint cfg →
      SummaryLost cfg apps w (.value .infinityAsInteger)
  | rootNoPath {plan : Plan} {root : Setting} {fault : ValueFault} :
      Plan.ofConfig cfg = .ok plan → plan.root = some root → root.toPath = .error fault →
      SummaryLost cfg apps w (.value fault)
  | rootNoHome {plan : Plan} {root : Setting} {p : FilePath} :
      Plan.ofConfig cfg = .ok plan → plan.root = some root → root.toPath = .ok p →
      p.LosesHome w.host .noHome →
      SummaryLost cfg apps w .noHome
  | rootLoop {plan : Plan} {root : Setting} {p q : FilePath} :
      Plan.ofConfig cfg = .ok plan → plan.root = some root → root.toPath = .ok p →
      (outcome (expandHome p) w).1 = .ok q →
      w.disk.entryAt w.host.cwd (w.disk.canonical w.host.cwd q) = .error (.errno .tooManyLinks) →
      SummaryLost cfg apps w (.linkLoop (w.disk.canonical w.host.cwd q))
  | uncounted {plan : Plan} : Plan.ofConfig cfg = .ok plan → 0x8000000000000000 ≤ plan.sweep.count →
      SummaryLost cfg apps w .tooManyCheckpoints
  | untabled {plan : Plan} : Plan.ofConfig cfg = .ok plan →
      (∃ t ∈ plan.sweep.times, ¬ FitsSigned t) → (∃ t ∈ plan.sweep.times, ¬ FitsUnsigned t) →
      SummaryLost cfg apps w .timeBeyondTable
  | emptyName {plan : Plan} : Plan.ofConfig cfg = .ok plan → plan.root.isSome → plan.format.HasMat →
      plan.variableName = .ok [] → SummaryLost cfg apps w .emptyVariableName
  | infiniteTick {plan : Plan} {table : Table} : Plan.ofConfig cfg = .ok plan → plan.root.isSome →
      plan.plot = true → Table.ofSeries? (series apps plan.sweep) = some table →
      Plot.check table = .error .infiniteTick → SummaryLost cfg apps w (.plot .infiniteTick)

theorem times_of_untabled {apps : List Application} {sweep : Sweep}
    (h : Table.ofSeries? (series apps sweep) = none) :
    (∃ t ∈ sweep.times, ¬ FitsSigned t) ∧ ∃ t ∈ sweep.times, ¬ FitsUnsigned t := by
  have times {fits : Int → Prop} (out : ∃ r ∈ series apps sweep, ¬ fits r.1) :
      ∃ t ∈ sweep.times, ¬ fits t := by
    -- the times of the series are those of the sweep, whatever the applications
    obtain ⟨r, hr, out⟩ := out
    obtain ⟨t, ht, rfl⟩ := List.mem_map.1 hr
    exact ⟨t, ht, out⟩
  obtain ⟨signed, unsigned⟩ := Table.ofSeries?_eq_none_iff.1 h
  exact ⟨times signed, times unsigned⟩

theorem count_of_uncounted {sweep : Sweep} (h : sweep.size? = none) :
    0x8000000000000000 ≤ sweep.count := by
  unfold Sweep.size? at h
  split at h
  · cases h
  · next many => exact Nat.not_lt.1 many

theorem Goes.reported_or_lost {apps : List Application} {result : Except Failure Table}
    {trace : List Event} (settled : Settled cfg) (h : Goes apps cfg w result trace)
    {failure : Failure} (failed : result = .error failure) :
    failure.Reportable ∨ SummaryLost cfg apps w failure := by
  cases h with
  | unplanned hp =>
    cases failed
    rcases Plan.ofConfig_error settled hp with reportable | ⟨rfl, infinite⟩
    · exact .inl reportable
    · exact .inr (.infiniteCheckpoint infinite)
  | unrooted hp hr _ lost =>
    cases failed
    cases lost with
    | reported reportable => exact .inl reportable
    | noPath fault => exact .inr (.rootNoPath hp hr fault)
    | noHome path tilde => exact .inr (.rootNoHome hp hr path tilde)
    | linkLoop path there loop => exact .inr (.rootLoop hp hr path there loop)
  | unprinted hp _ _ stops =>
    cases failed
    generalize shown : texts _ = spoken at stops
    cases stops with
    | uncounted size => exact .inr (.uncounted hp (count_of_uncounted size))
    | unwritten _ _ _ => exact .inl (.of_value rfl)
    | untabled _ held =>
      obtain ⟨signed, unsigned⟩ := times_of_untabled held
      exact .inr (.untabled hp signed unsigned)
  | printed hp _ _ stops _ asked filed =>
    have lost := (congrArg Prod.fst filed).trans (map_eq_error failed)
    obtain ⟨rooted, cause⟩ := (within_filing _ _ _ _).cause failure lost
    have rooted := asked rooted
    cases cause with
    | reported reportable => exact .inl reportable
    | noName unnamed => exact .inl (Plan.variableName_error settled hp unnamed)
    | emptyName mat empty => exact .inr (.emptyName hp rooted mat empty)
    | infiniteTick plotted checked =>
      generalize shown : texts _ = spoken at stops
      cases stops with
      | tabled _ held => exact .inr (.infiniteTick hp rooted plotted held checked)

end Action

end PeakSlowness
