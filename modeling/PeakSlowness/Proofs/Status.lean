import PeakSlowness.Proofs.Endings

set_option autoImplicit false

/-!
The status of a run. A run ends with status zero or one, unless something goes wrong that is not
reported. How far a run gets before it ends decides what it leaves behind.
-/

namespace PeakSlowness

open PeakSlowness.Action Config

namespace Action

variable {cfg : Setting} {w : World}

/-- The applications that a configuration leads to, and the world in which they are there. -/
def Loads (cfg : Setting) (w : World) (apps : List Application) (w₁ : World) : Prop :=
  ∃ path w', outcome (inputPath cfg) w = (.ok path, w') ∧
    outcome (load path cfg) w' = (.ok apps, w₁)

theorem Loads.alike {apps : List Application} {w₁ : World} (h : Loads cfg w apps w₁) :
    w.Alike w₁ := by
  obtain ⟨path, w', found, loaded⟩ := h
  have first := (quiet_inputPath cfg).alike w
  have second := (quiet_load path cfg).alike w'
  rw [found] at first
  rw [loaded] at second
  exact first.trans second

/-- How far the work gets under a configuration: to its input, its applications, or its summary. -/
inductive Works (cfg : Setting) (w : World) : Except Failure Nat → World → Prop where
  | unfound {failure : Failure} {w' : World} : (outcome (inputPath cfg) w).1 = .error failure →
      w.Alike w' → Works cfg w (.error failure) w'
  | unloaded {path : FilePath} {w₁ w' : World} {failure : Failure} :
      outcome (inputPath cfg) w = (.ok path, w₁) → (outcome (load path cfg) w₁).1 = .error failure →
      w.Alike w' → Works cfg w (reported runReport (.error failure)) w'
  | summarized {apps : List Application} {w₁ w' : World} : Loads cfg w apps w₁ →
      (outcome (summarize apps cfg) w₁).2.Alike w' →
      Works cfg w (reported runReport ((outcome (summarize apps cfg) w₁).1.map fun _ => ())) w'

theorem works_work (cfg : Setting) (w : World) :
    Works cfg w (outcome (work cfg) w).1 (outcome (work cfg) w).2 := by
  unfold work
  have finding := (quiet_inputPath cfg).alike w
  rcases found : outcome (inputPath cfg) w with ⟨failure | path, w₁⟩
  · rw [found] at finding
    rw [outcome_bind_of_error found]
    exact .unfound (congrArg Prod.fst found) finding
  · rw [found] at finding
    rw [outcome_bind_of_ok found]
    obtain ⟨result, alike⟩ := outcome_reporting_alike runReport
      (load path cfg >>= fun apps => discard (summarize apps cfg)) w₁
    rw [result]
    have loading := (quiet_load path cfg).alike w₁
    rcases loaded : outcome (load path cfg) w₁ with ⟨failure | apps, w₂⟩
    · rw [loaded] at loading
      rw [outcome_bind_of_error loaded] at alike ⊢
      exact .unloaded found (congrArg Prod.fst loaded) (finding.trans (loading.trans alike))
    · rw [outcome_bind_of_ok loaded] at alike ⊢
      change (outcome ((fun _ => ()) <$> summarize apps cfg) w₂).2.Alike _ at alike
      change Works _ _ (reported _ (outcome ((fun _ => ()) <$> summarize apps cfg) w₂).1) _
      rw [outcome_map] at alike ⊢
      exact .summarized ⟨path, w₁, found, loaded⟩ alike

/-- What goes wrong in the work and is not reported. -/
inductive Escapes (cfg : Setting) (w : World) : Failure → Prop where
  | input {failure : Failure} : InputLost cfg w failure → Escapes cfg w failure
  | summary {apps : List Application} {w₁ : World} {failure : Failure} : Loads cfg w apps w₁ →
      SummaryLost cfg apps w₁ failure → Escapes cfg w failure

theorem reported_of_reportable {failure : Failure} (h : failure.Reportable) :
    reported runReport (.error failure) = .ok 1 := by
  obtain ⟨text, said⟩ := runReport_of_reportable h
  rw [reported, said]

theorem Works.status_or_escapes {result : Except Failure Nat} {w' : World} (settled : Settled cfg)
    (h : Works cfg w result w') :
    result = .ok 0 ∨ result = .ok 1 ∨
      ∃ failure, result = .error failure ∧ Escapes cfg w failure := by
  cases h with
  | @unfound failure _ lost _ =>
    exact .inr (.inr ⟨failure, rfl, .input ((within_inputPath settled w).cause failure lost)⟩)
  | unloaded found lost _ =>
    exact .inr (.inl (reported_of_reportable ((within_load settled _ _).cause _ lost)))
  | @summarized apps w₁ _ loads _ =>
    obtain ⟨trace, -, goes⟩ := goes_summarize apps cfg w₁
    cases result : (outcome (summarize apps cfg) w₁).1 with
    | ok table => exact .inl rfl
    | error failure =>
      rw [result] at goes
      rcases goes.reported_or_lost settled rfl with reportable | lost
      · exact .inr (.inl (reported_of_reportable reportable))
      · rcases reported_error runReport failure with said | unsaid
        · exact .inr (.inl said)
        · exact .inr (.inr ⟨failure, unsaid, .summary loads lost⟩)

end Action

namespace Run

variable {argv : List String} {args : CommandLine.Arguments} {cfg : Setting} {w : World}

/-- A run without a configuration reports why there is none. -/
theorem ofCommandLine_of_lost {failure : Failure} {w₁ : World}
    (parsed : CommandLine.Arguments.parse argv = .ok args)
    (lost : outcome (settle args) w = (.error failure, w₁)) :
    ofCommandLine argv w =
      ⟨endingOf (outcome (reporting (configReport args.config) (throw failure)) w₁).1, false,
        (outcome (reporting (configReport args.config) (throw failure)) w₁).2⟩ := by
  have stopped : (settle args).run.run w = (.error failure, w₁) := lost
  rw [ofCommandLine, parsed]
  simp only [ofArguments, stopped]
  rfl

theorem ofCommandLine_of_unsettled {failure : Failure} {w₁ : World}
    (parsed : CommandLine.Arguments.parse argv = .ok args)
    (lost : outcome (settle args) w = (.error failure, w₁)) :
    (ofCommandLine argv w).ending =
        endingOf (reported (configReport args.config) (.error failure)) ∧
      w.Alike (ofCommandLine argv w).world := by
  have settling := (quiet_settle args).alike w
  rw [lost] at settling
  obtain ⟨result, alike⟩ := outcome_reporting_alike (configReport args.config) (throw failure) w₁
  rw [ofCommandLine_of_lost parsed lost, result]
  exact ⟨rfl, settling.trans alike⟩

/-- A run whose configuration has a value ends with a status, unless a failure escapes. -/
theorem ends_with_status_or_escapes (parsed : CommandLine.Arguments.parse argv = .ok args)
    (readable : Readable args w) :
    (ofCommandLine argv w).ending = .status 0 ∨ (ofCommandLine argv w).ending = .status 1 ∨
      ∃ cfg failure, outcome (settle args) w = (.ok cfg, w) ∧
        (ofCommandLine argv w).ending = .failed failure ∧ Escapes cfg w failure := by
  have within := within_settle readable
  rcases settled : outcome (settle args) w with ⟨failure | cfg, w₁⟩
  · obtain ⟨ending, -⟩ := ofCommandLine_of_unsettled parsed settled
    have kind := within.cause failure (congrArg Prod.fst settled)
    have said : ∃ text, configReport args.config failure = some text := by
      unfold configReport
      split
      · next abort => exact absurd abort kind
      · exact ⟨_, rfl⟩
    obtain ⟨text, said⟩ := said
    rw [ending, reported, said]
    exact .inr (.inl rfl)
  · obtain ⟨trace, there, nothing⟩ := within.trace
    obtain rfl : trace = [] := List.eq_nil_iff_forall_not_mem.2 nothing
    obtain rfl : w₁ = w := by
      rw [settled] at there
      exact there
    rw [ofCommandLine_of_settled parsed settled]
    rcases (works_work cfg w₁).status_or_escapes (settled_of_settle settled) with
      done | failed | ⟨failure, escaped, escapes⟩
    · exact .inl (congrArg endingOf done)
    · exact .inr (.inl (congrArg endingOf failed))
    · exact .inr (.inr ⟨cfg, failure, rfl, congrArg endingOf escaped, escapes⟩)

end Run

section InfiniteEnd

/-- A configuration whose checkpoints end at infinity, and an empty statistics file. -/
def infiniteEndText : String := "checkpoints: \x7bend: .inf\x7d\n"

def infiniteEnd : World :=
  ⟨⟨[], "", []⟩,
    ⟨[(["c"], .file (Text.Utf8.encode infiniteEndText.toList)), (["a"], .file [])]⟩, []⟩

def infiniteEndValue : Setting :=
  .map [(.text "checkpoints", .map [(.text "end", .scalar (.float (.infinity false)))])]

/-- Whether a configuration text has been read as that value. -/
def isInfiniteEnd : Except YamlFault Setting → Bool
  | .ok (.map [(.text "checkpoints", .map [(.text "end", .scalar (.float x))])]) =>
    decide (x = .infinity false)
  | _ => false

theorem eq_of_isInfiniteEnd {r : Except YamlFault Setting} (h : isInfiniteEnd r = true) :
    r = .ok infiniteEndValue := by
  unfold isInfiniteEnd at h
  split at h
  · rw [of_decide_eq_true h]
    rfl
  · cases h

theorem read_infiniteEnd :
    Yaml.readOctets (Text.Utf8.encode infiniteEndText.toList) = .ok infiniteEndValue :=
  eq_of_isInfiniteEnd (by decide +kernel)

def infiniteEndArguments : CommandLine.Arguments :=
  { input := some "/a", config := some (.ofPlace ["c"]) }

/-- What the arguments make of the configuration. -/
def infiniteEndConfig : Setting :=
  .map
    [(.text "checkpoints", .map [(.text "end", .scalar (.float (.infinity false)))]),
     (.text "input", .map [Config.entry "path" (.text "/a")]), (.text "parsing", .empty),
     (.text "output", .empty), (.text "logging", .empty)]

theorem parse_infiniteEnd :
    CommandLine.Arguments.parse ["--config", "/c", "/a"] = .ok infiniteEndArguments := by rfl

theorem content_infiniteEnd : infiniteEnd.disk.read infiniteEnd.host.cwd (.ofPlace ["c"]) =
    .ok (Text.Utf8.encode infiniteEndText.toList) := by cbv

theorem readable_infiniteEnd : Readable infiniteEndArguments infiniteEnd := by
  rintro path octets ⟨⟩ content
  rw [content_infiniteEnd] at content
  cases content
  exact ⟨_, read_infiniteEnd⟩

theorem settle_infiniteEnd :
    outcome (settle infiniteEndArguments) infiniteEnd = (.ok infiniteEndConfig, infiniteEnd) :=
  (outcome_bind_of_ok (outcome_loadConfig_of_read content_infiniteEnd read_infiniteEnd)).trans rfl

theorem ending_infiniteEnd : (Run.ofCommandLine ["--config", "/c", "/a"] infiniteEnd).ending =
    .failed (.value .infinityAsInteger) := by
  have worked : (outcome (work infiniteEndConfig) infiniteEnd).1 =
      .error (.value .infinityAsInteger) := by cbv
  rw [Run.ofCommandLine_of_settled parse_infiniteEnd settle_infiniteEnd]
  exact congrArg Run.endingOf worked

/-- An infinite checkpoint is one of the failures that escape. -/
theorem escapes_of_infinite_end :
    ∃ cfg, Escapes cfg infiniteEnd (.value .infinityAsInteger) := by
  rcases Run.ends_with_status_or_escapes parse_infiniteEnd readable_infiniteEnd with
    done | failed | ⟨cfg, failure, -, ended, escapes⟩
  · rw [ending_infiniteEnd] at done
    cases done
  · rw [ending_infiniteEnd] at failed
    cases failed
  · rw [ending_infiniteEnd] at ended
    cases ended
    exact ⟨cfg, escapes⟩

/-- An infinite checkpoint is not reported. -/
theorem not_always_status :
    ¬ ∀ (argv : List String) (args : CommandLine.Arguments) (w : World),
      CommandLine.Arguments.parse argv = .ok args → Readable args w →
      (Run.ofCommandLine argv w).ending = .status 0 ∨
        (Run.ofCommandLine argv w).ending = .status 1 := by
  intro always
  have ended := always _ _ _ parse_infiniteEnd readable_infiniteEnd
  rw [ending_infiniteEnd] at ended
  rcases ended with done | failed
  · cases done
  · cases failed

end InfiniteEnd

end PeakSlowness
