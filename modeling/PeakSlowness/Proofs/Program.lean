import PeakSlowness.Program
import PeakSlowness.Proofs.Home
import PeakSlowness.Proofs.Input
import PeakSlowness.Proofs.Summary

set_option autoImplicit false

/-!
Runs of the program without a report directory. Finding the configuration and the statistics file
prints nothing and changes nothing. From there on, how a run ends and what it prints is decided by
the lines of the file, the parsing mode and the sweep.
-/

namespace PeakSlowness

open Text StatLine

namespace Action

theorem quiet_resolveInput (p : FilePath) : Quiet (resolveInput p) := by
  unfold resolveInput
  apply quiet_bind (quiet_expandHome p)
  intro q
  apply quiet_bind (quiet_query _)
  intro found
  split
  · exact quiet_pure _
  · exact quiet_pure _
  · exact quiet_throw _

theorem quiet_loadConfig (path : FilePath) : Quiet (loadConfig path) := by
  unfold loadConfig
  apply quiet_bind (quiet_query _)
  intro content
  split
  · exact quiet_throw _
  · exact quiet_bind (quiet_ofExcept _ _) fun _ => quiet_ofExcept _ _

theorem quiet_settle (args : CommandLine.Arguments) : Quiet (settle args) := by
  unfold settle
  cases args.config with
  | none => exact quiet_bind (quiet_pure _) fun _ => quiet_ofExcept _ _
  | some path => exact quiet_bind (quiet_loadConfig path) fun _ => quiet_ofExcept _ _

theorem quiet_inputPath (cfg : Setting) : Quiet (inputPath cfg) := by
  unfold inputPath sectionEntry
  apply quiet_bind (quiet_ofExcept _ _)
  intro named
  apply quiet_bind (quiet_ofExcept _ _)
  intro path
  apply quiet_bind (quiet_resolveInput path)
  intro path
  apply quiet_bind (quiet_ofExcept _ _)
  intro mode
  exact quiet_bind (quiet_logWritten _ _) fun _ => quiet_pure _

theorem outcome_reporting (say : Failure → Option String) (step : Action Unit) (w : World) :
    outcome (reporting say step) w =
      match outcome step w with
      | (.ok (), w') => (.ok 0, w')
      | (.error failure, w') =>
        match say failure with
        | some text => (.ok 1, w'.record (.logged .error text))
        | none => (.error failure, w') := by
  unfold reporting
  rw [outcome_bind, outcome_tryCatch, outcome_bind]
  rcases outcome step w with ⟨failure | ⟨⟩, w'⟩
  · dsimp only
    cases say failure with
    | none => rfl
    | some text => rfl
  · rfl

/-- The status of a step, if its failure can be reported. -/
def reported (say : Failure → Option String) : Except Failure Unit → Except Failure Nat
  | .ok () => .ok 0
  | .error failure =>
    match say failure with
    | some _ => .ok 1
    | none => .error failure

theorem reported_error (say : Failure → Option String) (failure : Failure) :
    reported say (.error failure) = .ok 1 ∨ reported say (.error failure) = .error failure := by
  cases said : say failure with
  | none => exact .inr (by rw [reported, said])
  | some text => exact .inl (by rw [reported, said])

/-- Reporting a failure is one message more. -/
theorem outcome_reporting_alike (say : Failure → Option String) (step : Action Unit) (w : World) :
    (outcome (reporting say step) w).1 = reported say (outcome step w).1 ∧
      (outcome step w).2.Alike (outcome (reporting say step) w).2 := by
  rw [outcome_reporting]
  rcases outcome step w with ⟨failure | ⟨⟩, w'⟩
  · simp only [reported]
    cases say failure with
    | none => exact ⟨rfl, .refl w'⟩
    | some text =>
      refine ⟨rfl, rfl, rfl, ?_⟩
      rw [World.record_printed]
      exact List.append_nil _
  · exact ⟨rfl, .refl w'⟩

theorem says_reporting (say : Failure → Option String) {step : Action Unit} {w : World}
    {result : Except Failure Unit} {texts : List String} (h : Says step w result texts) :
    Says (reporting say step) w (reported say result) texts := by
  obtain ⟨status, alike⟩ := outcome_reporting_alike say step w
  constructor
  · rw [status, h.result]
  · exact alike.host.trans h.host
  · exact alike.disk.trans h.disk
  · exact alike.printed.trans h.printed

/-- What the lines of a file and a sweep lead to: the texts that are printed, and the table. -/
def tabulate (sweep : Sweep) (reading : Reading) : List String × Except Failure Table :=
  match reading.fault with
  | some m => ([], .error (.malformed m))
  | none => summary sweep (series reading.apps sweep)

variable {cfg : Setting} {mode : Mode} {plan : Plan} {text : List Char}

theorem says_work (hm : Config.mode cfg = .ok mode) (hp : Plan.ofConfig cfg = .ok plan)
    (hr : plan.root = none) {w : World} {path : FilePath}
    (hi : (outcome (inputPath cfg) w).1 = .ok path)
    (ho : w.disk.read w.host.cwd path = .ok (Utf8.encode text)) :
    Says (work cfg) w
      (reported runReport
        ((tabulate plan.sweep (readLines mode (lines (translateEnds text)))).2.map fun _ => ()))
      (tabulate plan.sweep (readLines mode (lines (translateEnds text)))).1 := by
  have found := quiet_inputPath cfg w
  rw [hi] at found
  refine found.then (says_reporting _ ?_)
  rw [← found.disk, ← found.host] at ho
  have loaded := says_load_encode hm ho
  unfold tabulate ofReading at *
  cases hf : (readLines mode (lines (translateEnds text))).fault with
  | some m =>
    simp only [hf] at loaded ⊢
    exact loaded.bind_of_error
  | none =>
    simp only [hf] at loaded ⊢
    exact loaded.then ((says_summarize hp hr _ _).map _)

end Action

namespace Run

open PeakSlowness.Action

/-- A command line finds a configuration, and in it a statistics file with these octets. -/
def Opens (argv : List String) (w : World) (cfg : Setting) (octets : List UInt8) : Prop :=
  ∃ args w₁ path w₂, CommandLine.Arguments.parse argv = .ok args ∧
    outcome (settle args) w = (.ok cfg, w₁) ∧
    outcome (inputPath cfg) w₁ = (.ok path, w₂) ∧ w.disk.read w.host.cwd path = .ok octets

theorem output_eq {r : Run} (h : ∀ refusal, r.ending ≠ .refused refusal) :
    r.output = String.join r.world.printed := by
  unfold output
  split
  · next refusal refused => exact absurd refused (h refusal)
  · rfl

theorem endingOf_ne_refused (result : Except Failure Nat) (refusal : CommandLine.Refusal) :
    endingOf result ≠ .refused refusal := by
  cases result with
  | error failure => exact fun h => by cases h
  | ok code => exact fun h => by cases h

/-- How a run ends if the lines of its file lead to a result. -/
def endingFor (result : Except Failure Table) : Ending :=
  endingOf (reported runReport (result.map fun _ => ()))

variable {argv : List String} {host : Host} {disk : Disk} {cfg : Setting}
variable {mode : Mode} {plan : Plan} {text : List Char}

theorem ofCommandLine_of_settled {args : CommandLine.Arguments} {w w₁ : World}
    (parsed : CommandLine.Arguments.parse argv = .ok args)
    (settled : outcome (settle args) w = (.ok cfg, w₁)) :
    ofCommandLine argv w =
      ⟨endingOf (outcome (work cfg) w₁).1, isVerbose cfg, (outcome (work cfg) w₁).2⟩ := by
  have settled : (settle args).run.run w = (.ok cfg, w₁) := settled
  rw [ofCommandLine, parsed]
  simp only [ofArguments, settled]
  rfl

/-- A run over the octets of a text is decided by the lines of the text, the mode and the sweep. -/
theorem ofCommandLine_of_opens (opens : Opens argv ⟨host, disk, []⟩ cfg (Utf8.encode text))
    (hm : Config.mode cfg = .ok mode) (hp : Plan.ofConfig cfg = .ok plan) (hr : plan.root = none) :
    (ofCommandLine argv ⟨host, disk, []⟩).ending =
        endingFor (tabulate plan.sweep (readLines mode (lines (translateEnds text)))).2 ∧
      (ofCommandLine argv ⟨host, disk, []⟩).output =
        String.join (tabulate plan.sweep (readLines mode (lines (translateEnds text)))).1 := by
  obtain ⟨args, w₁, path, w₂, parsed, settled, found, content⟩ := opens
  have quiet := quiet_settle args ⟨host, disk, []⟩
  rw [settled] at quiet
  obtain ⟨-, sameHost, sameDisk, printed⟩ := quiet
  rw [settled] at sameHost sameDisk printed
  rw [← sameDisk, ← sameHost] at content
  have worked := says_work hm hp hr (congrArg Prod.fst found) content
  rw [ofCommandLine_of_settled parsed settled]
  refine ⟨by rw [worked.result]; rfl, ?_⟩
  rw [output_eq (endingOf_ne_refused _), worked.printed, printed]
  rfl

end Run

end PeakSlowness
