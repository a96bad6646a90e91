import PeakSlowness.Proofs.Effects

set_option autoImplicit false

/-!
The course of a summary. It stops before anything has happened, or when its report directory cannot
be had, or while it prints, or it has printed all rows and files its reports. What has happened by
then is a list of events in this order.
-/

namespace PeakSlowness

namespace Action

variable {apps : List Application} {cfg : Setting} {w : World}

/-- Events that make directories and keep all files. -/
structure Ready (w : World) (prepared : List Event) : Prop where
  prepares : ∀ e ∈ prepared, e.Prepares
  kept : ∀ place octets, w.disk.find? place = some (.file octets) →
    (w.after prepared).disk.find? place = some (.file octets)

theorem Ready.texts_eq {prepared : List Event} (h : Ready w prepared) : texts prepared = [] :=
  texts_of_files fun e he => (h.prepares e he).files

theorem Ready.not_opens {prepared : List Event} (h : Ready w prepared) :
    ∀ e ∈ prepared, ¬ e.Opens :=
  fun e he => (h.prepares e he).not_opens

theorem ready_of_prepareRoot (root : Setting) (w : World) :
    ∃ prepared, (outcome (prepareRoot root) w).2 = w.after prepared ∧ Ready w prepared := by
  obtain ⟨prepared, there, prepares⟩ := (within_prepareRoot root w).trace
  refine ⟨prepared, there, prepares, ?_⟩
  intro place octets file
  rw [← there]
  exact (writes_prepareRoot root w).kept place octets file nofun

/-- How a summary goes: what it comes to, and its events. -/
inductive Goes (apps : List Application) (cfg : Setting) (w : World) :
    Except Failure Table → List Event → Prop where
  | unplanned {failure : Failure} : Plan.ofConfig cfg = .error failure →
      Goes apps cfg w (.error failure) []
  | unrooted {plan : Plan} {root : Setting} {prepared : List Event} {failure : Failure} :
      Plan.ofConfig cfg = .ok plan → plan.root = some root → Ready w prepared →
      RootLost root w failure → Goes apps cfg w (.error failure) prepared
  | unprinted {plan : Plan} {prepared spoken : List Event} {failure : Failure} :
      Plan.ofConfig cfg = .ok plan → Ready w prepared → (∀ e ∈ spoken, e.Speaks) →
      Stops plan.sweep (series apps plan.sweep) (texts spoken) (.error failure) →
      Goes apps cfg w (.error failure) (prepared ++ spoken)
  | printed {plan : Plan} {prepared spoken filed : List Event} {table : Table}
      {root : Option FilePath} {result : Except Failure Unit} :
      Plan.ofConfig cfg = .ok plan → Ready w prepared → (∀ e ∈ spoken, e.Speaks) →
      Stops plan.sweep (series apps plan.sweep) (texts spoken) (.ok table) →
      (∀ e ∈ filed, e.Reports table) → (root.isSome → plan.root.isSome) →
      outcome (filing plan table root) (w.after (prepared ++ spoken)) =
        (result, w.after (prepared ++ spoken ++ filed)) →
      Goes apps cfg w (result.map fun _ => table) (prepared ++ spoken ++ filed)

theorem within_printRows {causes : Failure → Prop} (h : ∀ fault, causes (.numeral fault))
    (s : Series) (w : World) : Within Event.Speaks causes (printRows s) w := by
  induction s generalizing w with
  | nil => exact within_pure () w
  | cons r rest ih =>
    rw [printRows_cons]
    refine Within.bind (Within.bind (within_ofExcept (fun fault _ => h fault) w) ?_) ?_
    · exact fun text _ => within_print trivial _
    · exact fun _ _ => ih _

/-- Says that no report directory is there for the plot, and prints the rows. -/
def speaking (plan : Plan) (root : Option FilePath) (apps : List Application) : Action Table :=
  warning plan root >>= fun _ => printing plan.sweep apps

theorem within_speaking (plan : Plan) (root : Option FilePath) (apps : List Application)
    (w : World) : Within Event.Speaks (fun _ => True) (speaking plan root apps) w := by
  unfold speaking warning printing announce
  refine Within.bind ?_ fun _ _ => Within.bind ?_ fun _ _ => Within.bind ?_ fun _ _ => ?_
  · split
    · exact within_log trivial w
    · exact within_pure () w
  · split
    · unfold logWritten
      split
      · exact within_log trivial _
      · exact within_pure () _
    · exact within_throw trivial _
  · exact within_printRows (fun _ => trivial) _ _
  · split
    · exact within_pure _ _
    · exact within_throw trivial _

theorem says_speaking (plan : Plan) (root : Option FilePath) (apps : List Application) (w : World) :
    Says (speaking plan root apps) w (summary plan.sweep (series apps plan.sweep)).2
      (summary plan.sweep (series apps plan.sweep)).1 :=
  (says_warning plan root w).then (says_printing plan.sweep apps _)

/-- Printing leaves the rows on standard output, up to the one that it stops at. -/
theorem exists_spoken (plan : Plan) (root : Option FilePath) (apps : List Application) (w : World) :
    ∃ spoken, (outcome (speaking plan root apps) w).2 = w.after spoken ∧ (∀ e ∈ spoken, e.Speaks) ∧
      Stops plan.sweep (series apps plan.sweep) (texts spoken)
        (outcome (speaking plan root apps) w).1 := by
  obtain ⟨spoken, there, speaks⟩ := (within_speaking plan root apps w).trace
  have said := says_speaking plan root apps w
  have shown := said.printed
  rw [there, World.printed_after] at shown
  refine ⟨spoken, there, speaks, ?_⟩
  rw [List.append_cancel_left shown, said.result]
  exact stops_summary _ _

theorem summarize_eq_speaking {plan : Plan} (h : Plan.ofConfig cfg = .ok plan)
    (apps : List Application) :
    summarize apps cfg = plan.root.mapM prepareRoot >>= fun root =>
      speaking plan root apps >>= fun table => filing plan table root >>= fun _ => pure table := by
  rw [summarize_eq h]
  apply bind_congr
  intro root
  rw [speaking, bind_assoc]

theorem within_filing (plan : Plan) (table : Table) (root : Option FilePath) (w : World) :
    Within (Event.Reports table) (fun failure => root.isSome ∧ FilesLost plan table failure)
      (filing plan table root) w := by
  cases root with
  | none => exact within_pure () w
  | some directory =>
    refine (within_writeFiles table directory plan w).mono (fun _ h => h) ?_
    exact fun failure lost => ⟨rfl, lost⟩

/-- A summary goes on when its report directory is ready. -/
theorem goes_of_prepared {plan : Plan} {root : Option FilePath} {prepared : List Event}
    (hp : Plan.ofConfig cfg = .ok plan) (ready : Ready w prepared)
    (asked : root.isSome → plan.root.isSome) {rest : Action Table}
    (h : rest = speaking plan root apps >>= fun table => filing plan table root >>= fun _ =>
      pure table) :
    ∃ trace, (outcome rest (w.after prepared)).2 = w.after trace ∧
      Goes apps cfg w (outcome rest (w.after prepared)).1 trace := by
  subst h
  obtain ⟨spoken, there, speaks, stops⟩ := exists_spoken plan root apps (w.after prepared)
  rw [outcome_bind]
  rcases said : outcome (speaking plan root apps) (w.after prepared) with ⟨failure | table, w₂⟩
  · rw [said] at there stops
    have behind := (World.after_append w prepared spoken).symm
    exact ⟨_, there.trans behind, .unprinted hp ready speaks stops⟩
  · rw [said] at there stops
    have there : w₂ = w.after (prepared ++ spoken) := there.trans (World.after_append _ _ _).symm
    subst there
    obtain ⟨filed, behind, files⟩ := (within_filing plan table root _).outcome_eq
    rw [← World.after_append] at behind
    have finished := outcome_map (fun _ => table) (filing plan table root)
      (w.after (prepared ++ spoken))
    rw [behind] at finished
    change ∃ trace, (outcome ((fun _ => table) <$> filing plan table root) _).2 = _ ∧
      Goes apps cfg w (outcome ((fun _ => table) <$> filing plan table root) _).1 trace
    rw [finished]
    exact ⟨_, rfl, .printed hp ready speaks stops files asked behind⟩

theorem goes_summarize (apps : List Application) (cfg : Setting) (w : World) :
    ∃ trace, (outcome (summarize apps cfg) w).2 = w.after trace ∧
      Goes apps cfg w (outcome (summarize apps cfg) w).1 trace := by
  cases hp : Plan.ofConfig cfg with
  | error failure =>
    have stopped : outcome (summarize apps cfg) w = (.error failure, w) := by
      rw [summarize, hp]
      rfl
    rw [stopped]
    exact ⟨[], rfl, .unplanned hp⟩
  | ok plan =>
    rw [summarize_eq_speaking hp]
    cases asked : plan.root with
    | none =>
      have ready : Ready w [] := ⟨nofun, fun _ _ file => file⟩
      change ∃ trace, (outcome _ (w.after [])).2 = _ ∧ Goes _ _ _ (outcome _ (w.after [])).1 _
      exact goes_of_prepared hp ready (fun h => by cases h) (pure_bind _ _)
    | some root =>
      have found : outcome (Option.mapM prepareRoot (some root)) w =
          ((outcome (prepareRoot root) w).1.map some, (outcome (prepareRoot root) w).2) :=
        outcome_map some (prepareRoot root) w
      obtain ⟨prepared, there, ready⟩ := ready_of_prepareRoot root w
      have lost := (within_prepareRoot root w).cause
      rw [outcome_bind, found, there]
      cases result : (outcome (prepareRoot root) w).1 with
      | error failure => exact ⟨prepared, rfl, .unrooted hp asked ready (lost failure result)⟩
      | ok directory =>
        refine goes_of_prepared hp ready ?_ rfl
        rw [asked]
        exact fun _ => rfl

end Action

end PeakSlowness
