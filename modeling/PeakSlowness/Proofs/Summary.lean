import PeakSlowness.Proofs.Series
import PeakSlowness.Proofs.Session
import PeakSlowness.Proofs.Steps
import PeakSlowness.Summary

set_option autoImplicit false

/-!
What a summary prints and what it comes to. Both are functions of the sweep and the series, so
nothing else about the applications counts. If all times fit in 64 bits with a sign, every row is
written.
-/

namespace PeakSlowness

def rowLine (r : Int × Binary64) : String := toString r.1 ++ "," ++ r.2.toText ++ "\n"

theorem map_rowLine_series (apps : List Application) (sweep : Sweep) :
    (series apps sweep).map rowLine =
      (List.range sweep.count).map fun k => rowLine (sweep.time k, peakAt apps (sweep.time k)) := by
  rw [series, Sweep.times, List.map_map, List.map_map]
  rfl

theorem write_of_fitsSigned {t : Int} (h : FitsSigned t) : Numeral.write t = .ok (toString t) := by
  have small : t.natAbs < 10 ^ 19 := by
    unfold FitsSigned at h
    omega
  have wide : (10 : Nat) ^ 19 ≤ 10 ^ Numeral.digitLimit :=
    Nat.pow_le_pow_right (by decide) (by decide)
  exact if_neg (Nat.not_le.2 (Nat.lt_of_lt_of_le small wide))

theorem row_of_write {t : Int} {shown : String} (h : Numeral.write t = .ok shown)
    (value : Binary64) : row t value = .ok (shown ++ "," ++ value.toText) := by
  unfold row
  rw [h]
  rfl

theorem row_of_fitsSigned {t : Int} (h : FitsSigned t) (value : Binary64) :
    row t value = .ok (toString t ++ "," ++ value.toText) :=
  row_of_write (write_of_fitsSigned h) value

def putLine (line : Except Numeral.Fault String) (rest : List String × Except Failure Unit) :
    List String × Except Failure Unit :=
  match line with
  | .error fault => ([], .error (.numeral fault))
  | .ok text => ((text ++ "\n") :: rest.1, rest.2)

/-- The lines of a series up to the first one that cannot be written, and whether all are
written. -/
def printable (s : Series) : List String × Except Failure Unit :=
  s.foldr (fun r => putLine (row r.1 r.2)) ([], .ok ())

theorem printable_of_fitsSigned {s : Series} (h : ∀ r ∈ s, FitsSigned r.1) :
    printable s = (s.map rowLine, .ok ()) := by
  induction s with
  | nil => rfl
  | cons r rest ih =>
    have here := row_of_fitsSigned (h r List.mem_cons_self) r.2
    have others := ih fun r hr => h r (List.mem_cons_of_mem _ hr)
    unfold printable at others ⊢
    rw [List.foldr_cons, here, others]
    rfl

theorem fits_series {sweep : Sweep} (h : ∀ t ∈ sweep.times, FitsSigned t)
    (apps : List Application) :
    ∀ r ∈ series apps sweep, FitsSigned r.1 := by
  intro r hr
  obtain ⟨t, ht, rfl⟩ := List.mem_map.1 hr
  exact h t ht

theorem ofSeries?_of_fits {s : Series} (h : ∀ r ∈ s, FitsSigned r.1) :
    Table.ofSeries? s = some ⟨s, h⟩ := dif_pos h

theorem rowLine_of_row {r : Int × Binary64} {text : String} (h : row r.1 r.2 = .ok text) :
    text ++ "\n" = rowLine r := by
  obtain ⟨shown, written, text_eq⟩ := bind_eq_ok_iff.1 h
  cases text_eq
  unfold Numeral.write at written
  split at written
  · cases written
  · cases written
    rfl

theorem printable_cons (r : Int × Binary64) (rest : Series) :
    printable (r :: rest) = putLine (row r.1 r.2) (printable rest) := by
  rw [printable, List.foldr_cons]
  rfl

/-- Either all lines of a series are written, or those before one that cannot be. -/
theorem printable_cases (s : Series) :
    printable s = (s.map rowLine, .ok ()) ∨
      ∃ first r rest fault, s = first ++ r :: rest ∧ row r.1 r.2 = .error fault ∧
        printable s = (first.map rowLine, .error (.numeral fault)) := by
  induction s with
  | nil => exact .inl rfl
  | cons r rest ih =>
    have step := printable_cons r rest
    cases here : row r.1 r.2 with
    | error fault =>
      rw [here] at step
      exact .inr ⟨[], r, rest, fault, rfl, here, step⟩
    | ok text =>
      rw [here, putLine, rowLine_of_row here] at step
      rcases ih with all | ⟨first, q, others, fault, rfl, there, some⟩
      · rw [all] at step
        exact .inl step
      · rw [some] at step
        exact .inr ⟨r :: first, q, others, fault, rfl, there, step⟩

/-- What a summary without reports prints and what it comes to. -/
def summary (sweep : Sweep) (s : Series) : List String × Except Failure Table :=
  match sweep.size? with
  | none => ([], .error .tooManyCheckpoints)
  | some _ =>
    match printable s with
    | (texts, .error failure) => (texts, .error failure)
    | (texts, .ok ()) =>
      match Table.ofSeries? s with
      | none => (texts, .error .timeBeyondTable)
      | some table => (texts, .ok table)

theorem summary_of_fits {sweep : Sweep} {n : Nat} (size : sweep.size? = some n) {s : Series}
    (h : ∀ r ∈ s, FitsSigned r.1) : summary sweep s = (s.map rowLine, .ok ⟨s, h⟩) := by
  rw [summary, size]
  simp only [printable_of_fitsSigned h, ofSeries?_of_fits h]

/-- What a summary without reports prints and what it comes to, by the step that it stops at. -/
inductive Stops (sweep : Sweep) (s : Series) : List String → Except Failure Table → Prop where
  | uncounted : sweep.size? = none → Stops sweep s [] (.error .tooManyCheckpoints)
  | unwritten {n : Nat} {first rest : Series} {r : Int × Binary64} {fault : Numeral.Fault} :
      sweep.size? = some n → s = first ++ r :: rest → row r.1 r.2 = .error fault →
      Stops sweep s (first.map rowLine) (.error (.numeral fault))
  | untabled {n : Nat} : sweep.size? = some n → Table.ofSeries? s = none →
      Stops sweep s (s.map rowLine) (.error .timeBeyondTable)
  | tabled {n : Nat} {table : Table} : sweep.size? = some n → Table.ofSeries? s = some table →
      Stops sweep s (s.map rowLine) (.ok table)

theorem stops_summary (sweep : Sweep) (s : Series) :
    Stops sweep s (summary sweep s).1 (summary sweep s).2 := by
  unfold summary
  cases size : sweep.size? with
  | none => exact .uncounted size
  | some n =>
    rcases printable_cases s with all | ⟨first, r, rest, fault, cut, unwritten, some⟩
    · rw [all]
      cases held : Table.ofSeries? s with
      | none => exact .untabled size held
      | some table => exact .tabled size held
    · rw [some]
      exact .unwritten size cut unwritten

theorem Stops.texts_prefix {sweep : Sweep} {s : Series} {texts : List String}
    {result : Except Failure Table} (h : Stops sweep s texts result) :
    texts <+: s.map rowLine := by
  cases h with
  | uncounted _ => exact List.nil_prefix
  | unwritten _ cut _ =>
    rw [cut, List.map_append]
    exact List.prefix_append _ _
  | untabled _ _ => exact List.prefix_rfl
  | tabled _ _ => exact List.prefix_rfl

theorem Stops.texts_of_ok {sweep : Sweep} {s : Series} {texts : List String} {table : Table}
    (h : Stops sweep s texts (.ok table)) : texts = s.map rowLine := by
  cases h with
  | tabled _ _ => rfl

theorem Stops.ofSeries?_of_ok {sweep : Sweep} {s : Series} {texts : List String} {table : Table}
    (h : Stops sweep s texts (.ok table)) : Table.ofSeries? s = some table := by
  cases h with
  | tabled _ held => exact held

theorem Stops.of_uncounted {sweep : Sweep} {s : Series} {texts : List String}
    {result : Except Failure Table} (h : Stops sweep s texts result) (size : sweep.size? = none) :
    texts = [] ∧ result = .error .tooManyCheckpoints := by
  cases h with
  | uncounted _ => exact ⟨rfl, rfl⟩
  | unwritten counted _ _ | untabled counted _ | tabled counted _ =>
    rw [size] at counted
    cases counted

namespace Action

theorem printRows_cons (r : Int × Binary64) (rest : Series) :
    printRows (r :: rest) =
      ((ofExcept .numeral (row r.1 r.2) >>= fun text => print (text ++ "\n")) >>= fun _ =>
        printRows rest) := rfl

theorem says_printRows (s : Series) (w : World) :
    Says (printRows s) w (printable s).2 (printable s).1 := by
  induction s generalizing w with
  | nil => exact says_pure () w
  | cons r rest ih =>
    have written := says_ofExcept .numeral (row r.1 r.2) w
    unfold printable at ih ⊢
    rw [List.foldr_cons, printRows_cons]
    cases h : row r.1 r.2 with
    | error fault =>
      rw [h] at written
      exact written.bind_of_error.bind_of_error
    | ok text =>
      rw [h] at written
      have shown :
          Says (ofExcept .numeral (.ok text) >>= fun text => print (text ++ "\n")) w
            (.ok ()) [text ++ "\n"] := written.then (says_print _ _)
      exact shown.bind (ih _)

def printing (sweep : Sweep) (apps : List Application) : Action Table := do
  announce apps sweep
  printRows (series apps sweep)
  match Table.ofSeries? (series apps sweep) with
  | some table => return table
  | none => throw .timeBeyondTable

theorem says_printing (sweep : Sweep) (apps : List Application) (w : World) :
    Says (printing sweep apps) w (summary sweep (series apps sweep)).2
      (summary sweep (series apps sweep)).1 := by
  have lines := fun w => says_printRows (series apps sweep) w
  unfold printing summary
  cases size : sweep.size? with
  | none =>
    have stopped : Says (announce apps sweep) w (.error .tooManyCheckpoints) [] := by
      rw [announce, size]
      exact says_throw _ w
    exact stopped.bind_of_error
  | some n =>
    have announced : Says (announce apps sweep) w (.ok ()) [] := by
      rw [announce, size]
      exact says_logWritten _ _ w
    refine announced.then ?_
    rcases h : printable (series apps sweep) with ⟨texts, failure | ⟨⟩⟩
    · rw [h] at lines
      exact (lines _).bind_of_error
    · rw [h] at lines
      rw [← List.append_nil texts]
      cases Table.ofSeries? (series apps sweep) with
      | none => exact (lines _).bind (says_throw _ _)
      | some table => exact (lines _).bind (says_pure table _)

def filing (plan : Plan) (table : Table) : Option FilePath → Action Unit
  | none => pure ()
  | some root => writeFiles plan table root

def warning (plan : Plan) (root : Option FilePath) : Action Unit :=
  if plan.plot && root.isNone then
    log .warning "plot requested without an output directory; no plot will be saved."
  else pure ()

theorem sometimes_then {α : Type} (often : Prop) [Decidable often] (x : Action Unit)
    (next : Action α) :
    (if often then x >>= fun _ => next else next) =
      (if often then x else pure ()) >>= fun _ => next := by
  by_cases h : often
  · rw [if_pos h, if_pos h]
  · rw [if_neg h, if_neg h, pure_bind]

theorem summarize_eq {cfg : Setting} {plan : Plan} (h : Plan.ofConfig cfg = .ok plan)
    (apps : List Application) :
    summarize apps cfg =
      plan.root.mapM prepareRoot >>= fun root => warning plan root >>= fun _ =>
        printing plan.sweep apps >>= fun table => filing plan table root >>= fun _ =>
          pure table := by
  unfold summarize printing warning
  rw [h]
  change (pure plan >>= _) = _
  rw [pure_bind]
  apply bind_congr
  intro root
  refine (sometimes_then _ _ _).trans ?_
  apply bind_congr
  intro _
  rw [bind_assoc]
  apply bind_congr
  intro _
  rw [bind_assoc]
  apply bind_congr
  intro _
  cases Table.ofSeries? (series apps plan.sweep) with
  | none => rfl
  | some table =>
    rw [pure_bind]
    cases root with
    | none => rfl
    | some root => rfl

theorem says_warning (plan : Plan) (root : Option FilePath) (w : World) :
    Says (warning plan root) w (.ok ()) [] := by
  unfold warning
  split
  · exact says_log _ _ w
  · exact says_pure () w

/-- Without a report directory, only the sweep and the series count. -/
theorem says_summarize {cfg : Setting} {plan : Plan} (h : Plan.ofConfig cfg = .ok plan)
    (hr : plan.root = none) (apps : List Application) (w : World) :
    Says (summarize apps cfg) w (summary plan.sweep (series apps plan.sweep)).2
      (summary plan.sweep (series apps plan.sweep)).1 := by
  rw [summarize_eq h, hr]
  refine (says_pure none w).then ((says_warning plan none _).then ?_)
  have rows := fun w => says_printing plan.sweep apps w
  rcases h : summary plan.sweep (series apps plan.sweep) with ⟨texts, failure | table⟩
  · rw [h] at rows
    exact (rows _).bind_of_error
  · rw [h] at rows
    rw [← List.append_nil texts]
    exact (rows _).bind ((says_pure () _).then (says_pure table _))

end Action

end PeakSlowness
