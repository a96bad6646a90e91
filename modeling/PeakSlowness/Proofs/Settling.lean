import PeakSlowness.Output
import PeakSlowness.Proofs.Home

set_option autoImplicit false

/-!
Settling a report directory. It is declined for what is at its canonical path, or because nothing can be
looked at there, before anything has happened; otherwise it is made, and refused if it may not be used.
-/

namespace PeakSlowness.Action

variable {p q directory : FilePath} {w w' : World}

theorem outcome_makeRoot (directory : FilePath) (w : World) :
    outcome (makeRoot directory) w =
      match outcome (makeDirectories directory.anchor directory.parts) w with
      | (.ok (), w') =>
        (if w'.disk.isUsable w'.host.cwd directory then .ok directory
          else .error (.output directory .denied), w')
      | (.error (.system e _), w') => (.error (.output directory (.system e)), w')
      | (.error failure, w') => (.error failure, w') := by
  rw [makeRoot, outcome_bind, outcome_tryCatch]
  rcases outcome (makeDirectories directory.anchor directory.parts) w with ⟨failure | _, w'⟩
  · cases failure <;> rfl
  · refine (outcome_bind_of_ok (outcome_query _ w')).trans ?_
    dsimp only
    split <;> rfl

/-- A report directory that has been made is there, and entries may be made in it. -/
theorem makes_of_makeRoot {d : FilePath}
    (h : outcome (makeRoot directory) w = (.ok d, w')) :
    d = directory ∧ outcome (makeDirectories directory.anchor directory.parts) w = (.ok (), w') ∧
      w'.disk.isUsable w'.host.cwd directory = true := by
  rw [outcome_makeRoot] at h
  split at h
  · next w₁ made =>
    split at h
    · next usable =>
      cases h
      exact ⟨rfl, made, usable⟩
    · cases h
  · cases h
  · cases h

/-- What is at a canonical path decides whether a directory is made there. -/
theorem outcome_settleRoot (callable : q.flaw = none ∧ q.hasNul = false) (w : World) :
    outcome (settleRoot q) w =
      match w.disk.entryAt w.host.cwd (w.disk.canonical w.host.cwd q) with
      | .error (.errno .tooManyLinks) => (.error (.linkLoop (w.disk.canonical w.host.cwd q)), w)
      | .error (.errno e) =>
        if e.tellsAbsence then outcome (makeRoot (w.disk.canonical w.host.cwd q)) w
        else (.error (.system e (w.disk.canonical w.host.cwd q)), w)
      | .ok (_, .file _) | .ok (_, .link _) =>
        (.error (.output (w.disk.canonical w.host.cwd q) .taken), w)
      | _ => outcome (makeRoot (w.disk.canonical w.host.cwd q)) w := by
  unfold settleRoot
  simp only [callable, Bool.false_eq_true, if_false]
  apply Eq.trans (outcome_bind_of_ok (outcome_get w))
  cases w.disk.entryAt w.host.cwd (w.disk.canonical w.host.cwd q) with
  | error fault =>
    cases fault with
    | errno e => cases e <;> rfl
    | unencodable _ | nul => rfl
  | ok found =>
    obtain ⟨place, entry⟩ := found
    cases entry <;> rfl

/-- Why a report directory is not even tried to be made. -/
inductive Declined (q : FilePath) (w : World) : Failure → Prop
  | unencodable {u : Text.Unencodable} (flaw : q.flaw = some u) : Declined q w (.unencodable u)
  | nul (no_flaw : q.flaw = none) (nul : q.hasNul = true) : Declined q w .nulInPath
  | linkLoop (callable : q.flaw = none ∧ q.hasNul = false)
      (loop : w.disk.entryAt w.host.cwd (w.disk.canonical w.host.cwd q) =
        .error (.errno .tooManyLinks)) :
      Declined q w (.linkLoop (w.disk.canonical w.host.cwd q))
  | refused {e : Errno} (callable : q.flaw = none ∧ q.hasNul = false)
      (refused : w.disk.entryAt w.host.cwd (w.disk.canonical w.host.cwd q) = .error (.errno e))
      (untold : e.tellsAbsence = false) :
      Declined q w (.system e (w.disk.canonical w.host.cwd q))
  | taken {place : Place} {entry : Entry} (callable : q.flaw = none ∧ q.hasNul = false)
      (there : w.disk.entryAt w.host.cwd (w.disk.canonical w.host.cwd q) = .ok (place, entry))
      (other : entry ≠ .directory) :
      Declined q w (.output (w.disk.canonical w.host.cwd q) .taken)

theorem outcome_settleRoot_of_declined {failure : Failure} (h : Declined q w failure) :
    outcome (settleRoot q) w = (.error failure, w) := by
  cases h with
  | unencodable flaw =>
    unfold settleRoot
    simp only [flaw]
    rfl
  | nul no_flaw nul =>
    unfold settleRoot
    simp only [no_flaw, nul]
    rfl
  | linkLoop callable loop => rw [outcome_settleRoot callable, loop]
  | @refused e callable refused untold =>
    rw [outcome_settleRoot callable, refused]
    cases e with
    | noEntry | notDirectory | tooManyLinks => cases untold
    | _ => rfl
  | @taken place entry callable there other =>
    rw [outcome_settleRoot callable, there]
    cases entry with
    | directory => exact absurd rfl other
    | file _ | link _ => rfl

theorem outcome_settleRoot_of_not_declined (h : ∀ failure, ¬ Declined q w failure) :
    outcome (settleRoot q) w = outcome (makeRoot (w.disk.canonical w.host.cwd q)) w := by
  have callable : q.flaw = none ∧ q.hasNul = false := by
    cases flaw : q.flaw with
    | some u => exact absurd (.unencodable flaw) (h _)
    | none => exact ⟨rfl, Bool.eq_false_iff.2 fun nul => h _ (.nul flaw nul)⟩
  rw [outcome_settleRoot callable]
  split
  · next loop => exact absurd (.linkLoop callable loop) (h _)
  · next e _ refused =>
    cases told : e.tellsAbsence with
    | true => rfl
    | false => exact absurd (.refused callable refused told) (h _)
  · next there => exact absurd (.taken callable there nofun) (h _)
  · next there => exact absurd (.taken callable there nofun) (h _)
  · rfl

/-- A report directory is declined, and nothing has happened, or it is made at its canonical path. -/
theorem declined_or_made (q : FilePath) (w : World) :
    (∃ failure, Declined q w failure ∧ outcome (settleRoot q) w = (.error failure, w)) ∨
      (∀ failure, ¬ Declined q w failure) ∧
        outcome (settleRoot q) w = outcome (makeRoot (w.disk.canonical w.host.cwd q)) w := by
  by_cases declined : ∃ failure, Declined q w failure
  · obtain ⟨failure, declined⟩ := declined
    exact .inl ⟨failure, declined, outcome_settleRoot_of_declined declined⟩
  · rw [not_exists] at declined
    exact .inr ⟨declined, outcome_settleRoot_of_not_declined declined⟩

/-- A report directory that has been settled is made at a canonical path, which can be looked at. -/
theorem makes_of_settleRoot (h : outcome (settleRoot q) w = (.ok directory, w')) :
    directory = w.disk.canonical w.host.cwd q ∧ (∀ failure, ¬ Declined q w failure) ∧
      outcome (makeRoot directory) w = (.ok directory, w') := by
  rcases declined_or_made q w with ⟨failure, -, stopped⟩ | ⟨tried, made⟩
  · cases stopped.symm.trans h
  · rw [made] at h
    obtain ⟨rfl, -⟩ := makes_of_makeRoot h
    exact ⟨rfl, tried, h⟩

theorem outcome_preparePath (home : p.expanded w.host = .ok q) :
    outcome (preparePath p) w = outcome (settleRoot q) w := by
  rw [preparePath, outcome_bind_of_ok (by rw [outcome_expandHome, home])]

theorem outcome_prepareRoot {root : Setting} (named : root.toPath = .ok p) (w : World) :
    outcome (prepareRoot root) w = outcome (preparePath p) w := by
  rw [prepareRoot, named, outcome_bind_of_ok (outcome_ofExcept_ok _ p w)]

end PeakSlowness.Action
