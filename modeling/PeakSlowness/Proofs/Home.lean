import PeakSlowness.Proofs.Session

set_option autoImplicit false

/-!
Home directories in paths. What a path with a `~` in front stands for depends on the host alone: looking it
up leaves the world as it is, and fails for one of three reasons.
-/

namespace PeakSlowness

open Text (Unencodable)

namespace Host

variable {host : Host} {user : List Char} {failure : Failure}

/-- Why a home directory is not known: the user has letters without octets, or a NUL character, or has no home
but one that begins with a `~` itself. -/
inductive LosesHome (host : Host) (user : List Char) : Failure → Prop
  | unencodable {u : Unencodable} (flaw : Unencodable.inPath? (FileName.lettersOf user) = some u) :
      LosesHome host user (.unencodable u)
  | nul (no_flaw : Unencodable.inPath? (FileName.lettersOf user) = none) (nul : '\x00' ∈ user) :
      LosesHome host user .nulInPath
  | unknown (no_flaw : Unencodable.inPath? (FileName.lettersOf user) = none) (no_nul : '\x00' ∉ user)
      (unknown : ∀ home, host.homeOf? user = some home → home.toList.head? = some '~') :
      LosesHome host user .noHome

theorem homeFor_eq_error_iff : host.homeFor user = .error failure ↔ host.LosesHome user failure := by
  constructor
  · intro lost
    unfold homeFor at lost
    split at lost
    · next u flaw =>
      cases lost
      exact .unencodable flaw
    · next no_flaw =>
      split at lost
      · next nul =>
        cases lost
        exact .nul no_flaw nul
      · next no_nul =>
        split at lost
        · next none_known =>
          cases lost
          refine .unknown no_flaw no_nul fun home known => ?_
          rw [none_known] at known
          cases known
        · next home known =>
          split at lost
          · next tilde =>
            cases lost
            refine .unknown no_flaw no_nul fun other same => ?_
            rw [known] at same
            cases same
            exact tilde
          · cases lost
  · intro loses
    cases loses with
    | unencodable flaw => rw [homeFor, flaw]
    | nul no_flaw nul =>
      rw [homeFor, no_flaw]
      exact if_pos nul
    | unknown no_flaw no_nul unknown =>
      rw [homeFor, no_flaw]
      refine (if_neg no_nul).trans ?_
      cases known : host.homeOf? user with
      | none => rfl
      | some home => exact if_pos (unknown home known)

end Host

namespace FilePath

variable {p : FilePath} {host : Host} {failure : Failure}

/-- A path is expanded, or loses its home directory. -/
theorem expanded_eq_error_iff : p.expanded host = .error failure ↔
    ∃ user, p.user? = some user ∧ host.LosesHome user failure := by
  unfold expanded
  cases p.user? with
  | none => simp
  | some user =>
    have lost : (host.homeFor user).map p.inHome = .error failure ↔ host.homeFor user = .error failure := by
      cases host.homeFor user with
      | error other => simp [Except.map]
      | ok home => exact iff_of_false nofun nofun
    simp [lost, Host.homeFor_eq_error_iff]

end FilePath

namespace Action

theorem outcome_expandHome (p : FilePath) (w : World) :
    outcome (expandHome p) w = (p.expanded w.host, w) := by
  rw [expandHome, outcome_bind_of_ok (outcome_get w), outcome_ofExcept]
  cases p.expanded w.host <;> rfl

theorem quiet_expandHome (p : FilePath) : Quiet (expandHome p) := by
  intro w
  rw [outcome_expandHome]
  exact says_of_outcome (outcome_expandHome p w) rfl rfl (List.append_nil _).symm

end Action

end PeakSlowness
