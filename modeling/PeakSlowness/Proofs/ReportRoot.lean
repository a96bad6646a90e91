import PeakSlowness.Proofs.Disk.Resolution
import PeakSlowness.Proofs.Opening
import PeakSlowness.Proofs.Prepared
import PeakSlowness.Proofs.WrittenFile

set_option autoImplicit false

/-!
The directory for reports. What is said of preparing it is that it is there afterwards, or is refused as the
report directory, and that another preparation changes nothing. Some paths are refused before that for
reasons that are not told apart from other ones, and a path with a link inside itself may be prepared
under a name that is not its canonical one.
-/

namespace PeakSlowness

open Disk (Settled NewUpTo IsName)

namespace Action

variable {p q directory : FilePath} {w w' : World} {root : Setting} {here : Place}

theorem outcome_makeDirectories_of_hasNul (flaw : p.flaw = none) (nul : p.hasNul = true)
    (w : World) : outcome (makeDirectories p.anchor p.parts) w = (.error .nulInPath, w) := by
  obtain ⟨anchor, parts, _⟩ := p
  cases flaw
  have refused := outcome_makeDirectory { anchor, parts } w
  rw [Disk.makeDirectory, Disk.locate_of_hasNul rfl nul, error_bind] at refused
  rw [makeDirectories, outcome_bind_of_ok refused]
  rfl

/-- A report directory has been prepared: a path leads to it, from the root on, entries may be made in it, and
at most it and directories above it are new. -/
structure Prepared (directory : FilePath) (here : Place) (w w' : World) : Prop where
  absolute : directory.isAbsolute = true
  host : w'.host = w.host
  there : w'.disk.locate w.host.cwd .find directory = .ok (.taken here .directory)
  usable : (w'.disk.may here .write && w'.disk.may here .search) = true
  new : NewUpTo here w.disk w'.disk

/-- Why preparing a report directory fails for something else than the directory: the home directory in the
path is not known, it has letters without octets or a NUL character, it leads into a loop of links, or it is
left open where it leads. -/
inductive RootStrays (p : FilePath) (w : World) : Failure → Prop
  | home {user : List Char} {failure : Failure} (named : p.user? = some user)
      (lost : w.host.LosesHome user failure) : RootStrays p w failure
  | unencodable {q : FilePath} {u : Text.Unencodable} (home : p.expanded w.host = .ok q)
      (flaw : q.flaw = some u) : RootStrays p w (.unencodable u)
  | nul {q : FilePath} (home : p.expanded w.host = .ok q) (no_flaw : q.flaw = none)
      (nul : q.hasNul = true ∨ (w.disk.canonical w.host.cwd q).hasNul = true) :
      RootStrays p w .nulInPath
  | linkLoop {q : FilePath} (home : p.expanded w.host = .ok q)
      (callable : q.flaw = none ∧ q.hasNul = false)
      (loop : w.disk.entryAt w.host.cwd (w.disk.canonical w.host.cwd q) =
        .error (.errno .tooManyLinks)) :
      RootStrays p w (.linkLoop (w.disk.canonical w.host.cwd q))
  | refused {q : FilePath} {e : Errno} (home : p.expanded w.host = .ok q)
      (callable : q.flaw = none ∧ q.hasNul = false)
      (refused : w.disk.entryAt w.host.cwd (w.disk.canonical w.host.cwd q) = .error (.errno e))
      (untold : e.tellsAbsence = false) :
      RootStrays p w (.system e (w.disk.canonical w.host.cwd q))

theorem canonical_flaw (w : World) (q : FilePath) : (w.disk.canonical w.host.cwd q).flaw = none := by
  unfold Disk.canonical
  dsimp only
  split
  · rfl
  · rfl

theorem RootStrays.result {failure : Failure} (h : RootStrays p w failure) :
    (outcome (preparePath p) w).1 = .error failure := by
  cases h with
  | home named lost =>
    have expanded : outcome (expandHome p) w = (.error failure, w) := by
      rw [outcome_expandHome, FilePath.expanded_eq_error_iff.2 ⟨_, named, lost⟩]
    rw [preparePath, outcome_bind_of_error expanded]
  | unencodable home flaw =>
    rw [outcome_preparePath home, outcome_settleRoot_of_declined (.unencodable flaw)]
  | @nul q home no_flaw nul =>
    rw [outcome_preparePath home]
    cases given : q.hasNul with
    | true => rw [outcome_settleRoot_of_declined (.nul no_flaw given)]
    | false =>
      -- the NUL character is in the canonical path alone
      have inside := nul.resolve_left (by simp [given])
      have refused : w.disk.entryAt w.host.cwd (w.disk.canonical w.host.cwd q) = .error .nul :=
        Disk.entryAt_of_hasNul (canonical_flaw w q) inside
      rw [outcome_settleRoot ⟨no_flaw, given⟩, refused, outcome_makeRoot,
        outcome_makeDirectories_of_hasNul (canonical_flaw w q) inside]
  | linkLoop home callable loop =>
    rw [outcome_preparePath home, outcome_settleRoot_of_declined (.linkLoop callable loop)]
  | refused home callable refused untold =>
    rw [outcome_preparePath home, outcome_settleRoot_of_declined (.refused callable refused untold)]

theorem makes_of_preparePath (h : outcome (preparePath p) w = (.ok directory, w')) :
    ∃ q, p.expanded w.host = .ok q ∧ directory = w.disk.canonical w.host.cwd q ∧
      (∀ failure, ¬ Declined q w failure) ∧
      outcome (makeRoot directory) w = (.ok directory, w') := by
  obtain ⟨q, _, expanded, settled⟩ := outcome_bind_eq_ok_iff.1 h
  rw [outcome_expandHome] at expanded
  obtain ⟨home, rfl⟩ := Prod.mk.inj expanded
  exact ⟨q, home, makes_of_settleRoot settled⟩

/-- A directory is prepared under another path than its own: a link on the way is met inside itself, or it is
not seen because a directory down to the working directory may not be searched. -/
structure Elsewhere (p : FilePath) (w : World) : Prop where
  unresolved : ∃ q, p.expanded w.host = .ok q ∧
    (w.disk.Sticks w.host.cwd q ∨ ¬ w.disk.Searches w.host.cwd q.isAbsolute)
  apart : ∃ directory here w', outcome (preparePath p) w = (.ok directory, w') ∧
    Prepared directory here w w' ∧ directory ≠ .ofPlace here

/-- A link to itself, a link to a directory, and the directory. -/
def selfLinked : World :=
  ⟨⟨[], "", []⟩, ⟨[(["loop"], .link "loop"), (["x"], .link "d"), (["d"], .directory)]⟩, []⟩

theorem locate_selfLinked :
    selfLinked.disk.locate [] .find (.ofPlace ["x"]) = .ok (.taken ["d"] .directory) := by
  have named : ∀ name ∈ ["x", "d"], Disk.Named .find name [] := by
    intro name hn
    refine ⟨?_, nofun, ?_⟩
    · revert name
      decide
    · revert name
      decide
  have target : linkNames "d".toList = ["d"] := by decide
  refine Disk.locate_eq_ok_iff.2 ⟨⟨rfl, by decide, by decide +kernel⟩, ?_⟩
  refine .follow (named "x" (by simp)) rfl nofun rfl ?_
  rw [target]
  exact .enter (named "d" (by simp)) rfl rfl (.stop rfl)

/-- A path over a link to itself and back keeps a link in its canonical form. -/
theorem elsewhere_of_selfLinked : Elsewhere { anchor := .relative, parts := ["loop", "..", "x"] } selfLinked := by
  have stuck : selfLinked.disk.resolveFrom [] (selfLinked.disk.resolveLimit []) [] .here
      ["loop", "..", "x"] = .stuck ["loop", "..", "x"] := by cbv
  have canonical : selfLinked.disk.canonical [] { anchor := .relative, parts := ["loop", "..", "x"] } =
      .ofPlace ["x"] := by cbv
  have found : selfLinked.disk.entryAt [] (.ofPlace ["x"]) = .ok (["d"], .directory) := by
    rw [Disk.entryAt, locate_selfLinked]
    rfl
  have prepared : outcome (settleRoot { anchor := .relative, parts := ["loop", "..", "x"] }) selfLinked =
      (.ok (.ofPlace ["x"]), selfLinked) := by
    have callable : (FilePath.mk .relative ["loop", "..", "x"] none).hasNul = false := by decide
    rw [outcome_settleRoot ⟨rfl, callable⟩, show selfLinked.host.cwd = [] from rfl, canonical, found,
      outcome_makeRoot, outcome_makeDirectories_of_there locate_selfLinked]
    dsimp only
    rw [show selfLinked.host.cwd = [] from rfl, isUsable_of_there locate_selfLinked]
    rfl
  have home : (FilePath.mk .relative ["loop", "..", "x"] none).expanded selfLinked.host = .ok _ := rfl
  exact ⟨⟨_, home, .inl ⟨_, stuck⟩⟩, _, ["d"], selfLinked, (outcome_preparePath home).trans prepared,
    ⟨rfl, rfl, locate_selfLinked, rfl, .refl _ _⟩, by decide⟩

end Action

end PeakSlowness
