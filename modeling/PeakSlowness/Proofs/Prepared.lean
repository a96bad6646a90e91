import PeakSlowness.Proofs.Disk.Resolution
import PeakSlowness.Proofs.Output

set_option autoImplicit false

/-!
The report directory. Once it has been prepared it is there, and whatever it holds it has held
before: directories are made above it, never in it. Preparing a directory that is there changes
nothing.
-/

namespace PeakSlowness

open Disk (IsName Settled Ensures)

namespace Action

variable {w w' : World} {anchor : Anchor} {parts : List String} {here : Place} {p : FilePath}

theorem ensures_of_excuse {fault : CallFault}
    (h : outcome (excuse { anchor, parts } fault) w = (.ok (), w')) :
    w'.host = w.host ∧ Ensures w.host.cwd anchor parts w.disk w'.disk := by
  unfold excuse at h
  cases fault with
  | unencodable u => cases h
  | nul => cases h
  | errno e =>
    rw [outcome_bind_of_ok (outcome_query _ w)] at h
    split at h
    · next found =>
      cases h
      obtain ⟨here, there⟩ := Disk.isDirectory_eq_true_iff.1 found
      exact ⟨rfl, .there there⟩
    · cases h
    · cases h

theorem ensures_of_makeDirectories (h : outcome (makeDirectories anchor parts) w = (.ok (), w')) :
    w'.host = w.host ∧ Ensures w.host.cwd anchor parts w.disk w'.disk := by
  induction size : parts.length using Nat.strongRecOn generalizing parts w w' with
  | ind n ih =>
    rw [makeDirectories] at h
    obtain ⟨tried, w₁, trying, h⟩ := outcome_bind_eq_ok_iff.1 h
    rw [outcome_makeDirectory] at trying
    cases first : w.disk.makeDirectory w.host.cwd { anchor, parts } with
    | ok made =>
      rw [first] at trying
      cases trying
      cases h
      exact ⟨rfl, .made first⟩
    | error fault =>
      rw [first] at trying
      cases trying
      split at h
      · next impossible => cases impossible
      · next missing =>
        cases missing
        split at h
        · cases h
        · next some =>
          -- the directory above it comes first
          have shorter : parts.dropLast.length < n := by
            have := List.length_pos_iff.2 some
            rw [List.length_dropLast]
            omega
          obtain ⟨_, w₂, above, h⟩ := outcome_bind_eq_ok_iff.1 h
          obtain ⟨host, ensured⟩ := ih _ shorter above rfl
          obtain ⟨tried, w₃, trying, h⟩ := outcome_bind_eq_ok_iff.1 h
          rw [outcome_makeDirectory] at trying
          suffices second : w'.host = w₂.host ∧
              w₂.disk.makeDirectory w₂.host.cwd { anchor, parts } ≠ .error (.errno .noEntry) ∧
              Ensures w₂.host.cwd anchor parts w₂.disk w'.disk by
            rw [host] at second
            obtain ⟨host', changed, ensured'⟩ := second
            refine ⟨host', .above some ?_ ensured ensured'⟩
            rw [first]
            exact changed.symm
          cases again : w₂.disk.makeDirectory w₂.host.cwd { anchor, parts } with
          | ok made =>
            rw [again] at trying
            cases trying
            cases h
            exact ⟨rfl, nofun, .made again⟩
          | error fault =>
            rw [again] at trying
            cases trying
            split at h
            · next impossible => cases impossible
            · cases h
            · next still same =>
              cases same
              obtain ⟨host', there⟩ := ensures_of_excuse h
              refine ⟨host', ?_, there⟩
              rintro ⟨⟩
              exact still rfl
      · next same =>
        cases same
        exact ensures_of_excuse h

theorem settled_of_makeDirectories (tree : w.disk.IsTree w.host.cwd)
    (names : ∀ name ∈ parts, IsName name)
    (h : outcome (makeDirectories anchor parts) w = (.ok (), w')) :
    w'.host = w.host ∧ ∃ here, Settled w.host.cwd { anchor, parts } here w.disk w'.disk ∧
      Disk.NewUpTo here w.disk w'.disk := by
  obtain ⟨host, ensured⟩ := ensures_of_makeDirectories h
  exact ⟨host, Disk.settled_of_ensures tree names ensured⟩

/-- Whether a directory that is there can be used depends on the rights there. -/
theorem isUsable_of_there {disk : Disk} {cwd : Place}
    (there : disk.locate cwd .find p = .ok (.taken here .directory)) :
    disk.isUsable cwd p = (disk.may here .write && disk.may here .search) := by
  rw [Disk.isUsable, Disk.entryAt, there]
  rfl

theorem makes_of_prepareRoot {root : Setting} {directory : FilePath}
    (h : outcome (prepareRoot root) w = (.ok directory, w')) :
    ∃ q, directory = w.disk.canonical w.host.cwd q ∧
      outcome (makeDirectories directory.anchor directory.parts) w = (.ok (), w') := by
  unfold prepareRoot preparePath at h
  obtain ⟨named, _, read, h⟩ := outcome_bind_eq_ok_iff.1 h
  obtain ⟨q, _, expanded, h⟩ := outcome_bind_eq_ok_iff.1 h
  rw [outcome_ofExcept] at read
  obtain ⟨-, rfl⟩ := Prod.mk.inj read
  rw [outcome_expandHome] at expanded
  obtain ⟨-, rfl⟩ := Prod.mk.inj expanded
  obtain ⟨canonical, -, made⟩ := makes_of_settleRoot h
  exact ⟨q, canonical, (makes_of_makeRoot made).2.1⟩

/-- A report directory that has been prepared is there, and holds what it has held before. -/
theorem settled_of_prepareRoot {root : Setting} {directory : FilePath}
    (tree : w.disk.IsTree w.host.cwd) (h : outcome (prepareRoot root) w = (.ok directory, w')) :
    w'.host = w.host ∧ ∃ here, Settled w.host.cwd directory here w.disk w'.disk := by
  obtain ⟨q, canonical, made⟩ := makes_of_prepareRoot h
  obtain ⟨place, at_place, names⟩ := Disk.canonical_eq w.disk q fun _ => tree.isName_of_mem
  rw [at_place] at canonical
  subst canonical
  obtain ⟨host, here, settled, -⟩ := settled_of_makeDirectories tree names made
  exact ⟨host, here, settled⟩

/-- Preparing a report directory that is there changes nothing. -/
theorem unchanged_of_prepareRoot {root : Setting} {directory : FilePath}
    (there : w.disk.locate w.host.cwd .find directory = .ok (.taken here .directory))
    (h : outcome (prepareRoot root) w = (.ok directory, w')) :
    w'.host = w.host ∧ w'.disk = w.disk := by
  obtain ⟨q, -, made⟩ := makes_of_prepareRoot h
  rw [outcome_makeDirectories_of_there there] at made
  cases made
  exact ⟨rfl, rfl⟩

end Action

end PeakSlowness
