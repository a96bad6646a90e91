import PeakSlowness.Proofs.Disk.FileName
import PeakSlowness.Proofs.Endings

set_option autoImplicit false

/-!
Loading from an input path. What is said of it is that it fails for the input alone: the file cannot be
read, or has a bad line. That holds for every path that system calls take, behind a home directory that is
known, unless it is left open where the path leads: a name in it is too long, or is looked up in a directory
that may not be searched. These paths are refused before the file is opened, or by the call that opens it,
for reasons that are not told apart from those of a bad value or an unusable system.
-/

namespace PeakSlowness

namespace Disk

variable {disk : Disk} {cwd : Place} {p : FilePath} {fault : CallFault}

theorem entryAt_of_flaw {u : Text.Unencodable} (h : p.flaw = some u) :
    disk.entryAt cwd p = .error (.unencodable u) := by
  simp only [entryAt, locate, h, error_bind]

theorem entryAt_of_hasNul (sound : p.flaw = none) (h : p.hasNul = true) :
    disk.entryAt cwd p = .error .nul := by
  rw [entryAt, locate_of_hasNul sound h, error_bind]

/-- A path that system calls take is refused by the operating system alone. -/
theorem exists_errno_of_entryAt (sound : p.flaw = none ∧ p.hasNul = false)
    (h : disk.entryAt cwd p = .error fault) : ∃ e, fault = .errno e := by
  rcases bind_eq_error h with h | ⟨spot, -, h⟩
  · exact (fault_of_locate sound.1 h).resolve_left (by simp [sound.2])
  · cases spot with
    | taken place entry => cases h
    | free place =>
      cases h
      exact ⟨_, rfl⟩

theorem read_of_entryAt_error (h : disk.entryAt cwd p = .error fault) :
    disk.read cwd p = .error fault := by
  rw [read, h, error_bind]

theorem exists_errno_of_read (sound : p.flaw = none ∧ p.hasNul = false)
    (h : disk.read cwd p = .error fault) : ∃ e, fault = .errno e := by
  rcases bind_eq_error h with h | ⟨⟨place, entry⟩, -, h⟩
  · exact exists_errno_of_entryAt sound h
  · dsimp only at h
    split at h
    · cases entry with
      | file octets => cases h
      | directory | link _ =>
        cases h
        exact ⟨_, rfl⟩
    · cases h
      exact ⟨_, rfl⟩

/-- Where a walk that finds something leads is left open by a name that is too long, or by a directory that
may not be searched. -/
theorem untold_of_walk {links : Nat} {place : Place} {names : List String} {e : Errno}
    (h : disk.walk .find links place names = .error e) (untold : e.tellsAbsence = false) :
    e = .nameTooLong ∨ e = .accessDenied := by
  fun_induction walk disk .find links place names with
  | case1 | case11 | case14 | case16 => cases h
  | case3 _ _ _ ih | case4 _ _ _ _ ih | case6 _ _ _ _ ih | case13 _ _ _ _ _ _ _ _ _ _ _ _ ih
  | case18 _ _ _ _ _ _ _ _ _ _ _ _ _ _ ih => exact ih h
  | case5 | case7 | case8 =>
    cases h
    exact .inr rfl
  | case9 _ _ _ _ _ _ _ _ writes => simp at writes
  | case10 =>
    cases h
    exact .inl rfl
  | case2 | case12 | case15 | case17 =>
    cases h
    cases untold

theorem untold_of_entryAt {e : Errno} (h : disk.entryAt cwd p = .error (.errno e))
    (untold : e.tellsAbsence = false) : e = .nameTooLong ∨ e = .accessDenied := by
  rcases bind_eq_error h with h | ⟨spot, -, h⟩
  · unfold locate at h
    split at h
    · cases h
    · split at h
      · cases h
      · split at h
        · cases h
          exact .inl rfl
        · obtain ⟨e', walked, same⟩ := mapError_eq_error h
          cases same
          exact untold_of_walk walked untold
  · cases spot with
    | taken place entry => cases h
    | free place =>
      cases h
      cases untold

end Disk

theorem sound_child {p : FilePath} (h : p.flaw = none ∧ p.hasNul = false) :
    (p.child statFileName).flaw = none ∧ (p.child statFileName).hasNul = false := by
  have name : statFileName.toList.contains '\x00' = false := by decide
  refine ⟨h.1, ?_⟩
  rw [FilePath.hasNul, Disk.parts_child, List.any_append, List.any_cons, name, List.any_nil]
  rw [FilePath.hasNul] at h
  rw [h.2]
  rfl

namespace Action

variable {p q path : FilePath} {cfg : Setting} {mode : Mode} {w : World} {fault : CallFault}

/-- Loads the applications that an input path leads to. -/
def loadInput (p : FilePath) (cfg : Setting) : Action (List Application) := do
  load (← resolveInput p) cfg

/-- What is said of loading from an input path: applications, or an input that cannot be read, or a bad line;
and an input that cannot be opened is named. -/
def LoadsAsSaid (p : FilePath) (cfg : Setting) (w : World) : Prop :=
  ((∃ apps, (outcome (loadInput p cfg) w).1 = .ok apps) ∨
    (∃ path cause, (outcome (loadInput p cfg) w).1 = .error (.input path cause)) ∨
      ∃ line, (outcome (loadInput p cfg) w).1 = .error (.malformed line)) ∧
    ∀ path fault, (outcome (resolveInput p) w).1 = .ok path →
      w.disk.read w.host.cwd path = .error fault →
      ∃ cause, (outcome (loadInput p cfg) w).1 = .error (.input path cause)

/-- The input that a path stands for, once it is known whether it leads to a directory. -/
def inputAt (q : FilePath) : Except Errno Bool → Except Failure FilePath
  | .ok true => .ok (q.child statFileName)
  | .ok false => .ok q
  | .error e => .error (.system e q)

theorem outcome_resolveInput (home : p.expanded w.host = .ok q) :
    outcome (resolveInput p) w = (inputAt q (w.disk.isDirectory w.host.cwd q), w) := by
  have expanded : outcome (expandHome p) w = (.ok q, w) := by rw [outcome_expandHome, home]
  rw [resolveInput, outcome_bind_of_ok expanded, outcome_bind_of_ok (outcome_query _ w)]
  cases w.disk.isDirectory w.host.cwd q with
  | error e => rfl
  | ok found =>
    cases found with
    | true => rfl
    | false => rfl

theorem outcome_loadInput (found : outcome (resolveInput p) w = (.ok path, w)) (cfg : Setting) :
    outcome (loadInput p cfg) w = outcome (load path cfg) w := outcome_bind_of_ok found

/-- The failure of a file that cannot be opened for reading. -/
def unopened (path : FilePath) : CallFault → Failure
  | .errno e => .input path (.system e)
  | fault => .ofCall path fault

theorem result_load_of_refused (hm : Config.mode cfg = .ok mode)
    (ho : w.disk.read w.host.cwd path = .error fault) :
    (outcome (load path cfg) w).1 = .error (unopened path fault) := by
  rw [load, hm, outcome_bind_of_ok (outcome_ofExcept_ok id mode w), readFile,
    outcome_bind_of_ok (outcome_query _ w), ho]
  cases fault with
  | errno e => rfl
  | unencodable u => rfl
  | nul => rfl

/-- Loading goes as it is said where an input is found that can be opened or is refused by the operating
system. -/
theorem loadsAsSaid_of_found (hm : Config.mode cfg = .ok mode)
    (found : outcome (resolveInput p) w = (.ok path, w))
    (sound : path.flaw = none ∧ path.hasNul = false) : LoadsAsSaid p cfg w := by
  rw [LoadsAsSaid, found, outcome_loadInput found]
  cases content : w.disk.read w.host.cwd path with
  | error fault =>
    obtain ⟨e, rfl⟩ := Disk.exists_errno_of_read sound content
    have result := result_load_of_refused hm content
    refine ⟨.inr (.inl ⟨path, _, result⟩), ?_⟩
    rintro _ _ ⟨⟩ -
    exact ⟨_, result⟩
  | ok octets =>
    have loaded := (says_load hm content).result
    constructor
    · cases outcome : StatFile.read mode octets with
      | ok apps =>
        rw [outcome] at loaded
        exact .inl ⟨apps, loaded⟩
      | error fault =>
        rw [outcome] at loaded
        cases fault with
        | notText reason => exact .inr (.inl ⟨path, _, loaded⟩)
        | malformed line => exact .inr (.inr ⟨line, loaded⟩)
    · rintro _ _ ⟨⟩ refused
      rw [content] at refused
      cases refused

/-- Why loading from an input path fails for something else than the input: the home directory in it is not
known, it is left open where it leads, it has letters without octets, or a NUL character. -/
inductive Strays (p : FilePath) (w : World) : Failure → Prop
  | home {user : List Char} {failure : Failure} (named : p.user? = some user)
      (lost : w.host.LosesHome user failure) : Strays p w failure
  | refused {q : FilePath} {e : Errno} (home : p.expanded w.host = .ok q)
      (refused : w.disk.entryAt w.host.cwd q = .error (.errno e)) (untold : e.tellsAbsence = false) :
      Strays p w (.system e q)
  | unencodable {q : FilePath} {u : Text.Unencodable} (home : p.expanded w.host = .ok q)
      (flaw : q.flaw = some u) : Strays p w (.unencodable u)
  | nul {q : FilePath} (home : p.expanded w.host = .ok q) (no_flaw : q.flaw = none)
      (nul : q.hasNul = true) : Strays p w .nulInPath

theorem Strays.result (hm : Config.mode cfg = .ok mode) {failure : Failure}
    (h : Strays p w failure) : (outcome (loadInput p cfg) w).1 = .error failure := by
  cases h with
  | home named lost =>
    have expanded : outcome (expandHome p) w = (.error failure, w) := by
      rw [outcome_expandHome, FilePath.expanded_eq_error_iff.2 ⟨_, named, lost⟩]
    have found : outcome (resolveInput p) w = (.error failure, w) := outcome_bind_of_error expanded
    rw [loadInput, outcome_bind_of_error found]
  | refused home refused untold =>
    have found := outcome_resolveInput home
    simp only [Disk.isDirectory, refused, untold, Bool.false_eq_true, if_false] at found
    rw [loadInput, outcome_bind_of_error found]
  | unencodable home flaw =>
    have refused : w.disk.entryAt w.host.cwd _ = _ := Disk.entryAt_of_flaw flaw
    have found := outcome_resolveInput home
    rw [Disk.isDirectory, refused] at found
    rw [outcome_loadInput found, result_load_of_refused hm (Disk.read_of_entryAt_error refused)]
    rfl
  | nul home no_flaw nul =>
    have refused : w.disk.entryAt w.host.cwd _ = _ := Disk.entryAt_of_hasNul no_flaw nul
    have found := outcome_resolveInput home
    rw [Disk.isDirectory, refused] at found
    rw [outcome_loadInput found, result_load_of_refused hm (Disk.read_of_entryAt_error refused)]
    rfl

theorem Strays.not_loadsAsSaid (hm : Config.mode cfg = .ok mode) {failure : Failure}
    (h : Strays p w failure) : ¬ LoadsAsSaid p cfg w := by
  have other : (∀ path cause, failure ≠ .input path cause) ∧ ∀ line, failure ≠ .malformed line := by
    cases h with
    | home _ lost =>
      cases lost with
      | unencodable _ | nul _ _ | unknown _ _ _ => exact ⟨nofun, nofun⟩
    | refused _ _ _ | unencodable _ _ | nul _ _ _ => exact ⟨nofun, nofun⟩
  have result := h.result hm
  rintro ⟨⟨apps, loaded⟩ | ⟨path, cause, lost⟩ | ⟨line, lost⟩, -⟩
  · rw [result] at loaded
    cases loaded
  · rw [result] at lost
    exact other.1 path cause (Except.error.inj lost)
  · rw [result] at lost
    exact other.2 line (Except.error.inj lost)

/-- Loading from an input path goes as it is said exactly if the path does not stray; if it does, loading
fails for the reason that it strays for. -/
theorem loadsAsSaid_iff (hm : Config.mode cfg = .ok mode) (p : FilePath) (w : World) :
    (LoadsAsSaid p cfg w ↔ ∀ failure, ¬ Strays p w failure) ∧
      ∀ failure, Strays p w failure → (outcome (loadInput p cfg) w).1 = .error failure := by
  refine ⟨⟨fun said failure strays => strays.not_loadsAsSaid hm said, fun sound => ?_⟩,
    fun failure strays => strays.result hm⟩
  cases home : p.expanded w.host with
  | error failure =>
    obtain ⟨user, named, lost⟩ := FilePath.expanded_eq_error_iff.1 home
    exact absurd (.home named lost) (sound failure)
  | ok q =>
    have callable : q.flaw = none ∧ q.hasNul = false := by
      cases flaw : q.flaw with
      | some u => exact absurd (.unencodable home flaw) (sound _)
      | none =>
        refine ⟨rfl, Bool.eq_false_iff.2 fun nul => ?_⟩
        exact sound _ (.nul home flaw nul)
    have found := outcome_resolveInput home
    cases directory : w.disk.isDirectory w.host.cwd q with
    | error e =>
      obtain ⟨refused, untold⟩ := Disk.isDirectory_error directory
      exact absurd (.refused home refused untold) (sound _)
    | ok isDirectory =>
      rw [directory] at found
      cases isDirectory with
      | true => exact loadsAsSaid_of_found hm found (sound_child callable)
      | false => exact loadsAsSaid_of_found hm found callable

/-- A world with an empty directory `results`. -/
def emptyResults : World := ⟨⟨[], "", []⟩, ⟨[(["results"], .directory)]⟩, []⟩

theorem entryAt_emptyResults :
    emptyResults.disk.entryAt [] (.ofPlace ["results"]) = .ok (["results"], .directory) := by
  have named : Disk.Named .find "results" [] := ⟨by decide, nofun, by decide⟩
  have callable : (FilePath.ofPlace ["results"]).hasNul = false ∧
      (FilePath.ofPlace ["results"]).size ≤ pathLimit := by decide +kernel
  have walks : Disk.Walks emptyResults.disk .find linkLimit [] ["results"]
      (.taken ["results"] .directory) := .enter named (by rfl) (by rfl) (.stop (by rfl))
  rw [Disk.entryAt, Disk.locate_eq_ok_iff.2 ⟨⟨rfl, callable⟩, walks⟩]
  rfl

theorem not_strays_emptyResults (failure : Failure) :
    ¬ Strays (.ofPlace ["results"]) emptyResults failure := by
  intro strays
  cases strays with
  | home named _ => cases named
  | refused home refused _ =>
    cases home
    exact nomatch entryAt_emptyResults.symm.trans refused
  | unencodable home flaw =>
    cases home
    cases flaw
  | nul home no_flaw nul =>
    cases home
    exact absurd nul (by decide)

/-- A directory without a statistics file is an input that cannot be read. -/
theorem loadsAsSaid_of_empty_directory :
    Config.mode Config.standard = .ok .lenient ∧
      LoadsAsSaid (.ofPlace ["results"]) Config.standard emptyResults := by
  have hm : Config.mode Config.standard = .ok .lenient := by rfl
  exact ⟨hm, (loadsAsSaid_iff hm _ _).1.2 not_strays_emptyResults⟩

section LongName

/-- A name of so many letters. -/
def nameOf (letters : Nat) : String := String.ofList (List.replicate letters 'a')

variable (letters : Nat)

theorem toList_nameOf : (nameOf letters).toList = List.replicate letters 'a' := String.toList_ofList

theorem not_mem_nameOf {c : Char} (h : c ≠ 'a') : c ∉ (nameOf letters).toList := by
  rw [toList_nameOf]
  exact fun found => h (List.eq_of_mem_replicate found)

theorem size_nameOf : FileName.size (nameOf letters) = letters := by
  have one : Text.Utf8.encodeChar 'a' = [0x61] := by decide
  rw [FileName.size, FileName.octets_of_no_slash (not_mem_nameOf letters (by decide)), toList_nameOf,
    Text.Utf8.encode_replicate _ _ _ one, List.length_replicate]

theorem isName_nameOf (some : 0 < letters) : Disk.IsName (nameOf letters) := by
  have first : (nameOf letters).toList.head? = Option.some 'a' := by
    rw [toList_nameOf, List.head?_replicate, if_neg (Nat.ne_of_gt some)]
  refine ⟨?_, ?_, ?_⟩
  all_goals
    intro same
    rw [same] at first
    revert first
    decide

end LongName

/-- A name of 256 letters. -/
def longName : String := String.ofList (List.replicate 256 'a')

theorem not_mem_longName {c : Char} (h : c ≠ 'a') : c ∉ longName.toList := not_mem_nameOf 256 h

theorem size_longName : FileName.size longName = 256 := size_nameOf 256

theorem isName_longName : Disk.IsName longName := isName_nameOf 256 (by decide)

theorem entryAt_longName :
    emptyResults.disk.entryAt [] (.ofPlace [longName]) = .error (.errno .nameTooLong) := by
  have long : nameLimit < FileName.size longName := by
    rw [size_longName]
    decide
  have no_nul : (FilePath.ofPlace [longName]).hasNul = false := by
    simpa [FilePath.hasNul, FilePath.ofPlace] using not_mem_longName (c := '\x00') (by decide)
  have fits : ¬ pathLimit < (FilePath.ofPlace [longName]).size := by
    rw [FilePath.size_ofPlace_singleton, size_longName]
    decide
  have walked : emptyResults.disk.walk .find linkLimit [] [longName] = .error .nameTooLong :=
    Disk.walk_of_long isName_longName rfl long
  have located : emptyResults.disk.locate [] .find (.ofPlace [longName]) =
      .error (.errno .nameTooLong) := by
    unfold Disk.locate
    rw [no_nul, if_neg fits]
    exact congrArg (Except.mapError CallFault.errno) walked
  rw [Disk.entryAt, located, error_bind]

/-- A name that is too long is refused before the file is opened, and the refusal is not reported as that of
an input. -/
theorem not_always_loadsAsSaid :
    ¬ ∀ (p : FilePath) (cfg : Setting) (mode : Mode) (w : World),
      Config.mode cfg = .ok mode → LoadsAsSaid p cfg w := by
  intro always
  have hm : Config.mode Config.standard = .ok .lenient := by rfl
  have strays : Strays (.ofPlace [longName]) emptyResults (.system .nameTooLong (.ofPlace [longName])) :=
    .refused (by rfl) entryAt_longName rfl
  exact strays.not_loadsAsSaid hm (always _ _ _ _ hm)

end Action

end PeakSlowness
