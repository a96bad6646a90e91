import PeakSlowness.Proofs.Checkpoints
import PeakSlowness.Proofs.Rejection
import PeakSlowness.Proofs.Sweep

set_option autoImplicit false

/-!
The sweep that a configuration asks for. Its section of checkpoints is a mapping, null or not there, and each
number in it is a value that stands for an integer; everything else is to be rejected as a bad value. Three
kinds of values slip through: a section that does not count as set is taken for none, a number with a
fraction loses it, and an infinite number is no bad value but an overflow.
-/

namespace PeakSlowness

namespace Binary64

/-- A finite number between two integers. -/
def IsFraction (x : Binary64) : Prop := x.isFinite = true ∧ ∀ n, x.isInt n = false

variable {x : Binary64} {n : ℤ}

theorem isFinite_of_isInt (h : x.isInt n = true) : x.isFinite = true := by
  simp only [isInt, Bool.and_eq_true] at h
  exact h.1

theorem truncate_of_isInt (h : x.isInt n = true) : x.truncate = n := by
  simp only [isInt, Bool.and_eq_true, beq_iff_eq] at h
  have den : (x.fraction.2 : ℤ) ≠ 0 := by
    have := Nat.two_pow_pos (-x.scale).toNat
    simp only [fraction]
    omega
  change x.fraction.1.tdiv x.fraction.2 = n
  rw [h.2]
  exact Int.mul_tdiv_cancel n den

theorem isFinite_eq : x.isFinite = (!x.isNaN && !x.isInfinite) := by
  rw [isFinite, isNaN, isInfinite, Bool.eq_iff_iff]
  simp
  omega

end Binary64

/-- The characters that a text or octets spell. -/
def Scalar.spelling? : Scalar → Option (List Char)
  | .text s => some s.toList
  | .broken letters => some (Text.Letter.blanked letters)
  | .octets bytes => some (Setting.asciiText bytes)
  | _ => none

/-- A value stands for an integer: a truth value, an integer, a decimal that is one, and a text or octets
that spell one. -/
inductive StandsFor : Setting → ℤ → Prop
  | bool (b : Bool) : StandsFor (.scalar (.bool b)) (if b then 1 else 0)
  | int (n : ℤ) : StandsFor (.scalar (.int n)) n
  | float {x : Binary64} {n : ℤ} (whole : x.isInt n = true) : StandsFor (.scalar (.float x)) n
  | spelled {s : Scalar} {text : List Char} {n : ℤ} (spelling : s.spelling? = some text)
      (read : Numeral.read text = .ok n) : StandsFor (.scalar s) n

section Integer

variable {v : Setting} {n : ℤ}

/-- How a message quotes a text does not matter where there is no message. -/
theorem readShown_eq_ok {shown shown' : String} {text : List Char}
    (h : Numeral.readShown 10 shown text = .ok n) : Numeral.readShown 10 shown' text = .ok n := by
  unfold Numeral.readShown at h ⊢
  dsimp only at h ⊢
  split at h
  · cases h
  · next grouped =>
    rw [if_neg grouped]
    split at h
    · cases h
    · next short =>
      rw [if_neg short]
      split at h
      · cases h
      · next whole => rwa [if_neg whole]

theorem toInteger_float (x : Binary64) : (Setting.scalar (.float x)).toInteger =
    if x.isFinite then .ok x.truncate
    else .error (.value (if x.isNaN then .nanAsInteger else .infinityAsInteger)) := by
  rw [Setting.toInteger, Binary64.isFinite_eq]
  cases x.isNaN <;> cases x.isInfinite <;> rfl

theorem StandsFor.toInteger_eq (h : StandsFor v n) : v.toInteger = .ok n := by
  cases h with
  | bool b => rfl
  | int n => rfl
  | float whole =>
    rw [toInteger_float, if_pos (Binary64.isFinite_of_isInt whole),
      Binary64.truncate_of_isInt whole]
  | @spelled s text n spelling read =>
    cases s with
    | text s =>
      cases spelling
      exact mapError_eq_ok_iff.2 read
    | broken letters =>
      cases spelling
      exact mapError_eq_ok_iff.2 (readShown_eq_ok read)
    | octets bytes =>
      cases spelling
      exact mapError_eq_ok_iff.2 (readShown_eq_ok read)
    | null | bool _ | int _ | float _ | date _ | moment _ => cases spelling

theorem toInteger_eq_ok_iff : v.toInteger = .ok n ↔
    StandsFor v n ∨ ∃ x, v = .scalar (.float x) ∧ x.IsFraction ∧ x.truncate = n := by
  constructor
  · intro h
    cases v with
    | scalar s =>
      cases s with
      | bool b =>
        cases h
        exact .inl (.bool b)
      | int _ =>
        cases h
        exact .inl (.int _)
      | float x =>
        rw [toInteger_float] at h
        split at h
        · next finite =>
          cases h
          by_cases whole : ∃ k, x.isInt k = true
          · obtain ⟨k, whole⟩ := whole
            rw [Binary64.truncate_of_isInt whole]
            exact .inl (.float whole)
          · have between : ∀ k, x.isInt k = false := by simpa using whole
            exact .inr ⟨x, rfl, ⟨finite, between⟩, rfl⟩
        · cases h
      | text s => exact .inl (.spelled rfl (mapError_eq_ok_iff.1 h))
      | broken letters => exact .inl (.spelled rfl (readShown_eq_ok (mapError_eq_ok_iff.1 h)))
      | octets bytes => exact .inl (.spelled rfl (readShown_eq_ok (mapError_eq_ok_iff.1 h)))
      | null | date _ | moment _ => cases h
    | list _ | map _ | set _ | pairs _ | cycle _ => cases h
  · rintro (stands | ⟨x, rfl, fraction, rfl⟩)
    · exact stands.toInteger_eq
    · rw [toInteger_float, if_pos fraction.1]

theorem not_standsFor_of_fraction {x : Binary64} (h : x.IsFraction) (n : ℤ) :
    ¬ StandsFor (.scalar (.float x)) n := by
  intro stands
  cases stands with
  | float whole => exact absurd whole (by simp [h.2 n])
  | spelled spelling _ => cases spelling

theorem not_isFinite_of_isInfinite {x : Binary64} (h : x.isInfinite = true) :
    x.isFinite = false := by
  simp [Binary64.isFinite_eq, h]

end Integer

namespace Config

section Section

variable {cfg : Setting} {m : Mark} {n : ℤ}

/-- What the section of the checkpoints has for a number. -/
def given? (cfg : Setting) (m : Mark) : Option Setting := valueIn? cfg "checkpoints" m.key

/-- The section of the checkpoints gives a number, or it is the one by default. -/
def Gives (cfg : Setting) (m : Mark) (n : ℤ) : Prop :=
  (given? cfg m = none ∧ n = m.fallback) ∨ ∃ v, given? cfg m = some v ∧ StandsFor v n

/-- The section gives a number with a fraction, of which this is the integer part. -/
def Cuts (cfg : Setting) (m : Mark) (n : ℤ) : Prop :=
  ∃ x, given? cfg m = some (.scalar (.float x)) ∧ x.IsFraction ∧ x.truncate = n

def GivesInfinite (cfg : Setting) (m : Mark) : Prop :=
  ∃ x, given? cfg m = some (.scalar (.float x)) ∧ x.isInfinite = true

/-- The value of the checkpoints is neither a mapping nor null. -/
def NoSection (cfg : Setting) : Prop :=
  ∃ v, cfg.get? "checkpoints" = .ok (some v) ∧ v.kind ≠ .null ∧ v.kind ≠ .map

/-- The checkpoints are to be rejected: there is no section of them, or a number in it stands for no
integer. -/
def Rejectable (cfg : Setting) : Prop :=
  NoSection cfg ∨ ∃ m v, given? cfg m = some v ∧ ∀ n, ¬ StandsFor v n

/-- What is said of the sweep of a configuration: one that is to be rejected is a bad value, and any
other leads to the sweep with its numbers, if there is one. -/
def SweepAsSaid (cfg : Setting) : Prop :=
  (Rejectable cfg → ∃ failure, sweep cfg = .error failure ∧ failure.kind = .value) ∧
    (¬ Rejectable cfg → ∃ number : Mark → ℤ, (∀ m, Gives cfg m (number m)) ∧
      (0 < number .step ∧ number .start ≤ number .stop →
        ∃ s, sweep cfg = .ok s ∧
          s.start = number .start ∧ s.stop = number .stop ∧ s.step = number .step) ∧
      (number .step ≤ 0 ∨ number .stop < number .start →
        ∃ failure, sweep cfg = .error failure ∧ failure.kind = .value))

/-- The numbers that are looked at before a number. -/
def before : Mark → List Mark
  | .start => []
  | .stop => [.start]
  | .step => [.start, .stop]

/-- What slips through. -/
inductive Slips (cfg : Setting) : Prop
  | unset {v : Setting} (there : cfg.get? "checkpoints" = .ok (some v)) (unset : v.truthy = false)
      (not_null : v.kind ≠ .null) (no_map : v.kind ≠ .map) : Slips cfg
  | cut {number : Mark → ℤ} {m : Mark} (taken : ∀ k, Gives cfg k (number k) ∨ Cuts cfg k (number k))
      (cut : Cuts cfg m (number m)) (positive : 0 < number .step)
      (ordered : number .start ≤ number .stop) : Slips cfg
  | infinite {m : Mark} (taken : ∀ k ∈ before m, ∃ n, Gives cfg k n ∨ Cuts cfg k n)
      (infinite : GivesInfinite cfg m) : Slips cfg

theorem sweepNumber_eq_ok_iff {entries : List (Scalar × Setting)}
    (lookup : given? cfg m = valueAt? entries (.text m.key)) :
    sweepNumber (.map entries) m.key m.fallback = .ok n ↔ Gives cfg m n ∨ Cuts cfg m n := by
  have number : sweepNumber (.map entries) m.key m.fallback = .ok n ↔
      ((given? cfg m).getD (.scalar (.int m.fallback))).toInteger = .ok n := by
    rw [sweepNumber, getD_map, mapError_ok, ok_bind, lookup]
    split
    · next kind failed => simp [failed]
    · rfl
  rw [number, toInteger_eq_ok_iff, Gives, Cuts]
  cases given? cfg m with
  | none =>
    have default : StandsFor (.scalar (.int m.fallback)) n ↔ n = m.fallback := by
      constructor
      · intro stands
        cases stands with
        | int _ => rfl
        | spelled spelling _ => cases spelling
      · rintro rfl
        exact .int _
    simp [default]
  | some v => simp

/-- How the numbers of a section are read, one after the other. -/
structure Reads (cfg : Setting) (read : Mark → Except Failure ℤ) : Prop where
  ok_iff : ∀ {m : Mark} {n : ℤ}, read m = .ok n ↔ Gives cfg m n ∨ Cuts cfg m n
  error : ∀ {m : Mark} {failure : Failure}, read m = .error failure →
    failure.kind = .value ∨ failure = .value .infinityAsInteger ∧ GivesInfinite cfg m
  infinite : ∀ {m : Mark}, GivesInfinite cfg m → read m = .error (.value .infinityAsInteger)
  sweep_eq : sweep cfg = do
    let start ← read .start
    let stop ← read .stop
    let step ← read .step
    (Sweep.make start stop step).mapError .sweep

theorem orEmpty_of_kind_map {v : Setting} (h : v.kind = .map) : v.orEmpty = v := by
  rcases eq_of_kind_map h with ⟨entries, rfl⟩ | rfl
  · exact orEmpty_map entries
  · rfl

theorem exists_reads {part : Setting} (h : cfg.kind = .map)
    (there : cfg.sectionAt "checkpoints" = .ok part) (isMap : part.kind = .map) :
    ∃ read, Reads cfg read := by
  obtain ⟨entries, -, get⟩ := get?_of_map isMap
  have lookup : ∀ m : Mark, given? cfg m = valueAt? entries (.text m.key) := by
    intro m
    simp [given?, valueIn?, there, get, Except.toOption]
  have same : ∀ name fallback, sweepNumber part name fallback =
      sweepNumber (.map entries) name fallback := by
    intro name fallback
    rw [sweepNumber, sweepNumber, Setting.getD, get, getD_map]
    rfl
  refine ⟨fun m => sweepNumber (.map entries) m.key m.fallback, ?_, ?_, ?_, ?_⟩
  · exact sweepNumber_eq_ok_iff (lookup _)
  · intro m failure lost
    rcases sweepNumber_error lost with value | ⟨rfl, x, given, infinite⟩
    · exact .inl value
    · exact .inr ⟨rfl, x, (lookup m).trans given, infinite⟩
  · rintro m ⟨x, given, infinite⟩
    have number : x.isNaN = false := by
      rw [Binary64.isInfinite, beq_iff_eq] at infinite
      rw [Binary64.isNaN, infinite]
      decide
    have overflow : (Setting.scalar (.float x)).toInteger = .error (.value .infinityAsInteger) := by
      rw [toInteger_float, not_isFinite_of_isInfinite infinite, number]
      rfl
    rw [lookup] at given
    rw [sweepNumber, getD_map, given, mapError_ok, ok_bind, Option.getD_some, overflow]
  · rw [sweep, orEmpty_of_kind_map h, there, mapError_ok, ok_bind, if_neg (not_not.2 isMap)]
    simp only [same]
    rfl

theorem sectionAt_of_get? {v : Setting} {name : String} (there : cfg.get? name = .ok (some v)) :
    cfg.sectionAt name = .ok v.orEmpty := by
  rw [Setting.sectionAt, Setting.getD, there]
  rfl

theorem exists_reads_of_section (h : cfg.kind = .map) (mapped : ¬ NoSection cfg) :
    ∃ read, Reads cfg read := by
  obtain ⟨entries, -, get⟩ := get?_of_map h
  cases value : valueAt? entries (.text "checkpoints") with
  | none =>
    have none_there : cfg.sectionAt "checkpoints" = .ok .empty := by
      rw [Setting.sectionAt, Setting.getD, get, value]
      rfl
    exact exists_reads h none_there rfl
  | some v =>
    have there : cfg.get? "checkpoints" = .ok (some v) := by rw [get, value]
    refine exists_reads h (sectionAt_of_get? there) (kind_orEmpty ?_)
    by_contra other
    obtain ⟨not_null, no_map⟩ := not_or.1 other
    exact mapped ⟨v, there, not_null, no_map⟩

/-- A value that counts as set and is no mapping is rejected. -/
theorem sweep_of_no_map {v : Setting} (h : cfg.kind = .map)
    (there : cfg.get? "checkpoints" = .ok (some v)) (set : v.truthy = true) (no_map : v.kind ≠ .map) :
    sweep cfg = .error (.value (.checkpointsNoMapping v.kind)) := by
  have part : cfg.sectionAt "checkpoints" = .ok v := by
    simp [sectionAt_of_get? there, Setting.orEmpty, set]
  rw [sweep, orEmpty_of_kind_map h, part, mapError_ok, ok_bind, if_pos no_map]
  rfl

namespace Reads

variable {read : Mark → Except Failure ℤ}

theorem sweep_of_numbers (h : Reads cfg read) {number : Mark → ℤ}
    (taken : ∀ m, read m = .ok (number m)) :
    sweep cfg =
      (Sweep.make (number .start) (number .stop) (number .step)).mapError .sweep := by
  rw [h.sweep_eq, taken, taken, taken]
  rfl

/-- The first number that is not read decides. -/
theorem sweep_of_lost (h : Reads cfg read) {failure : Failure}
    (taken : ∀ k ∈ before m, ∃ n, read k = .ok n) (lost : read m = .error failure) :
    sweep cfg = .error failure := by
  rw [h.sweep_eq]
  cases m with
  | start =>
    rw [lost]
    rfl
  | stop =>
    obtain ⟨start, first⟩ := taken .start (by decide)
    rw [first, lost]
    rfl
  | step =>
    obtain ⟨start, first⟩ := taken .start (by decide)
    obtain ⟨stop, second⟩ := taken .stop (by decide)
    rw [first, second, lost]
    rfl

end Reads

theorem numbers_or_lost (read : Mark → Except Failure ℤ) :
    (∃ number : Mark → ℤ, ∀ m, read m = .ok (number m)) ∨
      ∃ m failure, read m = .error failure ∧ ∀ k ∈ before m, ∃ n, read k = .ok n := by
  cases first : read .start with
  | error failure => exact .inr ⟨.start, failure, first, nofun⟩
  | ok start =>
    cases second : read .stop with
    | error failure => exact .inr ⟨.stop, failure, second, by simp [before, first]⟩
    | ok stop =>
      cases third : read .step with
      | error failure => exact .inr ⟨.step, failure, third, by simp [before, first, second]⟩
      | ok step =>
        refine .inl ⟨fun | .start => start | .stop => stop | .step => step, fun m => ?_⟩
        cases m
        · exact first
        · exact second
        · exact third

theorem exists_make {start stop step : ℤ} (positive : 0 < step) (ordered : start ≤ stop) :
    ∃ s, (Sweep.make start stop step).mapError Failure.sweep = .ok s ∧
      s.start = start ∧ s.stop = stop ∧ s.step = step := by
  rw [Sweep.make, dif_pos positive, dif_pos ordered]
  exact ⟨_, rfl, rfl, rfl, rfl⟩

theorem make_refused {start stop step : ℤ} (wrong : step ≤ 0 ∨ stop < start) :
    ∃ failure, (Sweep.make start stop step).mapError Failure.sweep = .error failure ∧
      failure.kind = .value := by
  obtain ⟨fault, refused⟩ := Sweep.exists_error_iff.2 wrong
  rw [refused]
  exact ⟨.sweep fault, rfl, rfl⟩

theorem exists_section_of_given {v : Setting} (h : given? cfg m = some v) :
    ∃ part, cfg.sectionAt "checkpoints" = .ok part ∧ part.kind = .map := by
  rw [given?, valueIn?] at h
  cases there : cfg.sectionAt "checkpoints" with
  | error fault => simp [there, Except.toOption] at h
  | ok part =>
    refine ⟨part, rfl, ?_⟩
    cases part with
    | map entries => rfl
    | cycle isMap =>
      cases isMap with
      | true => rfl
      | false => simp [there, Setting.get?, Except.toOption] at h
    | scalar _ | list _ | set _ | pairs _ => simp [there, Setting.get?, Except.toOption] at h

theorem exists_reads_of_given {v : Setting} (h : cfg.kind = .map) (given : given? cfg m = some v) :
    ∃ read, Reads cfg read := by
  obtain ⟨part, there, isMap⟩ := exists_section_of_given given
  exact exists_reads h there isMap

theorem rejectable_of_cut (h : Cuts cfg m n) : Rejectable cfg := by
  obtain ⟨x, given, fraction, -⟩ := h
  exact .inr ⟨m, _, given, not_standsFor_of_fraction fraction⟩

/-- Where a number is given in no way, it is given as what stands for no integer. -/
theorem rejectable_of_lost {read : Mark → Except Failure ℤ} (h : Reads cfg read) {failure : Failure}
    (lost : read m = .error failure) : Rejectable cfg := by
  have none_given : ∀ n, ¬ Gives cfg m n := by
    intro n gives
    rw [h.ok_iff.2 (.inl gives)] at lost
    cases lost
  cases given : given? cfg m with
  | none => exact absurd (.inl ⟨given, rfl⟩) (none_given m.fallback)
  | some v => exact .inr ⟨m, v, given, fun n stands => none_given n (.inr ⟨v, given, stands⟩)⟩

/-- What slips through is not treated as it is said. -/
theorem not_sweepAsSaid_of_slips (h : cfg.kind = .map) (slips : Slips cfg) : ¬ SweepAsSaid cfg := by
  rintro ⟨rejects, -⟩
  cases slips with
  | @unset v there unset not_null no_map =>
    obtain ⟨failure, lost, -⟩ := rejects (.inl ⟨v, there, not_null, no_map⟩)
    have part : cfg.sectionAt "checkpoints" = .ok .empty := by
      simp [sectionAt_of_get? there, Setting.orEmpty, unset]
    rw [sweep, orEmpty_of_kind_map h, part] at lost
    cases lost
  | @cut number m taken cut positive ordered =>
    obtain ⟨failure, lost, -⟩ := rejects (rejectable_of_cut cut)
    obtain ⟨read, reads⟩ := cut.elim fun x found => exists_reads_of_given h found.1
    obtain ⟨s, made, -⟩ := exists_make positive ordered
    rw [reads.sweep_of_numbers fun k => reads.ok_iff.2 (taken k), made] at lost
    cases lost
  | @infinite m taken infinite =>
    obtain ⟨read, reads⟩ := infinite.elim fun x found => exists_reads_of_given h found.1
    have overflow := reads.infinite infinite
    have found := reads.sweep_of_lost (fun k hk => (taken k hk).imp fun n => reads.ok_iff.2) overflow
    obtain ⟨failure, lost, value⟩ := rejects (rejectable_of_lost reads overflow)
    rw [found] at lost
    cases lost
    cases value

theorem sweepAsSaid_of_reads {read : Mark → Except Failure ℤ} (reads : Reads cfg read)
    (mapped : ¬ NoSection cfg) (sound : ¬ Slips cfg) : SweepAsSaid cfg := by
  rcases numbers_or_lost read with ⟨number, taken⟩ | ⟨m, failure, lost, earlier⟩
  · have swept := reads.sweep_of_numbers taken
    have given : ∀ m, Gives cfg m (number m) ∨ Cuts cfg m (number m) := fun m =>
      reads.ok_iff.1 (taken m)
    by_cases cut : ∃ m, Cuts cfg m (number m)
    · -- the numbers make no sweep, so the fraction does not slip through
      obtain ⟨m, cut⟩ := cut
      have wrong : number .step ≤ 0 ∨ number .stop < number .start := by
        by_contra right
        exact sound (.cut given cut (by omega) (by omega))
      refine ⟨fun _ => ?_, fun accepted => absurd (rejectable_of_cut cut) accepted⟩
      rw [swept]
      exact make_refused wrong
    · have gives : ∀ m, Gives cfg m (number m) := fun m =>
        (given m).resolve_right fun cuts => cut ⟨m, cuts⟩
      constructor
      · rintro (unmapped | ⟨m, v, there, bad⟩)
        · exact absurd unmapped mapped
        · rcases gives m with ⟨none_there, -⟩ | ⟨v', there', stands⟩
          · rw [none_there] at there
            cases there
          · rw [there'] at there
            cases there
            exact absurd stands (bad _)
      · intro _
        rw [swept]
        exact ⟨number, gives, fun right => exists_make right.1 right.2, make_refused⟩
  · have swept := reads.sweep_of_lost earlier lost
    refine ⟨fun _ => ⟨failure, swept, ?_⟩, fun accepted => absurd (rejectable_of_lost reads lost) accepted⟩
    rcases reads.error lost with value | ⟨-, infinite⟩
    · exact value
    · exact absurd (.infinite (fun k hk => (earlier k hk).imp fun n => reads.ok_iff.1) infinite) sound

end Section

/-- The sweep of a configuration is as it is said, unless something slips through. -/
theorem sweepAsSaid_iff {cfg : Setting} (h : cfg.kind = .map) : SweepAsSaid cfg ↔ ¬ Slips cfg := by
  refine ⟨fun said slips => not_sweepAsSaid_of_slips h slips said, fun sound => ?_⟩
  by_cases unmapped : NoSection cfg
  · obtain ⟨v, there, not_null, no_map⟩ := unmapped
    have set : v.truthy = true := by
      by_contra unset
      exact sound (.unset there (by simpa using unset) not_null no_map)
    have rejected := sweep_of_no_map h there set no_map
    exact ⟨fun _ => ⟨_, rejected, rfl⟩, fun accepted =>
      absurd (.inl ⟨v, there, not_null, no_map⟩) accepted⟩
  · obtain ⟨read, reads⟩ := exists_reads_of_section h unmapped
    exact sweepAsSaid_of_reads reads unmapped sound

/-- Checkpoints from 1.0 on, up to an end that is null. -/
def nullEnd : Setting :=
  .map [(.text "checkpoints", .map [entry "start" (.float (.ofInt 1)), entry "end" .null])]

theorem sweepAsSaid_of_null_end : nullEnd.kind = .map ∧ SweepAsSaid nullEnd := by
  have start : given? nullEnd .start = some (.scalar (.float (.ofInt 1))) := rfl
  have stop : given? nullEnd .stop = some (.scalar .null) := rfl
  have step : given? nullEnd .step = none := rfl
  have decimal : ∀ {m x}, given? nullEnd m = some (.scalar (.float x)) → x = .ofInt 1 := by
    intro m x given
    cases m with
    | start =>
      rw [start] at given
      cases given
      rfl
    | stop =>
      rw [stop] at given
      cases given
    | step =>
      rw [step] at given
      cases given
  refine ⟨rfl, (sweepAsSaid_iff rfl).2 ?_⟩
  rintro (⟨there, unset, -, -⟩ | ⟨-, ⟨x, given, fraction, -⟩, -, -⟩ | ⟨-, x, given, infinite⟩)
  · cases there
    cases unset
  · rw [decimal given] at fraction
    exact absurd (fraction.2 1) (by decide)
  · rw [decimal given] at infinite
    exact absurd infinite (by decide)

def oneAndAHalf : Binary64 := { negative := false, magnitude := 0x3FF8000000000000 }

theorem isFraction_oneAndAHalf : oneAndAHalf.IsFraction := by
  refine ⟨by decide, fun n => ?_⟩
  have value : oneAndAHalf.fraction = (6755399441055744, 4503599627370496) := by decide
  simp only [Binary64.isInt, value, Bool.and_eq_false_iff, beq_eq_false_iff_ne]
  omega

/-- A configuration that has one number for its checkpoints. -/
def oneNumber (name : String) (x : Binary64) : Setting :=
  .map [(.text "checkpoints", .map [entry name (.float x)])]

/-- A start of 1.5, an infinite end, and a section that is false slip through. -/
theorem sweep_not_always_as_said :
    ¬ SweepAsSaid (oneNumber "start" oneAndAHalf) ∧
      ¬ SweepAsSaid (oneNumber "end" (.infinity false)) ∧
      ¬ SweepAsSaid (.map [entry "checkpoints" (.bool false)]) := by
  refine ⟨not_sweepAsSaid_of_slips rfl ?_, not_sweepAsSaid_of_slips rfl ?_,
    not_sweepAsSaid_of_slips rfl ?_⟩
  · have cut : Cuts (oneNumber "start" oneAndAHalf) .start 1 :=
      ⟨oneAndAHalf, rfl, isFraction_oneAndAHalf, by decide⟩
    let number : Mark → ℤ := fun | .start => 1 | m => m.fallback
    refine @Slips.cut _ number .start (fun k => ?_) cut (by decide) (by decide)
    cases k with
    | start => exact .inr cut
    | stop => exact .inl (.inl ⟨rfl, rfl⟩)
    | step => exact .inl (.inl ⟨rfl, rfl⟩)
  · refine .infinite (m := .stop) (fun k hk => ?_) ⟨.infinity false, rfl, rfl⟩
    obtain rfl := List.mem_singleton.1 hk
    exact ⟨0, .inl (.inl ⟨rfl, rfl⟩)⟩
  · exact .unset rfl rfl (by decide) (by decide)

end Config

end PeakSlowness
