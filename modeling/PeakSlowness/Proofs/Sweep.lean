import PeakSlowness.Summary
import PeakSlowness.Proofs.Session

set_option autoImplicit false

/-!
The checkpoints of a sweep. There are as many as do not lie behind its end, so what is said of them comes
from one fact: the checkpoint at a position is there exactly if it is not behind the end.
-/

namespace PeakSlowness

namespace Sweep

variable {start stop step : Int} {s : Sweep} {k : Nat} {t : Int}

theorem make_eq_ok_iff :
    make start stop step = .ok s ↔ start = s.start ∧ stop = s.stop ∧ step = s.step := by
  obtain ⟨start', stop', step', positive, ordered⟩ := s
  constructor
  · intro made
    unfold make at made
    split at made
    · split at made
      · cases made
        exact ⟨rfl, rfl, rfl⟩
      · cases made
    · cases made
  · rintro ⟨rfl, rfl, rfl⟩
    rw [make, dif_pos positive, dif_pos ordered]

theorem make_eq_error_iff {fault : Fault} :
    make start stop step = .error fault ↔
      (step ≤ 0 ∧ fault = .stepNotPositive step) ∨
        (0 < step ∧ stop < start ∧ fault = .stopBeforeStart stop start) := by
  unfold make
  by_cases positive : 0 < step
  · by_cases ordered : start ≤ stop
    · simp [positive, ordered, Int.not_le.2 positive, Int.not_lt.2 ordered]
    · simp [positive, ordered, Int.not_le.2 positive, Int.not_le.1 ordered, eq_comm]
  · simp [positive, Int.not_lt.1 positive, eq_comm]

theorem exists_error_iff :
    (∃ fault, make start stop step = .error fault) ↔ step ≤ 0 ∨ stop < start := by
  simp only [make_eq_error_iff]
  constructor
  · rintro ⟨_, ⟨small, -⟩ | ⟨-, behind, -⟩⟩
    · exact .inl small
    · exact .inr behind
  · intro refused
    by_cases positive : 0 < step
    · exact ⟨_, .inr ⟨positive, refused.resolve_left (Int.not_le.2 positive), rfl⟩⟩
    · exact ⟨_, .inl ⟨Int.not_lt.1 positive, rfl⟩⟩

theorem count_eq (s : Sweep) : (s.count : Int) = (s.stop - s.start) / s.step + 1 := by
  have whole : 0 ≤ (s.stop - s.start) / s.step :=
    Int.ediv_nonneg (Int.sub_nonneg.2 s.start_le_stop) (Int.le_of_lt s.step_pos)
  rw [count, Int.natCast_add, Int.toNat_of_nonneg whole]
  rfl

/-- A checkpoint is there exactly if it is not behind the end. -/
theorem time_le_stop_iff : s.time k ≤ s.stop ↔ k < s.count := by
  have bound : (k : Int) ≤ (s.stop - s.start) / s.step ↔ k * s.step ≤ s.stop - s.start :=
    Int.le_ediv_iff_mul_le s.step_pos
  have counted := s.count_eq
  unfold time
  constructor
  · intro reached
    have := bound.2 (by omega)
    omega
  · intro early
    have := bound.1 (by omega)
    omega

theorem time_zero (s : Sweep) : s.time 0 = s.start := by simp [time]

theorem time_succ (s : Sweep) (k : Nat) : s.time (k + 1) = s.time k + s.step := by
  rw [time, time, Int.natCast_add, Int.add_mul, Int.natCast_one, Int.one_mul, Int.add_assoc]

theorem time_lt_time {i j : Nat} (h : i < j) : s.time i < s.time j := by
  have further : (i : Int) * s.step < j * s.step :=
    Int.mul_lt_mul_of_pos_right (Int.ofNat_lt.2 h) s.step_pos
  unfold time
  omega

theorem time_le_time_iff {i j : Nat} : s.time i ≤ s.time j ↔ i ≤ j := by
  constructor
  · intro before
    rcases Nat.lt_or_ge j i with later | early
    · have behind : s.time j < s.time i := time_lt_time later
      omega
    · exact early
  · intro before
    rcases Nat.lt_or_eq_of_le before with earlier | rfl
    · exact Int.le_of_lt (time_lt_time earlier)
    · exact Int.le_refl _

theorem start_le_time (s : Sweep) (k : Nat) : s.start ≤ s.time k := by
  have steps : 0 ≤ (k : Int) * s.step := Int.mul_nonneg (Int.natCast_nonneg k) (Int.le_of_lt s.step_pos)
  unfold time
  omega

theorem exists_time_iff : (∃ k, s.time k = t) ↔ s.start ≤ t ∧ s.step ∣ t - s.start := by
  constructor
  · rintro ⟨k, rfl⟩
    refine ⟨s.start_le_time k, k, ?_⟩
    rw [time, Int.mul_comm]
    omega
  · rintro ⟨behind, steps, whole⟩
    have forward : 0 ≤ steps := by
      apply Int.le_of_mul_le_mul_left _ s.step_pos
      omega
    refine ⟨steps.toNat, ?_⟩
    rw [time, Int.toNat_of_nonneg forward, Int.mul_comm, ← whole]
    omega

theorem mem_times_iff_exists : t ∈ s.times ↔ ∃ k, s.time k = t ∧ t ≤ s.stop := by
  simp only [times, List.mem_map, List.mem_range, ← time_le_stop_iff]
  constructor
  · rintro ⟨k, early, rfl⟩
    exact ⟨k, rfl, early⟩
  · rintro ⟨k, rfl, early⟩
    exact ⟨k, early, rfl⟩

/-- The checkpoints are what lies between start and end, by whole steps from the start. -/
theorem mem_times_iff : t ∈ s.times ↔ s.start ≤ t ∧ t ≤ s.stop ∧ s.step ∣ t - s.start := by
  rw [mem_times_iff_exists, exists_and_right, exists_time_iff]
  constructor
  · rintro ⟨⟨behind, whole⟩, early⟩
    exact ⟨behind, early, whole⟩
  · rintro ⟨behind, early, whole⟩
    exact ⟨⟨behind, whole⟩, early⟩

theorem getElem?_times (s : Sweep) (k : Nat) :
    s.times[k]? = if s.time k ≤ s.stop then some (s.time k) else none := by
  simp only [times, List.getElem?_map, time_le_stop_iff]
  by_cases early : k < s.count
  · rw [List.getElem?_range early, if_pos early, Option.map_some]
  · rw [List.getElem?_eq_none (by simpa using Nat.le_of_not_lt early), if_neg early, Option.map_none]

theorem pairwise_times (s : Sweep) : s.times.Pairwise (· < ·) := by
  refine List.pairwise_map.2 (List.pairwise_lt_range.imp ?_)
  exact time_lt_time

theorem head?_times (s : Sweep) : s.times.head? = some s.start := by
  rw [List.head?_eq_getElem?, getElem?_times, time_zero, if_pos s.start_le_stop]

/-- The last checkpoint is less than a step in front of the end. -/
theorem exists_getLast?_times (s : Sweep) :
    ∃ last, s.times.getLast? = some last ∧ s.stop - s.step < last ∧ last ≤ s.stop := by
  obtain ⟨last, positions⟩ : ∃ last, s.count = last + 1 := ⟨_, rfl⟩
  have there : s.time last ≤ s.stop := time_le_stop_iff.2 (by omega)
  have beyond : ¬ s.time (last + 1) ≤ s.stop := by
    rw [time_le_stop_iff]
    omega
  rw [time_succ] at beyond
  refine ⟨s.time last, ?_, by omega, there⟩
  rw [List.getLast?_eq_getElem?, length_times, positions, Nat.add_sub_cancel, getElem?_times, if_pos there]

/-- What lies between start and end by whole steps from the start, each once and in order. -/
structure IsGrid (start stop step : Int) (times : List Int) : Prop where
  ne_nil : times ≠ []
  increasing : times.Pairwise (· < ·)
  nodup : times.Nodup
  mem_iff : ∀ t, t ∈ times ↔ start ≤ t ∧ t ≤ stop ∧ step ∣ t - start
  first : times.head? = some start
  last : ∃ last, times.getLast? = some last ∧ stop - step < last ∧ last ≤ stop
  length : (times.length : Int) = (stop - start).fdiv step + 1

theorem isGrid_times (s : Sweep) : IsGrid s.start s.stop s.step s.times where
  ne_nil none := by simpa [none] using s.head?_times
  increasing := s.pairwise_times
  nodup := s.pairwise_times.imp Int.ne_of_lt
  mem_iff _ := mem_times_iff
  first := s.head?_times
  last := s.exists_getLast?_times
  length := by
    rw [length_times, count_eq, Int.fdiv_eq_ediv_of_nonneg _ (Int.le_of_lt s.step_pos)]

theorem size?_of_le (h : s.times.length ≤ 0x7FFFFFFFFFFFFFFF) : s.size? = some s.times.length := by
  rw [length_times] at h ⊢
  rw [size?, if_pos (by omega)]

theorem size?_of_lt (h : 0x7FFFFFFFFFFFFFFF < s.times.length) : s.size? = none := by
  rw [length_times] at h
  rw [size?, if_neg (by omega)]

open PeakSlowness.Action in
theorem outcome_announce_of_uncounted (h : s.size? = none) (apps : List Application) (w : World) :
    outcome (announce apps s) w = (.error .tooManyCheckpoints, w) := by
  rw [announce, h]
  rfl

open PeakSlowness.Action in
/-- Three numbers are refused exactly if the step is not positive or the end is in front of the start. All
others give a sweep over the grid between them; its length is told as far as it fits in 63 bits. -/
theorem make_refused_or_isGrid (start stop step : Int) :
    ((∃ fault, make start stop step = .error fault) ↔ step ≤ 0 ∨ stop < start) ∧
      (∀ fault, make start stop step = .error fault → (Failure.sweep fault).kind = .value) ∧
      (0 < step → start ≤ stop →
        ∃ s, make start stop step = .ok s ∧ IsGrid start stop step s.times ∧
          (s.times.length ≤ 0x7FFFFFFFFFFFFFFF → s.size? = some s.times.length) ∧
          (0x7FFFFFFFFFFFFFFF < s.times.length →
            s.size? = none ∧
              ∀ apps w, outcome (announce apps s) w = (.error .tooManyCheckpoints, w))) := by
  refine ⟨exists_error_iff, fun _ _ => rfl, fun positive ordered => ?_⟩
  let s : Sweep := ⟨start, stop, step, positive, ordered⟩
  refine ⟨s, make_eq_ok_iff.2 ⟨rfl, rfl, rfl⟩, s.isGrid_times, size?_of_le, fun beyond => ?_⟩
  have uncounted := size?_of_lt beyond
  exact ⟨uncounted, outcome_announce_of_uncounted uncounted⟩

/-- An end off the grid, and a sweep with one checkpoint more than can be counted. -/
theorem make_refused_or_isGrid_uncounted :
    (∃ s, make (-5) 6 3 = .ok s ∧ IsGrid (-5) 6 3 s.times ∧ s.times = [-5, -2, 1, 4] ∧
        s.size? = some 4) ∧
      ∃ s, make 0 0x7FFFFFFFFFFFFFFF 1 = .ok s ∧ IsGrid 0 0x7FFFFFFFFFFFFFFF 1 s.times ∧
        s.size? = none := by
  constructor
  · obtain ⟨s, made, grid, counted, -⟩ := (make_refused_or_isGrid (-5) 6 3).2.2 (by decide) (by decide)
    cases made
    exact ⟨_, rfl, grid, by decide, counted (by decide)⟩
  · obtain ⟨s, made, grid, -, uncounted⟩ :=
      (make_refused_or_isGrid 0 0x7FFFFFFFFFFFFFFF 1).2.2 (by decide) (by decide)
    have many : 0x7FFFFFFFFFFFFFFF < s.times.length := by
      have := grid.length
      rw [Int.fdiv_one] at this
      omega
    exact ⟨s, made, grid, (uncounted many).1⟩

end Sweep

end PeakSlowness
