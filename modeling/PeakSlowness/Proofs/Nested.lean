import PeakSlowness.Proofs.Sweep
import PeakSlowness.Series

set_option autoImplicit false

/-!
Parts of a sweep: up to one of its checkpoints, behind it, and with a step some times as wide. The
checkpoint at a position of a part is one of the whole sweep, and both end with it, so the parts
are told from the whole by their positions. An entry of a series is told by its checkpoint alone, and the same
holds of series.
-/

namespace PeakSlowness

namespace Sweep

variable {s : Sweep} {n m : Nat}

/-- The sweep that ends with the checkpoint at position `n`. -/
def upTo (s : Sweep) (n : Nat) : Sweep where
  start := s.start
  stop := s.time n
  step := s.step
  step_pos := s.step_pos
  start_le_stop := s.start_le_time n

/-- The sweep that starts with the checkpoint at position `n`. -/
def startingAt (s : Sweep) (n : Nat) (there : s.time n ≤ s.stop) : Sweep where
  start := s.time n
  stop := s.stop
  step := s.step
  step_pos := s.step_pos
  start_le_stop := there

/-- The sweep with `m` steps in one. -/
def coarser (s : Sweep) (m : Nat) (positive : 0 < m) : Sweep where
  start := s.start
  stop := s.stop
  step := m * s.step
  step_pos := Int.mul_pos (Int.natCast_pos.2 positive) s.step_pos
  start_le_stop := s.start_le_stop

theorem time_startingAt (there : s.time n ≤ s.stop) (k : Nat) :
    (s.startingAt n there).time k = s.time (n + k) := by
  change s.start + n * s.step + k * s.step = s.start + (n + k : Nat) * s.step
  rw [Int.natCast_add, Int.add_mul, Int.add_assoc]

theorem time_coarser (positive : 0 < m) (k : Nat) : (s.coarser m positive).time k = s.time (m * k) := by
  change s.start + k * (m * s.step) = s.start + (m * k : Nat) * s.step
  rw [Int.natCast_mul, ← Int.mul_assoc, Int.mul_comm k]

theorem times_upTo (there : s.time n ≤ s.stop) : (s.upTo n).times = s.times.take (n + 1) := by
  refine List.ext_getElem? fun k => ?_
  have reached : (s.upTo n).time k ≤ (s.upTo n).stop ↔ k ≤ n := time_le_time_iff
  rw [getElem?_times, List.getElem?_take, getElem?_times]
  by_cases early : k ≤ n
  · have covered : s.time k ≤ s.stop := Int.le_trans (time_le_time_iff.2 early) there
    rw [if_pos (reached.2 early), if_pos (Nat.lt_succ_of_le early), if_pos covered]
    rfl
  · rw [if_neg (mt reached.1 early), if_neg (mt Nat.le_of_lt_succ early)]

theorem times_startingAt (there : s.time n ≤ s.stop) :
    (s.startingAt n there).times = s.times.drop n := by
  refine List.ext_getElem? fun k => ?_
  rw [getElem?_times, List.getElem?_drop, getElem?_times, time_startingAt]
  rfl

theorem times_eq_append (there : s.time (n + 1) ≤ s.stop) :
    s.times = (s.upTo n).times ++ (s.startingAt (n + 1) there).times := by
  have before : s.time n ≤ s.stop := Int.le_trans (time_le_time_iff.2 n.le_succ) there
  rw [times_upTo before, times_startingAt, List.take_append_drop]

theorem getElem?_times_coarser (positive : 0 < m) (k : Nat) :
    (s.coarser m positive).times[k]? = s.times[m * k]? := by
  rw [getElem?_times, getElem?_times, time_coarser]
  rfl

end Sweep

variable {apps : List Application} {s : Sweep}

theorem getElem?_series (k : Nat) :
    (series apps s)[k]? = s.times[k]?.map fun t => (t, peakAt apps t) := by
  rw [series, List.getElem?_map]

/-- A series is cut in front of any checkpoint into the series up to there and the series from there, with no
entry lost or repeated, and a step `m` times as wide gives every `m`-th entry. -/
theorem series_cut_and_thinned (apps : List Application) (s : Sweep) :
    (∀ n : Nat, s.start + (n + 1) * s.step ≤ s.stop →
        ∃ first rest, Sweep.make s.start (s.start + n * s.step) s.step = .ok first ∧
          Sweep.make (s.start + (n + 1) * s.step) s.stop s.step = .ok rest ∧
          series apps s = series apps first ++ series apps rest) ∧
      ∀ m : Nat, 1 ≤ m →
        ∃ coarse, Sweep.make s.start s.stop (m * s.step) = .ok coarse ∧
          ∀ k : Nat, (series apps coarse)[k]? = (series apps s)[m * k]? := by
  constructor
  · intro n reached
    have there : s.time (n + 1) ≤ s.stop := reached
    refine ⟨s.upTo n, s.startingAt (n + 1) there, Sweep.make_eq_ok_iff.2 ⟨rfl, rfl, rfl⟩,
      Sweep.make_eq_ok_iff.2 ⟨rfl, rfl, rfl⟩, ?_⟩
    rw [series, series, series, ← List.map_append, ← Sweep.times_eq_append there]
  · intro m positive
    refine ⟨s.coarser m positive, Sweep.make_eq_ok_iff.2 ⟨rfl, rfl, rfl⟩, fun k => ?_⟩
    rw [getElem?_series, getElem?_series, Sweep.getElem?_times_coarser]

/-- The checkpoints -5, -2, 1 and 4 of a sweep whose end is off the grid, cut behind the second and thinned
to the first and the last. -/
theorem series_cut_and_thinned_off_grid :
    let s : Sweep := ⟨-5, 6, 3, by decide, by decide⟩
    let two : Binary64 := .ofBits 0x4000000000000000
    let apps : List Application := [⟨-2, 4, two⟩]
    ∃ first rest coarse, Sweep.make (-5) (-2) 3 = .ok first ∧ Sweep.make 1 6 3 = .ok rest ∧
      Sweep.make (-5) 6 9 = .ok coarse ∧ series apps s = series apps first ++ series apps rest ∧
      series apps rest = [(1, two), (4, .zero)] ∧
      (series apps coarse)[1]? = (series apps s)[3]? ∧ (series apps s)[3]? = some (4, .zero) := by
  intro s two apps
  obtain ⟨first, rest, first_made, rest_made, whole⟩ :=
    (series_cut_and_thinned apps s).1 1 (by decide)
  obtain ⟨coarse, made, thinned⟩ := (series_cut_and_thinned apps s).2 3 (by decide)
  cases rest_made
  exact ⟨first, _, coarse, first_made, rfl, made, whole, by decide, thinned 1, by decide⟩

end PeakSlowness
