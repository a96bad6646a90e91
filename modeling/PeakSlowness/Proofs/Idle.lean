import PeakSlowness.Proofs.Series
import PeakSlowness.Proofs.Sweep

set_option autoImplicit false

/-!
Applications that leave a series as it is. A peak depends on the numbers above zero that are offered and on
nothing else, so such an application is one that offers none at any checkpoint of the sweep. This is as far
as one can go: any other shows in the series at least where it stands alone.
-/

namespace PeakSlowness

open Binary64 (zero)

/-- Why an application offers no number above zero at any checkpoint of a sweep. -/
inductive Application.Idle (sweep : Sweep) (a : Application) : Prop where
  | neverActive (h : a.finish ≤ a.release)
  | releasedBehind (h : sweep.stop < a.release)
  | finishedBefore (h : a.finish ≤ sweep.start)
  | notAboveZero (h : ¬ zero.lt a.slowness = true)
  | betweenCheckpoints (h : ∀ t ∈ sweep.times, ¬ (a.release ≤ t ∧ t < a.finish))

variable {sweep : Sweep} {a : Application} {apps kept : List Application} {t : Int}

theorem Application.idle_iff :
    a.Idle sweep ↔ ∀ t ∈ sweep.times, a.ActiveAt t → ¬ zero.lt a.slowness = true := by
  constructor
  · intro idle t swept active
    obtain ⟨released, unfinished⟩ := active
    obtain ⟨behind, early, -⟩ := Sweep.mem_times_iff.1 swept
    cases idle with
    | neverActive h => exact absurd unfinished (by omega)
    | releasedBehind h => exact absurd early (by omega)
    | finishedBefore h => exact absurd behind (by omega)
    | notAboveZero h => exact h
    | betweenCheckpoints h => exact absurd ⟨released, unfinished⟩ (h t swept)
  · intro none
    by_cases above : zero.lt a.slowness = true
    · exact .betweenCheckpoints fun t swept active => none t swept active above
    · exact .notAboveZero above

instance (sweep : Sweep) (a : Application) : Decidable (a.Idle sweep) :=
  decidable_of_iff _ Application.idle_iff.symm

theorem IsPeak.congr_above {offered other : Binary64 → Prop} {v : Binary64} (h : IsPeak offered v)
    (same : ∀ x, zero.lt x = true → (offered x ↔ other x)) : IsPeak other v := by
  rcases h with ⟨⟨hv, above⟩, top⟩ | ⟨rfl, none⟩
  · exact .inl ⟨⟨(same v above).1 hv, above⟩, fun x hx pos => top x ((same x pos).2 hx) pos⟩
  · exact .inr ⟨rfl, fun x hx pos => none x ((same x pos).2 hx) pos⟩

theorem peakAt_congr_above (same : ∀ x, zero.lt x = true → (Offered kept t x ↔ Offered apps t x)) :
    peakAt kept t = peakAt apps t :=
  ((isPeak_peakAt kept t).congr_above same).unique (isPeak_peakAt apps t)

/-- Applications that are idle may be left out. -/
theorem series_eq_of_idle (sub : ∀ a ∈ kept, a ∈ apps) (rest : ∀ a ∈ apps, a ∈ kept ∨ a.Idle sweep) :
    series kept sweep = series apps sweep := by
  refine List.map_congr_left fun t swept => ?_
  rw [peakAt_congr_above]
  intro x above
  constructor
  · rintro ⟨a, ha, active, rfl⟩
    exact ⟨a, sub a ha, active, rfl⟩
  · rintro ⟨a, ha, active, rfl⟩
    rcases rest a ha with stays | idle
    · exact ⟨a, stays, active, rfl⟩
    · exact absurd above (Application.idle_iff.1 idle t swept active)

theorem peakAt_singleton (active : a.ActiveAt t) (above : zero.lt a.slowness = true) :
    peakAt [a] t = a.slowness :=
  if_pos ⟨active, above⟩

/-- What is not idle shows in the series if it stands alone. -/
theorem idle_of_series_singleton (h : series [a] sweep = series [] sweep) : a.Idle sweep := by
  refine Application.idle_iff.2 fun t swept active above => ?_
  have entry : (t, a.slowness) ∈ series [a] sweep := by
    rw [← peakAt_singleton active above]
    exact List.mem_map_of_mem swept
  rw [h] at entry
  obtain ⟨_, -, same⟩ := List.mem_map.1 entry
  have none : a.slowness = zero := (Prod.mk.inj same).2.symm
  rw [none] at above
  exact Binary64.not_lt_self zero above

/-- The applications that are idle over a sweep can be dropped from any list, and no others can be dropped
from every list. -/
theorem series_filter_idle (sweep : Sweep) :
    (∀ apps, series (apps.filter fun a => ¬ a.Idle sweep) sweep = series apps sweep) ∧
      ∀ a : Application, a.Idle sweep ↔
        ∀ before after, series (before ++ after) sweep = series (before ++ a :: after) sweep := by
  refine ⟨fun apps => ?_, fun a => ⟨fun idle before after => ?_, fun same => ?_⟩⟩
  · apply series_eq_of_idle
    · intro a ha
      exact (List.mem_filter.1 ha).1
    · intro a ha
      by_cases idle : a.Idle sweep
      · exact .inr idle
      · exact .inl (List.mem_filter.2 ⟨ha, decide_eq_true idle⟩)
  · apply series_eq_of_idle
    · intro b hb
      exact List.mem_append.2 ((List.mem_append.1 hb).imp_right (List.mem_cons_of_mem a))
    · intro b hb
      rcases List.mem_append.1 hb with front | back
      · exact .inl (List.mem_append_left after front)
      · rcases List.mem_cons.1 back with rfl | back
        · exact .inr idle
        · exact .inl (List.mem_append_right before back)
  · exact idle_of_series_singleton (same [] []).symm

end PeakSlowness
