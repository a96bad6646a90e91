import PeakSlowness.Proofs.Series

set_option autoImplicit false

/-!
Where the peak changes. From one time to a later one an application turns if it is released or finishes
behind the first and no later than the second. One that does not turn is active at both or at
neither, so peaks that differ are told apart by one that does: the greater of the two is its slowness, and
it finishes where the peak falls and is released where the peak rises.
-/

namespace PeakSlowness

open Binary64 (zero)

namespace Application

/-- Released or finishing behind `t` and no later than `u`. -/
def TurnsWithin (a : Application) (t u : Int) : Prop :=
  (t < a.release ∧ a.release ≤ u) ∨ (t < a.finish ∧ a.finish ≤ u)

instance (a : Application) (t u : Int) : Decidable (a.TurnsWithin t u) :=
  inferInstanceAs (Decidable (_ ∨ _))

variable {a : Application} {t u : Int}

theorem finish_between (ahead : t < u) (before : a.ActiveAt t) (after : ¬ a.ActiveAt u) :
    t < a.finish ∧ a.finish ≤ u := by
  obtain ⟨released, running⟩ := before
  have started : a.release ≤ u := by omega
  exact ⟨running, Int.not_lt.1 fun still => after ⟨started, still⟩⟩

theorem release_between (ahead : t < u) (before : ¬ a.ActiveAt t) (after : a.ActiveAt u) :
    t < a.release ∧ a.release ≤ u := by
  obtain ⟨released, running⟩ := after
  have unfinished : t < a.finish := by omega
  exact ⟨Int.not_le.1 fun early => before ⟨early, unfinished⟩, released⟩

end Application

namespace IsPeak

variable {offered other : Binary64 → Prop} {v w : Binary64}

theorem lt_or_lt_of_ne (h : IsPeak offered v) (h' : IsPeak other w) (differ : v ≠ w) :
    v.lt w = true ∨ w.lt v = true := by
  rcases h with ⟨⟨-, above⟩, -⟩ | ⟨rfl, -⟩ <;> rcases h' with ⟨⟨-, above'⟩, -⟩ | ⟨rfl, -⟩
  · rcases Binary64.lt_trichotomy above above' with less | same | more
    · exact .inl less
    · exact absurd same differ
    · exact .inr more
  · exact .inr above
  · exact .inl above'
  · exact absurd rfl differ

/-- A peak above another one is offered, and is not offered where the other one is the peak. -/
theorem offered_alone (h : IsPeak offered v) (h' : IsPeak other w) (less : w.lt v = true) :
    offered v ∧ ¬ other v := by
  have above : zero.lt v = true := by
    rcases h' with ⟨⟨-, positive⟩, -⟩ | ⟨rfl, -⟩
    · exact Binary64.lt_trans positive less
    · exact less
  constructor
  · rcases h with ⟨⟨here, -⟩, -⟩ | ⟨rfl, -⟩
    · exact here
    · exact absurd above (Binary64.not_lt_self zero)
  · intro there
    rcases h' with ⟨-, top⟩ | ⟨-, none⟩
    · rcases top v there above with rfl | more
      · exact Binary64.not_lt_self v less
      · exact Binary64.lt_asymm less more
    · exact none v there above

end IsPeak

section Peaks

variable {apps : List Application} {t u : Int}

/-- An application with the greater peak for its slowness is active at the time of that peak alone. -/
theorem exists_active_alone (less : (peakAt apps u).lt (peakAt apps t) = true) :
    ∃ a ∈ apps, a.slowness = peakAt apps t ∧ a.ActiveAt t ∧ ¬ a.ActiveAt u := by
  obtain ⟨⟨a, ha, active, same⟩, nowhere⟩ :=
    (isPeak_peakAt apps t).offered_alone (isPeak_peakAt apps u) less
  exact ⟨a, ha, same, active, fun still => nowhere ⟨a, ha, still, same⟩⟩

/-- Where the peak falls, an application finishes that had it for its slowness. -/
theorem exists_finish_of_peak_falls (ahead : t < u)
    (falls : (peakAt apps u).lt (peakAt apps t) = true) :
    ∃ a ∈ apps, a.slowness = peakAt apps t ∧ t < a.finish ∧ a.finish ≤ u := by
  obtain ⟨a, ha, same, before, after⟩ := exists_active_alone falls
  exact ⟨a, ha, same, Application.finish_between ahead before after⟩

/-- Where the peak rises, an application is released that has the new one for its slowness. -/
theorem exists_release_of_peak_rises (ahead : t < u)
    (rises : (peakAt apps t).lt (peakAt apps u) = true) :
    ∃ a ∈ apps, a.slowness = peakAt apps u ∧ t < a.release ∧ a.release ≤ u := by
  obtain ⟨a, ha, same, after, before⟩ := exists_active_alone rises
  exact ⟨a, ha, same, Application.release_between ahead before after⟩

theorem exists_turn_of_peak_ne (ahead : t < u) (differ : peakAt apps t ≠ peakAt apps u) :
    ∃ a ∈ apps, a.TurnsWithin t u ∧
      (a.slowness = peakAt apps t ∨ a.slowness = peakAt apps u) := by
  rcases (isPeak_peakAt apps t).lt_or_lt_of_ne (isPeak_peakAt apps u) differ with rises | falls
  · obtain ⟨a, ha, same, turns⟩ := exists_release_of_peak_rises ahead rises
    exact ⟨a, ha, .inl turns, .inr same⟩
  · obtain ⟨a, ha, same, turns⟩ := exists_finish_of_peak_falls ahead falls
    exact ⟨a, ha, .inr turns, .inl same⟩

end Peaks

/-- The peak is the same bit for bit as long as no application turns. Where it is not, one of those that
turn has one of the two peaks for its slowness. -/
theorem peakAt_changes_only_at_turns (apps : List Application) {t u : Int} (ahead : t < u) :
    ((∀ a ∈ apps, ¬ a.TurnsWithin t u) → peakAt apps t = peakAt apps u) ∧
      (peakAt apps t ≠ peakAt apps u →
        ∃ a ∈ apps, a.TurnsWithin t u ∧
          (a.slowness = peakAt apps t ∨ a.slowness = peakAt apps u)) := by
  refine ⟨fun none_turns => Classical.byContradiction fun differ => ?_,
    exists_turn_of_peak_ne ahead⟩
  obtain ⟨a, ha, turns, -⟩ := exists_turn_of_peak_ne ahead differ
  exact none_turns a ha turns

/-- An application with slowness 2, and one with a NaN that is finished before its release. -/
def steadyThenFalling : List Application :=
  [⟨0, 10, .ofBits 0x4000000000000000⟩, ⟨5, 3, .nan false⟩]

/-- From 5 to 9 nothing turns; at 10 the first application finishes. -/
theorem peakAt_steady_then_falling :
    peakAt steadyThenFalling 5 = peakAt steadyThenFalling 9 ∧
      ∃ a ∈ steadyThenFalling, a.TurnsWithin 9 10 ∧
        (a.slowness = peakAt steadyThenFalling 9 ∨ a.slowness = peakAt steadyThenFalling 10) :=
  ⟨(peakAt_changes_only_at_turns steadyThenFalling (by decide)).1 (by decide),
    (peakAt_changes_only_at_turns steadyThenFalling (by decide)).2 (by decide)⟩

end PeakSlowness
