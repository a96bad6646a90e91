import PeakSlowness.Table

set_option autoImplicit false

/-!
What becomes of a series in a table. Rows and values stay; a time from `2 ^ 63` on, which takes the 64th
bit, loses `2 ^ 64`. So a table alters its series exactly where such a time stands among times that all
fit without a sign, and every other series with such a time is refused.
-/

namespace PeakSlowness.Table

variable {s : Series} {table : Table}

/-- A time as a table holds it. -/
def heldTime (t : Int) : Int := if t < 0x8000000000000000 then t else t - wordCount

theorem heldTime_eq_iff {t : Int} : heldTime t = t ↔ t < 0x8000000000000000 := by
  unfold heldTime wordCount
  split
  · next low => exact iff_of_true rfl low
  · next high =>
    refine iff_of_false ?_ high
    omega

theorem wrapTime_of_fitsUnsigned {t : Int} (h : FitsUnsigned t) : wrapTime t = heldTime t := by
  obtain ⟨nonneg, below⟩ := h
  have reduced : t % (wordCount : Int) = t := Int.emod_eq_of_lt nonneg below
  have middle : ((wordCount : Int) + 1) / 2 = 0x8000000000000000 := by decide
  rw [wrapTime, heldTime, Int.bmod_def, reduced, middle]

theorem rows_of_ofSeries? (h : ofSeries? s = some table) :
    table.rows = s.map fun r => (heldTime r.1, r.2) := by
  unfold ofSeries? at h
  split at h
  · next signed =>
    cases h
    refine (List.map_id s).symm.trans (List.map_congr_left fun r hr => ?_)
    rw [heldTime_eq_iff.2 (signed r hr).2]
    rfl
  · split at h
    · next unsigned =>
      cases h
      apply List.map_congr_left
      intro r hr
      rw [wrapTime_of_fitsUnsigned (unsigned r hr)]
    · cases h

/-- A series is refused if it has a time that does not fit with a sign and one that does not fit without;
one time may be both. -/
theorem ofSeries?_eq_none_iff :
    ofSeries? s = none ↔ (∃ r ∈ s, ¬ FitsSigned r.1) ∧ ∃ r ∈ s, ¬ FitsUnsigned r.1 := by
  constructor
  · intro h
    unfold ofSeries? at h
    split at h
    · cases h
    · next signed =>
      split at h
      · cases h
      · next unsigned =>
        simp only [Classical.not_forall] at signed unsigned
        obtain ⟨r, hr, out⟩ := signed
        obtain ⟨q, hq, out'⟩ := unsigned
        exact ⟨⟨r, hr, out⟩, q, hq, out'⟩
  · rintro ⟨⟨r, hr, out⟩, q, hq, out'⟩
    rw [ofSeries?, dif_neg fun all => out (all r hr), if_neg fun all => out' (all q hq)]

theorem rows_eq_iff (h : ofSeries? s = some table) :
    table.rows = s ↔ ∀ r ∈ s, r.1 < 0x8000000000000000 := by
  rw [rows_of_ofSeries? h]
  constructor
  · intro same r hr
    have kept : ∀ r ∈ s, (heldTime r.1, r.2) = r := by
      simpa using List.map_inj_left.1 (same.trans (List.map_id s).symm)
    exact heldTime_eq_iff.1 (congrArg Prod.fst (kept r hr))
  · intro low
    refine Eq.trans (List.map_congr_left fun r hr => ?_) (List.map_id s)
    rw [heldTime_eq_iff.2 (low r hr)]
    rfl

/-- A series is held as it is or refused, unless all its times fit without a sign and one of them is `2 ^ 63`
or more. Row by row and in order, the values stay and the times lose `2 ^ 64` from there on. -/
theorem ofSeries?_exact_iff (s : Series) :
    ((∀ table, ofSeries? s = some table → table.rows = s) ↔
        (∀ r ∈ s, r.1 < 0x8000000000000000) ∨ ∃ r ∈ s, ¬ FitsUnsigned r.1) ∧
      (∀ table, ofSeries? s = some table → table.rows = s.map fun r => (heldTime r.1, r.2)) ∧
      (ofSeries? s = none ↔ (∃ r ∈ s, ¬ FitsSigned r.1) ∧ ∃ r ∈ s, ¬ FitsUnsigned r.1) := by
  refine ⟨⟨?_, ?_⟩, fun table => rows_of_ofSeries?, ofSeries?_eq_none_iff⟩
  · intro exact_rows
    cases held : ofSeries? s with
    | none => exact .inr (ofSeries?_eq_none_iff.1 held).2
    | some table => exact .inl ((rows_eq_iff held).1 (exact_rows table held))
  · rintro (low | ⟨q, hq, unsigned⟩) table held
    · exact (rows_eq_iff held).2 low
    · refine (rows_eq_iff held).2 fun r hr => ?_
      -- the series is not refused, so all its times fit with a sign
      have signed : FitsSigned r.1 := Classical.byContradiction fun out => by
        rw [ofSeries?_eq_none_iff.2 ⟨⟨r, hr, out⟩, q, hq, unsigned⟩] at held
        cases held
      exact signed.2

/-- The time `2 ^ 63` alone becomes its negative. -/
theorem ofSeries?_not_always_exact :
    ¬ ∀ table, ofSeries? [(0x8000000000000000, .zero)] = some table →
      table.rows = [(0x8000000000000000, .zero)] := by
  intro exact_rows
  have rows := exact_rows ⟨[(-0x8000000000000000, .zero)], by decide⟩ (by rfl)
  exact absurd rows (by decide)

end PeakSlowness.Table
