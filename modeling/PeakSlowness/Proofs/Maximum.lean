import PeakSlowness.Proofs.Series

set_option autoImplicit false

/-!
When the peak at a time is the maximum of the active slownesses. The maximum of some numbers is one of
them, and zero where there are none. A peak is the maximum of the active slownesses and zero; without
that zero it is one unless all of them are below zero.
-/

namespace PeakSlowness

open Binary64 (zero)

namespace Binary64

/-- Less or equal as numbers: zeros agree, a NaN is not comparable. -/
def AtMost (x y : Binary64) : Prop := x.lt y = true ∨ x.same y = true

variable {x y : Binary64}

theorem same_iff : x.same y = true ↔ (x.isNaN = false ∧ y.isNaN = false) ∧ x.rank = y.rank := by
  simp [same]

theorem atMost_iff : x.AtMost y ↔ (x.isNaN = false ∧ y.isNaN = false) ∧ x.rank ≤ y.rank := by
  rw [AtMost, lt_iff, same_iff, ← and_or_left, ← Int.le_iff_lt_or_eq]

theorem zero_lt_iff : zero.lt x = true ↔ x.isNaN = false ∧ 0 < x.rank := by
  have number : zero.isNaN = false := rfl
  have middle : zero.rank = 0 := rfl
  simp [lt_iff, number, middle]

end Binary64

/-- One of the numbers offered that none of them is above, and positive zero if none is offered. -/
def IsMaximum (offered : Binary64 → Prop) (v : Binary64) : Prop :=
  ((∃ x, offered x) → (∃ x, offered x ∧ x.same v = true) ∧ ∀ x, offered x → x.AtMost v) ∧
    ((∀ x, ¬ offered x) → v = zero)

namespace IsPeak

variable {offered : Binary64 → Prop} {v : Binary64}

theorem rank_nonneg (h : IsPeak offered v) : 0 ≤ v.rank := by
  rcases h with ⟨⟨-, above⟩, -⟩ | ⟨rfl, -⟩
  · exact Int.le_of_lt (Binary64.zero_lt_iff.1 above).2
  · exact Int.le_refl 0

/-- No number that is offered is above the peak. -/
theorem atMost (h : IsPeak offered v) {x : Binary64} (hx : offered x) (number : x.isNaN = false) :
    x.AtMost v := by
  have bounded : x.rank ≤ v.rank := by
    by_cases above : 0 < x.rank
    · have positive := Binary64.zero_lt_iff.2 ⟨number, above⟩
      rcases h with ⟨-, top⟩ | ⟨-, none⟩
      · rcases top x hx positive with rfl | less
        · exact Int.le_refl _
        · exact Int.le_of_lt (Binary64.lt_iff.1 less).2
      · exact absurd positive (none x hx)
    · exact Int.le_trans (Int.not_lt.1 above) h.rank_nonneg
  exact Binary64.atMost_iff.2 ⟨⟨number, h.not_isNaN⟩, bounded⟩

/-- A peak is the maximum exactly if not all that is offered is below zero. -/
theorem isMaximum_iff (h : IsPeak offered v) (numbers : ∀ x, offered x → x.isNaN = false) :
    IsMaximum offered v ↔ ((∃ x, offered x) → ∃ x, offered x ∧ zero.AtMost x) := by
  constructor
  · rintro ⟨greatest, -⟩ some
    obtain ⟨⟨x, hx, same⟩, -⟩ := greatest some
    have rank : x.rank = v.rank := (Binary64.same_iff.1 same).2
    have nonneg : 0 ≤ x.rank := rank ▸ h.rank_nonneg
    exact ⟨x, hx, Binary64.atMost_iff.2 ⟨⟨rfl, numbers x hx⟩, nonneg⟩⟩
  · intro not_below
    refine ⟨fun some => ⟨?_, fun x hx => h.atMost hx (numbers x hx)⟩, ?_⟩
    · obtain ⟨x, hx, nonneg⟩ := not_below some
      rcases h with ⟨⟨hv, above⟩, -⟩ | ⟨rfl, none⟩
      · have number := Binary64.isNaN_of_zero_lt above
        exact ⟨v, hv, Binary64.same_iff.2 ⟨⟨number, number⟩, rfl⟩⟩
      · -- nothing is above zero, so what is not below it is zero
        have number := numbers x hx
        have not_above : ¬ 0 < x.rank := fun above =>
          none x hx (Binary64.zero_lt_iff.2 ⟨number, above⟩)
        have same : x.rank = zero.rank :=
          Int.le_antisymm (Int.not_lt.1 not_above) (Binary64.atMost_iff.1 nonneg).2
        exact ⟨x, hx, Binary64.same_iff.2 ⟨⟨number, rfl⟩, same⟩⟩
    · intro nothing
      rcases h with ⟨⟨hv, -⟩, -⟩ | ⟨rfl, -⟩
      · exact absurd hv (nothing v)
      · rfl

/-- With zero among the numbers a peak is always the maximum. -/
theorem isMaximum_with_zero (h : IsPeak offered v) (numbers : ∀ x, offered x → x.isNaN = false) :
    IsMaximum (fun x => offered x ∨ x = zero) v := by
  have peak : IsPeak (fun x => offered x ∨ x = zero) v := h.keep fun above =>
    Int.not_lt.2 h.rank_nonneg (Binary64.lt_iff.1 above).2
  have all_numbers : ∀ x, offered x ∨ x = zero → x.isNaN = false := by
    rintro x (hx | rfl)
    · exact numbers x hx
    · rfl
  refine (peak.isMaximum_iff all_numbers).2 fun _ => ⟨zero, .inr rfl, ?_⟩
  exact Binary64.atMost_iff.2 ⟨⟨rfl, rfl⟩, Int.le_refl _⟩

theorem offered_of_zero_lt (h : IsPeak offered v) {x : Binary64} (hx : offered x)
    (above : zero.lt x = true) : offered v := by
  rcases h with ⟨⟨hv, -⟩, -⟩ | ⟨-, none⟩
  · exact hv
  · exact absurd above (none x hx)

end IsPeak

/-- The peak at a time is the maximum of zero and the active slownesses. So it is the maximum of the
active slownesses exactly if there is none or one that is not below zero; it is one of them bit for bit
if one is above zero, and positive zero if all are below. -/
theorem peakAt_isMaximum_iff {apps : List Application}
    (numbers : ∀ a ∈ apps, a.slowness.isNaN = false) (t : Int) :
    (IsMaximum (Offered apps t) (peakAt apps t) ↔
        ((∃ x, Offered apps t x) → ∃ x, Offered apps t x ∧ zero.AtMost x)) ∧
      IsMaximum (fun x => Offered apps t x ∨ x = zero) (peakAt apps t) ∧
      ((∃ x, Offered apps t x ∧ zero.lt x = true) → Offered apps t (peakAt apps t)) ∧
      ((∀ x, Offered apps t x → x.lt zero = true) → peakAt apps t = zero) := by
  have peak := isPeak_peakAt apps t
  have offered_numbers : ∀ x, Offered apps t x → x.isNaN = false := by
    rintro _ ⟨a, ha, -, rfl⟩
    exact numbers a ha
  refine ⟨peak.isMaximum_iff offered_numbers, peak.isMaximum_with_zero offered_numbers, ?_, ?_⟩
  · rintro ⟨x, hx, above⟩
    exact peak.offered_of_zero_lt hx above
  · intro below
    rcases peak with ⟨⟨offered, above⟩, -⟩ | ⟨same, -⟩
    · exact absurd above (Binary64.lt_asymm (below _ offered))
    · exact same

/-- An application with slowness -2, and one with 3. -/
def belowZero : Application := ⟨0, 10, { negative := true, magnitude := 0x4000000000000000 }⟩

def aboveZero : Application := ⟨5, 10, { negative := false, magnitude := 0x4008000000000000 }⟩

theorem peakAt_isMaximum_of_both :
    (∀ a ∈ [belowZero, aboveZero], a.slowness.isNaN = false) ∧
      IsMaximum (Offered [belowZero, aboveZero] 5) (peakAt [belowZero, aboveZero] 5) ∧
      peakAt [belowZero, aboveZero] 5 = aboveZero.slowness := by
  have numbers : ∀ a ∈ [belowZero, aboveZero], a.slowness.isNaN = false := by decide
  have active : Offered [belowZero, aboveZero] 5 aboveZero.slowness :=
    ⟨aboveZero, by simp, by decide, rfl⟩
  refine ⟨numbers, (peakAt_isMaximum_iff numbers 5).1.2 fun _ => ?_, by decide⟩
  exact ⟨aboveZero.slowness, active, .inl (by decide)⟩

/-- Where the only active application is below zero, the peak is no active slowness. -/
theorem peakAt_not_always_isMaximum :
    (∀ a ∈ [belowZero], a.slowness.isNaN = false) ∧
      ¬ IsMaximum (Offered [belowZero] 5) (peakAt [belowZero] 5) := by
  refine ⟨by decide, ?_⟩
  rintro ⟨greatest, -⟩
  have active : Offered [belowZero] 5 belowZero.slowness :=
    ⟨belowZero, List.mem_cons_self, by decide, rfl⟩
  obtain ⟨⟨x, ⟨a, ha, -, rfl⟩, same⟩, -⟩ := greatest ⟨_, active⟩
  obtain rfl := List.mem_singleton.1 ha
  exact absurd same (by decide)

end PeakSlowness
