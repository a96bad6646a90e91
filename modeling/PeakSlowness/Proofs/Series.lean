import PeakSlowness.Proofs.Number.Binary64
import PeakSlowness.Series

set_option autoImplicit false

/-!
The maximum slowness at a time is the greatest number above zero among the slownesses of the
applications that are active then, or zero. This fixes it bit for bit, so neither the order of the
applications nor how often one of them is listed counts.
-/

namespace PeakSlowness

open Binary64 (zero)

/-- The greatest number above zero of those offered, or positive zero if no number above zero is
offered. -/
def IsPeak (offered : Binary64 → Prop) (v : Binary64) : Prop :=
  ((offered v ∧ zero.lt v = true) ∧ ∀ x, offered x → zero.lt x = true → x = v ∨ x.lt v = true) ∨
    v = zero ∧ ∀ x, offered x → ¬ zero.lt x = true

namespace IsPeak

variable {offered : Binary64 → Prop} {v v' : Binary64}

theorem unique (h : IsPeak offered v) (h' : IsPeak offered v') : v = v' := by
  rcases h with ⟨⟨hv, pos⟩, top⟩ | ⟨rfl, none⟩ <;>
    rcases h' with ⟨⟨hv', pos'⟩, top'⟩ | ⟨rfl, none'⟩
  · rcases top v' hv' pos' with same | less
    · exact same.symm
    · rcases top' v hv pos with same | more
      · exact same
      · exact absurd more (Binary64.lt_asymm less)
  · exact absurd pos (none' v hv)
  · exact absurd pos' (none v' hv')
  · rfl

theorem congr {other : Binary64 → Prop} (h : IsPeak offered v) (same : ∀ x, offered x ↔ other x) :
    IsPeak other v := by
  obtain rfl : offered = other := funext fun x => propext (same x)
  exact h

theorem not_isNaN (h : IsPeak offered v) : v.isNaN = false := by
  rcases h with ⟨⟨-, pos⟩, -⟩ | ⟨rfl, -⟩
  · exact Binary64.isNaN_of_zero_lt pos
  · rfl

theorem keep (h : IsPeak offered v) {x : Binary64} (hx : ¬ v.lt x = true) :
    IsPeak (fun y => offered y ∨ y = x) v := by
  rcases h with ⟨⟨hv, pos⟩, top⟩ | ⟨rfl, none⟩
  · refine .inl ⟨⟨.inl hv, pos⟩, ?_⟩
    rintro y (hy | rfl) posy
    · exact top y hy posy
    · rcases Binary64.lt_trichotomy pos posy with more | same | less
      · exact absurd more hx
      · exact .inl same.symm
      · exact .inr less
  · refine .inr ⟨rfl, ?_⟩
    rintro y (hy | rfl)
    · exact none y hy
    · exact hx

theorem replace (h : IsPeak offered v) {x : Binary64} (hx : v.lt x = true) :
    IsPeak (fun y => offered y ∨ y = x) x := by
  rcases h with ⟨⟨-, pos⟩, top⟩ | ⟨rfl, none⟩
  · refine .inl ⟨⟨.inr rfl, Binary64.lt_trans pos hx⟩, ?_⟩
    rintro y (hy | rfl) posy
    · rcases top y hy posy with rfl | less
      · exact .inr hx
      · exact .inr (Binary64.lt_trans less hx)
    · exact .inl rfl
  · refine .inl ⟨⟨.inr rfl, hx⟩, ?_⟩
    rintro y (hy | rfl) posy
    · exact absurd posy (none y hy)
    · exact .inl rfl

end IsPeak

/-- The slownesses of the applications that are active at a time. -/
def Offered (apps : List Application) (t : Int) (x : Binary64) : Prop :=
  ∃ a ∈ apps, a.ActiveAt t ∧ a.slowness = x

theorem offered_nil (t : Int) (x : Binary64) : ¬ Offered [] t x := by
  rintro ⟨a, ha, -⟩
  exact List.not_mem_nil ha

theorem offered_cons {a : Application} {rest : List Application} {t : Int} {x : Binary64} :
    Offered (a :: rest) t x ↔ (a.ActiveAt t ∧ x = a.slowness) ∨ Offered rest t x := by
  constructor
  · rintro ⟨b, hb, active, rfl⟩
    rcases List.mem_cons.1 hb with rfl | hb
    · exact .inl ⟨active, rfl⟩
    · exact .inr ⟨b, hb, active, rfl⟩
  · rintro (⟨active, rfl⟩ | ⟨b, hb, active, rfl⟩)
    · exact ⟨a, List.mem_cons_self, active, rfl⟩
    · exact ⟨b, List.mem_cons_of_mem a hb, active, rfl⟩

theorem isPeak_raise {offered : Binary64 → Prop} {best : Binary64} {t : Int}
    (h : IsPeak offered best) (a : Application) :
    IsPeak (fun x => offered x ∨ a.ActiveAt t ∧ x = a.slowness) (raise t best a) := by
  unfold raise
  by_cases active : a.ActiveAt t
  · have active_only : ∀ x,
        (offered x ∨ x = a.slowness) ↔ offered x ∨ a.ActiveAt t ∧ x = a.slowness := by
      intro x
      simp [active]
    by_cases above : best.lt a.slowness = true
    · rw [if_pos ⟨active, above⟩]
      exact (h.replace above).congr active_only
    · rw [if_neg fun both => above both.2]
      exact (h.keep above).congr active_only
  · rw [if_neg fun both => active both.1]
    exact h.congr fun x => by simp [active]

theorem isPeak_foldl_raise {offered : Binary64 → Prop} {best : Binary64} {t : Int}
    (h : IsPeak offered best) (apps : List Application) :
    IsPeak (fun x => offered x ∨ Offered apps t x) (apps.foldl (raise t) best) := by
  induction apps generalizing offered best with
  | nil => exact h.congr fun x => by simp [offered_nil]
  | cons a rest ih =>
    rw [List.foldl_cons]
    exact (ih (isPeak_raise h a)).congr fun x => by rw [offered_cons, or_assoc]

theorem isPeak_peakAt (apps : List Application) (t : Int) :
    IsPeak (Offered apps t) (peakAt apps t) := by
  have start : IsPeak (fun _ => False) zero := .inr ⟨rfl, fun _ h => h.elim⟩
  exact (isPeak_foldl_raise start apps).congr fun x => by simp

/-- Only which applications there are counts. -/
theorem peakAt_congr {apps apps' : List Application} (same : ∀ a, a ∈ apps ↔ a ∈ apps') (t : Int) :
    peakAt apps t = peakAt apps' t := by
  have offered_iff : ∀ x, Offered apps t x ↔ Offered apps' t x := by
    intro x
    simp only [Offered, same]
  exact ((isPeak_peakAt apps t).congr offered_iff).unique (isPeak_peakAt apps' t)

theorem series_congr {apps apps' : List Application} (same : ∀ a, a ∈ apps ↔ a ∈ apps')
    (sweep : Sweep) : series apps sweep = series apps' sweep := by
  unfold series
  simp only [peakAt_congr same]

end PeakSlowness
