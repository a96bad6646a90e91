import PeakSlowness.Proofs.Steps
import PeakSlowness.StatLine

set_option autoImplicit false

/-!
Reading the lines of a statistics file. A line describes an application or it does not, whatever its
number is. Reading gives the applications of the data lines in order, up to the first data line that
describes none; the lines behind that one are of no account.
-/

namespace PeakSlowness.StatLine

open Text

def fields (line : List Char) : List (List Char) := splitOn ',' (dropLineEnd line)

def fieldAt (line : List Char) (place : Nat) : List Char := (fields line).getD place []

theorem parse_eq (mode : Mode) (number : Int) (line : List Char) :
    parse mode number line = (ofFields mode (fields line)).mapError
      fun reason => ⟨number, String.ofList (dropLineEnd line), reason⟩ := rfl

/-- What a data line says in a mode: when the application is released, how long it takes from there,
and its slowness. -/
structure Describes (mode : Mode) (line : List Char) (release duration : Int)
    (slowness : Binary64) : Prop where
  enough : fewestFields ≤ (fields line).length
  release : Field.integer mode (fieldAt line releaseField) = .ok release
  duration : Field.integer mode (fieldAt line durationField) = .ok duration
  slowness : Field.decimal mode (fieldAt line slownessField) = .ok slowness

theorem ofFields_eq_ok_iff {mode : Mode} {line : List Char} {a : Application} :
    ofFields mode (fields line) = .ok a ↔
      Describes mode line a.release (a.finish - a.release) a.slowness := by
  unfold ofFields
  constructor
  · intro h
    split at h
    · cases h
    · next enough =>
      simp only [mapError_eq_ok_iff, bind_eq_ok_iff, pure_eq_ok, Except.ok.injEq] at h
      obtain ⟨release, hr, duration, hd, slowness, hs, rfl⟩ := h
      refine ⟨Nat.le_of_not_lt enough, hr, ?_, hs⟩
      rw [show release + duration - release = duration by omega]
      exact hd
  · rintro ⟨enough, hr, hd, hs⟩
    rw [if_neg (Nat.not_lt.2 enough), mapError_eq_ok_iff]
    unfold fieldAt at hr hd hs
    simp only [hr, hd, hs, ok_bind, pure_eq_ok]
    rw [Int.add_comm, Int.sub_add_cancel]

/-- The three fields of a line that count. -/
def counted (line : List Char) : List Char × List Char × List Char :=
  (fieldAt line releaseField, fieldAt line durationField, fieldAt line slownessField)

/-- Nothing else about a data line counts than its three fields, if it has enough of them. -/
theorem ofFields_congr {mode : Mode} {line line' : List Char}
    (h : fewestFields ≤ (fields line).length) (h' : fewestFields ≤ (fields line').length)
    (same : counted line = counted line') :
    ofFields mode (fields line) = ofFields mode (fields line') := by
  simp only [counted, fieldAt, Prod.mk.injEq] at same
  obtain ⟨release, duration, slowness⟩ := same
  unfold ofFields
  rw [if_neg (Nat.not_lt.2 h), if_neg (Nat.not_lt.2 h'), release, duration, slowness]

/-- A line that reading gets past: it holds no data, or describes an application. -/
def Accepted (mode : Mode) (line : List Char) : Prop :=
  isData line = true → ∃ a, ofFields mode (fields line) = .ok a

theorem accepted_iff {mode : Mode} {line : List Char} :
    Accepted mode line ↔
      (isData line = true →
        ∃ release duration slowness, Describes mode line release duration slowness) := by
  constructor
  · intro h data
    obtain ⟨a, ha⟩ := h data
    exact ⟨_, _, _, ofFields_eq_ok_iff.1 ha⟩
  · intro h data
    obtain ⟨release, duration, slowness, described⟩ := h data
    refine ⟨⟨release, release + duration, slowness⟩, ofFields_eq_ok_iff.2 ?_⟩
    rw [Int.add_comm, Int.add_sub_cancel]
    exact described

def application? (mode : Mode) (line : List Char) : Option Application :=
  if isData line then (ofFields mode (fields line)).toOption else none

theorem application?_eq_some_iff {mode : Mode} {line : List Char} {a : Application} :
    application? mode line = some a ↔ isData line = true ∧ ofFields mode (fields line) = .ok a := by
  unfold application?
  split
  · next data =>
    cases ofFields mode (fields line) with
    | error reason => simp [Except.toOption]
    | ok a' => simp [Except.toOption, data]
  · next noData => simp [noData]

theorem mem_applications_iff {mode : Mode} {lines : List (List Char)} {a : Application} :
    a ∈ lines.filterMap (application? mode) ↔
      ∃ line ∈ lines, isData line = true ∧ ofFields mode (fields line) = .ok a := by
  simp only [List.mem_filterMap, application?_eq_some_iff]

theorem readFrom_skip {mode : Mode} {number : Int} {line : List Char} (h : isData line = false)
    (rest : List (List Char)) :
    readFrom mode number (line :: rest) = readFrom mode (number + 1) rest := by
  rw [readFrom, h]
  rfl

theorem readFrom_take {mode : Mode} {number : Int} {line : List Char} {a : Application}
    (h : isData line = true) (ha : ofFields mode (fields line) = .ok a) (rest : List (List Char)) :
    readFrom mode number (line :: rest) =
      ⟨a :: (readFrom mode (number + 1) rest).apps, (readFrom mode (number + 1) rest).fault⟩ := by
  rw [readFrom, h, parse_eq, ha]
  rfl

theorem readFrom_stop {mode : Mode} {number : Int} {line : List Char} {reason : Reason}
    (h : isData line = true) (hr : ofFields mode (fields line) = .error reason)
    (rest : List (List Char)) :
    readFrom mode number (line :: rest) =
      ⟨[], some ⟨number, String.ofList (dropLineEnd line), reason⟩⟩ := by
  rw [readFrom, h, parse_eq, hr]
  rfl

/-- Lines that are all accepted are read to the end. What comes behind them is read as if it stood
alone, only with other numbers. -/
theorem readFrom_append {mode : Mode} (number : Int) {first : List (List Char)}
    (h : ∀ line ∈ first, Accepted mode line) (second : List (List Char)) :
    readFrom mode number (first ++ second) =
      ⟨first.filterMap (application? mode) ++ (readFrom mode (number + first.length) second).apps,
        (readFrom mode (number + first.length) second).fault⟩ := by
  induction first generalizing number with
  | nil => simp
  | cons line rest ih =>
    have hrest := ih (number + 1) fun l hl => h l (List.mem_cons_of_mem _ hl)
    rw [List.cons_append, List.length_cons, Int.natCast_succ, ← Int.add_assoc, Int.add_right_comm]
    cases hd : isData line with
    | false =>
      have none_here : application? mode line = none := by simp [application?, hd]
      rw [readFrom_skip hd, hrest, List.filterMap_cons_none none_here]
    | true =>
      obtain ⟨a, ha⟩ := h line List.mem_cons_self hd
      rw [readFrom_take hd ha, hrest,
        List.filterMap_cons_some (application?_eq_some_iff.2 ⟨hd, ha⟩),
        List.cons_append]

theorem readFrom_of_accepted {mode : Mode} {lines : List (List Char)}
    (h : ∀ line ∈ lines, Accepted mode line) (number : Int) :
    readFrom mode number lines = ⟨lines.filterMap (application? mode), none⟩ := by
  have := readFrom_append number h []
  simpa [readFrom] using this

/-- The rejection of the first line that is not accepted, the first of all lines having the given
number. -/
def Rejects (mode : Mode) (number : Int) (lines : List (List Char)) (m : Malformed) : Prop :=
  ∃ before line after reason, lines = before ++ line :: after ∧ (∀ l ∈ before, Accepted mode l) ∧
    isData line = true ∧ ofFields mode (fields line) = .error reason ∧
    m = ⟨number + before.length, String.ofList (dropLineEnd line), reason⟩

theorem accepted_or_rejects (mode : Mode) (number : Int) (lines : List (List Char)) :
    (∀ line ∈ lines, Accepted mode line) ∨ ∃ m, Rejects mode number lines m := by
  induction lines generalizing number with
  | nil => exact .inl fun _ h => absurd h List.not_mem_nil
  | cons line rest ih =>
    by_cases h : Accepted mode line
    · rcases ih (number + 1) with all | ⟨m, before, bad, after, reason, rfl, ok, hd, hr, rfl⟩
      · left
        intro l hl
        rcases List.mem_cons.1 hl with rfl | hl
        · exact h
        · exact all l hl
      · refine .inr ⟨_, line :: before, bad, after, reason, rfl, ?_, hd, hr, rfl⟩
        intro l hl
        rcases List.mem_cons.1 hl with rfl | hl
        · exact h
        · exact ok l hl
    · unfold Accepted at h
      cases hr : ofFields mode (fields line) with
      | ok a => exact absurd (fun _ => ⟨a, hr⟩) h
      | error reason =>
        have hd : isData line = true :=
          Classical.byContradiction fun hd => h fun hd' => absurd hd' hd
        refine .inr ⟨_, [], line, rest, reason, rfl, ?_, hd, hr, rfl⟩
        intro l hl
        cases hl

theorem readFrom_of_rejects {mode : Mode} {number : Int} {lines : List (List Char)} {m : Malformed}
    (h : Rejects mode number lines m) : (readFrom mode number lines).fault = some m := by
  obtain ⟨before, line, after, reason, rfl, ok, hd, hr, rfl⟩ := h
  rw [readFrom_append number ok, readFrom_stop hd hr]

theorem fault_eq_some_iff {mode : Mode} {number : Int} {lines : List (List Char)} {m : Malformed} :
    (readFrom mode number lines).fault = some m ↔ Rejects mode number lines m := by
  refine ⟨fun h => ?_, readFrom_of_rejects⟩
  rcases accepted_or_rejects mode number lines with all | ⟨m', h'⟩
  · rw [readFrom_of_accepted all] at h
    cases h
  · rw [readFrom_of_rejects h'] at h
    cases h
    exact h'

theorem fault_eq_none_iff {mode : Mode} {number : Int} {lines : List (List Char)} :
    (readFrom mode number lines).fault = none ↔ ∀ line ∈ lines, Accepted mode line := by
  constructor
  · intro h
    rcases accepted_or_rejects mode number lines with all | ⟨m, hm⟩
    · exact all
    · rw [readFrom_of_rejects hm] at h
      cases h
  · intro h
    rw [readFrom_of_accepted h]

/-- Lines behind a rejected one are of no account. -/
theorem Rejects.mono {mode : Mode} {number : Int} {first lines : List (List Char)} {m : Malformed}
    (h : Rejects mode number first m) (hp : first <+: lines) : Rejects mode number lines m := by
  obtain ⟨more, rfl⟩ := hp
  obtain ⟨before, line, after, reason, rfl, ok, hd, hr, rfl⟩ := h
  exact ⟨before, line, after ++ more, reason, by simp, ok, hd, hr, rfl⟩

end PeakSlowness.StatLine
