import PeakSlowness.Proofs.StatLine
import PeakSlowness.Proofs.Text.Line
import PeakSlowness.Proofs.Text.Utf8
import PeakSlowness.StatFile

set_option autoImplicit false

/-!
Reading a statistics file piece by piece. After each piece the state is what `Intake.after` computes
from the text so far, wherever the pieces were cut. So the octets of a text are read as the text is
read at once. Octets that are no text are rejected: either as such, or for a line that was complete
before.
-/

namespace PeakSlowness.Text

theorem flatten_pieces {α : Type} {size : Nat} (h : size ≠ 0) (items : List α) :
    (pieces size items).flatten = items := by
  fun_induction pieces size items with
  | case1 items none =>
    simp only [h, decide_false, Bool.or_false, List.isEmpty_iff] at none
    simp [none]
  | case2 items some ih => rw [List.flatten_cons, ih, List.take_append_drop]

end PeakSlowness.Text

namespace PeakSlowness.StatFile

open Text

variable {mode : Mode}

theorem take_of_accepted {s : Intake} {whole : List (List Char)}
    (h : ∀ line ∈ whole, StatLine.Accepted mode line) :
    s.take mode whole = .ok { s with
      next := s.next + whole.length,
      apps := s.apps ++ whole.filterMap (StatLine.application? mode) } := by
  simp only [Intake.take, StatLine.readFrom_of_accepted h]

theorem take_of_rejects {s : Intake} {whole : List (List Char)} {m : StatLine.Malformed}
    (h : StatLine.Rejects mode s.next whole m) : s.take mode whole = .error (.malformed m) := by
  simp only [Intake.take, StatLine.readFrom_of_rejects h]

/-- The state after a text whose complete lines have all been accepted. -/
def Intake.settled (mode : Mode) (begun : Utf8.Begun) (text : List Char) : Intake where
  begun
  isOpen := (unifyAfter false text).2
  tail := (cutLines (unifyAfter false text).1).2
  next := 1 + (completeLines text).length
  apps := (completeLines text).filterMap (StatLine.application? mode)

/-- Reading up to some point of a text, as the text alone says. -/
def Intake.after (mode : Mode) (begun : Utf8.Begun) (text : List Char) : Except Fault Intake :=
  match (StatLine.readLines mode (completeLines text)).fault with
  | some m => .error (.malformed m)
  | none => .ok (.settled mode begun text)

theorem after_of_accepted {begun : Utf8.Begun} {text : List Char}
    (h : ∀ line ∈ completeLines text, StatLine.Accepted mode line) :
    Intake.after mode begun text = .ok (.settled mode begun text) := by
  simp only [Intake.after, StatLine.readLines, StatLine.fault_eq_none_iff.2 h]

theorem after_of_rejects {begun : Utf8.Begun} {text : List Char} {m : StatLine.Malformed}
    (h : StatLine.Rejects mode 1 (completeLines text) m) :
    Intake.after mode begun text = .error (.malformed m) := by
  simp only [Intake.after, StatLine.readLines, StatLine.readFrom_of_rejects h]

theorem after_nil (mode : Mode) : Intake.after mode .none [] = .ok .start := rfl

/-- The part of a text that is looked at when more comes: the line that is not complete, and what
comes behind it. -/
def recut (text more : List Char) : List (List Char) × List Char :=
  cutLines ((cutLines (unifyAfter false text).1).2 ++ (unifyAfter (unifyAfter false text).2 more).1)

theorem completeLines_append (text more : List Char) :
    completeLines (text ++ more) = completeLines text ++ (recut text more).1 := by
  rw [completeLines, unifyAfter_append, cutLines_append]
  rfl

theorem settled_append (begun : Utf8.Begun) (text more : List Char) :
    Intake.settled mode begun (text ++ more) =
      ⟨begun, (unifyAfter (unifyAfter false text).2 more).2, (recut text more).2,
        1 + (completeLines text).length + (recut text more).1.length,
        (completeLines text).filterMap (StatLine.application? mode) ++
          (recut text more).1.filterMap (StatLine.application? mode)⟩ := by
  have tail : (cutLines (unifyAfter false (text ++ more)).1).2 = (recut text more).2 := by
    rw [unifyAfter_append, cutLines_append]
    rfl
  rw [Intake.settled, tail, completeLines_append, List.filterMap_append, List.length_append,
    Int.natCast_add,
    ← Int.add_assoc, unifyAfter_append]

/-- One piece leads from what the text before it says to what the text with it says. -/
theorem after_bind_feed {begun last : Utf8.Begun} {text more : List Char} {piece : List UInt8}
    (h : Utf8.Reads begun piece more last) :
    (Intake.after mode begun text >>= fun s => s.feed mode piece) =
      Intake.after mode last (text ++ more) := by
  have grown := completeLines_append text more
  rcases StatLine.accepted_or_rejects mode 1 (completeLines text) with all | ⟨m, hm⟩
  · rw [after_of_accepted all, ok_bind]
    simp only [Intake.feed, Intake.settled, Utf8.decodePiece_eq_ok_iff.2 h, mapError_ok, ok_bind]
    rcases StatLine.accepted_or_rejects mode 1 (completeLines (text ++ more)) with all' | ⟨m, hm⟩
    · rw [after_of_accepted all', settled_append]
      rw [grown] at all'
      exact take_of_accepted fun l hl => all' l (List.mem_append_right _ hl)
    · rw [after_of_rejects hm]
      apply take_of_rejects
      rw [grown, ← StatLine.fault_eq_some_iff, StatLine.readFrom_append 1 all] at hm
      exact StatLine.fault_eq_some_iff.1 hm
  · rw [after_of_rejects hm, error_bind,
      after_of_rejects (hm.mono (completeLines_mono (List.prefix_append ..)))]

/-- A run over pieces that are text, however they have been cut. -/
theorem after_bind_foldlM (mode : Mode) (text : List Char) {begun last : Utf8.Begun}
    {more : List Char} {pieces : List (List UInt8)}
    (h : Utf8.Reads begun pieces.flatten more last) :
    (Intake.after mode begun text >>= fun s => pieces.foldlM (Intake.feed mode) s) =
      Intake.after mode last (text ++ more) := by
  induction pieces generalizing begun text more with
  | nil =>
    cases h
    rw [List.append_nil]
    exact bind_pure _
  | cons piece rest ih =>
    rw [List.flatten_cons] at h
    obtain ⟨first, mid, second, hp, hr, rfl⟩ := h.split
    simp only [List.foldlM_cons]
    rw [← bind_assoc, after_bind_feed hp, ih _ hr, List.append_assoc]

/-- What pieces that are no text may come to: they are rejected as such, or for a line that is
complete in a text at their beginning. -/
def Strays (mode : Mode) (octets : List UInt8) (fault : Fault) : Prop :=
  (∃ reason, fault = .notText reason) ∨
    ∃ m first text last, fault = .malformed m ∧ first <+: octets ∧
      Utf8.Reads .none first text last ∧
      StatLine.Rejects mode 1 (completeLines text) m

theorem exists_strays (mode : Mode) {octets : List UInt8} {pieces : List (List UInt8)}
    {begun : Utf8.Begun} {first : List UInt8} {text : List Char}
    (read : Utf8.Reads .none first text begun) (whole : first ++ pieces.flatten = octets)
    (stuck : ∀ more last, ¬ Utf8.Reads begun pieces.flatten more last) :
    ∃ fault, (Intake.after mode begun text >>= fun s => pieces.foldlM (Intake.feed mode) s) =
      .error fault ∧
      Strays mode octets fault := by
  induction pieces generalizing begun first text with
  | nil => exact absurd .nil (stuck [] begun)
  | cons piece rest ih =>
    rcases StatLine.accepted_or_rejects mode 1 (completeLines text) with all | ⟨m, hm⟩
    · cases hp : Utf8.decodePiece begun 0 piece with
      | error f =>
        refine ⟨.notText f.reason, ?_, .inl ⟨_, rfl⟩⟩
        rw [after_of_accepted all, ok_bind, List.foldlM_cons, Intake.feed]
        simp only [Intake.settled, hp, mapError_error, error_bind]
      | ok result =>
        obtain ⟨more, mid⟩ := result
        have step := Utf8.decodePiece_eq_ok_iff.1 hp
        obtain ⟨fault, hf, strays⟩ := ih (read.append step)
          (by rw [List.append_assoc, ← List.flatten_cons, whole]) fun more' last hr =>
            stuck (more ++ more') last (by rw [List.flatten_cons]; exact step.append hr)
        refine ⟨fault, ?_, strays⟩
        simp only [List.foldlM_cons]
        rw [← bind_assoc, after_bind_feed step, hf]
    · refine ⟨.malformed m, ?_, .inr ⟨m, first, text, begun, rfl, ?_, read, hm⟩⟩
      · rw [after_of_rejects hm, error_bind]
      · rw [← whole]
        exact List.prefix_append ..

/-- What reading a whole text comes to. -/
def outcome (r : StatLine.Reading) : Except Fault (List Application) :=
  match r.fault with
  | some m => .error (.malformed m)
  | none => .ok r.apps

theorem outcome_of_accepted {number : Int} {lines : List (List Char)}
    (h : ∀ line ∈ lines, StatLine.Accepted mode line) :
    outcome (StatLine.readFrom mode number lines) =
      .ok (lines.filterMap (StatLine.application? mode)) := by
  simp only [outcome, StatLine.readFrom_of_accepted h]

theorem outcome_of_rejects {number : Int} {lines : List (List Char)} {m : StatLine.Malformed}
    (h : StatLine.Rejects mode number lines m) :
    outcome (StatLine.readFrom mode number lines) = .error (.malformed m) := by
  simp only [outcome, StatLine.readFrom_of_rejects h]

theorem finish_settled {last : Utf8.Begun} (h : last.owed = 0) (text : List Char) :
    (Intake.settled mode last text).finish mode =
      ((Intake.settled mode last text).take mode
        (if (lastLine text).isEmpty then [] else [lastLine text]) >>=
        fun s => .ok s.apps) := by
  have done : (Intake.settled mode last text).begun.finish 0 = .ok () := if_pos h
  rw [Intake.finish, done]
  rfl

theorem finish_settled_of_owed (mode : Mode) {last : Utf8.Begun} (h : last.owed ≠ 0)
    (text : List Char) :
    ∃ reason, (Intake.settled mode last text).finish mode = .error (.notText reason) := by
  have cut : (Intake.settled mode last text).begun.finish 0 = .error (last.fault .truncated 0) :=
    if_neg h
  rw [Intake.finish, cut]
  exact ⟨_, rfl⟩

/-- The end of the octets adds what is left as a last line. -/
theorem after_bind_finish {last : Utf8.Begun} (h : last.owed = 0) (text : List Char) :
    (Intake.after mode last text >>= fun s => s.finish mode) = outcome (readText mode text) := by
  have split := lines_unify text
  rw [readText, StatLine.readLines]
  rcases StatLine.accepted_or_rejects mode 1 (completeLines text) with all | ⟨m, hm⟩
  · rw [after_of_accepted all, ok_bind, finish_settled h]
    rcases StatLine.accepted_or_rejects mode 1 (lines (unify text)) with all' | ⟨m, hm⟩
    · rw [outcome_of_accepted all']
      rw [split] at all' ⊢
      rw [take_of_accepted fun l hl => all' l (List.mem_append_right _ hl), ok_bind,
        List.filterMap_append]
      rfl
    · rw [outcome_of_rejects hm]
      rw [split, ← StatLine.fault_eq_some_iff, StatLine.readFrom_append 1 all] at hm
      rw [take_of_rejects (StatLine.fault_eq_some_iff.1 hm), error_bind]
  · rw [after_of_rejects hm, error_bind,
      outcome_of_rejects (hm.mono (completeLines_prefix_lines text))]

/-- The octets of a text are read as the text is, wherever the pieces begin and end. -/
theorem read_encode (mode : Mode) (text : List Char) :
    read mode (Utf8.encode text) = outcome (readText mode text) := by
  have whole : (pieces pieceSize (Utf8.encode text)).flatten = Utf8.encode text :=
    flatten_pieces (by decide) _
  have run := after_bind_foldlM mode [] (whole ▸ Utf8.reads_encode text)
  rw [after_nil, ok_bind, List.nil_append] at run
  rw [read, run, after_bind_finish rfl]

/-- Octets that are no text are never read to the end. -/
theorem read_of_not_text (mode : Mode) {octets : List UInt8}
    (h : ∀ text, octets ≠ Utf8.encode text) :
    ∃ fault, read mode octets = .error fault ∧ Strays mode octets fault := by
  have whole : (pieces pieceSize octets).flatten = octets := flatten_pieces (by decide) _
  by_cases readable : ∃ text last, Utf8.Reads .none (pieces pieceSize octets).flatten text last
  · -- all octets fit, so one more is owed at the end
    obtain ⟨text, last, readable⟩ := readable
    have run := after_bind_foldlM mode [] readable
    rw [after_nil, ok_bind, List.nil_append] at run
    rw [whole] at readable
    have owed : last.owed ≠ 0 := fun e => h text (Utf8.eq_encode_iff.2 ⟨last, readable, e⟩)
    rw [read, run]
    rcases StatLine.accepted_or_rejects mode 1 (completeLines text) with all | ⟨m, hm⟩
    · obtain ⟨reason, cut⟩ := finish_settled_of_owed mode owed text
      rw [after_of_accepted all, ok_bind, cut]
      exact ⟨_, rfl, .inl ⟨reason, rfl⟩⟩
    · rw [after_of_rejects hm, error_bind]
      exact ⟨_, rfl, .inr ⟨m, octets, text, last, rfl, List.prefix_rfl, readable, hm⟩⟩
  · obtain ⟨fault, hf, strays⟩ := exists_strays mode .nil whole fun text last hr =>
      readable ⟨text, last, hr⟩
    rw [after_nil, ok_bind] at hf
    exact ⟨fault, by rw [read, hf, error_bind], strays⟩

end PeakSlowness.StatFile
