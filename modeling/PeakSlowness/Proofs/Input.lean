import Mathlib
import PeakSlowness.Input
import PeakSlowness.Proofs.Session
import PeakSlowness.Proofs.StatFile

set_option autoImplicit false

/-!
Loading a statistics file. Apart from the message about it, what loading comes to depends on the
octets of the file and the parsing mode alone. It is what the lines of the whole text come to, if
there is one.
-/

namespace PeakSlowness.Action

open Text

section Load

variable {w : World} {path : FilePath} {cfg : Setting} {mode : Mode} {octets : List UInt8}

theorem says_load (hm : Config.mode cfg = .ok mode)
    (ho : w.disk.read w.host.cwd path = .ok octets) :
    Says (load path cfg) w
      ((StatFile.read mode octets).mapError (StatFile.Fault.failure path)) [] := by
  unfold load
  rw [hm]
  refine (says_pure mode w).then ((says_query _ _).then ?_)
  rw [outcome_pure, ho]
  refine (says_pure octets _).then ?_
  dsimp only
  have read := fun w => says_ofExcept (StatFile.Fault.failure path) (StatFile.read mode octets) w
  cases h : StatFile.read mode octets with
  | error fault =>
    rw [h] at read
    exact (read _).bind_of_error
  | ok apps =>
    rw [h] at read
    refine (read _).then ?_
    exact (says_log _ _ _).then (says_pure apps _)

def ofReading (reading : StatLine.Reading) : Except Failure (List Application) :=
  match reading.fault with
  | some m => .error (.malformed m)
  | none => .ok reading.apps

theorem says_load_encode (hm : Config.mode cfg = .ok mode) {text : List Char}
    (ho : w.disk.read w.host.cwd path = .ok (Utf8.encode text)) :
    Says (load path cfg) w
      (ofReading (StatLine.readLines mode (lines (translateEnds text)))) [] := by
  have loaded := says_load hm ho
  have whole := StatFile.read_encode mode text
  rw [StatFile.readText, unify_eq_translateEnds, StatFile.outcome] at whole
  rw [whole] at loaded
  unfold ofReading
  cases hf : (StatLine.readLines mode (lines (translateEnds text))).fault with
  | none =>
    rw [hf] at loaded
    exact loaded
  | some m =>
    rw [hf] at loaded
    exact loaded

/-- Octets that are no text are never loaded. They are rejected as such, or for the first bad line
among those that end in the text that the octets begin with. -/
theorem outcome_load_of_not_text (hm : Config.mode cfg = .ok mode)
    (ho : w.disk.read w.host.cwd path = .ok octets) (h : ∀ text, octets ≠ Utf8.encode text) :
    ∃ failure, (outcome (load path cfg) w).1 = .error failure ∧
      ((∃ reason, failure = .input path (.notText reason)) ∨
        ∃ m text, failure = .malformed m ∧ Utf8.Leads octets text ∧
          StatLine.Rejects mode 1 (endedLines text) m) := by
  obtain ⟨fault, read, strays⟩ := StatFile.read_of_not_text mode h
  have loaded := says_load hm ho
  rw [read] at loaded
  refine ⟨fault.failure path, loaded.result, ?_⟩
  rcases strays with ⟨reason, rfl⟩ | ⟨m, first, text, last, rfl, front, reads, rejects⟩
  · exact .inl ⟨reason, rfl⟩
  · obtain ⟨whole, leads⟩ := Utf8.exists_leads octets
    refine .inr ⟨m, whole, rfl, leads, rejects.mono ?_⟩
    have grown : text <+: whole := reads.prefix_of_leads leads front
    exact (completeLines_mono grown).trans (completeLines_prefix_endedLines whole)

/-- Loading piece by piece agrees with reading the whole text at once, wherever the pieces are
cut. -/
theorem load_agrees_with_whole_text (hm : Config.mode cfg = .ok mode)
    (ho : w.disk.read w.host.cwd path = .ok octets) :
    (∀ text, octets = Utf8.encode text →
      (outcome (load path cfg) w).1 =
        ofReading (StatLine.readLines mode (lines (translateEnds text)))) ∧
    ((∀ text, octets ≠ Utf8.encode text) →
      ∃ failure, (outcome (load path cfg) w).1 = .error failure ∧
        ((∃ reason, failure = .input path (.notText reason)) ∨
          ∃ m text, failure = .malformed m ∧ Utf8.Leads octets text ∧
            StatLine.Rejects mode 1 (endedLines text) m)) := by
  constructor
  · rintro text rfl
    exact (says_load_encode hm ho).result
  · exact outcome_load_of_not_text hm ho

end Load

/-- A world with nothing but a file of the given text. -/
def worldOfText (text : List Char) : World :=
  ⟨⟨[], "", []⟩, ⟨[(["in"], .file (Utf8.encode text))]⟩, []⟩

theorem read_worldOfText (text : List Char) :
    (worldOfText text).disk.read [] (.ofPlace ["in"]) = .ok (Utf8.encode text) := by cbv

/-- A comment of some letters with an end of two octets, and a line of one letter, which has two octets. -/
def shortLineBehind (letters : Nat) : List Char := ('#' :: List.replicate letters 'a') ++ ['\r', '\n', 'é']

/-- What is behind the comment and so many octets more. -/
theorem drop_encode_shortLineBehind (letters more : Nat) :
    (Utf8.encode (shortLineBehind letters)).drop (letters + 1 + more) =
      [0x0D, 0x0A, 0xC3, 0xA9].drop more := by
  have comment : Utf8.encode ('#' :: List.replicate letters 'a') =
      0x23 :: Utf8.encode (List.replicate letters 'a') := rfl
  have length : letters + 1 = (Utf8.encode ('#' :: List.replicate letters 'a')).length := by
    rw [comment, Utf8.encode_replicate letters 'a' 0x61 (by decide), List.length_cons, List.length_replicate]
  rw [shortLineBehind, Utf8.encode, List.flatMap_append, length]
  exact List.drop_length_add_append more

theorem lines_shortLineBehind (letters : Nat) : lines (translateEnds (shortLineBehind letters)) =
    [('#' :: List.replicate letters 'a') ++ ['\n'], ['é']] := by
  have no_return : '\r' ∉ '#' :: List.replicate letters 'a' := by simp
  have no_feed : '\n' ∉ '#' :: List.replicate letters 'a' := by simp
  rw [shortLineBehind, translateEnds_append no_return, translateEnds, lines_append_feed no_feed]
  rfl

theorem ofReading_shortLineBehind (letters : Nat) :
    ofReading (StatLine.readLines .lenient (lines (translateEnds (shortLineBehind letters)))) =
      .error (.malformed ⟨2, "é", .tooFewFields 1⟩) := by
  have comment : StatLine.isData (('#' :: List.replicate letters 'a') ++ ['\n']) = false := by
    simp [StatLine.isData]
  rw [lines_shortLineBehind, StatLine.readLines, StatLine.readFrom, comment]
  rfl

/-- A line that is too short is rejected as such where a piece ends between the carriage return and the line
feed in front of it, and where a piece ends inside its letter. -/
theorem load_agrees_where_pieces_end :
    Config.mode Config.standard = .ok .lenient ∧
      (Utf8.encode (shortLineBehind 8190)).drop pieceSize = [0x0A, 0xC3, 0xA9] ∧
      (outcome (load (.ofPlace ["in"]) Config.standard) (worldOfText (shortLineBehind 8190))).1 =
        .error (.malformed ⟨2, "é", .tooFewFields 1⟩) ∧
      (Utf8.encode (shortLineBehind 8188)).drop pieceSize = [0xA9] ∧
      (outcome (load (.ofPlace ["in"]) Config.standard) (worldOfText (shortLineBehind 8188))).1 =
        .error (.malformed ⟨2, "é", .tooFewFields 1⟩) := by
  have hm : Config.mode Config.standard = .ok .lenient := by rfl
  refine ⟨hm, ?_, ?_, ?_, ?_⟩
  · exact drop_encode_shortLineBehind 8190 1
  · rw [(load_agrees_with_whole_text hm (read_worldOfText _)).1 _ rfl, ofReading_shortLineBehind]
  · exact drop_encode_shortLineBehind 8188 3
  · rw [(load_agrees_with_whole_text hm (read_worldOfText _)).1 _ rfl, ofReading_shortLineBehind]

end PeakSlowness.Action
