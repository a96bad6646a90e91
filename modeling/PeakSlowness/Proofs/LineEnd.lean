import Mathlib
import PeakSlowness.Proofs.WrittenFile

set_option autoImplicit false

/-!
Files with one kind of line end throughout. Reading a line does not look at its end, and a last line
without one counts, unless it is empty, and then it would hold no data. So such a file is loaded as its
lines are read by themselves, whichever the end and whether or not the last line has it.
-/

namespace PeakSlowness

open Text

namespace LineEnd

/-- Lines with the same end; the last one has it only in a closed file. -/
def join (ending : LineEnd) (closed : Bool) (contents : List (List Char)) : List Char :=
  if closed then contents.flatMap (· ++ ending.chars) else ending.chars.intercalate contents

variable {ending : LineEnd} {front : List (List Char)} {last : List Char}

theorem intercalate_concat (sep : List Char) (front : List (List Char)) (last : List Char) :
    sep.intercalate (front ++ [last]) = front.flatMap (· ++ sep) ++ last := by
  induction front with
  | nil => simp
  | cons line rest ih =>
    have more : rest ++ [last] ≠ [] := List.append_ne_nil_of_right_ne_nil rest (List.cons_ne_nil _ _)
    rw [List.cons_append, List.intercalate_cons_of_ne_nil more, ih, List.flatMap_cons,
      List.append_assoc, List.append_assoc, List.append_assoc]

/-- Carriage returns are the only line ends in a text that is made with them. -/
theorem not_mem_feed (plain : ∀ line ∈ front, OneLine line) (oneLine : OneLine last) :
    '\n' ∉ front.flatMap (· ++ carriageReturn.chars) ++ last := by
  intro feed
  rcases List.mem_append.1 feed with inside | behind
  · obtain ⟨line, hl, here⟩ := List.mem_flatMap.1 inside
    rcases List.mem_append.1 here with text | mark
    · exact (plain line hl).2 text
    · exact absurd mark (by decide)
  · exact oneLine.2 behind

/-- The lines come back, each with a line feed in place of its end. -/
theorem lines_translateEnds (ending : LineEnd) (plain : ∀ line ∈ front, OneLine line)
    (oneLine : OneLine last) :
    lines (translateEnds (front.flatMap (· ++ ending.chars) ++ last)) =
      front.map (· ++ ['\n']) ++ if last.isEmpty then [] else [last] := by
  induction front with
  | nil =>
    have kept := translateEnds_append oneLine.1 []
    rw [translateEnds, List.append_nil] at kept
    rw [List.flatMap_nil, List.nil_append, kept, lines_of_not_mem oneLine.2]
    rfl
  | cons line rest ih =>
    obtain ⟨here, others⟩ := List.forall_mem_cons.1 plain
    have apart : ending = .carriageReturn →
        (rest.flatMap (· ++ ending.chars) ++ last).head? ≠ some '\n' := by
      rintro rfl first
      exact not_mem_feed others oneLine (List.mem_of_mem_head? first)
    rw [List.flatMap_cons, List.append_assoc, List.append_assoc, translateEnds_append here.1,
      ending.translateEnds_chars apart, lines_append_feed here.2, ih others]
    rfl

end LineEnd

namespace StatLine

variable {mode : Mode} {number : ℤ}

/-- Two lines that differ at most in their ends. -/
structure SameButEnd (line line' : List Char) : Prop where
  data : isData line = isData line'
  body : dropLineEnd line = dropLineEnd line'

theorem SameButEnd.parse_eq {line line' : List Char} (h : SameButEnd line line') :
    parse mode number line = parse mode number line' := by
  unfold parse
  rw [h.body]

/-- Reading does not look at the ends of lines. -/
theorem readFrom_congr {lines lines' : List (List Char)}
    (h : List.Forall₂ SameButEnd lines lines') :
    readFrom mode number lines = readFrom mode number lines' := by
  induction h generalizing number with
  | nil => rfl
  | cons same _ ih => simp only [readFrom, same.data, same.parse_eq, ih]

theorem readFrom_concat_of_no_data {last : List Char} (h : isData last = false)
    (lines : List (List Char)) :
    readFrom mode number (lines ++ [last]) = readFrom mode number lines := by
  induction lines generalizing number with
  | nil => exact readFrom_skip h []
  | cons line rest ih => simp only [List.cons_append, readFrom, ih]

theorem isData_concat_feed (line : List Char) : isData (line ++ ['\n']) = isData line := by
  have feed : isBlank '\n' = true := by decide
  have blank : Blank (line ++ ['\n']) ↔ Blank line := by
    simp [Blank, or_imp, forall_and, feed]
  have mark : (line ++ ['\n']).head? = some '#' ↔ line.head? = some '#' := by
    cases line <;> simp
  rw [Bool.eq_iff_iff, isData_iff, isData_iff, blank, Ne, mark]

theorem sameButEnd_feed {line : List Char} (h : OneLine line) :
    SameButEnd (line ++ ['\n']) line := by
  refine ⟨isData_concat_feed line, ?_⟩
  have bare := dropLineEnd_of_oneLine h (.inl rfl)
  rw [List.append_nil] at bare
  rw [dropLineEnd_of_oneLine h (.inr rfl), bare]

theorem forall₂_feeds {lines : List (List Char)} (plain : ∀ line ∈ lines, OneLine line) :
    List.Forall₂ SameButEnd (lines.map (· ++ ['\n'])) lines :=
  List.forall₂_map_left_iff.2 (List.forall₂_same.2 fun line hl => sameButEnd_feed (plain line hl))

/-- Lines with their ends, and a last one without, are read as if none had an end. -/
theorem readLines_of_ended {front : List (List Char)} {last : List Char} (mode : Mode)
    (ending : LineEnd) (plain : ∀ line ∈ front, OneLine line) (oneLine : OneLine last) :
    readLines mode (lines (translateEnds (front.flatMap (· ++ ending.chars) ++ last))) =
      readLines mode (front ++ [last]) := by
  rw [ending.lines_translateEnds plain oneLine]
  unfold readLines
  cases last with
  | nil =>
    rw [List.isEmpty_nil, if_pos rfl, List.append_nil, readFrom_concat_of_no_data rfl]
    exact readFrom_congr (forall₂_feeds plain)
  | cons c rest =>
    rw [List.isEmpty_cons, if_neg Bool.false_ne_true]
    exact readFrom_congr (List.rel_append (forall₂_feeds plain) (.cons ⟨rfl, rfl⟩ .nil))

theorem readLines_join {contents : List (List Char)} (mode : Mode) (ending : LineEnd) (closed : Bool)
    (plain : ∀ line ∈ contents, OneLine line) :
    readLines mode (lines (translateEnds (ending.join closed contents))) = readLines mode contents := by
  cases closed with
  | true =>
    have empty : OneLine [] := ⟨List.not_mem_nil, List.not_mem_nil⟩
    have read := readLines_of_ended mode ending plain empty
    rw [List.append_nil] at read
    rw [LineEnd.join, if_pos rfl, read]
    exact readFrom_concat_of_no_data rfl contents
  | false =>
    rw [LineEnd.join, if_neg Bool.false_ne_true]
    rcases List.eq_nil_or_concat contents with rfl | ⟨front, last, rfl⟩
    · rfl
    · rw [List.concat_eq_append] at plain ⊢
      obtain ⟨others, oneLine⟩ := List.forall_mem_append.1 plain
      rw [LineEnd.intercalate_concat]
      exact readLines_of_ended mode ending others (List.forall_mem_singleton.1 oneLine)

end StatLine

namespace Action

open StatLine

/-- Whichever end the lines of a file have, and whether or not the last one has it, the file is loaded as
the lines are read by themselves: to the same applications in order, or up to the same rejected line. -/
theorem load_joined_lines {cfg : Setting} {mode : Mode} {contents : List (List Char)}
    (hm : Config.mode cfg = .ok mode) (plain : ∀ line ∈ contents, OneLine line) :
    ∀ (ending : LineEnd) (closed : Bool) (w : World) (path : FilePath),
      w.disk.read w.host.cwd path = .ok (Utf8.encode (ending.join closed contents)) →
      (outcome (load path cfg) w).1 = ofReading (readLines mode contents) := by
  intro ending closed w path ho
  rw [(says_load_encode hm ho).result, readLines_join mode ending closed plain]

/-- A comment, an empty line and a line that is too short. -/
def shortThird : List (List Char) := [['#', 'A'], [], ['a', ',', 'b']]

/-- The third line is rejected as such between carriage returns, of which a last one closes the file, as
well as in an open file with line feeds behind them. -/
theorem load_joined_short_third :
    LineEnd.carriageReturn.join true shortThird = "#A\r\ra,b\r".toList ∧
      LineEnd.returnAndFeed.join false shortThird = "#A\r\n\r\na,b".toList ∧
      (outcome (load (.ofPlace ["in"]) Config.standard) (worldOfText "#A\r\ra,b\r".toList)).1 =
        .error (.malformed ⟨3, "a,b", .tooFewFields 2⟩) ∧
      (outcome (load (.ofPlace ["in"]) Config.standard) (worldOfText "#A\r\n\r\na,b".toList)).1 =
        .error (.malformed ⟨3, "a,b", .tooFewFields 2⟩) := by
  have hm : Config.mode Config.standard = .ok .lenient := by rfl
  have plain : ∀ line ∈ shortThird, OneLine line := by decide
  have returns : LineEnd.carriageReturn.join true shortThird = "#A\r\ra,b\r".toList := by decide
  have feeds : LineEnd.returnAndFeed.join false shortThird = "#A\r\n\r\na,b".toList := by decide
  have closed : (worldOfText "#A\r\ra,b\r".toList).disk.read [] (.ofPlace ["in"]) =
      .ok (Utf8.encode (LineEnd.carriageReturn.join true shortThird)) := by
    rw [returns]
    cbv
  have bare : (worldOfText "#A\r\n\r\na,b".toList).disk.read [] (.ofPlace ["in"]) =
      .ok (Utf8.encode (LineEnd.returnAndFeed.join false shortThird)) := by
    rw [feeds]
    cbv
  refine ⟨returns, feeds, ?_, ?_⟩
  · rw [load_joined_lines hm plain .carriageReturn true _ _ closed]
    rfl
  · rw [load_joined_lines hm plain .returnAndFeed false _ _ bare]
    rfl

end Action

end PeakSlowness
