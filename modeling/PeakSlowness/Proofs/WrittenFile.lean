import Mathlib
import PeakSlowness.Proofs.Input
import PeakSlowness.Proofs.Written

set_option autoImplicit false

/-!
Statistics files as they are written. A row is the entry of an application, a comment or a blank
line; rows end with any of the three line ends, and the last one may lack its own. Such a file is
loaded in either mode, and the applications come back in order, their slownesses bit for bit.
-/

namespace PeakSlowness

open Text

namespace Text

/-- Text in which no line ends. -/
def OneLine (text : List Char) : Prop := '\r' ∉ text ∧ '\n' ∉ text

instance (text : List Char) : Decidable (OneLine text) := inferInstanceAs (Decidable (_ ∧ _))

theorem oneLine_of_not_isBlank {text : List Char} (h : ∀ c ∈ text, isBlank c = false) :
    OneLine text :=
  ⟨fun hc => absurd (h _ hc) (by decide), fun hc => absurd (h _ hc) (by decide)⟩

/-- A line keeps its text, with its line feed or without. -/
theorem dropLineEnd_of_oneLine {text tail : List Char} (h : OneLine text)
    (ht : tail = [] ∨ tail = ['\n']) :
    dropLineEnd (text ++ tail) = text := by
  have inside : ∀ c ∈ text, (decide (c = '\r') || decide (c = '\n')) = false := by
    intro c hc
    have no_return : c ≠ '\r' := fun same => h.1 (same ▸ hc)
    have no_feed : c ≠ '\n' := fun same => h.2 (same ▸ hc)
    simp [no_return, no_feed]
  rcases ht with rfl | rfl
  · rw [List.append_nil]
    exact dropEnd_of_not inside
  · have kept := dropEnd_of_not inside
    simpa [dropLineEnd, dropEnd] using kept

theorem splitOn_of_not_mem {part : List Char} {sep : Char} (h : sep ∉ part) :
    splitOn sep part = [part] := by
  induction part with
  | nil => rfl
  | cons c rest ih =>
    rw [List.mem_cons, not_or] at h
    simp only [splitOn, if_neg (Ne.symm h.1), ih h.2]

theorem splitOn_append {part : List Char} {sep : Char} (h : sep ∉ part) (rest : List Char) :
    splitOn sep (part ++ sep :: rest) = part :: splitOn sep rest := by
  induction part with
  | nil => simp [splitOn]
  | cons c more ih =>
    rw [List.mem_cons, not_or] at h
    simp only [List.cons_append, splitOn, if_neg (Ne.symm h.1), ih h.2]

theorem intercalate_cons_cons (sep : Char) (part next : List Char) (rest : List (List Char)) :
    [sep].intercalate (part :: next :: rest) = part ++ sep :: [sep].intercalate (next :: rest) := by
  simp [List.intercalate]

/-- Parts without the separator are found again between the separators. -/
theorem splitOn_intercalate {parts : List (List Char)} {sep : Char} (hn : parts ≠ [])
    (h : ∀ part ∈ parts, sep ∉ part) : splitOn sep ([sep].intercalate parts) = parts := by
  induction parts with
  | nil => exact absurd rfl hn
  | cons part more ih =>
    obtain ⟨here, there⟩ := List.forall_mem_cons.1 h
    cases more with
    | nil => simpa [List.intercalate] using splitOn_of_not_mem here
    | cons next rest =>
      rw [intercalate_cons_cons, splitOn_append here, ih (List.cons_ne_nil _ _) there]

theorem mem_intercalate {parts : List (List Char)} {sep c : Char}
    (h : c ∈ [sep].intercalate parts) :
    c = sep ∨ ∃ part ∈ parts, c ∈ part := by
  induction parts with
  | nil => cases h
  | cons part more ih =>
    cases more with
    | nil => exact .inr ⟨part, List.mem_cons_self, by simpa [List.intercalate] using h⟩
    | cons next rest =>
      rw [intercalate_cons_cons, List.mem_append, List.mem_cons] at h
      rcases h with here | same | there
      · exact .inr ⟨part, List.mem_cons_self, here⟩
      · exact .inl same
      · refine (ih there).imp_right ?_
        rintro ⟨other, hp, hc⟩
        exact ⟨other, List.mem_cons_of_mem _ hp, hc⟩

theorem isBlank_of_trim_eq_nil {text : List Char} (h : trim text = []) : Blank text := by
  obtain ⟨tail, blank, whole⟩ := dropWhile_isBlank_eq text
  rw [h, List.nil_append] at whole
  rw [← List.takeWhile_append_dropWhile (p := isBlank) (l := text), whole]
  intro c hc
  rcases List.mem_append.1 hc with front | behind
  · exact List.all_eq_true.1 List.all_takeWhile c front
  · exact blank c behind

theorem trim_of_blank {text : List Char} (h : Blank text) : trim text = [] := by
  rw [trim, trimBy, List.dropWhile_eq_nil_iff.2 h, dropEnd_nil]

theorem trim_eq_nil_iff {text : List Char} : trim text = [] ↔ Blank text :=
  ⟨isBlank_of_trim_eq_nil, trim_of_blank⟩

end Text

/-- How a row ends. -/
inductive LineEnd where
  | feed
  | carriageReturn
  | returnAndFeed
  deriving DecidableEq

def LineEnd.chars : LineEnd → List Char
  | .feed => ['\n']
  | .carriageReturn => ['\r']
  | .returnAndFeed => ['\r', '\n']

/-- Each end counts as one line feed. Only, a carriage return would take a line feed along that follows
it. -/
theorem LineEnd.translateEnds_chars (ending : LineEnd) {rest : List Char}
    (apart : ending = .carriageReturn → rest.head? ≠ some '\n') :
    translateEnds (ending.chars ++ rest) = '\n' :: translateEnds rest := by
  cases ending with
  | feed => exact translateEnds_cons (by decide) rest
  | returnAndFeed => rfl
  | carriageReturn =>
    cases rest with
    | nil => rfl
    | cons c more => exact translateEnds_return (fun feed => apart rfl (congrArg some feed)) more

namespace StatLine

theorem isData_iff {line : List Char} :
    isData line = true ↔ ¬ Blank line ∧ line.head? ≠ some '#' := by
  simp [isData, trim_eq_nil_iff]

/-- The row of an application. Besides the three columns that count there are nine others, and more
behind them, of any text that ends no column and no line; only, the row begins no comment. -/
structure Entry where
  release : ℤ
  duration : ℤ
  slowness : Binary64
  before : List (List Char)
  between : List (List Char)
  gap : List (List Char)
  further : List (List Char)
  release_short : release.natAbs < 10 ^ Numeral.digitLimit
  duration_short : duration.natAbs < 10 ^ Numeral.digitLimit
  finite : slowness.isFinite = true
  before_length : before.length = releaseField
  between_length : releaseField + 1 + between.length = durationField
  gap_length : durationField + 1 + gap.length = slownessField
  plain : ∀ column ∈ before ++ between ++ gap ++ further, ',' ∉ column ∧ OneLine column
  uncommented : before.head?.bind List.head? ≠ some '#'

namespace Entry

def columns (e : Entry) : List (List Char) :=
  e.before ++ (toString e.release).toList :: (e.between ++ (toString e.duration).toList ::
    (e.gap ++ e.slowness.write :: e.further))

def text (e : Entry) : List Char := [','].intercalate e.columns

def application (e : Entry) : Application := ⟨e.release, e.release + e.duration, e.slowness⟩

theorem columns_plain (e : Entry) : ∀ column ∈ e.columns, ',' ∉ column ∧ OneLine column := by
  have legible : ∀ {column : List Char}, Field.Legible column → ',' ∉ column ∧ OneLine column :=
    fun h => ⟨h.no_comma, oneLine_of_not_isBlank h.not_isBlank⟩
  have release := legible (Field.legible_toString e.release)
  have duration := legible (Field.legible_toString e.duration)
  have slowness := legible (Field.legible_write e.finite)
  have others := e.plain
  simp only [List.forall_mem_append] at others
  obtain ⟨⟨⟨before, between⟩, gap⟩, further⟩ := others
  simp only [columns, List.forall_mem_append, List.forall_mem_cons]
  exact ⟨before, release, between, duration, gap, slowness, further⟩

theorem columns_ne_nil (e : Entry) : e.columns ≠ [] := by
  simp [columns]

theorem text_oneLine (e : Entry) : OneLine e.text := by
  have apart : ∀ {c : Char}, c ≠ ',' → (∀ column ∈ e.columns, c ∉ column) → c ∉ e.text := by
    intro c hc outside inside
    rcases mem_intercalate inside with same | ⟨column, hm, inside⟩
    · exact hc same
    · exact outside column hm inside
  exact ⟨apart (by decide) fun column hm => (e.columns_plain column hm).2.1,
    apart (by decide) fun column hm => (e.columns_plain column hm).2.2⟩

variable {tail : List Char}

theorem fields_text (e : Entry) (ht : tail = [] ∨ tail = ['\n']) :
    fields (e.text ++ tail) = e.columns := by
  rw [fields, dropLineEnd_of_oneLine e.text_oneLine ht]
  exact splitOn_intercalate e.columns_ne_nil fun column hm => (e.columns_plain column hm).1

theorem getD_append_cons {front : List (List Char)} {place : ℕ} (h : front.length = place)
    (column : List Char) (behind : List (List Char)) :
    (front ++ column :: behind).getD place [] = column := by
  simp [List.getD, ← h]

/-- The three columns stand where they are looked for. -/
theorem describes (e : Entry) (mode : Mode) (ht : tail = [] ∨ tail = ['\n']) :
    Describes mode (e.text ++ tail) e.release e.duration e.slowness := by
  have before := e.before_length
  have between := e.between_length
  have gap := e.gap_length
  have to_duration : e.columns = (e.before ++ (toString e.release).toList :: e.between) ++
      (toString e.duration).toList :: (e.gap ++ e.slowness.write :: e.further) := by
    simp [columns]
  have to_slowness : e.columns = (e.before ++ (toString e.release).toList :: (e.between ++
      (toString e.duration).toList :: e.gap)) ++ e.slowness.write :: e.further := by
    simp [columns]
  refine ⟨?_, ?_, ?_, ?_⟩
  · rw [e.fields_text ht, to_slowness]
    simp only [fewestFields, List.length_append, List.length_cons]
    omega
  · rw [fieldAt, e.fields_text ht, columns, getD_append_cons before]
    exact Field.integer_toString mode e.release_short
  · rw [fieldAt, e.fields_text ht, to_duration, getD_append_cons]
    · exact Field.integer_toString mode e.duration_short
    · simp only [List.length_append, List.length_cons]
      omega
  · rw [fieldAt, e.fields_text ht, to_slowness, getD_append_cons]
    · exact Field.decimal_write mode e.finite
    · simp only [List.length_append, List.length_cons]
      omega

theorem isData_text (e : Entry) (tail : List Char) : isData (e.text ++ tail) = true := by
  have some_before : 0 < e.before.length := by
    rw [e.before_length]
    decide
  obtain ⟨first, more, front⟩ := List.exists_cons_of_length_pos some_before
  obtain ⟨next, rest, columns⟩ : ∃ next rest, e.columns = first :: next :: rest := by
    cases more <;> simp [columns, front]
  have text : e.text = first ++ ',' :: [','].intercalate (next :: rest) := by
    rw [Entry.text, columns, intercalate_cons_cons]
  have some_text : ¬ Blank (e.text ++ tail) := by
    intro blank
    have comma : isBlank ',' = true := blank ',' (by simp [text])
    cases comma
  have start : (e.text ++ tail).head? ≠ some '#' := by
    have uncommented := e.uncommented
    rw [front] at uncommented
    rw [text]
    cases first with
    | nil => simp
    | cons c _ => simpa using uncommented
  exact isData_iff.2 ⟨some_text, start⟩

theorem application?_text (e : Entry) (mode : Mode) (ht : tail = [] ∨ tail = ['\n']) :
    application? mode (e.text ++ tail) = some e.application := by
  refine application?_eq_some_iff.2 ⟨e.isData_text tail, ofFields_eq_ok_iff.2 ?_⟩
  have described := e.describes mode ht
  rwa [application, Int.add_comm, Int.add_sub_cancel]

end Entry

/-- A row of a statistics file. -/
inductive Row where
  | entry (e : Entry)
  | comment (text : List Char) (oneLine : OneLine text)
  | blank (text : List Char) (oneLine : OneLine text) (blank : Blank text)

namespace Row

def text : Row → List Char
  | entry e => e.text
  | comment text _ => '#' :: text
  | blank text _ _ => text

def application? : Row → Option Application
  | entry e => some e.application
  | _ => none

theorem oneLine (r : Row) : OneLine r.text := by
  cases r with
  | entry e => exact e.text_oneLine
  | comment text h => exact ⟨by simpa [Row.text] using h.1, by simpa [Row.text] using h.2⟩
  | blank text h _ => exact h

variable {tail : List Char}

theorem isData_of_no_application {r : Row} (h : r.application? = none)
    (ht : tail = [] ∨ tail = ['\n']) : isData (r.text ++ tail) = false := by
  cases r with
  | entry e => cases h
  | comment text _ => simp [isData, Row.text]
  | blank text _ blank =>
    have all : Blank (text ++ tail) := by
      refine List.forall_mem_append.2 ⟨blank, ?_⟩
      rcases ht with rfl | rfl
      · exact fun c hc => absurd hc List.not_mem_nil
      · exact List.forall_mem_singleton.2 (by decide)
    simp [isData, Row.text, trim_of_blank all]

/-- A row is accepted as a line, for the application it has. -/
theorem application?_text (r : Row) (mode : Mode) (ht : tail = [] ∨ tail = ['\n']) :
    Accepted mode (r.text ++ tail) ∧
      StatLine.application? mode (r.text ++ tail) = r.application? := by
  cases h : r.application? with
  | none =>
    have noData := isData_of_no_application h ht
    exact ⟨fun data => absurd data (by simp [noData]), by simp [StatLine.application?, noData]⟩
  | some a =>
    cases r with
    | entry e =>
      cases h
      have found := e.application?_text mode ht
      exact ⟨fun _ => ⟨_, (application?_eq_some_iff.1 found).2⟩, found⟩
    | comment _ _ => cases h
    | blank _ _ _ => cases h

end Row

/-- Rows with their ends, and a last one without. There is no last row if it is empty. -/
def fileText (rows : List (Row × LineEnd)) (last : Row) : List Char :=
  (rows.flatMap fun r => r.1.text ++ r.2.chars) ++ last.text

/-- The lines of a text are all accepted, with these applications in order. -/
def Reads (mode : Mode) (text : List Char) (apps : List Application) : Prop :=
  (∀ line ∈ lines (translateEnds text), Accepted mode line) ∧
    (lines (translateEnds text)).filterMap (application? mode) = apps

section Reads

variable {mode : Mode} {text : List Char} {apps : List Application}

theorem Reads.readLines (h : Reads mode text apps) :
    readLines mode (lines (translateEnds text)) = ⟨apps, none⟩ := by
  rw [StatLine.readLines, readFrom_of_accepted h.1, h.2]

theorem reads_last (mode : Mode) (r : Row) : Reads mode r.text r.application?.toList := by
  obtain ⟨accepted, found⟩ := r.application?_text mode (.inl (Eq.refl []))
  have translated : translateEnds r.text = r.text := by
    simpa [translateEnds] using translateEnds_append r.oneLine.1 []
  rw [List.append_nil] at accepted found
  unfold Reads
  rw [translated, lines_of_not_mem r.oneLine.2]
  cases h : r.text with
  | nil =>
    have none_here : StatLine.application? mode [] = none := rfl
    rw [h, none_here] at found
    simp [← found]
  | cons c rest =>
    rw [h] at accepted found
    cases ha : r.application? <;> simp_all

/-- A row and its line feed come before the lines of the rest. -/
theorem Reads.row (h : Reads mode text apps) (r : Row) :
    Reads mode (r.text ++ '\n' :: text) (r.application?.toList ++ apps) := by
  obtain ⟨accepted, found⟩ := r.application?_text mode (.inr (Eq.refl ['\n']))
  have cut : lines (translateEnds (r.text ++ '\n' :: text)) =
      (r.text ++ ['\n']) :: lines (translateEnds text) := by
    rw [translateEnds_append r.oneLine.1, translateEnds_cons (by decide),
      lines_append_feed r.oneLine.2]
  unfold Reads
  rw [cut, ← h.2]
  refine ⟨List.forall_mem_cons.2 ⟨accepted, h.1⟩, ?_⟩
  cases ha : r.application? with
  | none =>
    rw [ha] at found
    rw [List.filterMap_cons_none found]
    rfl
  | some a =>
    rw [ha] at found
    rw [List.filterMap_cons_some found]
    rfl

/-- A line feed in front makes an empty line, which counts for nothing. -/
theorem Reads.of_feed (h : Reads mode ('\n' :: text) apps) : Reads mode text apps := by
  have cut : lines (translateEnds ('\n' :: text)) = ['\n'] :: lines (translateEnds text) := by
    rw [translateEnds_cons (by decide)]
    exact lines_append_feed List.not_mem_nil _
  unfold Reads at h ⊢
  rw [cut, List.filterMap_cons_none rfl] at h
  exact ⟨fun line hl => h.1 line (List.mem_cons_of_mem _ hl), h.2⟩

theorem reads_congr {text' : List Char} (h : translateEnds text = translateEnds text') :
    Reads mode text apps ↔ Reads mode text' apps := by
  unfold Reads
  rw [h]

/-- Whatever the row ends with. A carriage return takes a line feed that follows it along, so the
rest may lose the empty line that it begins with. -/
theorem Reads.row_end (h : Reads mode text apps) (r : Row) (ending : LineEnd) :
    Reads mode (r.text ++ ending.chars ++ text) (r.application?.toList ++ apps) := by
  rw [List.append_assoc]
  by_cases swallowed : ending = .carriageReturn ∧ text.head? = some '\n'
  · obtain ⟨rfl, feed⟩ := swallowed
    obtain ⟨rest, rfl⟩ := List.head?_eq_some_iff.1 feed
    refine (reads_congr ?_).1 (h.of_feed.row r)
    rw [translateEnds_append r.oneLine.1, translateEnds_append r.oneLine.1,
      translateEnds_cons (by decide)]
    rfl
  · refine (reads_congr ?_).1 (h.row r)
    rw [translateEnds_append r.oneLine.1, translateEnds_append r.oneLine.1,
      translateEnds_cons (by decide), ending.translateEnds_chars (not_and.1 swallowed)]

theorem reads_fileText (mode : Mode) (rows : List (Row × LineEnd)) (last : Row) :
    Reads mode (fileText rows last) ((rows.map (·.1) ++ [last]).filterMap Row.application?) := by
  induction rows with
  | nil =>
    have read := reads_last mode last
    cases h : last.application? <;> simpa [fileText, h] using read
  | cons row more ih =>
    have read := ih.row_end row.1 row.2
    have text : fileText (row :: more) last = row.1.text ++ row.2.chars ++ fileText more last := by
      simp [fileText]
    rw [text]
    cases h : row.1.application? <;> simpa [h] using read

end Reads

end StatLine

namespace Action

open StatLine

/-- A file of rows is loaded, in either mode, as the applications that were written, in order and
bit for bit. -/
theorem load_written_rows {cfg : Setting} {mode : Mode} {w : World} {path : FilePath}
    (rows : List (Row × LineEnd)) (last : Row) (hm : Config.mode cfg = .ok mode)
    (ho : w.disk.read w.host.cwd path = .ok (Utf8.encode (fileText rows last))) :
    (outcome (load path cfg) w).1 =
      .ok ((rows.map (·.1) ++ [last]).filterMap Row.application?) := by
  rw [(says_load_encode hm ho).result, (reads_fileText mode rows last).readLines]
  rfl

/-- The entry of an application with the slowness `-1e-05`. -/
def tinyEntry : StatLine.Entry where
  release := -5
  duration := 12
  slowness := { negative := true, magnitude := 0x3EE4F8B588E368F1 }
  before := [['a'], [], [' ', '#'], ['d'], ['e'], ['f']]
  between := [['h'], ['i']]
  gap := [['k']]
  further := [['m'], []]
  release_short := Nat.lt_of_lt_of_le (by decide : 5 < 10 ^ 1)
    (Nat.pow_le_pow_right (by decide) (by decide))
  duration_short := Nat.lt_of_lt_of_le (by decide : 12 < 10 ^ 2)
    (Nat.pow_le_pow_right (by decide) (by decide))
  finite := by decide
  before_length := rfl
  between_length := rfl
  gap_length := rfl
  plain := by decide
  uncommented := by decide

/-- A comment, an entry and a blank line, each with another line end. -/
def threeRows : List (Row × LineEnd) :=
  [(.comment ['A'] (by decide), .returnAndFeed), (.entry tinyEntry, .carriageReturn),
    (.blank [' '] (by decide) (List.forall_mem_singleton.2 (by decide)), .feed)]

def threeRowsText : String :=
  "#A\r\na,, #,d,e,f,-5,h,i,12,k,-1e-05,m,\r \na,, #,d,e,f,-5,h,i,12,k,-1e-05,m,"

/-- The same entry once more, without a line end. -/
theorem load_written_three_rows :
    Config.mode Config.standard = .ok .lenient ∧
      fileText threeRows (.entry tinyEntry) = threeRowsText.toList ∧
      (outcome (load (.ofPlace ["in"]) Config.standard)
        ⟨⟨[], "", []⟩, ⟨[(["in"], .file (Utf8.encode threeRowsText.toList))]⟩, []⟩).1 =
          .ok [⟨-5, 7, tinyEntry.slowness⟩, ⟨-5, 7, tinyEntry.slowness⟩] := by
  have hm : Config.mode Config.standard = .ok .lenient := by rfl
  have written : fileText threeRows (.entry tinyEntry) = threeRowsText.toList := by decide +kernel
  have ho :
      (Disk.mk [(["in"], .file (Utf8.encode threeRowsText.toList))]).read [] (.ofPlace ["in"]) =
      .ok (Utf8.encode (fileText threeRows (.entry tinyEntry))) := by
    rw [written]
    cbv
  exact ⟨hm, written, load_written_rows threeRows (.entry tinyEntry) hm ho⟩

end Action

end PeakSlowness
