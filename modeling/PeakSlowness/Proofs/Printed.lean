import Mathlib
import PeakSlowness.Proofs.Program

set_option autoImplicit false

/-!
What a run without a report directory puts on standard output. If every data line describes an
application, there is a row for each checkpoint with the greatest slowness that the lines say of it.
Of the data lines nothing but three fields counts, and of those only which of them occur together.
-/

namespace PeakSlowness

open Text StatLine PeakSlowness.Action

section Lines

variable {mode : Mode} {sweep : Sweep} {lines lines' : List (List Char)}

/-- The data lines say this slowness of a time. -/
def SaidAt (mode : Mode) (lines : List (List Char)) (t : Int) (slowness : Binary64) : Prop :=
  ∃ line ∈ lines, isData line = true ∧
    ∃ release duration, Describes mode line release duration slowness ∧ release ≤ t ∧
      t < release + duration

theorem offered_iff_saidAt {t : Int} {slowness : Binary64} :
    Offered (lines.filterMap (application? mode)) t slowness ↔ SaidAt mode lines t slowness := by
  constructor
  · rintro ⟨a, ha, ⟨released, running⟩, rfl⟩
    obtain ⟨line, hl, data, described⟩ := mem_applications_iff.1 ha
    refine ⟨line, hl, data, _, _, ofFields_eq_ok_iff.1 described, released, ?_⟩
    omega
  · rintro ⟨line, hl, data, release, duration, described, released, running⟩
    have here : ofFields mode (fields line) = .ok ⟨release, release + duration, slowness⟩ := by
      rw [ofFields_eq_ok_iff, Int.add_comm, Int.add_sub_cancel]
      exact described
    exact ⟨_, mem_applications_iff.2 ⟨line, hl, data, here⟩, ⟨released, running⟩, rfl⟩

theorem isPeak_of_lines (mode : Mode) (lines : List (List Char)) (t : Int) :
    IsPeak (SaidAt mode lines t) (peakAt (lines.filterMap (application? mode)) t) :=
  (isPeak_peakAt _ t).congr fun _ => offered_iff_saidAt

theorem tabulate_of_accepted (h : ∀ line ∈ lines, Accepted mode line) :
    tabulate sweep (readLines mode lines) =
      summary sweep (series (lines.filterMap (application? mode)) sweep) := by
  unfold tabulate readLines
  rw [readFrom_of_accepted h]

theorem tabulate_of_rejects {m : Malformed} (h : Rejects mode 1 lines m) :
    tabulate sweep (readLines mode lines) = ([], .error (.malformed m)) := by
  simp only [tabulate, readLines, readFrom_of_rejects h]

/-- Three fields that count stand together on a data line. -/
def Occurs (lines : List (List Char)) (counting : List Char × List Char × List Char) : Prop :=
  ∃ line ∈ lines, isData line = true ∧ counted line = counting

theorem occurs_iff {counting : List Char × List Char × List Char} :
    Occurs lines counting ↔ counting ∈ (lines.filter isData).map counted := by
  simp only [Occurs, List.mem_map, List.mem_filter, and_assoc]

def Wide (lines : List (List Char)) : Prop :=
  ∀ line ∈ lines, isData line = true → fewestFields ≤ (fields line).length

theorem exists_same_fields (wide : Wide lines) (wide' : Wide lines')
    (sub : ∀ counting, Occurs lines counting → Occurs lines' counting) (mode : Mode)
    {line : List Char} (hl : line ∈ lines) (data : isData line = true) :
    ∃ line' ∈ lines', isData line' = true ∧
      ofFields mode (fields line') = ofFields mode (fields line) := by
  obtain ⟨line', hl', data', same⟩ := sub (counted line) ⟨line, hl, data, rfl⟩
  exact ⟨line', hl', data', ofFields_congr (wide' line' hl' data') (wide line hl data) same⟩

theorem accepted_of_occurs (wide : Wide lines) (wide' : Wide lines')
    (sub : ∀ counting, Occurs lines counting → Occurs lines' counting)
    (h : ∀ line ∈ lines', Accepted mode line) : ∀ line ∈ lines, Accepted mode line := by
  intro line hl data
  obtain ⟨line', hl', data', same⟩ := exists_same_fields wide wide' sub mode hl data
  rw [← same]
  exact h line' hl' data'

theorem applications_of_occurs (wide : Wide lines) (wide' : Wide lines')
    (sub : ∀ counting, Occurs lines counting → Occurs lines' counting) {a : Application}
    (h : a ∈ lines.filterMap (application? mode)) : a ∈ lines'.filterMap (application? mode) := by
  obtain ⟨line, hl, data, here⟩ := mem_applications_iff.1 h
  obtain ⟨line', hl', data', same⟩ := exists_same_fields wide wide' sub mode hl data
  exact mem_applications_iff.2 ⟨line', hl', data', same.trans here⟩

/-- Lines with the same fields that count lead to the same rows, and to the same ending. -/
theorem tabulate_congr (mode : Mode) (sweep : Sweep) (wide : Wide lines) (wide' : Wide lines')
    (same : ∀ counting, Occurs lines counting ↔ Occurs lines' counting) :
    Run.endingFor (tabulate sweep (readLines mode lines)).2 =
        Run.endingFor (tabulate sweep (readLines mode lines')).2 ∧
      (tabulate sweep (readLines mode lines)).1 = (tabulate sweep (readLines mode lines')).1 := by
  have sub := fun counting => (same counting).1
  have sub' := fun counting => (same counting).2
  rcases accepted_or_rejects mode 1 lines with all | ⟨m, hm⟩
  · have all' := accepted_of_occurs wide' wide sub' all
    have apps : ∀ a, a ∈ lines.filterMap (application? mode) ↔
        a ∈ lines'.filterMap (application? mode) :=
      fun a => ⟨applications_of_occurs wide wide' sub, applications_of_occurs wide' wide sub'⟩
    rw [tabulate_of_accepted all, tabulate_of_accepted all', series_congr apps]
    exact ⟨rfl, rfl⟩
  · rcases accepted_or_rejects mode 1 lines' with all' | ⟨m', hm'⟩
    · have all := accepted_of_occurs wide wide' sub all'
      rw [← fault_eq_some_iff, fault_eq_none_iff.2 all] at hm
      cases hm
    · rw [tabulate_of_rejects hm, tabulate_of_rejects hm']
      exact ⟨rfl, rfl⟩

end Lines

namespace Run

/-- If every data line describes an application, a row is printed for each checkpoint, with the
greatest slowness above zero that the lines say of it, and nothing else. -/
theorem rows_of_described_lines {argv : List String} {host : Host} {disk : Disk} {cfg : Setting}
    {mode : Mode}
    {plan : Plan} {text : List Char} (opens : Opens argv ⟨host, disk, []⟩ cfg (Utf8.encode text))
    (hm : Config.mode cfg = .ok mode) (hp : Plan.ofConfig cfg = .ok plan) (hr : plan.root = none)
    (few : plan.sweep.count < 0x8000000000000000) (fits : ∀ t ∈ plan.sweep.times, FitsSigned t)
    (described : ∀ line ∈ lines (translateEnds text), isData line = true →
      ∃ release duration slowness, Describes mode line release duration slowness) :
    (ofCommandLine argv ⟨host, disk, []⟩).ending = .status 0 ∧
      ∃ peak : Int → Binary64, (∀ t, IsPeak (SaidAt mode (lines (translateEnds text)) t) (peak t)) ∧
        (ofCommandLine argv ⟨host, disk, []⟩).output =
          String.join ((List.range
            (((plan.sweep.stop - plan.sweep.start) / plan.sweep.step).toNat + 1)).map
            fun k : Nat => toString (plan.sweep.start + k * plan.sweep.step) ++ "," ++
              (peak (plan.sweep.start + k * plan.sweep.step)).toText ++ "\n") := by
  have all : ∀ line ∈ lines (translateEnds text), Accepted mode line :=
    fun line hl => accepted_iff.2 (described line hl)
  have size : plan.sweep.size? = some plan.sweep.count := if_pos few
  obtain ⟨ended, printed⟩ := ofCommandLine_of_opens opens hm hp hr
  rw [tabulate_of_accepted all, summary_of_fits size (fits_series fits _)] at ended printed
  refine ⟨ended, peakAt ((lines (translateEnds text)).filterMap (application? mode)),
    isPeak_of_lines mode _, ?_⟩
  exact printed.trans (congrArg String.join (map_rowLine_series _ _))

/-- Two runs end and print alike if the same fields that count occur in their files. -/
theorem alike_of_same_fields {argv argv' : List String} {host host' : Host} {disk disk' : Disk}
    {cfg cfg' : Setting} {mode : Mode} {plan plan' : Plan} {text text' : List Char}
    (opens : Opens argv ⟨host, disk, []⟩ cfg (Utf8.encode text))
    (opens' : Opens argv' ⟨host', disk', []⟩ cfg' (Utf8.encode text'))
    (hm : Config.mode cfg = .ok mode) (hm' : Config.mode cfg' = .ok mode)
    (hp : Plan.ofConfig cfg = .ok plan) (hp' : Plan.ofConfig cfg' = .ok plan')
    (hr : plan.root = none) (hr' : plan'.root = none) (hs : plan.sweep = plan'.sweep)
    (wide : Wide (lines (translateEnds text))) (wide' : Wide (lines (translateEnds text')))
    (same : ∀ counting, Occurs (lines (translateEnds text)) counting ↔
      Occurs (lines (translateEnds text')) counting) :
    (ofCommandLine argv ⟨host, disk, []⟩).ending = (ofCommandLine argv' ⟨host', disk', []⟩).ending ∧
      (ofCommandLine argv ⟨host, disk, []⟩).output =
      (ofCommandLine argv' ⟨host', disk', []⟩).output := by
  obtain ⟨ended, printed⟩ := ofCommandLine_of_opens opens hm hp hr
  obtain ⟨ended', printed'⟩ := ofCommandLine_of_opens opens' hm' hp' hr'
  obtain ⟨endings, texts⟩ := tabulate_congr mode plan.sweep wide wide' same
  rw [ended, printed, ended', printed', ← hs, endings, texts]
  exact ⟨rfl, rfl⟩

/-- A command line with the path of a file and a sweep over three checkpoints. -/
def threeCheckpoints : List String := ["/a", "--start", "0", "--end", "2", "--step", "1"]

def onlyFile (text : List Char) : World := ⟨⟨[], "", []⟩, ⟨[(["a"], .file (Utf8.encode text))]⟩, []⟩

theorem opens_threeCheckpoints (text : List Char) :
    ∃ cfg plan, Opens threeCheckpoints (onlyFile text) cfg (Utf8.encode text) ∧
      Config.mode cfg = .ok .lenient ∧ Plan.ofConfig cfg = .ok plan ∧ plan.root = none ∧
      plan.sweep = ⟨0, 2, 1, by decide, by decide⟩ := by
  refine ⟨_, _, ⟨_, onlyFile text, .ofPlace ["a"], _, rfl, rfl, Prod.ext ?_ rfl, ?_⟩,
    rfl, rfl, rfl, rfl⟩
  · cbv
  · cbv

/-- An application that is active at the first two of three checkpoints. -/
theorem rows_of_one_line :
    (ofCommandLine threeCheckpoints (onlyFile "a,b,c,d,e,f,0,h,i,2,k,1.5\n".toList)).ending =
    .status 0 ∧
      (ofCommandLine threeCheckpoints (onlyFile "a,b,c,d,e,f,0,h,i,2,k,1.5\n".toList)).output =
        "0,1.5\n1,1.5\n2,0.0\n" := by
  obtain ⟨cfg, plan, opens, hm, hp, hr, hs⟩ :=
    opens_threeCheckpoints "a,b,c,d,e,f,0,h,i,2,k,1.5\n".toList
  have described : ∀ line ∈ lines (translateEnds "a,b,c,d,e,f,0,h,i,2,k,1.5\n".toList),
      isData line = true →
      ∃ release duration slowness, Describes .lenient line release duration slowness := by
    intro line hl _
    obtain rfl : line = "a,b,c,d,e,f,0,h,i,2,k,1.5\n".toList := List.mem_singleton.1 hl
    exact ⟨0, 2, ⟨false, 0x3FF8000000000000, by decide⟩, by decide, rfl, rfl, rfl⟩
  obtain ⟨ended, peak, greatest, printed⟩ :=
    rows_of_described_lines opens hm hp hr (by rw [hs]; decide)
    (by rw [hs]; decide) described
  refine ⟨ended, printed.trans ?_⟩
  have known : ∀ t, peak t = peakAt _ t :=
    fun t => (greatest t).unique (isPeak_of_lines .lenient _ t)
  simp only [hs, known]
  rfl

/-- Comments, line ends and the fields that do not count make no difference. -/
theorem alike_with_comment :
    (ofCommandLine threeCheckpoints (onlyFile "a,b,c,d,e,f,0,h,i,2,k,1.5\n".toList)).output =
      (ofCommandLine threeCheckpoints
      (onlyFile "# A\r\nA,B,C,D,E,F,0,H,I,2,K,1.5,M\r\n".toList)).output := by
  obtain ⟨cfg, plan, opens, hm, hp, hr, hs⟩ :=
    opens_threeCheckpoints "a,b,c,d,e,f,0,h,i,2,k,1.5\n".toList
  obtain ⟨cfg', plan', opens', hm', hp', hr', hs'⟩ :=
    opens_threeCheckpoints "# A\r\nA,B,C,D,E,F,0,H,I,2,K,1.5,M\r\n".toList
  refine (alike_of_same_fields opens opens' hm hm' hp hp' hr hr' (hs.trans hs'.symm) ?_ ?_ ?_).2
  · unfold Wide
    decide
  · unfold Wide
    decide
  · have same :
        ((lines (translateEnds "a,b,c,d,e,f,0,h,i,2,k,1.5\n".toList)).filter isData).map counted =
          ((lines (translateEnds "# A\r\nA,B,C,D,E,F,0,H,I,2,K,1.5,M\r\n".toList)).filter
            isData).map counted := by decide
    intro counting
    rw [occurs_iff, occurs_iff, same]

end Run

end PeakSlowness
