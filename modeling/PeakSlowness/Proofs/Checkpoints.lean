import Mathlib
import PeakSlowness.Proofs.Override
import PeakSlowness.Proofs.Words
import PeakSlowness.Proofs.Written

set_option autoImplicit false

/-!
Checkpoints given on the command line. Each of the three options for them takes an integer, in the
same word or in the next one, and may be given any number of times and in any order. Reading the
words keeps the last integer of each; put over a configuration, it decides the sweep, and what the
configuration has there is not looked at.
-/

namespace PeakSlowness

open CommandLine Text Numeral

/-- The numbers of a sweep. -/
inductive Mark where
  | start
  | stop
  | step
  deriving DecidableEq

namespace Mark

def option : Mark → String × Flag
  | start => ("--start", .start)
  | stop => ("--end", .stop)
  | step => ("--step", .step)

def key : Mark → String
  | start => "start"
  | stop => "end"
  | step => "step"

def fallback : Mark → ℤ
  | start => Sweep.defaultStart
  | stop => Sweep.defaultStop
  | step => Sweep.defaultStep

/-- What arguments say about a number. -/
def of : Mark → Arguments → Option ℤ
  | start, a => a.start
  | stop, a => a.stop
  | step, a => a.step

def put : Mark → ℤ → Arguments → Arguments
  | start, n, a => { a with start := some n }
  | stop, n, a => { a with stop := some n }
  | step, n, a => { a with step := some n }

theorem option_mem (m : Mark) : m.option ∈ Flag.table := by
  cases m <;> decide

theorem of_put (m other : Mark) (n : ℤ) (a : Arguments) :
    m.of (other.put n a) = if m = other then some n else m.of a := by
  cases m <;> cases other <;> rfl

end Mark

namespace Numeral.WrittenInteger

/-- No integer is taken for an option. -/
theorem classify_text (n : WrittenInteger) :
    classify (String.ofList n.text) = .ok (.plain (String.ofList n.text)) := by
  cases minus : n.minus with
  | none =>
    apply classify_of_head?
    obtain ⟨c, rest, digits⟩ := List.exists_cons_of_ne_nil n.some_digit
    have digit : isDigit c = true := n.all_digits c (digits ▸ List.mem_cons_self)
    simp only [text, minus, digits, String.toList_ofList, List.nil_append, List.head?_cons]
    rintro ⟨⟩
    exact absurd digit (by decide)
  | some negative =>
    cases negative with
    | false =>
      apply classify_of_head?
      simp [text, minus]
    | true =>
      refine classify_negative ?_ n.some_digit n.all_digits
      simp [text, minus]

theorem text_ne_separator (n : WrittenInteger) : String.ofList n.text ≠ "--" := by
  intro same
  have last : n.text.getLast? = some '-' := by
    rw [← String.toList_ofList (l := n.text), same]
    rfl
  rw [text, List.getLast?_append_of_ne_nil _ n.some_digit] at last
  exact absurd (n.all_digits _ (List.mem_of_getLast? last)) (by decide)

end Numeral.WrittenInteger

/-- A number of the checkpoints on the command line. -/
structure Marking where
  mark : Mark
  number : WrittenInteger
  /-- in one word with the option -/
  attached : Bool

namespace Marking

def words (g : Marking) : List String :=
  if g.attached then [g.mark.option.1 ++ "=" ++ String.ofList g.number.text]
  else [g.mark.option.1, String.ofList g.number.text]

def tokens (g : Marking) : List Word :=
  if g.attached then
    [.flag g.mark.option.2 g.mark.option.1 (some (.behindEquals (String.ofList g.number.text)))]
  else [.flag g.mark.option.2 g.mark.option.1 none, .plain (String.ofList g.number.text)]

theorem ofList_words (g : Marking) {rest : List String} {words : List Word}
    (h : Word.ofList rest = .ok words) :
    Word.ofList (g.words ++ rest) = .ok (g.tokens ++ words) := by
  unfold Marking.words tokens
  split
  · refine ofList_cons ?_ (classify_attached g.mark.option_mem _) h
    intro same
    have equals : '=' ∈ "--".toList := by
      rw [← same]
      simp
    exact absurd equals (by decide)
  · have option_ne : g.mark.option.1 ≠ "--" := by
      cases g.mark <;> decide
    exact ofList_cons option_ne (classify_spelling g.mark.option_mem)
      (ofList_cons g.number.text_ne_separator g.number.classify_text h)

theorem ofList_flatMap_words (given : List Marking) :
    Word.ofList (given.flatMap words) = .ok (given.flatMap tokens) := by
  induction given with
  | nil => rfl
  | cons g rest ih =>
    rw [List.flatMap_cons, List.flatMap_cons]
    exact g.ofList_words ih

theorem setValue_mark (a : Arguments) (m : Mark) (n : WrittenInteger) :
    a.setValue m.option.2 (String.ofList n.text) = .ok (m.put n.value a) := by
  have read (flag : Flag) : integerValue flag (String.ofList n.text) = .ok n.value := by
    rw [integerValue, String.toList_ofList, n.read_text]
    rfl
  cases m <;> simp [Arguments.setValue, Mark.option, Mark.put, read]

/-- One option with its integer leaves everything else as it is. -/
theorem foldlM_tokens (g : Marking) (a : Arguments) :
    g.tokens.foldlM Progress.step { args := a } = .ok { args := g.mark.put g.number.value a } := by
  have takes : g.mark.option.2.TakesValue := by
    cases g.mark <;> trivial
  have value (awaiting : Option Flag) :
      Progress.value { args := a, awaiting } g.mark.option.2 (String.ofList g.number.text) =
        .ok { args := g.mark.put g.number.value a } := by
    rw [Progress.value, setValue_mark]
    rfl
  unfold tokens
  split
  · simp [Progress.step, takes, Attached.text, value]
  · simp [Progress.step, takes, Slot.next, value]

/-- What is left of the arguments that some numbers are put into one after the other. -/
def putAll (given : List Marking) (a : Arguments) : Arguments :=
  given.foldl (fun a g => g.mark.put g.number.value a) a

theorem foldlM_flatMap_tokens (given : List Marking) (a : Arguments) :
    (given.flatMap tokens).foldlM Progress.step { args := a } = .ok { args := putAll given a } := by
  induction given generalizing a with
  | nil => rfl
  | cons g rest ih =>
    rw [List.flatMap_cons, List.foldlM_append, g.foldlM_tokens, ok_bind, ih]
    rfl

theorem parse_words (given : List Marking) :
    Arguments.parse (given.flatMap words) = .ok (putAll given {}) := by
  rw [Arguments.parse, ofList_flatMap_words, mapError_ok, ok_bind, foldlM_flatMap_tokens]
  rfl

/-- The last of the integers given for a number. -/
def last (given : List Marking) (m : Mark) : Option ℤ :=
  ((given.filter (·.mark = m)).getLast?).map (·.number.value)

theorem of_putAll (given : List Marking) (m : Mark) (a : Arguments) :
    m.of (putAll given a) = (last given m).or (m.of a) := by
  induction given using List.reverseRecOn with
  | nil => rfl
  | append_singleton front g ih =>
    have step : putAll (front ++ [g]) a = g.mark.put g.number.value (putAll front a) :=
      List.foldl_append
    rw [step, Mark.of_put, ih]
    by_cases same : m = g.mark
    · simp [last, same]
    · simp [last, same, Ne.symm same]

end Marking

/-- A setting as a whole number; truth values count. -/
def Setting.wholeNumber? : Setting → Option ℤ
  | .scalar s => s.asInt?
  | _ => none

namespace Config

section Sweep

variable {a : Arguments} {cfg cfg' : Setting}

theorem toInteger_of_wholeNumber? {v : Setting} {n : ℤ} (h : v.wholeNumber? = some n) :
    v.toInteger = .ok n := by
  cases v with
  | scalar s => cases s <;> simp_all [Setting.wholeNumber?, Setting.toInteger, Scalar.asInt?]
  | list _ | map _ | set _ | pairs _ | cycle _ => cases h

/-- The entry of a number in the section of the checkpoints, with the arguments over it. -/
theorem valueAt?_entriesFor (a : Arguments) (old : List (Scalar × Setting)) (m : Mark) :
    valueAt? (putEntries old (a.entriesFor "checkpoints")) (.text m.key) =
      ((m.of a).map fun n => .scalar (.int n)).or (valueAt? old (.text m.key)) := by
  have entries : a.entriesFor "checkpoints" = Arguments.given "start" (a.start.map .int) ++
      Arguments.given "end" (a.stop.map .int) ++ Arguments.given "step" (a.step.map .int) := rfl
  simp only [entries, putEntries_append, valueAt?_putEntries_given]
  cases m <;> simp [Mark.key, Mark.of, Function.comp_def]

/-- A number of a sweep: from the arguments, else from the configuration, else by default. -/
def markOf (a : Arguments) (cfg : Setting) (m : Mark) : ℤ :=
  (m.of a).getD (((valueIn? cfg "checkpoints" m.key).bind Setting.wholeNumber?).getD m.fallback)

theorem sweep_override (h : ∃ v, ofValue v = .ok cfg) (ho : a.override cfg = .ok cfg')
    (whole : ∀ m : Mark, m.of a = none → ∀ v, valueIn? cfg "checkpoints" m.key = some v →
      ∃ n, v.wholeNumber? = some n) :
    sweep cfg' =
      (Sweep.make (markOf a cfg .start) (markOf a cfg .stop)
        (markOf a cfg .step)).mapError .sweep := by
  obtain ⟨v, h⟩ := h
  have named : "checkpoints" ∈ sectionNames := by decide
  obtain ⟨old, lookup, part⟩ := sectionAt_override_of_ofValue h ho named
  have number (m : Mark) :
      sweepNumber (.map (putEntries old (a.entriesFor "checkpoints"))) m.key m.fallback =
        .ok (markOf a cfg m) := by
    have value : ∃ w : Setting, w.toInteger = .ok (markOf a cfg m) ∧
        (valueAt? (putEntries old (a.entriesFor "checkpoints")) (.text m.key)).getD
          (.scalar (.int m.fallback)) = w := by
      refine ⟨_, ?_, rfl⟩
      rw [valueAt?_entriesFor, lookup, markOf]
      cases given : m.of a with
      | some n => rfl
      | none =>
        cases there : valueIn? cfg "checkpoints" m.key with
        | none => rfl
        | some w =>
          obtain ⟨n, is⟩ := whole m given w there
          simp [is, toInteger_of_wholeNumber? is]
    obtain ⟨w, read, found⟩ := value
    rw [sweepNumber, getD_map, mapError_ok, ok_bind, found, read]
  have start := number .start
  have stop := number .stop
  have step := number .step
  simp only [Mark.key, Mark.fallback] at start stop step
  have settled := settled_of_override ho
  rw [sweep, settled.orEmpty, part, mapError_ok, ok_bind]
  simp only [start, stop, step, ok_bind]
  rfl

end Sweep

/-- Options for the checkpoints reach the sweep in any order, however often each is given. The last
integer of each counts, whatever the configuration has in its place; only an entry that no option
replaces must be a whole number. -/
theorem options_reach_sweep {v cfg : Setting} (h : ofValue v = .ok cfg) (given : List Marking)
    (whole : ∀ m : Mark, (∀ g ∈ given, g.mark ≠ m) →
      ∀ w, valueIn? cfg "checkpoints" m.key = some w → ∃ n, w.wholeNumber? = some n) :
    ∃ a cfg', Arguments.parse (given.flatMap Marking.words) = .ok a ∧ a.override cfg = .ok cfg' ∧
      ∃ number : Mark → ℤ,
        (∀ m, number m = (Marking.last given m).getD
          (((valueIn? cfg "checkpoints" m.key).bind Setting.wholeNumber?).getD m.fallback)) ∧
        ((0 < number .step ∧ number .start ≤ number .stop) →
          ∃ s, sweep cfg' = .ok s ∧
            s.start = number .start ∧ s.stop = number .stop ∧ s.step = number .step) ∧
        ((number .step ≤ 0 ∨ number .stop < number .start) →
          ∃ failure, sweep cfg' = .error failure ∧ failure.kind = .value) := by
  obtain ⟨cfg', merged⟩ := exists_override (Marking.putAll given {}) h
  have said (m : Mark) : m.of (Marking.putAll given {}) = Marking.last given m := by
    have nothing : m.of {} = none := by cases m <;> rfl
    rw [Marking.of_putAll, nothing, Option.or_none]
  have swept := sweep_override ⟨v, h⟩ merged fun m none_given => whole m fun g hg same => by
    rw [said, Marking.last, Option.map_eq_none_iff, List.getLast?_eq_none_iff,
      List.filter_eq_nil_iff] at none_given
    exact none_given g hg (decide_eq_true same)
  refine ⟨_, cfg', Marking.parse_words given, merged, markOf (Marking.putAll given {}) cfg,
    ?_, ?_, ?_⟩
  · intro m
    rw [markOf, said]
  · rintro ⟨positive, ordered⟩
    rw [swept, Sweep.make, dif_pos positive, dif_pos ordered]
    exact ⟨_, rfl, rfl, rfl, rfl⟩
  · intro wrong
    rw [swept, Sweep.make]
    split
    · next positive =>
      rw [dif_neg (by omega)]
      exact ⟨_, rfl, rfl⟩
    · exact ⟨_, rfl, rfl⟩

/-- A start that is null, an end, and no step. -/
def nullStart : Setting :=
  .map [(.text "checkpoints", .map [entry "start" .null, entry "end" (.int 5)])]

def minusThree : WrittenInteger where
  minus := some true
  digits := ['3']
  some_digit := by decide
  all_digits := List.forall_mem_singleton.2 (by decide)
  short := by decide

def two : WrittenInteger where
  minus := none
  digits := ['0', '٢']
  some_digit := by decide
  all_digits := List.forall_mem_cons.2 ⟨by decide, List.forall_mem_singleton.2 (by decide)⟩
  short := by decide

/-- The start twice, in both ways, with the step between, in digits of two scripts. -/
def startTwice : List Marking :=
  [⟨.start, two, false⟩, ⟨.step, two, true⟩, ⟨.start, minusThree, false⟩]

theorem start_twice_reaches_sweep :
    ofValue nullStart = .ok nullStart ∧
      startTwice.flatMap Marking.words = ["--start", "0٢", "--step=0٢", "--start", "-3"] ∧
      ∃ a cfg', Arguments.parse (startTwice.flatMap Marking.words) = .ok a ∧
        a.override nullStart = .ok cfg' ∧
        ∃ s, sweep cfg' = .ok s ∧ s.start = -3 ∧ s.stop = 5 ∧ s.step = 2 := by
  have accepted : ofValue nullStart = .ok nullStart := by rfl
  obtain ⟨a, cfg', parsed, merged, number, numbers, swept, -⟩ :=
    options_reach_sweep accepted startTwice (by
      intro m absent w there
      cases m with
      | start => exact absurd rfl (absent ⟨.start, two, false⟩ List.mem_cons_self)
      | step => exact absurd rfl (absent ⟨.step, two, true⟩ (by simp [startTwice]))
      | stop =>
        cases there
        exact ⟨5, rfl⟩)
  have start : number .start = -3 := numbers .start
  have stop : number .stop = 5 := numbers .stop
  have step : number .step = 2 := numbers .step
  refine ⟨accepted, by decide, a, cfg', parsed, merged, ?_⟩
  rw [start, stop, step] at swept
  exact swept ⟨by decide, by decide⟩

end Config

end PeakSlowness
