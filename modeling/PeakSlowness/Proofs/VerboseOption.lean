import PeakSlowness.CommandLine.Arguments
import PeakSlowness.Proofs.Steps

set_option autoImplicit false

/-!
The option for messages among the words of a command line. Put in where an option may stand, it sets
what it stands for and changes nothing else about what the words say. There is one exception: right
behind the input, a separator would no longer belong to it.
-/

namespace PeakSlowness.CommandLine

/-- The arguments with all messages asked for. -/
def Arguments.loud (a : Arguments) : Arguments := { a with verbose := true }

theorem Arguments.config_of_loud {a a' : Arguments} (same : a'.loud = a.loud) :
    a'.config = a.config := by
  have config := congrArg Arguments.config same
  exact config

def Progress.loud (p : Progress) : Progress := { p with args := p.args.loud }

section Loud

theorem Arguments.setValue_loud (a : Arguments) (flag : Flag) (value : String) :
    a.loud.setValue flag value = (a.setValue flag value).map loud := by
  cases flag with
  | help | plot | verbose | config | out => rfl
  | start | stop | step =>
    unfold setValue
    dsimp only
    cases integerValue _ value <;> rfl
  | mode =>
    unfold setValue
    dsimp only
    cases choiceValue _ Mode.name [.lenient, .strict] value <;> rfl
  | format =>
    unfold setValue
    dsimp only
    cases choiceValue _ ReportFormat.name [.csv, .mat, .both] value <;> rfl

theorem Arguments.setAll_loud (flags : List Flag) (a : Arguments) :
    a.loud.setAll flags = (a.setAll flags).map loud := by
  induction flags generalizing a with
  | nil => rfl
  | cons flag rest ih =>
    cases flag with
    | plot => exact ih { a with plot := true }
    | verbose => exact ih { a with verbose := true }
    | help | config | start | stop | step | mode | out | format => rfl

namespace Progress

theorem value_loud (p : Progress) (flag : Flag) (text : String) :
    p.loud.value flag text = (p.value flag text).map loud := by
  have same : p.loud.args.setValue flag text = (p.args.setValue flag text).map Arguments.loud :=
    p.args.setValue_loud flag text
  unfold value
  rw [same]
  cases p.args.setValue flag text <;> rfl

theorem flags_loud (p : Progress) (flag : Flag) (spelling : String) (attached : Option Attached) :
    p.loud.flags flag spelling attached = (p.flags flag spelling attached).map loud := by
  unfold flags
  cases flagsOf flag spelling attached with
  | error fault => rfl
  | ok found =>
    have same : p.loud.args.setAll found.1 = (p.args.setAll found.1).map Arguments.loud :=
      p.args.setAll_loud found.1
    rw [mapError_ok, ok_bind, ok_bind]
    dsimp only
    rw [same]
    cases p.args.setAll found.1 <;> rfl

theorem step_loud (p : Progress) (word : Word) : p.loud.step word = (p.step word).map loud := by
  obtain ⟨args, slot, awaiting, extras⟩ := p
  cases awaiting with
  | some flag =>
    cases word with
    | plain text => exact value_loud _ flag text
    | separator | flag _ _ _ | unknown _ => rfl
  | none =>
    cases word with
    | plain text => cases slot <;> rfl
    | separator | unknown text => rfl
    | flag flag spelling attached =>
      unfold step
      dsimp only [loud]
      split
      · cases attached with
        | some a => exact value_loud ⟨args, slot, none, extras⟩ flag a.text
        | none => rfl
      · exact flags_loud ⟨args, slot, none, extras⟩ flag spelling attached

/-- What is said at the end, from here on. -/
def rest (p : Progress) (words : List Word) : Except Refusal Arguments :=
  words.foldlM step p >>= finish

theorem rest_cons (p : Progress) (word : Word) (words : List Word) :
    p.rest (word :: words) = p.step word >>= fun q => q.rest words := by
  rw [rest, List.foldlM_cons, bind_assoc]
  rfl

theorem rest_append (p : Progress) (first second : List Word) :
    p.rest (first ++ second) = first.foldlM step p >>= fun q => q.rest second := by
  rw [rest, List.foldlM_append, bind_assoc]
  rfl

theorem rest_loud (p : Progress) (words : List Word) :
    p.loud.rest words = (p.rest words).map Arguments.loud := by
  induction words generalizing p with
  | nil =>
    obtain ⟨args, slot, awaiting, extras⟩ := p
    cases awaiting with
    | some flag => rfl
    | none => cases extras <;> rfl
  | cons word words ih =>
    rw [rest_cons, rest_cons, step_loud]
    cases p.step word with
    | error refusal => rfl
    | ok q => exact ih q

/-- That the input was named just before counts for a separator alone. -/
theorem step_next {p : Progress} {word : Word} (h : p.slot = .justFilled → word ≠ .separator) :
    Progress.step { p with slot := p.slot.next } word = p.step word := by
  obtain ⟨args, slot, awaiting, extras⟩ := p
  cases slot with
  | vacant | filled => rfl
  | justFilled =>
    cases word with
    | separator => exact absurd rfl (h rfl)
    | plain text => cases awaiting <;> rfl
    | unknown text => cases awaiting <;> rfl
    | flag flag spelling attached => cases awaiting <;> rfl

theorem rest_next {p : Progress} {words : List Word}
    (h : p.slot = .justFilled → words.head? ≠ some .separator) :
    rest { p with slot := p.slot.next } words = p.rest words := by
  cases words with
  | nil => rfl
  | cons word words =>
    rw [rest_cons, rest_cons, step_next]
    exact fun just same => h just (congrArg some same)

end Progress

end Loud

namespace Word

theorem ofList_append {front : List String} (h : "--" ∉ front) (back : List String) :
    ofList (front ++ back) =
      ofList front >>= fun first => ofList back >>= fun second => pure (first ++ second) := by
  induction front with
  | nil => cases h : ofList back <;> simp [ofList, h]
  | cons word rest ih =>
    obtain ⟨here, there⟩ := not_or.1 (mt List.mem_cons.2 h)
    rw [List.cons_append, ofList, ofList, if_neg (Ne.symm here), if_neg (Ne.symm here), ih there]
    cases classify word with
    | error found => rfl
    | ok first =>
      cases ofList rest with
      | error found => rfl
      | ok words => cases ofList back <;> rfl

/-- No word is taken for a separator by its form. -/
theorem ne_separator_of_classify {text : String} {word : Word} (h : classify text = .ok word) :
    word ≠ .separator := by
  have listed : ∀ word ∈ candidates text.toList, word ≠ .separator := by
    intro word hw
    unfold candidates at hw
    dsimp only at hw
    split at hw
    · obtain ⟨e, -, rfl⟩ := List.mem_map.1 hw
      exact nofun
    · obtain ⟨e, -, rfl⟩ := List.mem_map.1 hw
      exact nofun
    · cases hw
  unfold classify at h
  split at h
  · next rest minus =>
    split at h
    · cases h
      exact nofun
    · split at h
      · cases h
        exact nofun
      · dsimp only at h
        split at h
        · cases h
          exact nofun
        · split at h
          · cases h
            unfold ofForm
            split
            · exact nofun
            · exact nofun
          · next one found =>
            cases h
            exact listed word (found ▸ List.mem_singleton_self word)
          · cases h
  · cases h
    exact nofun

theorem head?_ofList {argv : List String} {words : List Word} (h : ofList argv = .ok words)
    (hs : argv.head? ≠ some "--") : words.head? ≠ some .separator := by
  cases argv with
  | nil =>
    cases h
    exact nofun
  | cons text rest =>
    rw [ofList, if_neg fun same => hs (congrArg some same)] at h
    obtain ⟨word, taken, h⟩ := bind_eq_ok_iff.1 h
    obtain ⟨others, -, h⟩ := bind_eq_ok_iff.1 h
    cases h
    exact fun same => ne_separator_of_classify taken (Option.some.inj same)

end Word

/-- Words in between which an option may stand: no separator comes before it, no option before it
waits for a value, and no separator belongs to the input that is named just before it. -/
def Open (front back : List String) : Prop :=
  "--" ∉ front ∧ ∀ words p, Word.ofList front = .ok words → words.foldlM Progress.step {} = .ok p →
    p.awaiting = none ∧ (p.slot = .justFilled → back.head? ≠ some "--")

theorem step_verbose {p : Progress} (h : p.awaiting = none) (spelling : String) :
    p.step (.flag .verbose spelling none) = .ok (Progress.loud { p with slot := p.slot.next }) := by
  obtain ⟨args, slot, awaiting, extras⟩ := p
  cases h
  rfl

/-- The option for messages says nothing but that they are asked for. -/
theorem parse_insert {front back : List String} {word spelling : String} (h : Open front back)
    (hw : classify word = .ok (.flag .verbose spelling none)) :
    Arguments.parse (front ++ word :: back) =
      (Arguments.parse (front ++ back)).map Arguments.loud := by
  obtain ⟨no_separator, stands⟩ := h
  have no_separator_here : word ≠ "--" := by
    rintro rfl
    cases hw
  unfold Arguments.parse
  rw [Word.ofList_append no_separator, Word.ofList_append no_separator, Word.ofList,
    if_neg no_separator_here, hw]
  cases first : Word.ofList front with
  | error found => rfl
  | ok words =>
    cases second : Word.ofList back with
    | error found => rfl
    | ok others =>
      change Progress.rest {} (words ++ .flag .verbose spelling none :: others) =
        (Progress.rest {} (words ++ others)).map Arguments.loud
      rw [Progress.rest_append, Progress.rest_append]
      cases read : words.foldlM Progress.step {} with
      | error refusal => rfl
      | ok p =>
        obtain ⟨free, just⟩ := stands words p first read
        rw [ok_bind, ok_bind, Progress.rest_cons, step_verbose free, ok_bind, Progress.rest_loud,
          Progress.rest_next fun named => Word.head?_ofList second (just named)]

theorem open_nil (back : List String) : Open [] back := by
  refine ⟨List.not_mem_nil, ?_⟩
  rintro words p ⟨⟩ ⟨⟩
  exact ⟨rfl, nofun⟩

end PeakSlowness.CommandLine
