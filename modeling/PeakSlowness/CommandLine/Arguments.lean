import PeakSlowness.CommandLine.Word
import PeakSlowness.Config
import PeakSlowness.Disk.FilePath
import PeakSlowness.Report.Format

set_option autoImplicit false

/-!
The arguments of a command line. `Arguments.parse` goes through the words once. The first plain word
names the input; a later value of an option replaces an earlier one; words that nothing takes are
collected and refused at the end.
-/

namespace PeakSlowness.CommandLine

/-- What a command line says. -/
structure Arguments where
  input : Option String := none
  config : Option FilePath := none
  start : Option Int := none
  stop : Option Int := none
  step : Option Int := none
  mode : Option Mode := none
  out : Option FilePath := none
  format : Option ReportFormat := none
  plot : Bool := false
  verbose : Bool := false

/-- Why a command line was refused. -/
inductive UsageFault where
  | ambiguous (found : Ambiguity)
  | missingValue (flag : Flag)
  | surplusValue (flag : Flag) (value : String)
  | notAnInteger (flag : Flag) (value : String)
  | noChoice (flag : Flag) (value : String) (choices : List String)
  | unrecognized (words : List String)
  deriving DecidableEq

/-- What ended the reading of a command line. -/
inductive Refusal where
  /-- help was asked for -/
  | help
  | usage (fault : UsageFault)
  deriving DecidableEq

def integerValue (flag : Flag) (value : String) : Except UsageFault Int :=
  (Numeral.read value.toList).mapError fun _ => .notAnInteger flag value

/-- A value of an option as one of several choices. -/
def choiceValue {α : Type} (flag : Flag) (name : α → String) (choices : List α) (value : String) :
    Except UsageFault α :=
  match choices.find? (name · = value) with
  | some a => .ok a
  | none => .error (.noChoice flag value (choices.map name))

namespace Arguments

def setValue (a : Arguments) (flag : Flag) (value : String) : Except UsageFault Arguments :=
  match flag with
  | .config => return { a with config := some (.ofString value) }
  | .start => return { a with start := some (← integerValue flag value) }
  | .stop => return { a with stop := some (← integerValue flag value) }
  | .step => return { a with step := some (← integerValue flag value) }
  | .mode => return { a with mode := some (← choiceValue flag Mode.name [.lenient, .strict] value) }
  | .out => return { a with out := some (.ofString value) }
  | .format =>
    return { a with format := some (← choiceValue flag ReportFormat.name [.csv, .mat, .both] value) }
  | .help | .plot | .verbose => .error (.surplusValue flag value)

/-- Sets options that take no value, in order. -/
def setAll (a : Arguments) : List Flag → Except Refusal Arguments
  | [] => .ok a
  | .help :: _ => .error .help
  | .plot :: rest => setAll { a with plot := true } rest
  | .verbose :: rest => setAll { a with verbose := true } rest
  | flag :: _ => .error (.usage (.missingValue flag))

end Arguments

/-- The options that the letters right behind `flag` add to it, and the letters from the first one on that
is no option. -/
def cluster (flag : Flag) : List Char → Except UsageFault (List Flag × List Char)
  | [] => .ok ([flag], [])
  | c :: rest =>
    if c = '=' then .error (.surplusValue flag (String.ofList rest))
    else if c = '-' then .error (.surplusValue flag (String.ofList (c :: rest)))
    else
      match Flag.ofSpelling? (String.ofList ['-', c]) with
      | none => .ok ([flag], c :: rest)
      | some next => do
        let (flags, left) ← cluster next rest
        return (flag :: flags, left)

/-- The options that one word sets without a value, and the letters left over. -/
def flagsOf (flag : Flag) (spelling : String) (attached : Option Attached) :
    Except UsageFault (List Flag × List Char) :=
  match attached with
  | none => .ok ([flag], [])
  | some value =>
    if ['-', '-'].isPrefixOf spelling.toList then .error (.surplusValue flag value.text) else cluster flag value.written

/-- Whether the input has been named. -/
inductive Slot where
  | vacant
  /-- by the word just before -/
  | justFilled
  | filled
  deriving DecidableEq, Repr

def Slot.next : Slot → Slot
  | .vacant => .vacant
  | _ => .filled

/-- The reading of a command line between two words. -/
structure Progress where
  args : Arguments := {}
  slot : Slot := .vacant
  /-- the option that the next word is the value of -/
  awaiting : Option Flag := none
  extras : List String := []

namespace Progress

/-- A plain word names the input or is left over. -/
def plain (p : Progress) (text : String) : Progress :=
  match p.slot with
  | .vacant => { p with args := { p.args with input := some text }, slot := .justFilled }
  | _ => { p with slot := .filled, extras := p.extras ++ [text] }

/-- A separator is left over if the input was named before, and not by the word just before. -/
def separator (p : Progress) : Progress :=
  { p with slot := p.slot.next, extras := if p.slot = .filled then p.extras ++ ["--"] else p.extras }

/-- A word that is no option is left over. -/
def leave (p : Progress) (text : String) : Progress :=
  { p with slot := p.slot.next, extras := p.extras ++ [text] }

def value (p : Progress) (flag : Flag) (text : String) : Except Refusal Progress := do
  let args ← (p.args.setValue flag text).mapError .usage
  return { p with args, slot := p.slot.next, awaiting := none }

def flags (p : Progress) (flag : Flag) (spelling : String) (attached : Option Attached) :
    Except Refusal Progress := do
  let (flags, left) ← (flagsOf flag spelling attached).mapError .usage
  let args ← p.args.setAll flags
  return { p with
    args, slot := p.slot.next
    extras := if left.isEmpty then p.extras else p.extras ++ [String.ofList ('-' :: left)] }

def step (p : Progress) (word : Word) : Except Refusal Progress :=
  match p.awaiting, word with
  | some flag, .plain text => p.value flag text
  | some flag, _ => .error (.usage (.missingValue flag))
  | none, .plain text => .ok (p.plain text)
  | none, .separator => .ok p.separator
  | none, .unknown text => .ok (p.leave text)
  | none, .flag flag spelling attached =>
    if flag.TakesValue then
      match attached with
      | some a => p.value flag a.text
      | none => .ok { p with slot := p.slot.next, awaiting := some flag }
    else p.flags flag spelling attached

def finish (p : Progress) : Except Refusal Arguments :=
  match p.awaiting, p.extras with
  | some flag, _ => .error (.usage (.missingValue flag))
  | none, [] => .ok p.args
  | none, extras => .error (.usage (.unrecognized extras))

end Progress

def Arguments.parse (argv : List String) : Except Refusal Arguments := do
  let words ← (Word.ofList argv).mapError fun found => Refusal.usage (.ambiguous found)
  (← words.foldlM Progress.step {}).finish

end PeakSlowness.CommandLine
