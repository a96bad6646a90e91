import PeakSlowness.CommandLine.Arguments

set_option autoImplicit false

/-!
Arguments over a configuration. What the command line gives replaces the entries of its sections; all
else stays. Sections that are not set, and the configuration itself, may also be lists of pairs.
-/

namespace PeakSlowness

open CommandLine

/-- A key and a value out of the parts of a pair. -/
def pairOf (position : Nat) : List Setting → Except ValueFault (Scalar × Setting)
  | [.scalar key, value] => .ok (key, value)
  | [key, _] => .error (.unhashable key.kind)
  | parts => .error (.elementNoPair position parts.length)

/-- The parts of a value: the members of a collection, the keys of a mapping, the characters of a text. -/
def Setting.parts? : Setting → Option (List Setting)
  | .list items => some items
  | .map entries => some (entries.map fun e => .scalar e.1)
  | .set members => some (members.map .scalar)
  | .pairs items => some (items.map fun p => .list [p.1, p.2])
  | .scalar (.text s) => some (s.toList.map fun c => .ofText (String.ofList [c]))
  | .scalar (.broken letters) => some (letters.map fun l => .scalar (.ofLetters [l]))
  | .scalar (.octets bytes) => some (bytes.map fun b => .scalar (.int b.toNat))
  | .cycle _ => some []
  | _ => none

/-- The entries that pairs make up, the first pair having the given position. -/
def entriesOfPairs (position : Nat) : List Setting → Except ValueFault (List (Scalar × Setting))
  | [] => .ok []
  | pair :: rest => do
    let some parts := pair.parts? | throw (.elementNoSequence position)
    let first ← pairOf position parts
    return first :: (← entriesOfPairs (position + 1) rest)

/-- The entries of a mapping or of a list of pairs. -/
def Setting.asEntries : Setting → Except ValueFault (List (Scalar × Setting))
  | .map entries => .ok entries
  | v =>
    match v.parts? with
    | none => .error (.notIterable v.kind)
    | some parts => return putEntries [] (← entriesOfPairs 0 parts)

namespace CommandLine.Arguments

/-- An entry, if there is a value. -/
def given (name : String) (value : Option Scalar) : List (Scalar × Setting) :=
  (value.map (Config.entry name)).toList

/-- The entries of a section that the command line gives. -/
def entriesFor (a : Arguments) (name : String) : List (Scalar × Setting) :=
  match name with
  | "input" => given "path" (a.input.map .text)
  | "checkpoints" =>
    given "start" (a.start.map .int) ++ given "end" (a.stop.map .int) ++ given "step" (a.step.map .int)
  | "parsing" => given "mode" (a.mode.map fun m => .text m.name)
  | "output" =>
    given "root" (a.out.map fun p => .text p.toText) ++
      given "format" (a.format.map fun f => .text f.name) ++
      given "plot" (if a.plot then some (.bool true) else none)
  | "logging" => given "verbose" (if a.verbose then some (.bool true) else none)
  | _ => []

/-- A section with what the command line gives for it. -/
def overrideSection (a : Arguments) (entries : List (Scalar × Setting)) (name : String) :
    Except ValueFault (Scalar × Setting) := do
  let old ← (((valueAt? entries (.text name)).getD .empty).orEmpty).asEntries
  return (.text name, .map (putEntries old (a.entriesFor name)))

/-- The configuration with what the command line gives. All five sections are mappings in it. -/
def override (a : Arguments) (cfg : Setting) : Except ValueFault Setting := do
  let entries ← cfg.asEntries
  let sections ← Config.sectionNames.mapM (a.overrideSection entries)
  return .map (putEntries entries sections)

end CommandLine.Arguments

end PeakSlowness
