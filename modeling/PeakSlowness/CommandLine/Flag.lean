set_option autoImplicit false

/-!
The options of the command line and how they are spelled.
-/

namespace PeakSlowness.CommandLine

/-- An option. -/
inductive Flag where
  | help
  | config
  | start
  | stop
  | step
  | mode
  | out
  | format
  | plot
  | verbose
  deriving DecidableEq, Repr

namespace Flag

/-- All options, in the order of the help text. -/
def all : List Flag := [help, config, start, stop, step, mode, out, format, plot, verbose]

def spellings : Flag → List String
  | help => ["-h", "--help"]
  | config => ["--config"]
  | start => ["--start"]
  | stop => ["--end"]
  | step => ["--step"]
  | mode => ["--mode"]
  | out => ["--out"]
  | format => ["--format"]
  | plot => ["--plot"]
  | verbose => ["-v", "--verbose"]

def title (f : Flag) : String := "/".intercalate f.spellings

def TakesValue : Flag → Prop
  | help | plot | verbose => False
  | _ => True

instance (f : Flag) : Decidable f.TakesValue := by
  cases f <;> simp only [TakesValue] <;> infer_instance

def table : List (String × Flag) := all.flatMap fun f => f.spellings.map fun s => (s, f)

def ofSpelling? (text : String) : Option Flag := (table.find? (·.1 = text)).map (·.2)

end Flag

end PeakSlowness.CommandLine
