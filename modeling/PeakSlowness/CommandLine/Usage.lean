import PeakSlowness.CommandLine.Arguments
import PeakSlowness.Text.Quoted

set_option autoImplicit false

/-!
What the command line says about itself: its usage, its help, and why it was refused.
-/

namespace PeakSlowness.CommandLine

open Text

def programName : String := "slowness-by-time"

/-- Lines of text, each with its end. -/
def ofLines (lines : List String) : String := String.join (lines.map (· ++ "\n"))

def usage : String :=
  ofLines
    ["usage: slowness-by-time [-h] [--config CONFIG] [--start START] [--end END]",
     "                        [--step STEP] [--mode \x7blenient,strict\x7d] [--out OUT]",
     "                        [--format \x7bcsv,mat,both\x7d] [--plot] [-v]",
     "                        [input]"]

def help : String :=
  usage ++ ofLines
    ["",
     "Print the maximum slowness of active applications at each checkpoint.",
     "",
     "positional arguments:",
     "  input                 apps.stat file or simulation result directory (default",
     "                        from config)",
     "",
     "options:",
     "  -h, --help            show this help message and exit",
     "  --config CONFIG       YAML configuration file",
     "  --start START         first checkpoint",
     "  --end END             last checkpoint (inclusive)",
     "  --step STEP           checkpoint spacing",
     "  --mode \x7blenient,strict\x7d",
     "                        numeric field parsing mode",
     "  --out OUT             directory for report files",
     "  --format \x7bcsv,mat,both\x7d",
     "                        report file format",
     "  --plot                also save a PNG plot into --out",
     "  -v, --verbose         log progress to stderr"]

/-- The wording of a fault in what was given for an option. -/
def aboutFlag (flag : Flag) (text : String) : String := "argument " ++ flag.title ++ ": " ++ text

def UsageFault.message : UsageFault → String
  | ambiguous found =>
    "ambiguous option: " ++ found.word ++ " could match " ++ ", ".intercalate found.candidates
  | missingValue flag => aboutFlag flag "expected one argument"
  | surplusValue flag value => aboutFlag flag ("ignored explicit argument " ++ quotedString value)
  | notAnInteger flag value => aboutFlag flag ("invalid int value: " ++ quotedString value)
  | noChoice flag value choices =>
    aboutFlag flag ("invalid choice: " ++ quotedString value ++ " (choose from " ++
      ", ".intercalate (choices.map quotedString) ++ ")")
  | unrecognized words => "unrecognized arguments: " ++ " ".intercalate words

namespace Refusal

/-- The exit status: help is a success. -/
def status : Refusal → Nat
  | help => 0
  | usage _ => 2

def output : Refusal → String
  | help => CommandLine.help
  | usage _ => ""

def errors : Refusal → String
  | help => ""
  | usage fault => CommandLine.usage ++ programName ++ ": error: " ++ fault.message ++ "\n"

end Refusal

end PeakSlowness.CommandLine
