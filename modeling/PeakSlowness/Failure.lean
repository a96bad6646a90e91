import PeakSlowness.Config.Setting
import PeakSlowness.Disk.Tree
import PeakSlowness.Report.Plot
import PeakSlowness.StatLine
import PeakSlowness.Sweep
import PeakSlowness.Yaml.Fault

set_option autoImplicit false

/-!
Everything that can go wrong, by cause. `message` is the wording and `kind` tells the program what to do
about it: input and output problems and bad values end a run with a message, the rest ends it at once.
-/

namespace PeakSlowness

open Text

/-- Why an input file could not be read. -/
inductive InputCause where
  | system (e : Errno)
  | notText (reason : Utf8.Reason)
  deriving DecidableEq

def InputCause.text : InputCause → String
  | .system e => e.text
  | .notText reason => "not a text file (" ++ reason.message ++ ")"

/-- Why a report directory could not be used. -/
inductive OutputCause where
  | taken
  | system (e : Errno)
  /-- there, but nothing may be made in it -/
  | denied
  deriving DecidableEq

def OutputCause.text : OutputCause → String
  | .taken => "not a directory"
  | .system e => e.text
  | .denied => "permission denied"

/-- Why a value could not be taken for what was needed. -/
inductive ValueFault where
  /-- only a mapping has entries -/
  | noEntries (kind : Kind)
  | checkpointsNoMapping (kind : Kind)
  | checkpointsNoInteger (kind : Kind)
  | notAnInteger (kind : Kind)
  | notANumber (kind : Kind)
  | notANumberText (text : List Letter)
  | nanAsInteger
  | infinityAsInteger
  | integerBeyondFloat
  | notAPath (kind : Kind)
  | octetsAsPath
  | topLevelNoMapping (kind : Kind)
  | sectionNoMapping (name : String) (kind : Kind)
  | notIterable (kind : Kind)
  | elementNoSequence (position : Nat)
  | elementNoPair (position length : Nat)
  | unhashable (kind : Kind)
  | unknownMode (mode : List Letter)
  | unknownFormat (format : List Letter)
  deriving DecidableEq

def ValueFault.message : ValueFault → String
  | noEntries kind => "'" ++ kind.fullName ++ "' object has no attribute 'get'"
  | checkpointsNoMapping kind => "checkpoints must be a mapping, got " ++ kind.name
  | checkpointsNoInteger kind =>
    "checkpoints must be integers: int() argument must be a string, a bytes-like object or a real " ++
      "number, not '" ++ kind.fullName ++ "'"
  | notAnInteger kind =>
    "int() argument must be a string, a bytes-like object or a real number, not '" ++ kind.fullName ++ "'"
  | notANumber kind => "float() argument must be a string or a real number, not '" ++ kind.fullName ++ "'"
  | notANumberText text => "could not convert string to float: " ++ Letter.quotedString text
  | nanAsInteger => "cannot convert float NaN to integer"
  | infinityAsInteger => "cannot convert float infinity to integer"
  | integerBeyondFloat => "int too large to convert to float"
  | notAPath kind => "expected str, bytes or os.PathLike object, not " ++ kind.name
  | octetsAsPath =>
    "argument should be a str object or an os.PathLike object returning str, not <class 'bytes'>"
  | topLevelNoMapping kind => "top level must be a mapping, got " ++ kind.name
  | sectionNoMapping name kind => "section '" ++ name ++ "' must be a mapping, got " ++ kind.name
  | notIterable kind => "'" ++ kind.fullName ++ "' object is not iterable"
  | elementNoSequence position =>
    "cannot convert dictionary update sequence element #" ++ toString position ++ " to a sequence"
  | elementNoPair position length =>
    "dictionary update sequence element #" ++ toString position ++ " has length " ++ toString length ++
      "; 2 is required"
  | unhashable kind => "unhashable type: '" ++ kind.fullName ++ "'"
  | unknownMode mode =>
    "unknown parsing mode " ++ Letter.quotedString mode ++ " (expected 'lenient' or 'strict')"
  | unknownFormat format =>
    "unknown report format " ++ Letter.quotedString format ++ " (expected csv, mat or both)"

/-- What ended an operation. -/
inductive Failure where
  | malformed (line : StatLine.Malformed)
  | input (path : FilePath) (cause : InputCause)
  | output (path : FilePath) (cause : OutputCause)
  | numeral (fault : Numeral.Fault)
  | sweep (fault : Sweep.Fault)
  | value (fault : ValueFault)
  | yaml (fault : YamlFault)
  | unencodable (fault : Unencodable)
  | nulInPath
  | noHome
  | linkLoop (path : FilePath)
  | system (e : Errno) (path : FilePath)
  | matlabFileRefused
  | noFileName (path : FilePath)
  | plot (fault : Plot.Fault)
  | emptyVariableName
  | tooManyCheckpoints
  | timeBeyondTable

/-- What the program does about a failure. -/
inductive Failure.Kind where
  /-- a problem with the input or the output, reported as it is -/
  | problem
  /-- a value that does not do, reported as an invalid configuration -/
  | value
  /-- a refusal of the operating system, reported as it is -/
  | system
  /-- a configuration text without a value -/
  | yaml
  /-- not reported: it ends the program -/
  | abort
  deriving DecidableEq, Repr

namespace Failure

def message : Failure → String
  | malformed line => line.message
  | input path cause => "cannot read input file " ++ path.toText ++ ": " ++ cause.text
  | output path cause => "cannot write reports to " ++ path.toText ++ ": " ++ cause.text
  | numeral fault => fault.message
  | sweep fault =>
    match fault.wording with
    | .ok text => text
    | .error fault => fault.message
  | value fault => fault.message
  | yaml fault => fault.message
  | unencodable fault => fault.message
  | nulInPath => "embedded null byte"
  | noHome => "Could not determine home directory."
  | linkLoop path => "Symlink loop from " ++ Letter.quotedString path.letters
  | system e path => "[Errno " ++ toString e.code ++ "] " ++ e.text ++ ": " ++ Letter.quotedString path.letters
  | matlabFileRefused => "Reader needs file name or open file-like object"
  | noFileName path => "PosixPath(" ++ Letter.quotedString path.letters ++ ") has an empty name"
  | plot fault => fault.message
  | emptyVariableName => "string index out of range"
  | tooManyCheckpoints => "Python int too large to convert to C ssize_t"
  | timeBeyondTable => "Python int too large to convert to C long"

def ofValueFault : ValueFault → Kind
  | .noEntries _ | .notAnInteger _ | .notANumber _ | .infinityAsInteger | .integerBeyondFloat
  | .notAPath _ | .octetsAsPath | .notIterable _ | .elementNoSequence _ | .unhashable _ => .abort
  | _ => .value

/-- What the program does about a configuration text fault. -/
def ofYamlFault : YamlFault → Kind
  | .illFormed => .yaml
  | .undecodable _ | .codePointBeyondUnicode | .numeral _ | .notANumberText _ | .calendar _ => .value
  | _ => .abort

def kind : Failure → Kind
  | malformed _ | input .. | output .. => .problem
  | numeral _ | sweep _ | unencodable _ | nulInPath | noFileName _ => .value
  | value fault => ofValueFault fault
  | yaml fault => ofYamlFault fault
  | plot .noTicks => .value
  | system .. | matlabFileRefused => .system
  | noHome | linkLoop _ | plot .infiniteTick | emptyVariableName | tooManyCheckpoints | timeBeyondTable => .abort

/-- The failure of a system call on a path. -/
def ofCall (path : FilePath) : CallFault → Failure
  | .unencodable u => .unencodable u
  | .nul => .nulInPath
  | .errno e => .system e path

end Failure

end PeakSlowness
