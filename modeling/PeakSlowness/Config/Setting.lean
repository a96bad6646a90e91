import PeakSlowness.Config.Calendar
import PeakSlowness.Number.Numeral
import PeakSlowness.Number.Shortest
import PeakSlowness.Text.Letter

set_option autoImplicit false

/-!
Settings: the values a configuration can hold. A mapping keeps its entries in the order in which their
keys first came; keys are scalars, and numbers that are equal are one key whatever their kind.
-/

namespace PeakSlowness

open Text (Letter)

/-- A value without parts. -/
inductive Scalar where
  | null
  | bool (b : Bool)
  | int (n : Int)
  | float (x : Binary64)
  | text (s : String)
  /-- a text that holds half a surrogate pair -/
  | broken (letters : List Letter)
  | octets (bytes : List UInt8)
  | date (d : Date)
  | moment (m : Moment)
  deriving DecidableEq

/-- A configuration value. `cycle` stands for a collection inside itself. -/
inductive Setting where
  | scalar (value : Scalar)
  | list (items : List Setting)
  | map (entries : List (Scalar × Setting))
  | set (members : List Scalar)
  | pairs (items : List (Setting × Setting))
  | cycle (isMap : Bool)

/-- The kinds of values, as messages name them. -/
inductive Kind where
  | null
  | bool
  | int
  | float
  | text
  | octets
  | date
  | moment
  | list
  | map
  | set
  deriving DecidableEq, Repr

def Kind.name : Kind → String
  | .null => "NoneType"
  | .bool => "bool"
  | .int => "int"
  | .float => "float"
  | .text => "str"
  | .octets => "bytes"
  | .date => "date"
  | .moment => "datetime"
  | .list => "list"
  | .map => "dict"
  | .set => "set"

/-- The name of a kind with the family in front that dates belong to. -/
def Kind.fullName : Kind → String
  | .date => "datetime.date"
  | .moment => "datetime.datetime"
  | k => k.name

namespace Scalar

def kind : Scalar → Kind
  | null => .null
  | bool _ => .bool
  | int _ => .int
  | float _ => .float
  | text _ => .text
  | broken _ => .text
  | octets _ => .octets
  | date _ => .date
  | moment _ => .moment

/-- Whether a scalar counts as set: not null, false, zero or empty. -/
def truthy : Scalar → Bool
  | null => false
  | bool b => b
  | int n => n != 0
  | float x => !x.isZero
  | text s => s != ""
  | broken _ => true
  | octets bytes => !bytes.isEmpty
  | date _ => true
  | moment _ => true

def isNaN : Scalar → Bool
  | float x => x.isNaN
  | _ => false

/-- The integer that a truth value or an integer is. -/
def asInt? : Scalar → Option Int
  | bool b => some (if b then 1 else 0)
  | int n => some n
  | _ => none

def sameKey (a b : Scalar) : Bool :=
  match a, b with
  | float x, float y => x.same y
  | float x, _ => (asInt? b).elim false x.isInt
  | _, float y => (asInt? a).elim false y.isInt
  | moment m, moment n => m.same n
  | _, _ =>
    match asInt? a, asInt? b with
    | some m, some n => m == n
    | _, _ => decide (a = b)

/-- A scalar as it is shown inside a collection. -/
def shown : Scalar → Except Numeral.Fault String
  | null => .ok "None"
  | bool b => .ok (if b then "True" else "False")
  | int n => Numeral.write n
  | float x => .ok x.toText
  | text s => .ok (Text.quotedString s)
  | broken letters => .ok (Letter.quotedString letters)
  | octets bytes => .ok (String.ofList (Text.quotedOctets bytes))
  | date d => .ok d.shown
  | moment m => .ok m.shown

def ofLetters (text : List Letter) : Scalar :=
  match Letter.string? text with
  | some s => .text s
  | none => .broken text

def toText : Scalar → Except Numeral.Fault (List Letter)
  | text s => .ok (Letter.ofString s)
  | broken letters => .ok letters
  | date d => .ok (Letter.ofString d.toText)
  | moment m => .ok (Letter.ofString m.toText)
  | s => s.shown.map Letter.ofString

end Scalar

def valueAt? (entries : List (Scalar × Setting)) (key : Scalar) : Option Setting :=
  (entries.find? fun e => e.1.sameKey key).map (·.2)

/-- Sets the value at a key: in place if the key is there, otherwise at the end. -/
def putEntry : List (Scalar × Setting) → Scalar → Setting → List (Scalar × Setting)
  | [], key, value => [(key, value)]
  | e :: rest, key, value =>
    if e.1.sameKey key then (e.1, value) :: rest else e :: putEntry rest key value

def putEntries (entries more : List (Scalar × Setting)) : List (Scalar × Setting) :=
  more.foldl (fun es e => putEntry es e.1 e.2) entries

namespace Setting

def empty : Setting := .map []

def ofText (s : String) : Setting := .scalar (.text s)

def kind : Setting → Kind
  | scalar s => s.kind
  | list _ => .list
  | map _ => .map
  | set _ => .set
  | pairs _ => .list
  | cycle isMap => if isMap then .map else .list

/-- Whether a value counts as set: not null, false, zero or empty. -/
def truthy : Setting → Bool
  | scalar s => s.truthy
  | list items => !items.isEmpty
  | map entries => !entries.isEmpty
  | set members => !members.isEmpty
  | pairs items => !items.isEmpty
  | cycle _ => true

/-- The value, or the empty mapping where it does not count as set. -/
def orEmpty (v : Setting) : Setting := if v.truthy then v else empty

/-- Texts between brackets, with commas. -/
def enclose (opening closing : String) (parts : List String) : String :=
  opening ++ ", ".intercalate parts ++ closing

mutual

/-- A value as it is shown inside a collection. -/
def shown : Setting → Except Numeral.Fault String
  | .scalar s => s.shown
  | .list items => do return enclose "[" "]" (← shownItems items)
  | .map entries => do return enclose "\x7b" "\x7d" (← shownEntries entries)
  | .set [] => .ok "set()"
  | .set (m :: more) => do return enclose "\x7b" "\x7d" (← (m :: more).mapM Scalar.shown)
  | .pairs items => do return enclose "[" "]" (← shownPairs items)
  | .cycle isMap => .ok (if isMap then "\x7b...\x7d" else "[...]")

/-- The members of a list as they are shown. -/
def shownItems : List Setting → Except Numeral.Fault (List String)
  | [] => .ok []
  | v :: rest => do
    let first ← shown v
    return first :: (← shownItems rest)

/-- The entries of a mapping as they are shown. -/
def shownEntries : List (Scalar × Setting) → Except Numeral.Fault (List String)
  | [] => .ok []
  | (k, v) :: rest => do
    let key ← k.shown
    let first ← shown v
    return (key ++ ": " ++ first) :: (← shownEntries rest)

/-- The pairs of a list of pairs as they are shown. -/
def shownPairs : List (Setting × Setting) → Except Numeral.Fault (List String)
  | [] => .ok []
  | (k, v) :: rest => do
    let key ← shown k
    let first ← shown v
    return ("(" ++ key ++ ", " ++ first ++ ")") :: (← shownPairs rest)

end

/-- A value as text: a text stands for itself, a collection shows its parts. -/
def toText : Setting → Except Numeral.Fault (List Letter)
  | .scalar s => s.toText
  | v => v.shown.map Letter.ofString

end Setting

end PeakSlowness
