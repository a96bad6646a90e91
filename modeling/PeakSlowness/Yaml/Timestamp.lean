import PeakSlowness.Text.Line
import PeakSlowness.Yaml.Fault

set_option autoImplicit false

/-!
Timestamps: a day, and behind it perhaps a time of the day with a fraction of a second and an offset from
universal time.
-/

namespace PeakSlowness.Yaml

open Text

/-- The offset of a time in writing: universal time, or a sign with hours and minutes. -/
inductive Zone where
  | universal
  | offset (negative : Bool) (hours minutes : Nat)
  deriving DecidableEq

/-- A time of the day in writing. -/
structure Clock where
  hour : Nat
  minute : Nat
  second : Nat
  fraction : List Char
  zone : Option Zone

/-- A timestamp in writing, the digits of month and day still uncounted. -/
structure Timestamp where
  year : List Char
  month : List Char
  day : List Char
  clock : Option Clock

namespace Timestamp

def number (digits : List Char) : Nat := decimalValue digits

/-- Splits a run of at least `least` and at most `most` digits off. -/
def digits? (least most : Nat) (text : List Char) : Option (List Char × List Char) :=
  let run := (text.take most).takeWhile (·.isDigit)
  if least ≤ run.length then some (run, text.drop run.length) else none

def mark? (c : Char) : List Char → Option (List Char)
  | x :: rest => if x = c then some rest else none
  | [] => none

/-- The offset that makes up a text, spaces in front left aside. -/
def zone? (text : List Char) : Option (Option Zone) := do
  if text.isEmpty then return none
  match text.dropWhile fun c => c = ' ' || c = '\t' with
  | ['Z'] => return some .universal
  | s :: rest =>
    guard (s = '+' || s = '-')
    let (hours, rest) ← digits? 1 2 rest
    if rest.isEmpty then return some (.offset (s = '-') (number hours) 0)
    let (minutes, rest) ← digits? 2 2 (← mark? ':' rest)
    guard rest.isEmpty
    return some (.offset (s = '-') (number hours) (number minutes))
  | [] => none

def clock? (text : List Char) : Option Clock := do
  let (hour, rest) ← digits? 1 2 text
  let (minute, rest) ← digits? 2 2 (← mark? ':' rest)
  let (second, rest) ← digits? 2 2 (← mark? ':' rest)
  let (fraction, rest) : List Char × List Char :=
    match rest with
    | '.' :: more => (more.takeWhile (·.isDigit), more.dropWhile (·.isDigit))
    | _ => ([], rest)
  return ⟨number hour, number minute, number second, fraction, ← zone? rest⟩

def behindSeparator? : List Char → Option (List Char)
  | 'T' :: rest => some rest
  | 't' :: rest => some rest
  | c :: rest =>
    if c = ' ' || c = '\t' then some (rest.dropWhile fun c => c = ' ' || c = '\t') else none
  | [] => none

def parse? (text : List Char) : Option Timestamp := do
  let (year, rest) ← digits? 4 4 text
  let (month, rest) ← digits? 1 2 (← mark? '-' rest)
  let (day, rest) ← digits? 1 2 (← mark? '-' rest)
  if rest.isEmpty then return ⟨year, month, day, none⟩
  return ⟨year, month, day, some (← clock? (← behindSeparator? rest))⟩

/-- Microseconds of a fraction; further digits do not count. -/
def micros (fraction : List Char) : Nat :=
  let digits := fraction.take 6
  number (digits ++ List.replicate (6 - digits.length) '0')

def Zone.minutes : Zone → Int
  | .universal => 0
  | .offset negative hours minutes => Numeral.signed negative (60 * hours + minutes)

def value (t : Timestamp) : Except CalendarFault (Date ⊕ Moment) :=
  match t.clock with
  | none => (Date.make (number t.year) (number t.month) (number t.day)).map .inl
  | some k =>
    (Moment.make (number t.year) (number t.month) (number t.day) k.hour k.minute k.second
      (micros k.fraction) (k.zone.map Zone.minutes)).map .inr

end Timestamp

/-- Whether a text looks like a timestamp by itself: a day alone has two digits for month and day. -/
def isTimestamp (text : List Char) : Bool :=
  match Timestamp.parse? text with
  | none => false
  | some t => t.clock.isSome || (t.month.length = 2 && t.day.length = 2)

end PeakSlowness.Yaml
