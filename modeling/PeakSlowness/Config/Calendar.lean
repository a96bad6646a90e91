set_option autoImplicit false

/-!
Dates and moments of the calendar that counts leap years back to year one. A moment may be fixed to an
offset from universal time.
-/

namespace PeakSlowness

/-- A day. -/
structure Date where
  year : Nat
  month : Nat
  day : Nat
  deriving DecidableEq

/-- A time on a day, to the microsecond; `offset` is in minutes east of universal time. -/
structure Moment where
  date : Date
  hour : Nat
  minute : Nat
  second : Nat
  micro : Nat
  offset : Option Int
  deriving DecidableEq

def isLeapYear (year : Nat) : Bool := year % 4 == 0 && (year % 100 != 0 || year % 400 == 0)

def daysInMonth (year month : Nat) : Nat :=
  if month = 2 then (if isLeapYear year then 29 else 28)
  else if month = 4 || month = 6 || month = 9 || month = 11 then 30
  else 31

/-- Why numbers are no date, time or offset. -/
inductive CalendarFault where
  | year (number : Nat)
  | month
  | day
  | hour
  | minute
  | second
  | offset (minutes : Int)
  deriving DecidableEq

/-- An offset as days and the seconds that remain of the last one. -/
def splitOffset (minutes : Int) : Int × Int := (Int.fdiv minutes 1440, 60 * Int.fmod minutes 1440)

/-- An offset as a span of time in writing. -/
def writeOffset (minutes : Int) : String :=
  let (days, seconds) := splitOffset minutes
  let parts := (if days = 0 then [] else ["days=" ++ toString days]) ++
    (if seconds = 0 then [] else ["seconds=" ++ toString seconds])
  "datetime.timedelta(" ++ (if parts.isEmpty then "0" else ", ".intercalate parts) ++ ")"

def CalendarFault.message : CalendarFault → String
  | .year y => "year " ++ toString y ++ " is out of range"
  | .month => "month must be in 1..12"
  | .day => "day is out of range for month"
  | .hour => "hour must be in 0..23"
  | .minute => "minute must be in 0..59"
  | .second => "second must be in 0..59"
  | .offset minutes =>
    "offset must be a timedelta strictly between -timedelta(hours=24) and timedelta(hours=24), not " ++
      writeOffset minutes ++ "."

def Date.make (year month day : Nat) : Except CalendarFault Date :=
  if year = 0 || 9999 < year then .error (.year year)
  else if month = 0 || 12 < month then .error .month
  else if day = 0 || daysInMonth year month < day then .error .day
  else .ok ⟨year, month, day⟩

/-- The moment with these numbers. An offset out of range is found before a bad date or time. -/
def Moment.make (year month day hour minute second micro : Nat) (offset : Option Int) :
    Except CalendarFault Moment := do
  match offset with
  | some minutes => if 1440 ≤ minutes.natAbs then throw (.offset minutes)
  | none => pure ()
  let date ← Date.make year month day
  if 23 < hour then throw .hour
  if 59 < minute then throw .minute
  if 59 < second then throw .second
  return ⟨date, hour, minute, second, micro, offset⟩

/-- Decimal digits, filled up with zeros in front. -/
def padded (width n : Nat) : String :=
  let digits := Nat.toDigits 10 n
  String.ofList (List.replicate (width - digits.length) '0' ++ digits)

def Date.toText (d : Date) : String := padded 4 d.year ++ "-" ++ padded 2 d.month ++ "-" ++ padded 2 d.day

/-- A day as it is shown inside a collection. -/
def Date.shown (d : Date) : String :=
  "datetime.date(" ++ ", ".intercalate [toString d.year, toString d.month, toString d.day] ++ ")"

def Moment.toText (m : Moment) : String :=
  m.date.toText ++ " " ++ padded 2 m.hour ++ ":" ++ padded 2 m.minute ++ ":" ++ padded 2 m.second ++
    (if m.micro = 0 then "" else "." ++ padded 6 m.micro) ++
    (match m.offset with
    | none => ""
    | some minutes => (if minutes < 0 then "-" else "+") ++ padded 2 (minutes.natAbs / 60) ++ ":" ++
        padded 2 (minutes.natAbs % 60))

/-- A moment as it is shown inside a collection. Seconds and microseconds of zero are left out. -/
def Moment.shown (m : Moment) : String :=
  let numbers := [m.date.year, m.date.month, m.date.day, m.hour, m.minute] ++
    (if m.second = 0 ∧ m.micro = 0 then [] else [m.second]) ++ (if m.micro = 0 then [] else [m.micro])
  let zone := match m.offset with
    | none => []
    | some 0 => ["tzinfo=datetime.timezone.utc"]
    | some minutes => ["tzinfo=datetime.timezone(" ++ writeOffset minutes ++ ")"]
  "datetime.datetime(" ++ ", ".intercalate (numbers.map toString ++ zone) ++ ")"

/-- Days from the first day of year one to a day. -/
def Date.ordinal (d : Date) : Nat :=
  let y := d.year - 1
  365 * y + y / 4 - y / 100 + y / 400 +
    (List.range (d.month - 1)).foldl (fun days m => days + daysInMonth d.year (m + 1)) 0 + d.day

/-- Microseconds from the start of the calendar, in universal time if the moment is fixed to it. -/
def Moment.instant (m : Moment) : Int :=
  let minutes : Int := (m.date.ordinal * 24 + m.hour) * 60 + m.minute - m.offset.getD 0
  (minutes * 60 + m.second) * 1000000 + m.micro

/-- Whether two moments are the same; a moment without an offset is never one with an offset. -/
def Moment.same (m n : Moment) : Bool := m.offset.isSome == n.offset.isSome && m.instant == n.instant

end PeakSlowness
