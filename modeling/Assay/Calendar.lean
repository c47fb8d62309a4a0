/-! # Days and moments

Days of the calendar that counts leap years every fourth year but for centuries not divisible by
four hundred, and moments of a day, with or without their distance from universal time.
-/

namespace Assay

structure Date where
  year : Nat
  month : Nat
  day : Nat
deriving DecidableEq

structure Moment where
  date : Date
  hour : Nat
  minute : Nat
  second : Nat
  microsecond : Nat
  /-- Minutes ahead of universal time. -/
  offset : Option Int
deriving DecidableEq

namespace Date

def isLeap (year : Nat) : Bool := year % 4 == 0 && (year % 100 != 0 || year % 400 == 0)

def monthLength (year month : Nat) : Nat :=
  if month == 2 then if isLeap year then 29 else 28
  else if month == 4 || month == 6 || month == 9 || month == 11 then 30
  else 31

/-- What is wrong with the parts of a date. -/
def problem? (d : Date) : Option String :=
  if d.year == 0 || d.year > 9999 then some s!"year {d.year} is out of range"
  else if d.month == 0 || d.month > 12 then some "month must be in 1..12"
  else if d.day == 0 || d.day > monthLength d.year d.month then
    some "day is out of range for month"
  else none

def daysBefore (year month : Nat) : Nat :=
  (List.range (month - 1)).foldl (fun days m => days + monthLength year (m + 1)) 0

/-- The place of a date among all days, the first day of the calendar being day one. -/
def number (d : Date) : Nat :=
  let y := d.year - 1
  y * 365 + y / 4 - y / 100 + y / 400 + daysBefore d.year d.month + d.day

def padded (width n : Nat) : String :=
  let digits := toString n
  "".pushn '0' (width - digits.length) ++ digits

def toText (d : Date) : String :=
  padded 4 d.year ++ "-" ++ padded 2 d.month ++ "-" ++ padded 2 d.day

def parts (d : Date) : List Nat := [d.year, d.month, d.day]

def written (d : Date) : String :=
  "datetime.date(" ++ ", ".intercalate (d.parts.map toString) ++ ")"

end Date

namespace Moment

def problem? (t : Moment) : Option String :=
  t.date.problem?.orElse fun _ =>
    if t.hour > 23 then some "hour must be in 0..23"
    else if t.minute > 59 then some "minute must be in 0..59"
    else if t.second > 59 then some "second must be in 0..59"
    else none

/-- Microseconds since the beginning of the calendar, without regard to the offset. -/
def ticks (t : Moment) : Int :=
  (((t.date.number * 24 + t.hour) * 60 + t.minute) * 60 + t.second) * 1000000 + t.microsecond

/-- Microseconds since the beginning of the calendar in universal time. -/
def instant (t : Moment) : Int := t.ticks - t.offset.getD 0 * 60000000

/-- Moments with and without an offset are never the same. -/
def same (t u : Moment) : Bool := t.offset.isSome == u.offset.isSome && t.instant == u.instant

def offsetText (minutes : Int) : String :=
  let n := minutes.natAbs
  (if minutes < 0 then "-" else "+") ++ Date.padded 2 (n / 60) ++ ":" ++ Date.padded 2 (n % 60)

def toText (t : Moment) : String :=
  let fraction := if t.microsecond == 0 then "" else "." ++ Date.padded 6 t.microsecond
  t.date.toText ++ " " ++ Date.padded 2 t.hour ++ ":" ++ Date.padded 2 t.minute ++ ":"
    ++ Date.padded 2 t.second ++ fraction ++ (t.offset.map offsetText).getD ""

/-- A span of minutes as days, of which there may be fewer than none, and seconds. -/
def writtenSpan (minutes : Int) : String :=
  let days := minutes.fdiv 1440
  let seconds := (minutes.fmod 1440) * 60
  let dayPart := if days == 0 then [] else [s!"days={days}"]
  let secondPart := if seconds == 0 then [] else [s!"seconds={seconds}"]
  let parts := dayPart ++ secondPart
  "datetime.timedelta(" ++ (if parts.isEmpty then "0" else ", ".intercalate parts) ++ ")"

def writtenOffset (minutes : Int) : String :=
  if minutes == 0 then "datetime.timezone.utc"
  else "datetime.timezone(" ++ writtenSpan minutes ++ ")"

/-- Seconds and microseconds are left out at the end when they are zero. -/
def written (t : Moment) : String :=
  let small :=
    if t.microsecond != 0 then [t.second, t.microsecond]
    else if t.second != 0 then [t.second]
    else []
  let numbers := (t.date.parts ++ [t.hour, t.minute] ++ small).map toString
  let zone := (t.offset.map fun n => "tzinfo=" ++ writtenOffset n).toList
  "datetime.datetime(" ++ ", ".intercalate (numbers ++ zone) ++ ")"

end Moment

end Assay
