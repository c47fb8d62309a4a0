import Assay.Data
import Assay.Fault
import Assay.Text.Whole

/-! # Timestamps of YAML

Days as `2001-12-14`, and moments, in which a time stands behind `T` or blanks, with a fraction of
a second and an offset from universal time that may be left out.
-/

namespace Assay.Yaml

structure Clock where
  hour : Nat
  minute : Nat
  second : Nat
  microsecond : Nat
  /-- Minutes ahead of universal time. -/
  offset : Option Int

structure Timestamp where
  date : Date
  clock : Option Clock

namespace Timestamp

/-- A number of digits between two bounds, and the rest. -/
def number? (least most : Nat) (cs : List Char) : Option (Nat × List Char) :=
  let ds := (cs.take most).takeWhile Text.isAsciiDigit
  if ds.length < least then none
  else (Text.digitsValue 0 ds).map fun n => (n, cs.drop ds.length)

def behind? (d : Char) : List Char → Option (List Char)
  | c :: cs => if c == d then some cs else none
  | [] => none

def isBlank (c : Char) : Bool := c == ' ' || c == '\t'

def separator? (cs : List Char) : Option (List Char) :=
  match cs with
  | 'T' :: cs | 't' :: cs => some cs
  | c :: cs => if isBlank c then some (cs.dropWhile isBlank) else none
  | [] => none

def fraction : List Char → Nat × List Char
  | '.' :: cs =>
    let ds := cs.takeWhile Text.isAsciiDigit
    let six := (ds ++ List.replicate 6 '0').take 6
    ((Text.digitsValue 0 six).getD 0, cs.drop ds.length)
  | cs => (0, cs)

def offset? (cs : List Char) : Option (Option Int) :=
  let signed (sign : Int) (cs : List Char) : Option (Option Int) := do
    let (h, cs) ← number? 1 2 cs
    if cs.isEmpty then return some (sign * (h * 60))
    let (m, cs) ← number? 2 2 (← behind? ':' cs)
    if cs.isEmpty then some (some (sign * (h * 60 + m))) else none
  match cs, cs.dropWhile isBlank with
  | [], _ => some none
  | _, ['Z'] => some (some 0)
  | _, '+' :: cs => signed 1 cs
  | _, '-' :: cs => signed (-1) cs
  | _, _ => none

def clock? (cs : List Char) : Option Clock := do
  let (hour, cs) ← number? 1 2 cs
  let (minute, cs) ← number? 2 2 (← behind? ':' cs)
  let (second, cs) ← number? 2 2 (← behind? ':' cs)
  let (microsecond, cs) := fraction cs
  pure ⟨hour, minute, second, microsecond, ← offset? cs⟩

/-- Read the form of a timestamp, whose numbers may still be out of range. -/
def ofChars? (cs : List Char) : Option Timestamp := do
  let (year, cs) ← number? 4 4 cs
  let (month, cs) ← number? 1 2 (← behind? '-' cs)
  let (day, cs) ← number? 1 2 (← behind? '-' cs)
  let date : Date := ⟨year, month, day⟩
  if cs.isEmpty then return ⟨date, none⟩
  pure ⟨date, some (← clock? (← separator? cs))⟩

/-- Without a tag, a day has to be written with all its digits. -/
def isPlain (cs : List Char) : Bool :=
  (ofChars? cs).any fun t => t.clock.isSome || cs.length == 10

def checkOffset (minutes : Int) : Except Fault Unit :=
  if minutes.natAbs < 1440 then .ok ()
  else .error (.offsetTooLarge (Moment.writtenSpan minutes))

/-- The day or the moment, which must be one of the calendar. -/
def value (t : Timestamp) : Except Fault Data := do
  match t.clock with
  | none =>
    match t.date.problem? with
    | some p => throw (.notInCalendar p)
    | none => pure (.date t.date)
  | some c =>
    c.offset.forM checkOffset
    let m : Moment := ⟨t.date, c.hour, c.minute, c.second, c.microsecond, c.offset⟩
    match m.problem? with
    | some p => throw (.notInCalendar p)
    | none => pure (.moment m)

def valueOf (cs : List Char) : Except Fault Data :=
  match ofChars? cs with
  | some t => t.value
  | none => .error (.noAttribute Data.null.kind "groupdict")

end Timestamp

end Assay.Yaml
