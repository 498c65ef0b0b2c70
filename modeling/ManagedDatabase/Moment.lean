/-
Points in time, as seconds since the start of 1970 in universal time, and the internet date and
time format. Writing keeps to the format; reading is lenient about blanks and leading zeros but
checks the calendar: a month has its days, a leap second is allowed, an offset is less than a day,
and in universal time too the date is one of the calendar's.
-/
import ManagedDatabase.Text.Blank

namespace ManagedDatabase

/-- Seconds since 1970-01-01T00:00:00Z. -/
abbrev Moment := Nat

namespace Moment

def isLeap (year : Int) : Bool := year % 4 = 0 && (year % 100 != 0 || year % 400 = 0)

def monthLength (year : Int) (month : Nat) : Nat :=
  if month = 2 then if isLeap year then 29 else 28
  else if month = 4 || month = 6 || month = 9 || month = 11 then 30
  else 31

/-- The date of a day, counted from 1970-01-01: year, month, day. Days are grouped into eras of 400
years that start on the first of March, so that the leap day ends its year. -/
def date (day : Nat) : Nat × Nat × Nat :=
  let z := day + 719468
  let era := z / 146097
  let doe := z % 146097
  let yoe := (doe - doe / 1460 + doe / 36524 - doe / 146096) / 365
  let doy := doe - (365 * yoe + yoe / 4 - yoe / 100)
  let mp := (5 * doy + 2) / 153
  let month := if mp < 10 then mp + 3 else mp - 9
  let year := yoe + era * 400
  (if month ≤ 2 then year + 1 else year, month, doy - (153 * mp + 2) / 5 + 1)

/-- A number with zeros in front up to a width. -/
def padded (width n : Nat) : String :=
  let ds := Nat.toDigits 10 n
  String.ofList (List.replicate (width - ds.length) '0' ++ ds)

/-- The written form, with a fraction of a second of the given number of digits. -/
def text (places : Nat) (t : Moment) : String :=
  let (y, m, d) := date (t / 86400)
  let s := t % 86400
  let fraction := if places = 0 then "" else "." ++ padded places 0
  s!"{padded 4 y}-{padded 2 m}-{padded 2 d}T"
    ++ s!"{padded 2 (s / 3600)}:{padded 2 (s / 60 % 60)}:{padded 2 (s % 60)}" ++ fraction ++ "Z"

/-- A text without the blanks at its start. -/
def skip (cs : List Char) : List Char := cs.dropWhile Text.isBlank

/-- A number of one to `width` digits. -/
def digits? (width : Nat) (cs : List Char) : Option (Nat × List Char) :=
  let ds := (cs.take width).takeWhile Char.isDigit
  if ds.isEmpty then none
  else some (ds.foldl (fun n c => 10 * n + (c.toNat - 48)) 0, cs.drop ds.length)

/-- A number of one to `width` digits; blanks may stand before it. -/
def number? (width : Nat) (cs : List Char) : Option (Nat × List Char) := digits? width (skip cs)

/-- A year: up to four digits, or any number of them behind a sign. -/
def year? (cs : List Char) : Option (Int × List Char) :=
  match skip cs with
  | '-' :: cs => (digits? cs.length cs).map fun r => (-r.1, r.2)
  | '+' :: cs => (digits? cs.length cs).map fun r => (r.1, r.2)
  | cs => (digits? 4 cs).map fun r => (r.1, r.2)

/-- A given mark; blanks may stand before it. -/
def mark? (mark : Char) (cs : List Char) : Option (List Char) :=
  match skip cs with
  | c :: cs => if c = mark then some cs else none
  | [] => none

/-- Two digits. -/
def twoDigits? : List Char → Option (Nat × List Char)
  | c :: d :: cs => if c.isDigit && d.isDigit then digits? 2 (c :: d :: cs) else none
  | _ => none

/-- The fraction of a second, if there is one. -/
def fraction? : List Char → Option (List Char)
  | '.' :: cs =>
    if (cs.takeWhile Char.isDigit).isEmpty then none else some (cs.dropWhile Char.isDigit)
  | cs => some cs

/-- An offset from universal time, in seconds: hours and minutes behind a sign, colons and blanks
between them not counting. -/
def signedOffset? : List Char → Option (Int × List Char)
  | sign :: cs => do
    if sign != '+' && sign != '-' && sign != '\u2212' then none
    let (hours, cs) ← twoDigits? cs
    let (minutes, cs) ← twoDigits? (cs.dropWhile fun c => c = ':' || Text.isBlank c)
    let size : Int := 3600 * hours + 60 * minutes
    if hours < 24 && minutes < 60 then some (if sign = '+' then size else -size, cs) else none
  | [] => none

/-- Universal time by one of its names, or an offset from it. -/
def zone? (cs : List Char) : Option (Int × List Char) :=
  if (cs.take 3).map Char.toUpper = ['U', 'T', 'C'] then some (0, cs.drop 3)
  else
    match cs with
    | 'Z' :: cs | 'z' :: cs => some (0, cs)
    | cs => signedOffset? cs

/-- A day of the calendar. -/
structure Date where
  year : Int
  month : Nat
  day : Nat
  deriving DecidableEq, Repr

/-- The first day of the calendar. -/
def Date.first : Date := ⟨-262143, 1, 1⟩

/-- The last day of the calendar. -/
def Date.last : Date := ⟨262142, 12, 31⟩

/-- Whether a day is in the calendar. -/
def Date.isValid (d : Date) : Bool :=
  Date.first.year ≤ d.year && d.year ≤ Date.last.year && 1 ≤ d.month && d.month ≤ 12 && 1 ≤ d.day
    && d.day ≤ monthLength d.year d.month

/-- A date: year, month and day with hyphens between. -/
def date? (cs : List Char) : Option (Date × List Char) := do
  let (year, cs) ← year? cs
  let (month, cs) ← number? 2 (← mark? '-' cs)
  let (day, cs) ← number? 2 (← mark? '-' cs)
  let date : Date := { year, month, day }
  if date.isValid then some (date, cs) else none

/-- A time of day, in seconds: hour, minute and second with colons between. A leap second belongs to
the second before it. -/
def clock? (cs : List Char) : Option (Nat × List Char) := do
  let (hour, cs) ← number? 2 cs
  let (minute, cs) ← number? 2 (← mark? ':' cs)
  let (second, cs) ← number? 2 (← mark? ':' cs)
  let cs ← fraction? cs
  if hour < 24 && minute < 60 && second ≤ 60 then
    some (3600 * hour + 60 * minute + min second 59, cs)
  else none

/-- Whether a time of day on some date is still in the calendar with an offset taken away. -/
def isInCalendar (date : Date) (second : Nat) (offset : Int) : Bool :=
  let universal : Int := second - offset
  (date != .first || 0 ≤ universal) && (date != .last || universal < 86400)

/-- Whether a text is a date and time. -/
def isText (s : String) : Bool :=
  let read : Option Bool := do
    match ← date? s.toList with
    | (date, c :: cs) =>
      if c != 'T' && c != 't' && c != ' ' then none
      let (second, cs) ← clock? cs
      let (offset, cs) ← zone? (skip cs)
      return (skip cs).isEmpty && isInCalendar date second offset
    | (_, []) => none
  read.getD false

end Moment
end ManagedDatabase
