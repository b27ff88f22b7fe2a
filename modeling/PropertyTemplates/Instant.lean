import PropertyTemplates.Decimal.Numeral
import PropertyTemplates.Text.Blank

namespace PropertyTemplates

open Decimal Text

-- A day of the Gregorian calendar, extended to all years.
structure Day where
  year : Int
  month : Nat
  day : Nat
deriving DecidableEq, Repr

def isLeapYear (year : Int) : Bool := (year % 4 == 0 && year % 100 != 0) || year % 400 == 0

def daysInMonth (year : Int) (month : Nat) : Nat :=
  if month = 2 then if isLeapYear year then 29 else 28
  else if month = 4 ∨ month = 6 ∨ month = 9 ∨ month = 11 then 30
  else 31

-- A day that exists, in a year that the calendar covers.
def Day.Valid (d : Day) : Prop :=
  -262143 ≤ d.year ∧ d.year ≤ 262142 ∧ 1 ≤ d.month ∧ d.month ≤ 12 ∧ 1 ≤ d.day ∧
    d.day ≤ daysInMonth d.year d.month

instance (d : Day) : Decidable d.Valid := by unfold Day.Valid; infer_instance

def Day.next (d : Day) : Day :=
  if d.day < daysInMonth d.year d.month then { d with day := d.day + 1 }
  else if d.month < 12 then ⟨d.year, d.month + 1, 1⟩
  else ⟨d.year + 1, 1, 1⟩

def Day.previous (d : Day) : Day :=
  if 1 < d.day then { d with day := d.day - 1 }
  else if 1 < d.month then ⟨d.year, d.month - 1, daysInMonth d.year (d.month - 1)⟩
  else ⟨d.year - 1, 12, 31⟩

def nanosPerSecond : Nat := 1000000000

-- A time of day; second 60 is a leap second.
structure TimeOfDay where
  hour : Nat
  minute : Nat
  second : Nat
  nano : Nat
deriving DecidableEq, Repr

def TimeOfDay.Valid (t : TimeOfDay) : Prop :=
  t.hour ≤ 23 ∧ t.minute ≤ 59 ∧ t.second ≤ 60 ∧ t.nano < nanosPerSecond

instance (t : TimeOfDay) : Decidable t.Valid := by unfold TimeOfDay.Valid; infer_instance

-- A point in time, given by its day and time of day in UTC.
structure Instant where
  date : Day
  time : TimeOfDay
  date_valid : date.Valid
  time_valid : time.Valid
deriving DecidableEq

namespace Instant

def ofParts? (date : Day) (time : TimeOfDay) : Option Instant :=
  if h : date.Valid ∧ time.Valid then some ⟨date, time, h.1, h.2⟩ else none

-- The instant that a local day and time name where clocks run `offset` minutes ahead of UTC, with
-- less than a day between the two. Leap seconds keep their second.
def ofLocal? (date : Day) (time : TimeOfDay) (offset : Int) : Option Instant :=
  if date.Valid ∧ time.Valid ∧ offset.natAbs < 24 * 60 then
    let minutes : Int := time.hour * 60 + time.minute - offset
    let ofDay (d : Day) (m : Int) :=
      ofParts? d { time with hour := (m / 60).toNat, minute := (m % 60).toNat }
    if minutes < 0 then ofDay date.previous (minutes + 24 * 60)
    else if minutes < 24 * 60 then ofDay date minutes
    else ofDay date.next (minutes - 24 * 60)
  else none

-- Years from 0 to 9999 have four digits; others have a sign and at least four.
def yearText (year : Int) : List Char :=
  if 0 ≤ year ∧ year ≤ 9999 then padded 4 year.toNat
  else (if year < 0 then '-' else '+') :: padded 4 year.natAbs

def dateText (d : Day) : List Char :=
  yearText d.year ++ '-' :: padded 2 d.month ++ '-' :: padded 2 d.day

def clockText (t : TimeOfDay) : List Char :=
  padded 2 t.hour ++ ':' :: padded 2 t.minute ++ ':' :: padded 2 t.second

-- The fraction of a second in three, six or nine digits, whichever is exact first.
def fractionText (nano : Nat) : List Char :=
  if nano = 0 then []
  else if nano % 1000000 = 0 then '.' :: padded 3 (nano / 1000000)
  else if nano % 1000 = 0 then '.' :: padded 6 (nano / 1000)
  else '.' :: padded 9 nano

-- The text of RFC 3339 for a day and a time of day in UTC, such as 2024-05-01T10:20:30.250Z.
def textOf (d : Day) (t : TimeOfDay) : String :=
  String.ofList (dateText d ++ 'T' :: clockText t ++ fractionText t.nano ++ ['Z'])

def toText (i : Instant) : String := textOf i.date i.time

-- Day and clock time to the second, with a space between them.
def display (i : Instant) : String :=
  String.ofList (dateText i.date ++ ' ' :: clockText i.time)

-- A run of digits at the front, of which at most `most` are taken; at least one is needed.
def digits? (most : Nat) (cs : List Char) : Option (List Char × List Char) :=
  let run := (cs.takeWhile isDigit).take most
  if run.isEmpty then none else some (run, cs.drop run.length)

-- A number after optional blanks.
def number? (most : Nat) (cs : List Char) : Option (Nat × List Char) :=
  (digits? most (skipBlanks cs)).map fun (run, rest) => (value run, rest)

-- A year: four digits at most, or a sign and any number of them.
def year? (cs : List Char) : Option (Int × List Char) :=
  match skipBlanks cs with
  | '-' :: rest => (digits? rest.length rest).map fun (run, rest) => (-(value run : Int), rest)
  | '+' :: rest => (digits? rest.length rest).map fun (run, rest) => ((value run : Int), rest)
  | rest => (digits? 4 rest).map fun (run, rest) => ((value run : Int), rest)

-- The text after a mark that optional blanks may precede.
def mark? (mark : Char) (cs : List Char) : Option (List Char) :=
  match skipBlanks cs with
  | c :: rest => if c = mark then some rest else none
  | [] => none

-- The nanoseconds after a point; digits after the ninth are dropped.
def fraction? (cs : List Char) : Option (Nat × List Char) :=
  match cs with
  | '.' :: rest => (digits? 9 rest).map fun (run, _) =>
      (value run * Nat.pow 10 (9 - run.length), rest.dropWhile isDigit)
  | _ => some (0, cs)

-- The minutes that a zone is ahead of UTC: Z or UTC, or a sign, two digits for the hours, optional
-- colons and blanks, and two digits for the minutes.
def zone? (cs : List Char) : Option (Int × List Char) :=
  match cs with
  | c :: rest =>
    if c = 'Z' || c = 'z' then some (0, rest)
    else if (cs.take 3).map Char.toUpper = ['U', 'T', 'C'] then some (0, cs.drop 3)
    else if c = '+' || c = '-' || c = '\u2212' then
      match rest with
      | h :: h' :: rest =>
        match rest.dropWhile fun c => c == ':' || isBlank c with
        | m :: m' :: rest =>
          if [h, h', m, m'].all isDigit && digitValue m ≤ 5 then
            let minutes : Int := value [h, h'] * 60 + value [m, m']
            some (if c = '+' then minutes else -minutes, rest)
          else none
        | _ => none
      | _ => none
    else none
  | [] => none

-- Reads a date and time with a zone. Parts may have fewer digits than usual, blanks may stand
-- before each of them, and a blank or a small letter may separate the day from the time.
def parse (s : String) : Option Instant := do
  let (year, cs) ← year? s.toList
  let (month, cs) ← number? 2 (← mark? '-' cs)
  let (day, cs) ← number? 2 (← mark? '-' cs)
  let c :: cs := cs | none
  if c ≠ 'T' ∧ c ≠ 't' ∧ c ≠ ' ' then none
  let (hour, cs) ← number? 2 cs
  let (minute, cs) ← number? 2 (← mark? ':' cs)
  let (second, cs) ← number? 2 (← mark? ':' cs)
  let (nano, cs) ← fraction? cs
  let (offset, cs) ← zone? (skipBlanks cs)
  if cs.isEmpty then ofLocal? ⟨year, month, day⟩ ⟨hour, minute, second, nano⟩ offset else none

end Instant

end PropertyTemplates
