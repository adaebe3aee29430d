import CaseGrid.Number.Rounding

/-
  Dates and times of the Gregorian calendar, as YAML documents hold them. A time may carry an
  offset from universal time in minutes; two times are equal if they name the same instant,
  and a time without an offset never equals one that has one.
-/

namespace CaseGrid

open CaseGrid.Number (paddedDigits)

/-- A day of the years 1 to 9999. -/
structure Date where
  year : Nat
  month : Nat
  day : Nat
  deriving DecidableEq, Repr, Inhabited

/-- A day and a time of day, to the microsecond. -/
structure Timestamp where
  date : Date
  hour : Nat
  minute : Nat
  second : Nat
  micro : Nat
  /-- Minutes ahead of universal time. -/
  offset : Option Int
  deriving DecidableEq, Repr, Inhabited

/-- Why three or more numbers name no day or time. -/
inductive CalendarError where
  | year (year : Nat)
  | month
  | day
  | hour
  | minute
  | second
  | offset (minutes : Int)
  deriving DecidableEq, Repr

namespace Date

/-- Whether a year has a 29 February. -/
def isLeap (year : Nat) : Bool :=
  year % 4 == 0 && (year % 100 != 0 || year % 400 == 0)

/-- The number of days of a month. -/
def daysIn (year month : Nat) : Nat :=
  match month with
  | 2 => if isLeap year then 29 else 28
  | 4 | 6 | 9 | 11 => 30
  | _ => 31

/-- The day of three numbers, if there is one. -/
def make (year month day : Nat) : Except CalendarError Date :=
  if year = 0 ∨ year > 9999 then .error (.year year)
  else if month = 0 ∨ month > 12 then .error .month
  else if day = 0 ∨ day > daysIn year month then .error .day
  else .ok ⟨year, month, day⟩

/-- The number of days before the first of a month, within its year. -/
def daysBeforeMonth (year : Nat) : Nat → Nat
  | 0 => 0
  | 1 => 0
  | month + 1 => daysBeforeMonth year month + daysIn year month

/-- The number of a day, counted from 1 January of the year 1. -/
def number (d : Date) : Nat :=
  let y := d.year - 1
  y * 365 + y / 4 - y / 100 + y / 400 + daysBeforeMonth d.year d.month + d.day

/-- Year, month and day with hyphens. -/
def iso (d : Date) : String :=
  String.ofList (paddedDigits 4 d.year ++ '-' :: paddedDigits 2 d.month ++
    '-' :: paddedDigits 2 d.day)

end Date

/-- The cause in words. -/
def CalendarError.message : CalendarError → String
  | .year y => "year " ++ toString y ++ " is out of range"
  | .month => "month must be in 1..12"
  | .day => "day is out of range for month"
  | .hour => "hour must be in 0..23"
  | .minute => "minute must be in 0..59"
  | .second => "second must be in 0..59"
  | .offset minutes =>
    let days := minutes / 1440
    let seconds := minutes % 1440 * 60
    let parts :=
      (if days = 0 then [] else ["days=" ++ toString days]) ++
        (if seconds = 0 then [] else ["seconds=" ++ toString seconds])
    "offset must be a timedelta strictly between -timedelta(hours=24) and timedelta(hours=24), " ++
      "not datetime.timedelta(" ++ ", ".intercalate parts ++ ")."

namespace Timestamp

/-- The time of its parts, if there is one. An offset has to be shorter than a day. -/
def make (year month day hour minute second micro : Nat) (offset : Option Int) :
    Except CalendarError Timestamp := do
  match offset with
  | some minutes =>
    if minutes ≤ -1440 ∨ 1440 ≤ minutes then throw (.offset minutes)
  | none => pure ()
  let date ← Date.make year month day
  if hour > 23 then throw .hour
  if minute > 59 then throw .minute
  if second > 59 then throw .second
  return ⟨date, hour, minute, second, micro, offset⟩

/-- Microseconds since the start of the year 1, in universal time if the offset is known. -/
def instant (t : Timestamp) : Int :=
  let minutes : Int := (t.date.number * 24 + t.hour) * 60 + t.minute - t.offset.getD 0
  (minutes * 60 + t.second) * 1000000 + t.micro

/-- Whether two times name the same instant, both with an offset or both without. -/
def same (a b : Timestamp) : Bool :=
  a.offset.isSome == b.offset.isSome && a.instant == b.instant

/-- Sign, hours and minutes of an offset. -/
def offsetText (minutes : Int) : List Char :=
  let n := minutes.natAbs
  (if minutes < 0 then '-' else '+') :: (paddedDigits 2 (n / 60) ++ ':' :: paddedDigits 2 (n % 60))

/-- Date and time with `between` between them; microseconds only if there are any. -/
def iso (between : Char) (t : Timestamp) : String :=
  t.date.iso ++ String.ofList (between :: (paddedDigits 2 t.hour ++ ':' :: paddedDigits 2 t.minute ++
    ':' :: paddedDigits 2 t.second ++
    (if t.micro = 0 then [] else '.' :: paddedDigits 6 t.micro) ++
    (match t.offset with
      | none => []
      | some minutes => offsetText minutes)))

end Timestamp

example : (Date.mk 2001 12 14).iso = "2001-12-14" := by decide +kernel
example : Date.number ⟨1970, 1, 1⟩ = 719163 := by decide +kernel
example : (Timestamp.mk ⟨2001, 12, 14⟩ 21 59 43 100000 (some (-300))).iso 'T' =
    "2001-12-14T21:59:43.100000-05:00" := by decide +kernel

end CaseGrid
