/-!
# Calendar

Dates and moments of the proleptic Gregorian calendar, years 1 to 9999.  A value of `Date` or
`Moment` is a valid one: both carry the proof.  `Moment.instant` is the count of microseconds that
two moments with an offset are compared by.
-/

namespace CompilerRunner

/-- A year with a twenty-ninth of February. -/
def isLeapYear (y : Nat) : Bool := y % 4 == 0 && (y % 100 != 0 || y % 400 == 0)

/-- The days of a month, none for a number that is no month's. -/
def daysInMonth (y m : Nat) : Nat :=
  match m with
  | 1 | 3 | 5 | 7 | 8 | 10 | 12 => 31
  | 4 | 6 | 9 | 11 => 30
  | 2 => if isLeapYear y then 29 else 28
  | _ => 0

/-- A day of the calendar. -/
structure Date where
  year : Nat
  month : Nat
  day : Nat
  valid : 1 ≤ year ∧ year ≤ 9999 ∧ 1 ≤ day ∧ day ≤ daysInMonth year month
deriving DecidableEq

/-- The day with these numbers, if there is one. -/
def Date.of? (year month day : Nat) : Option Date :=
  if h : 1 ≤ year ∧ year ≤ 9999 ∧ 1 ≤ day ∧ day ≤ daysInMonth year month then
    some ⟨year, month, day, h⟩
  else none

/-- `n` in at least `width` digits. -/
def padded (width n : Nat) : String :=
  let ds := Nat.toDigits 10 n
  String.ofList (List.replicate (width - ds.length) '0' ++ ds)

/-- Year, month and day, with hyphens. -/
def Date.iso (d : Date) : String :=
  padded 4 d.year ++ "-" ++ padded 2 d.month ++ "-" ++ padded 2 d.day

/-- The days from the start of the calendar to the start of the date's year, and from there to the
date. -/
def Date.dayNumber (d : Date) : Nat :=
  let y := d.year - 1
  let before := (List.range d.month).foldl (fun days m => days + daysInMonth d.year m) 0
  365 * y + y / 4 - y / 100 + y / 400 + before + d.day

/-- A time of a day, with the minutes that its clock is ahead of UTC where that is known. -/
structure Moment where
  date : Date
  hour : Nat
  minute : Nat
  second : Nat
  microsecond : Nat
  offset : Option Int
  valid : hour < 24 ∧ minute < 60 ∧ second < 60 ∧ microsecond < 1000000
    ∧ ∀ o ∈ offset, -1440 < o ∧ o < 1440
deriving DecidableEq

/-- The moment with these numbers, if there is one. -/
def Moment.of? (date : Date) (hour minute second microsecond : Nat) (offset : Option Int) :
    Option Moment :=
  if h : hour < 24 ∧ minute < 60 ∧ second < 60 ∧ microsecond < 1000000
      ∧ ∀ o ∈ offset, -1440 < o ∧ o < 1440 then
    some ⟨date, hour, minute, second, microsecond, offset, h⟩
  else none

/-- Date and time with `sep` between them; a fraction is written only if there is one. -/
def Moment.iso (sep : String) (t : Moment) : String :=
  let fraction := if t.microsecond = 0 then "" else "." ++ padded 6 t.microsecond
  let zone :=
    match t.offset with
    | none => ""
    | some o =>
      (if o < 0 then "-" else "+") ++ padded 2 (o.natAbs / 60) ++ ":" ++ padded 2 (o.natAbs % 60)
  t.date.iso ++ sep ++ padded 2 t.hour ++ ":" ++ padded 2 t.minute ++ ":" ++ padded 2 t.second
    ++ fraction ++ zone

/-- The microseconds since the start of the calendar, less the offset. -/
def Moment.instant (t : Moment) : Int :=
  let minutes : Int := (t.date.dayNumber * 24 + t.hour) * 60 + t.minute - t.offset.getD 0
  (minutes * 60 + t.second) * 1000000 + t.microsecond

/-- Two moments are the same if both have an offset and are the same instant, or neither has one and
they read the same. -/
def Moment.same (s t : Moment) : Bool :=
  s.offset.isSome == t.offset.isSome && s.instant == t.instant

end CompilerRunner
