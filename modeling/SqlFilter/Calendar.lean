/-!
# Dates and timestamps

Calendar dates of the proleptic Gregorian calendar and moments of a day in UTC, with the text
that is bound, displayed and written to JSON.

A year from 0 to 9999 takes four digits; any other carries its sign and at least four digits. So
within those years the texts of dates sort as the dates do. A moment may fall in a leap second,
which is held as a second 59 with a thousand million nanoseconds or more, and shown as `:60`. The
fraction of a second takes 0, 3, 6 or 9 digits, the fewest that are exact.

## Main definitions

* `Date`, `Date.of?`, `Date.text`.
* `Timestamp`, `Timestamp.of?`, `Timestamp.text` (`+00:00`), `Timestamp.zuluText` (`Z`).
-/

namespace SqlFilter

/-! ## Dates -/

/-- Whether a year has a 29th of February. -/
def isLeapYear (year : Int) : Bool :=
  year % 4 == 0 && (year % 100 != 0 || year % 400 == 0)

/-- The number of days in a month, counted from 1. -/
def daysInMonth (year : Int) (month : Nat) : Nat :=
  if month = 2 then (if isLeapYear year then 29 else 28)
  else if month = 4 ∨ month = 6 ∨ month = 9 ∨ month = 11 then 30
  else 31

/-- A day of the calendar. -/
structure Date where
  year : Int
  month : Nat
  day : Nat
  month_range : 1 ≤ month ∧ month ≤ 12
  day_range : 1 ≤ day ∧ day ≤ daysInMonth year month
  deriving DecidableEq

/-- The date with these parts, if the calendar has it. -/
def Date.of? (year : Int) (month day : Nat) : Option Date :=
  if hm : 1 ≤ month ∧ month ≤ 12 then
    if hd : 1 ≤ day ∧ day ≤ daysInMonth year month then some ⟨year, month, day, hm, hd⟩
    else none
  else none

/-- A number with zeros before it up to a width. -/
def padded (width n : Nat) : String :=
  let ds := Nat.toDigits 10 n
  String.ofList (List.replicate (width - ds.length) '0' ++ ds)

/-- A year: four digits from 0 to 9999, else a sign and at least four digits. -/
def yearText (year : Int) : String :=
  if 0 ≤ year ∧ year ≤ 9999 then padded 4 year.toNat
  else if year < 0 then "-" ++ padded 4 year.natAbs
  else "+" ++ padded 4 year.natAbs

/-- A date as `YYYY-MM-DD`. -/
def Date.text (d : Date) : String :=
  yearText d.year ++ "-" ++ padded 2 d.month ++ "-" ++ padded 2 d.day

/-! ## Timestamps -/

/-- A moment in UTC. `nanos` counts past the second, and runs on to a second thousand million in
a leap second, which only second 59 can have. -/
structure Timestamp where
  date : Date
  hour : Nat
  minute : Nat
  second : Nat
  nanos : Nat
  hour_lt : hour < 24
  minute_lt : minute < 60
  second_lt : second < 60
  nanos_lt : nanos < 2000000000
  leap : 1000000000 ≤ nanos → second = 59
  deriving DecidableEq

/-- The moment with these parts, if the clock has it. -/
def Timestamp.of? (date : Date) (hour minute second nanos : Nat) : Option Timestamp :=
  if h : hour < 24 ∧ minute < 60 ∧ second < 60 ∧ nanos < 2000000000 ∧
      (1000000000 ≤ nanos → second = 59) then
    some ⟨date, hour, minute, second, nanos, h.1, h.2.1, h.2.2.1, h.2.2.2.1, h.2.2.2.2⟩
  else none

/-- The fraction of a second: as few of 0, 3, 6 or 9 digits as are exact. -/
def fractionText (nanos : Nat) : String :=
  if nanos = 0 then ""
  else if nanos % 1000000 = 0 then "." ++ padded 3 (nanos / 1000000)
  else if nanos % 1000 = 0 then "." ++ padded 6 (nanos / 1000)
  else "." ++ padded 9 nanos

/-- A moment without a time zone. -/
def Timestamp.localText (t : Timestamp) : String :=
  t.date.text ++ "T" ++ padded 2 t.hour ++ ":" ++ padded 2 t.minute ++ ":" ++
    padded 2 (t.second + t.nanos / 1000000000) ++ fractionText (t.nanos % 1000000000)

/-- A moment with the zone as an offset, the form that is displayed and bound. -/
def Timestamp.text (t : Timestamp) : String := t.localText ++ "+00:00"

/-- A moment with the zone as a letter, the form that is written to JSON. -/
def Timestamp.zuluText (t : Timestamp) : String := t.localText ++ "Z"

end SqlFilter
