/-
**Points in time.**

A point in time is a number of seconds since the start of 1970. It is shown as date and time of
day without a zone.

* `daysBeforeMonth_next`: a month starts when the one before it ends.
-/

import RouteTable.Text.Hex

namespace RouteTable.Log

/-- A date of the calendar. -/
structure Date where
  year : Int
  month : Nat
  day : Nat
deriving DecidableEq, Repr

/-- The days of a year, counted from the first of March, before its month `index`. -/
def daysBeforeMonth (index : Nat) : Nat := (153 * index + 2) / 5

theorem daysBeforeMonth_next :
    (List.range 11).map (fun index => daysBeforeMonth (index + 1) - daysBeforeMonth index) =
      [31, 30, 31, 30, 31, 31, 30, 31, 30, 31, 31] := by decide

/-- The date of a number of days since the start of 1970. Years are counted from March, and 400 of
them have 146097 days. -/
def Date.ofDays (days : Int) : Date :=
  let shifted := days + 719468
  let cycle := shifted / 146097
  let inCycle := (shifted % 146097).toNat
  let year := (inCycle - inCycle / 1460 + inCycle / 36524 - inCycle / 146096) / 365
  let inYear := inCycle - (365 * year + year / 4 - year / 100)
  let index := (5 * inYear + 2) / 153
  let month := if index < 10 then index + 3 else index - 9
  { year := cycle * 400 + year + (if month ≤ 2 then 1 else 0)
    month
    day := inYear - daysBeforeMonth index + 1 }

/-- A number with at least a number of digits. -/
def padded (width number : Nat) : List Char :=
  let digits := Nat.toDigits 10 number
  List.replicate (width - digits.length) '0' ++ digits

/-- A point in time as date and time of day. -/
def timestamp (seconds : Int) : String :=
  let date := Date.ofDays (seconds / 86400)
  let second := (seconds % 86400).toNat
  let year := (if date.year < 0 then ['-'] else []) ++ padded 4 date.year.natAbs
  String.ofList <|
    year ++ '-' :: padded 2 date.month ++ '-' :: padded 2 date.day ++ 'T' ::
      padded 2 (second / 3600) ++ ':' :: padded 2 (second / 60 % 60) ++ ':' :: padded 2 (second % 60)

end RouteTable.Log
