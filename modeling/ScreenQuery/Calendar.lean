import ScreenQuery.Text.Numeral

/-!
# Calendar times

* `utcText` writes a moment, given in nanoseconds since the start of 1970, as date and time in UTC
  with as many groups of three decimals as it needs.
* Dates are counted from the first of March, so that the day of a leap year comes last.

`utcText` is how `captured_at` of a snapshot is written. Out of scope: moments before 1970 and leap
seconds.
-/

namespace ScreenQuery.Calendar

/-- A date of the Gregorian calendar. -/
structure Date where
  year : Nat
  month : Nat
  day : Nat
  deriving DecidableEq, Repr

/-- The days from the first of March of year 0 to the start of 1970. -/
def daysBefore1970 : Nat := 719468

/-- The days of four hundred years. -/
def daysOfCycle : Nat := 146097

/-- The date some days after the first of March of year 0. -/
def dateOfDays (days : Nat) : Date :=
  let cycle := days / daysOfCycle
  let inCycle := days % daysOfCycle
  let yearOfCycle :=
    (inCycle - inCycle / 1460 + inCycle / 36524 - inCycle / (daysOfCycle - 1)) / 365
  let dayOfYear := inCycle - (365 * yearOfCycle + yearOfCycle / 4 - yearOfCycle / 100)
  let monthFromMarch := (5 * dayOfYear + 2) / 153
  let day := dayOfYear - (153 * monthFromMarch + 2) / 5 + 1
  let month := if monthFromMarch < 10 then monthFromMarch + 3 else monthFromMarch - 9
  let year := 400 * cycle + yearOfCycle + if month ≤ 2 then 1 else 0
  ⟨year, month, day⟩

/-- A number in decimal, filled up with zeros to `width`. -/
def padded (width n : Nat) : Text :=
  List.replicate (width - (Text.ofNat n).length) '0' ++ Text.ofNat n

/-- The decimals of a second, in groups of three. -/
def decimals (nanoseconds : Nat) : Text :=
  if nanoseconds = 0 then []
  else if nanoseconds % 1000000 = 0 then '.' :: padded 3 (nanoseconds / 1000000)
  else if nanoseconds % 1000 = 0 then '.' :: padded 6 (nanoseconds / 1000)
  else '.' :: padded 9 nanoseconds

/-- A moment as date and time in UTC. -/
def utcText (nanoseconds : Nat) : Text :=
  let seconds := nanoseconds / 1000000000
  let date := dateOfDays (daysBefore1970 + seconds / 86400)
  let time := seconds % 86400
  padded 4 date.year ++ '-' :: padded 2 date.month ++ '-' :: padded 2 date.day ++ 'T' ::
    padded 2 (time / 3600) ++ ':' :: padded 2 (time / 60 % 60) ++ ':' :: padded 2 (time % 60) ++
    decimals (nanoseconds % 1000000000) ++ ['Z']

end ScreenQuery.Calendar
