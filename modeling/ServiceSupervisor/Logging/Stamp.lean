/-!
  Logging/Stamp.lean --- the time of a record, as it is written in front of it.

  Times are counted from the first day of the year 1970.  They are written in
  universal time, to the millisecond.
-/

set_option autoImplicit false

namespace ServiceSupervisor.Logging

/-- A day of the calendar. -/
structure Date where
  year : Nat
  month : Nat
  day : Nat
  deriving DecidableEq, Repr, Inhabited

namespace Date

/-- The days from the first of March in the year 0 to the day that times are
counted from. -/
def daysBefore : Nat := 719468

/-- The date of the `n`-th day.  Years are taken to begin in March: a leap day is
then the last of its year, and the lengths of the months repeat every five. -/
def ofDay (n : Nat) : Date :=
  let cycle := (n + daysBefore) / 146097
  let d := (n + daysBefore) % 146097
  let y := (d - d / 1460 + d / 36524 - d / 146096) / 365
  let inYear := d - (365 * y + y / 4 - y / 100)
  let m := (5 * inYear + 2) / 153
  let month := if m < 10 then m + 3 else m - 9
  ⟨400 * cycle + y + (if month ≤ 2 then 1 else 0), month, inYear - (153 * m + 2) / 5 + 1⟩

example : ofDay 0 = ⟨1970, 1, 1⟩ := by decide

example : ofDay 11016 = ⟨2000, 2, 29⟩ ∧ ofDay 11017 = ⟨2000, 3, 1⟩ := by decide

end Date

/-- A number with zeros in front, to at least `width` digits. -/
def padded (width n : Nat) : String :=
  let digits := Nat.toDigits 10 n
  String.ofList (List.replicate (width - digits.length) '0' ++ digits)

/-- The stamp of a time, in seconds and milliseconds. -/
def stamp (seconds millis : Nat) : String :=
  let date := Date.ofDay (seconds / 86400)
  let second := seconds % 86400
  padded 4 date.year ++ "-" ++ padded 2 date.month ++ "-" ++ padded 2 date.day ++ " " ++
    padded 2 (second / 3600) ++ ":" ++ padded 2 (second / 60 % 60) ++ ":" ++
    padded 2 (second % 60) ++ "." ++ padded 3 millis ++ " +0000"

end ServiceSupervisor.Logging
