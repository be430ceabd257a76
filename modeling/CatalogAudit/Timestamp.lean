/-!
# Timestamps

A moment is counted from the beginning of 1970 in universal time. It is written as a date, a time of
day and the offset zero. The fraction of the second has three, six or nine digits, as few as say it
all, and is left out when it is zero.
-/

namespace CatalogAudit

/-- A moment in universal time. -/
structure Moment where
  /-- The seconds since the beginning of 1970. -/
  seconds : Nat
  /-- The nanoseconds since then, up to a second. -/
  nanoseconds : Nat
deriving DecidableEq, Repr

/-- A day of the calendar. -/
structure Date where
  /-- The year. -/
  year : Nat
  /-- The month, from one on. -/
  month : Nat
  /-- The day of the month, from one on. -/
  day : Nat
deriving DecidableEq, Repr

/-- The date that is a number of days after the beginning of 1970. The years of the computation
begin in March, so that the day that not every year has is the last one; the months from March on
come in groups of five that have 153 days each. -/
def Date.ofDays (days : Nat) : Date :=
  let shifted := days + 719468
  let inEra := shifted % 146097
  let yearOfEra := (inEra - inEra / 1460 + inEra / 36524 - inEra / 146096) / 365
  let inYear := inEra - (365 * yearOfEra + yearOfEra / 4 - yearOfEra / 100)
  let fromMarch := (5 * inYear + 2) / 153
  let month := if fromMarch < 10 then fromMarch + 3 else fromMarch - 9
  { year := shifted / 146097 * 400 + yearOfEra + if month ≤ 2 then 1 else 0
    month
    day := inYear - (153 * fromMarch + 2) / 5 + 1 }

example : Date.ofDays 0 = ⟨1970, 1, 1⟩ := by decide
example : Date.ofDays 11016 = ⟨2000, 2, 29⟩ := by decide
example : Date.ofDays 47541 = ⟨2100, 3, 1⟩ := by decide

namespace Moment

/-- The last `width` digits of a number. -/
def digits : (width : Nat) → Nat → List Char
  | 0, _ => []
  | width + 1, n => digits width (n / 10) ++ [Char.ofNat (n % 10 + 48)]

/-- The fraction of the second. -/
def fraction (m : Moment) : List Char :=
  if m.nanoseconds = 0 then []
  else if m.nanoseconds % 1000000 = 0 then '.' :: digits 3 (m.nanoseconds / 1000000)
  else if m.nanoseconds % 1000 = 0 then '.' :: digits 6 (m.nanoseconds / 1000)
  else '.' :: digits 9 m.nanoseconds

/-- The moment as a text. -/
def text (m : Moment) : List Char :=
  let date := Date.ofDays (m.seconds / 86400)
  let time := m.seconds % 86400
  digits 4 date.year ++ '-' :: digits 2 date.month ++ '-' :: digits 2 date.day ++
    'T' :: digits 2 (time / 3600) ++ ':' :: digits 2 (time / 60 % 60) ++
    ':' :: digits 2 (time % 60) ++ m.fraction ++ "+00:00".toList

/-- The moment as a string. -/
def toString (m : Moment) : String := String.ofList m.text

example : text ⟨951827696, 5000000⟩ = "2000-02-29T12:34:56.005+00:00".toList := by decide

end Moment

end CatalogAudit
