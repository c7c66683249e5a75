/-!
Calendar dates of the years 1 to 9999, and their number in the day count that begins with 1 on the
first day of year 1. Weeks begin on Monday; the first week of a year is the one with its first
Thursday.
-/

namespace Outreach

namespace Date

def isLeapYear (year : Nat) : Bool :=
  year % 4 = 0 && (year % 100 ≠ 0 || year % 400 = 0)

def daysInMonth (year month : Nat) : Nat :=
  if month = 2 then (if isLeapYear year then 29 else 28)
  else if month = 4 ∨ month = 6 ∨ month = 9 ∨ month = 11 then 30
  else 31

/-- Whether there is such a day. -/
def exists? (year month day : Nat) : Bool :=
  1 ≤ year && year ≤ 9999 && 1 ≤ month && month ≤ 12 && 1 ≤ day && day ≤ daysInMonth year month

end Date

structure Date where
  year : Nat
  month : Nat
  day : Nat
  valid : Date.exists? year month day = true
deriving DecidableEq, Repr

namespace Date

/-- The first day of the calendar. -/
def first : Date := ⟨1, 1, 1, by decide⟩

instance : Inhabited Date := ⟨first⟩

/-- The date, if there is such a day. -/
def make? (year month day : Nat) : Option Date :=
  if valid : exists? year month day = true then some ⟨year, month, day, valid⟩ else none

/-- The number of days before the first day of a year. -/
def daysBeforeYear (year : Nat) : Nat :=
  let past := year - 1
  past * 365 + past / 4 - past / 100 + past / 400

/-- The number of days of a year before the first day of a month. -/
def daysBeforeMonth (year month : Nat) : Nat :=
  ((List.range month).drop 1).foldl (fun days m => days + daysInMonth year m) 0

/-- The number of the day, counted from 1. -/
def ordinal (d : Date) : Nat :=
  daysBeforeYear d.year + daysBeforeMonth d.year d.month + d.day

/-- Month and day from the number of days since a year began, looking from the given month on. -/
def monthFrom (year : Nat) : (months month days : Nat) → Nat × Nat
  | 0, month, days => (month, days + 1)
  | months + 1, month, days =>
      if days < daysInMonth year month then (month, days + 1)
      else monthFrom year months (month + 1) (days - daysInMonth year month)

/-- Year, month and day of the day with the given number. Four centuries, a century and four years
have a fixed number of days each, apart from the last day of a leap year that closes them. -/
def civil (ordinal : Nat) : Nat × Nat × Nat :=
  let days := ordinal - 1
  let eras := days / 146097
  let inEra := days % 146097
  let centuries := min (inEra / 36524) 3
  let inCentury := inEra - centuries * 36524
  let quads := inCentury / 1461
  let inQuad := inCentury % 1461
  let years := min (inQuad / 365) 3
  let inYear := inQuad - years * 365
  let year := eras * 400 + centuries * 100 + quads * 4 + years + 1
  let (month, day) := monthFrom year 11 1 inYear
  (year, month, day)

/-- The date with the given number, if the calendar has it. -/
def ofOrdinal? (ordinal : Nat) : Option Date :=
  if ordinal = 0 then none
  else
    let (year, month, day) := civil ordinal
    make? year month day

/-- The day of the week, Monday being 0. -/
def weekday (d : Date) : Nat := (d.ordinal + 6) % 7

/-- The number of the Monday of a year's first week. It may lie before the first day of year 1. -/
def firstMonday (year : Nat) : Int :=
  let first := daysBeforeYear year + 1
  let weekday := (first + 6) % 7
  let monday : Int := first - weekday
  if 3 < weekday then monday + 7 else monday

/-- The date of a week day (Monday being 1) in a numbered week of a year. -/
def ofWeek? (year week day : Nat) : Option Date :=
  let last := if firstMonday (year + 1) - firstMonday year = 371 then 53 else 52
  if 1 ≤ year ∧ year ≤ 9999 ∧ 1 ≤ week ∧ week ≤ last ∧ 1 ≤ day ∧ day ≤ 7 then
    let number := firstMonday year + (week - 1 : Nat) * 7 + (day - 1 : Nat)
    ofOrdinal? number.toNat
  else none

end Date

end Outreach
