import Outreach.Calendar.Date
import Outreach.Text.Digit

/-!
Moments: a calendar date, a time of day to the microsecond, and an offset from universal time
where one is known. Moments are compared by the instant they name; one without offset is read as
universal time wherever a rule needs an instant.
-/

namespace Outreach

def microsecondsPerSecond : Nat := 1000000

def microsecondsPerDay : Nat := 86400000000

/-- A time of day. -/
structure ClockTime where
  hour : Nat
  minute : Nat
  second : Nat
  microsecond : Nat
  valid : hour < 24 ∧ minute < 60 ∧ second < 60 ∧ microsecond < microsecondsPerSecond
deriving DecidableEq, Repr

namespace ClockTime

def midnight : ClockTime := ⟨0, 0, 0, 0, by decide⟩

instance : Inhabited ClockTime := ⟨midnight⟩

/-- The time of day, if there is one with these parts. -/
def make? (hour minute second microsecond : Nat) : Option ClockTime :=
  if valid : hour < 24 ∧ minute < 60 ∧ second < 60 ∧ microsecond < microsecondsPerSecond then
    some ⟨hour, minute, second, microsecond, valid⟩
  else none

/-- Microseconds since midnight. -/
def sinceMidnight (t : ClockTime) : Nat :=
  (t.hour * 3600 + t.minute * 60 + t.second) * microsecondsPerSecond + t.microsecond

/-- The time so many microseconds after midnight; whole days do not count. -/
def ofMicroseconds (n : Nat) : ClockTime :=
  let rest := n % microsecondsPerDay
  let seconds := rest / microsecondsPerSecond
  { hour := seconds / 3600
    minute := seconds / 60 % 60
    second := seconds % 60
    microsecond := rest % microsecondsPerSecond
    valid := by
      have bound : rest < microsecondsPerDay := Nat.mod_lt _ (by decide)
      simp only [microsecondsPerDay] at bound
      simp only [seconds, microsecondsPerSecond]
      omega }

theorem sinceMidnight_ofMicroseconds (n : Nat) :
    (ofMicroseconds n).sinceMidnight = n % microsecondsPerDay := by
  simp only [sinceMidnight, ofMicroseconds, microsecondsPerSecond, microsecondsPerDay]
  omega

end ClockTime

/-- A distance from universal time of less than a day; positive ones lie ahead of it. -/
structure Offset where
  microseconds : Int
  bounded : microseconds.natAbs < microsecondsPerDay
deriving DecidableEq, Repr

namespace Offset

def zero : Offset := ⟨0, by decide⟩

def make? (microseconds : Int) : Option Offset :=
  if bounded : microseconds.natAbs < microsecondsPerDay then some ⟨microseconds, bounded⟩ else none

end Offset

structure Moment where
  date : Date
  time : ClockTime
  /-- Nothing for a wall-clock time. -/
  offset : Option Offset
deriving DecidableEq, Repr, Inhabited

namespace Moment

/-- Midnight of a date, without offset. -/
def ofDate (date : Date) : Moment := ⟨date, .midnight, none⟩

/-- Microseconds of the clock reading, counted from the day before year 1. -/
def clock (m : Moment) : Int := m.date.ordinal * microsecondsPerDay + m.time.sinceMidnight

/-- The offset in microseconds; a wall-clock time is taken as universal time. -/
def shift (m : Moment) : Int := (m.offset.map (·.microseconds)).getD 0

/-- The instant in microseconds. -/
def instant (m : Moment) : Int := m.clock - m.shift

/-- The moment as universal time if it has no offset of its own. -/
def inUniversalTime (m : Moment) : Moment := { m with offset := some (m.offset.getD .zero) }

theorem instant_inUniversalTime (m : Moment) : m.inUniversalTime.instant = m.instant := by
  rcases m with ⟨date, time, offset⟩
  cases offset <;> rfl

/-- The clock reading alone, which is what a table keeps. -/
def wallClock (m : Moment) : Moment := { m with offset := none }

/-- The clock reading so many microseconds after the day before year 1, if the calendar has it. -/
def ofClock? (clock : Int) (offset : Option Offset) : Option Moment :=
  (Date.ofOrdinal? (clock / microsecondsPerDay).toNat).map fun date =>
    ⟨date, .ofMicroseconds (clock % microsecondsPerDay).toNat, offset⟩

/-- The day count of 1 January 1970. -/
def epochDay : Nat := 719163

/-- Microseconds since 1970 began in universal time. -/
def sinceEpoch (m : Moment) : Int := m.instant - (epochDay * microsecondsPerDay : Nat)

/-- The moment in universal time so many microseconds after 1970 began. -/
def ofEpoch? (microseconds : Int) : Option Moment :=
  ofClock? (microseconds + (epochDay * microsecondsPerDay : Nat)) (some .zero)

/-- Whole seconds since 1970 began, rounded down. -/
def epochSeconds (m : Moment) : Int := m.sinceEpoch / microsecondsPerSecond

/-- The clock time without the fraction of the second. -/
def wholeSeconds (m : Moment) : Moment :=
  { m with time := { m.time with
      microsecond := 0
      valid := ⟨m.time.valid.1, m.time.valid.2.1, m.time.valid.2.2.1, by decide⟩ } }

/-! ### Written form -/

def dateText (d : Date) : List Char :=
  Text.padded 4 d.year ++ '-' :: Text.padded 2 d.month ++ '-' :: Text.padded 2 d.day

def fractionText (microsecond : Nat) : List Char :=
  if microsecond = 0 then [] else '.' :: Text.padded 6 microsecond

def timeText (t : ClockTime) : List Char :=
  Text.padded 2 t.hour ++ ':' :: Text.padded 2 t.minute ++ ':' :: Text.padded 2 t.second ++
    fractionText t.microsecond

/-- An offset as hours and minutes, with seconds and their fraction only where they are not zero. -/
def offsetText (offset : Offset) : List Char :=
  let size := offset.microseconds.natAbs
  let seconds := size / microsecondsPerSecond
  let fraction := size % microsecondsPerSecond
  (if offset.microseconds < 0 then '-' else '+') ::
    (Text.padded 2 (seconds / 3600) ++ ':' :: Text.padded 2 (seconds / 60 % 60) ++
      (if seconds % 60 = 0 ∧ fraction = 0 then []
       else ':' :: Text.padded 2 (seconds % 60) ++ fractionText fraction))

/-- The moment as text, with the given character between date and time. -/
def toText (separator : Char) (m : Moment) : List Char :=
  dateText m.date ++ separator :: timeText m.time ++ (m.offset.map offsetText).getD []

end Moment

end Outreach
