import Outreach.Calendar.Moment
import Outreach.Number.Binary64
import Outreach.Number.Decimal

/-!
Moments in exchanged data: date and time with an optional offset, a plain date, or a count of
seconds since 1970, which counts milliseconds when it is large. A text that is none of these is
refused for the reason why it is no date.
-/

namespace Outreach.Instant

abbrev Bytes := List UInt8

/-- Why there is no moment. -/
inductive Refusal where
  | tooShort
  | badYear
  | badMonth
  | badDay
  | badSeparator
  | monthOutOfRange
  | dayOutOfRange
  | extraCharacters
  | tooEarly
  | tooLate
  | notANumber
  /-- The year is zero, which is found out last. -/
  | yearZero
deriving DecidableEq, Repr

def Refusal.reason : Refusal → String
  | tooShort => "input is too short"
  | badYear => "invalid character in year"
  | badMonth => "invalid character in month"
  | badDay => "invalid character in day"
  | badSeparator => "invalid date separator, expected `-`"
  | monthOutOfRange => "month value is outside expected range of 1-12"
  | dayOutOfRange => "day value is outside expected range"
  | extraCharacters => "unexpected extra characters at the end of the input"
  | tooEarly => "dates before 0000 are not supported as unix timestamps"
  | tooLate => "dates after 9999 are not supported as unix timestamps"
  | notANumber => "NaN values not permitted"
  | yearZero => "year 0 is out of range"

/-- A byte that is the character. -/
def isChar (c : Char) (byte : UInt8) : Bool := byte.toNat = c.toNat

def digit? (byte : UInt8) : Option Nat :=
  if 48 ≤ byte.toNat ∧ byte.toNat ≤ 57 then some (byte.toNat - 48) else none

/-- A number of exactly so many digits, and what follows it. -/
def digits? : (count : Nat) → Bytes → Option (Nat × Bytes)
  | 0, rest => some (0, rest)
  | count + 1, byte :: rest => do
      let d ← digit? byte
      let (n, rest) ← digits? count rest
      some (d * powerOfTen count + n, rest)
  | _ + 1, [] => none

/-- A hyphen, and what follows it. -/
def hyphen? : Bytes → Option Bytes
  | byte :: rest => if isChar '-' byte then some rest else none
  | [] => none

/-- What an optional part must not lack. -/
def orRefuse {α : Type} (refusal : Refusal) : Option α → Except Refusal α
  | some a => .ok a
  | none => .error refusal

/-- A date as it is written; there is none to stand for a day of the year zero, which has the days
of a leap year. -/
def dayOf (year month day : Nat) : Except Refusal (Option Date) :=
  if year = 0 then orRefuse .dayOutOfRange ((Date.make? 4 month day).map fun _ => none)
  else orRefuse .dayOutOfRange ((Date.make? year month day).map some)

/-- The date at the start of a text, and what follows it. -/
def datePart (text : Bytes) : Except Refusal (Option Date × Bytes) := do
  if text.length < 10 then .error .tooShort
  let (year, rest) ← orRefuse .badYear (digits? 4 text)
  let rest ← orRefuse .badSeparator (hyphen? rest)
  let (month, rest) ← orRefuse .badMonth (digits? 2 rest)
  let rest ← orRefuse .badSeparator (hyphen? rest)
  let (day, rest) ← orRefuse .badDay (digits? 2 rest)
  if month = 0 ∨ 12 < month then .error .monthOutOfRange
  .ok (← dayOf year month day, rest)

/-- The fraction of a second as microseconds; digits beyond the sixth do not count. -/
def fractionPart (text : Bytes) : Option (Nat × Bytes) :=
  let digits := (text.takeWhile fun byte => (digit? byte).isSome).filterMap digit?
  if digits = [] then none
  else
    let kept := (digits ++ List.replicate 6 0).take 6
    some (kept.foldl (fun n d => 10 * n + d) 0, text.drop digits.length)

/-- Seconds with an optional fraction, where they are given. -/
def secondPart : Bytes → Option ((Nat × Nat) × Bytes)
  | byte :: rest =>
      if isChar ':' byte then do
        let (second, rest) ← digits? 2 rest
        match rest with
        | mark :: fraction =>
            if isChar '.' mark || isChar ',' mark then
              let (microsecond, rest) ← fractionPart fraction
              some ((second, microsecond), rest)
            else some ((second, 0), rest)
        | [] => some ((second, 0), [])
      else some ((0, 0), byte :: rest)
  | [] => some ((0, 0), [])

/-- The time of day at the start of a text, and what follows it. -/
def timePart (text : Bytes) : Option (ClockTime × Bytes) := do
  let (hour, rest) ← digits? 2 text
  let (minute, rest) ← match rest with
    | byte :: rest => if isChar ':' byte then digits? 2 rest else none
    | [] => none
  let ((second, microsecond), rest) ← secondPart rest
  let time ← ClockTime.make? hour minute second microsecond
  some (time, rest)

/-- The sign of an offset; the typographic minus counts as one. -/
def signPart : Bytes → Option (Int × Bytes)
  | 226 :: 136 :: 146 :: rest => some (-1, rest)
  | byte :: rest =>
      if isChar '+' byte then some (1, rest)
      else if isChar '-' byte then some (-1, rest)
      else none
  | [] => none

/-- An offset that ends the text, where there is one. -/
def offsetPart : Bytes → Option (Option Offset)
  | [] => some none
  | [byte] => if isChar 'Z' byte || isChar 'z' byte then some (some .zero) else none
  | text => do
      let (sign, rest) ← signPart text
      let (hours, rest) ← digits? 2 rest
      let (minutes, rest) ← match rest with
        | byte :: after => if isChar ':' byte then digits? 2 after else digits? 2 (byte :: after)
        | [] => none
      if rest = [] ∧ minutes < 60 then
        let seconds : Int := hours * 3600 + minutes * 60
        (Offset.make? (sign * seconds * microsecondsPerSecond)).map some
      else none

def isSeparator (byte : UInt8) : Bool :=
  isChar 'T' byte || isChar 't' byte || isChar '_' byte || isChar ' ' byte

/-- A date and a time with a character between them. -/
def dateTime? (text : Bytes) : Option (Except Refusal Moment) := do
  let (date, rest) ← (datePart text).toOption
  match rest with
  | separator :: rest =>
      if isSeparator separator then
        let (time, rest) ← timePart rest
        let offset ← offsetPart rest
        some (orRefuse .yearZero (date.map fun date => ⟨date, time, offset⟩))
      else none
  | [] => none

/-- Counts above this one are in milliseconds. -/
def greatestSeconds : Nat := 20000000000

/-- The moment so many seconds, or milliseconds, and microseconds after 1970 began. -/
def ofCount (count : Int) (microseconds : Nat) : Except Refusal Moment :=
  let total := if count.natAbs ≤ greatestSeconds then
      count * microsecondsPerSecond + microseconds
    else count * 1000 + microseconds
  let seconds := total / microsecondsPerSecond
  if seconds < -62167219200 then .error .tooEarly
  else if 253402300799 < seconds then .error .tooLate
  else orRefuse .yearZero (Moment.ofEpoch? total)

/-- A count as it is written. -/
inductive Count where
  | whole (n : Int)
  | fractional (x : Binary64)
deriving DecidableEq, Repr

/-- Adds the digits of a fraction one after the other, `unit` being the next one's share of one.
Every step is rounded. -/
def addFraction : (sum unit : Binary64) → List Nat → Binary64
  | sum, _, [] => sum
  | sum, unit, digit :: rest =>
      addFraction (sum.add (Binary64.quotient digit unit)) (unit.scale 10) rest

/-- A count written with digits, an optional sign and an optional fraction. Its whole part has
to be below two to the power of 63. -/
def countOfText? (text : Bytes) : Option Count :=
  let (negative, rest) := Decimal.splitSign (text.map fun byte => Char.ofNat byte.toNat)
  let (digits, rest) := Decimal.splitDigits rest
  let whole := Text.ofDigits digits
  if digits = [] ∨ powerOfTwo 63 ≤ whole then none
  else
    match rest with
    | [] => some (.whole (if negative then -whole else whole))
    | '.' :: rest =>
        match Decimal.splitDigits rest with
        | (fraction, []) =>
            let sum := addFraction (Binary64.ofInt whole) (Binary64.ofInt 10) fraction
            some (.fractional (if negative then sum.negate else sum))
        | _ => none
    | _ => none

/-- The moment of a count given as a double, its fraction rounded to microseconds. -/
def ofFloat (x : Binary64) : Except Refusal Moment :=
  match x with
  | .nan => .error .notANumber
  | .infinite negative => .error (if negative then .tooEarly else .tooLate)
  | .finite .. => ofCount x.floor ((x.fraction.scale 1000000).roundAway)

/-- The moment of a written count with a fraction. Milliseconds become seconds first, and the
fraction is what the whole seconds below leave. -/
def ofFraction (x : Binary64) : Except Refusal Moment :=
  let seconds := if greatestSeconds * x.ratio.2 < x.ratio.1.natAbs then x.dividedBy 1000 else x
  ofCount seconds.floor
    (((seconds.add (Binary64.ofInt (-seconds.floor))).scale 1000000).roundAway)

def ofWritten : Count → Except Refusal Moment
  | .whole n => ofCount n 0
  | .fractional x => ofFraction x

/-- The midnight of a plain date; a whole count of seconds is no date but bounded like one. -/
def ofDateText (text : Bytes) (count : Option Count) : Except Refusal Moment :=
  match datePart text with
  | .ok (date, []) => orRefuse .yearZero (date.map Moment.ofDate)
  | outcome =>
      match count with
      | some (.whole n) => ofCount n 0
      | _ =>
          match outcome with
          | .ok _ => .error .extraCharacters
          | .error refusal => .error refusal

def ofText (text : Bytes) : Except Refusal Moment :=
  match dateTime? text with
  | some outcome => outcome
  | none =>
      match countOfText? text with
      | none => ofDateText text none
      | some count =>
          match ofWritten count with
          | .ok moment => .ok moment
          | .error .yearZero => .error .yearZero
          | .error _ => ofDateText text (some count)

/-! ### Counts -/

/-- The whole milliseconds since 1970, counted by way of a double that holds the seconds. -/
def milliseconds (m : Moment) : Int :=
  let seconds := (Binary64.ofInt m.wholeSeconds.epochSeconds).add
    (Binary64.ofQuotient false m.time.microsecond 1000000)
  ((seconds.scale 1000).truncate?).getD 0

/-! ### Written form -/

/-- The moment as text: universal time has the mark Z, a fraction of a second six digits. -/
def toText (m : Moment) : String :=
  let zone := match m.offset with
    | none => []
    | some offset => if offset.microseconds = 0 then ['Z'] else Moment.offsetText offset
  String.ofList (Moment.toText 'T' m.wallClock ++ zone)

end Outreach.Instant
