import Outreach.Calendar.Moment
import Outreach.Number.Binary64

/-!
Reading moments from ISO text. Dates come with or without hyphens, by month or by week; the place
where the date ends follows from the hyphens and the week letter; any one character separates date
and time; a time has up to three two-digit parts and a fraction, and may be followed by an offset.
The text is handled as bytes, so only ASCII digits count.
-/

namespace Outreach.Iso

abbrev Bytes := List UInt8

def code (c : Char) : UInt8 := UInt8.ofNat c.toNat

def isDigit (byte : UInt8) : Bool := code '0' ≤ byte && byte ≤ code '9'

/-- The byte at a place; past the end there is a zero byte. -/
def at? (text : Bytes) (place : Nat) : UInt8 := (text[place]?).getD 0

/-- A number written with exactly the given count of digits, and what follows it. -/
def digitsOf : (count : Nat) → Bytes → Option (Nat × Bytes)
  | count, text =>
      let (head, rest) := (text.take count, text.drop count)
      if head.length = count ∧ head.all isDigit then
        some (head.foldl (fun n byte => 10 * n + (byte.toNat - 48)) 0, rest)
      else none

/-- The place of the first byte from the given one on that is no digit. -/
def firstNonDigit (text : Bytes) (start : Nat) : Nat :=
  start + ((text.drop start).takeWhile isDigit).length

/-- The place where the date ends. -/
def dateLength? (text : Bytes) : Option Nat :=
  let n := text.length
  if n < 7 then none
  else if n = 7 then some 7
  else if at? text 4 = code '-' then
    if at? text 5 = code 'W' then
      if n > 8 ∧ at? text 8 = code '-' then
        if n = 9 then none
        else if n > 10 ∧ isDigit (at? text 10) then some 8
        else some 10
      else some 8
    else some 10
  else if at? text 4 = code 'W' then
    let stop := firstNonDigit text 7
    if stop < 9 then some stop
    else if stop % 2 = 0 then some 7
    else some 8
  else some 8

/-- Drops a hyphen that must stand at the start when hyphens are in use. -/
def skipHyphen (hyphens : Bool) (text : Bytes) : Option Bytes :=
  if hyphens then
    match text with
    | byte :: rest => if byte = code '-' then some rest else none
    | [] => none
  else some text

/-- A date that fills the whole text. -/
def date? (text : Bytes) : Option Date := do
  let (year, rest) ← digitsOf 4 text
  let (hyphens, rest) := match rest with
    | byte :: tail => if byte = code '-' then (true, tail) else (false, rest)
    | [] => (false, rest)
  match rest with
  | byte :: tail =>
      if byte = code 'W' then
        let (week, tail) ← digitsOf 2 tail
        match tail with
        | [] => Date.ofWeek? year week 1
        | _ =>
            let tail ← skipHyphen hyphens tail
            let (day, tail) ← digitsOf 1 tail
            if tail = [] then Date.ofWeek? year week day else none
      else
        let (month, rest) ← digitsOf 2 rest
        let rest ← skipHyphen hyphens rest
        let (day, rest) ← digitsOf 2 rest
        if rest = [] then Date.make? year month day else none
  | [] => none

/-- What reading a clock part gave: hours, minutes, seconds, microseconds, and whether something
was left over that only an offset behind it excuses. -/
structure Clock where
  hour : Nat
  minute : Nat
  second : Nat
  microsecond : Nat
  leftover : Bool
deriving DecidableEq, Repr

def Clock.toTime? (c : Clock) : Option ClockTime :=
  ClockTime.make? c.hour c.minute c.second c.microsecond

/-- The digits of a fraction: at most six count, further ones are skipped. -/
def fraction? (text following : Bytes) : Option (Nat × Bool) :=
  let counted := min 6 text.length
  match digitsOf counted text with
  | none => none
  | some (value, rest) =>
      if counted = 0 then none
      else
        let tail := rest.dropWhile isDigit
        some (value * powerOfTen (6 - counted), ((tail ++ following).head?).getD 0 ≠ 0)

/-- Reads the parts of a clock from the given one on; `following` is the text behind the part, of
which only the first byte is looked at. The separator in use is settled after the hour. -/
def parts? (following : Bytes) : (remaining : Nat) → (separated : Option Bool) → List Nat → Bytes →
    Option Clock
  | 0, _, _, _ => none
  | remaining + 1, separated, seen, text => do
      let (value, rest) ← digitsOf 2 text
      let values := seen ++ [value]
      let finish (microsecond : Nat) (leftover : Bool) : Clock :=
        ⟨values.getD 0 0, values.getD 1 0, values.getD 2 0, microsecond, leftover⟩
      let next := ((rest ++ following).head?).getD 0
      let separator := separated.getD (next = code ':')
      match rest with
      | [] => some (finish 0 (next ≠ 0))
      | [_] => some (finish 0 (next ≠ 0))
      | _ :: tail =>
          if separator ∧ next = code ':' then
            if remaining = 0 then
              let (microsecond, leftover) ← fraction? tail following
              some (finish microsecond leftover)
            else parts? following remaining (some separator) values tail
          else if next = code '.' ∨ next = code ',' then
            let (microsecond, leftover) ← fraction? tail following
            some (finish microsecond leftover)
          else if !separator then
            if remaining = 0 then
              let (microsecond, leftover) ← fraction? rest following
              some (finish microsecond leftover)
            else parts? following remaining (some separator) values rest
          else none

/-- Reads hours, minutes, seconds and a fraction. -/
def clock? (text following : Bytes) : Option Clock := parts? following 3 none [] text

/-- The character that begins a text is skipped with all its bytes. -/
def skipCharacter : Bytes → Bytes
  | [] => []
  | _ :: rest => rest.dropWhile fun byte => 0x80 ≤ byte.toNat && byte.toNat < 0xc0

def isOffsetMark (byte : UInt8) : Bool := byte = code '+' || byte = code '-'

/-- The offset that a clock part behind a sign writes. Less than a second is no offset at all. -/
def offsetOf (negative : Bool) (size : Clock) : Int :=
  let seconds := size.hour * 3600 + size.minute * 60 + size.second
  let microseconds : Int :=
    if seconds = 0 then 0 else seconds * microsecondsPerSecond + size.microsecond
  if negative then -microseconds else microseconds

/-- Reads a time and the offset behind it. The offset must fill the rest of the text. -/
def time? (text : Bytes) : Option (ClockTime × Option Offset) :=
  let reading := text.takeWhile (!isOffsetMark ·)
  match text.dropWhile (!isOffsetMark ·) with
  | [] => do
      let clock ← clock? reading []
      if clock.leftover then none else clock.toTime?.map (·, none)
  | mark :: tail => do
      let clock ← clock? reading (mark :: tail)
      let size ← clock? tail []
      if size.leftover then none
      else
        let time ← clock.toTime?
        let offset ← Offset.make? (offsetOf (mark = code '-') size)
        some (time, some offset)

/-- Reads a moment from ISO text. -/
def moment? (text : Bytes) : Option Moment := do
  let length ← dateLength? text
  let date ← date? (text.take length)
  match text.drop length with
  | [] => some (Moment.ofDate date)
  | rest =>
      let (time, offset) ← time? (skipCharacter rest)
      some ⟨date, time, offset⟩

/-- Reads a moment from text in which every `Z` stands for the zero offset. -/
def ofText? (text : List Char) : Option Moment :=
  let spelled := text.flatMap fun c => if c = 'Z' then "+00:00".toList else [c]
  moment? (String.ofList spelled).toUTF8.toList

end Outreach.Iso
