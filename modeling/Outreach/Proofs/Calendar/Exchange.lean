import Mathlib.Data.List.Basic
import Mathlib.Data.List.Induction
import Mathlib.Tactic.Ring
import Outreach.Proofs.Outcome
import Outreach.Calendar.Instant

/-! Moments are read from the text in which they are exchanged. Each part of the text is read back
whatever follows it, and a moment whose offset is whole minutes comes back as it was. Moments read
from texts and counts have such offsets. -/

namespace Outreach

/-! ### Bytes of ASCII -/

namespace Text

/-- Characters of ASCII as bytes. -/
def bytesOf (text : List Char) : List UInt8 := text.map fun c => UInt8.ofNat c.toNat

@[simp] theorem bytesOf_append (first second : List Char) :
    bytesOf (first ++ second) = bytesOf first ++ bytesOf second := List.map_append

@[simp] theorem bytesOf_cons (c : Char) (rest : List Char) :
    bytesOf (c :: rest) = UInt8.ofNat c.toNat :: bytesOf rest := rfl

@[simp] theorem bytesOf_nil : bytesOf [] = [] := rfl

/-- A text that has characters of ASCII only. -/
def IsAscii (text : List Char) : Prop := ∀ c ∈ text, c.toNat < 128

theorem IsAscii.nil : IsAscii [] := List.forall_mem_nil _

theorem IsAscii.cons {c : Char} {rest : List Char} (first : c.toNat < 128) (later : IsAscii rest) :
    IsAscii (c :: rest) := List.forall_mem_cons.mpr ⟨first, later⟩

theorem IsAscii.append {first second : List Char} (left : IsAscii first) (right : IsAscii second) :
    IsAscii (first ++ second) := List.forall_mem_append.mpr ⟨left, right⟩

theorem utf8Encode_ascii {text : List Char} (ascii : IsAscii text) :
    text.utf8Encode = (bytesOf text).toByteArray := by
  induction text with
  | nil => rfl
  | cons c rest ih =>
    have ascii := List.forall_mem_cons.mp ascii
    have single : c.utf8Size = 1 := by
      rw [Char.utf8Size_eq_one_iff, UInt32.le_iff_toNat_le]
      exact Nat.le_of_lt_succ ascii.1
    rw [List.utf8Encode_cons, List.utf8Encode_singleton, String.utf8EncodeChar_eq_singleton single,
      ih ascii.2, ← List.toByteArray_append]
    rfl

theorem toList_loop (bytes : ByteArray) (place : Nat) (before : List UInt8) :
    ByteArray.toList.loop bytes place before =
      before.reverse ++ bytes.data.toList.drop place := by
  induction place, before using ByteArray.toList.loop.induct bytes with
  | case1 place before within ih =>
    have bound : place < bytes.data.toList.length := by simpa using within
    have byte : bytes.get! place = bytes.data.toList[place] := by
      rw [Array.getElem_toList]
      exact getElem!_pos bytes.data place (by simpa using within)
    rw [ByteArray.toList.loop, if_pos within, ih, List.drop_eq_getElem_cons bound, byte]
    simp
  | case2 place before beyond =>
    have done : bytes.data.toList.length ≤ place := by simpa using beyond
    rw [ByteArray.toList.loop, if_neg beyond, List.drop_eq_nil_of_le done, List.append_nil]

theorem toList_toUTF8 {text : List Char} (ascii : IsAscii text) :
    (String.ofList text).toUTF8.toList = bytesOf text := by
  rw [ByteArray.toList, toList_loop, String.toUTF8, String.toByteArray_ofList,
    utf8Encode_ascii ascii, List.toList_data_toByteArray]
  rfl

/-! ### Digits -/

theorem ofDigits_append (first second : List Nat) :
    ofDigits (first ++ second) = ofDigits first * powerOfTen second.length + ofDigits second := by
  induction second using List.reverseRecOn with
  | nil => simp [powerOfTen, ofDigits_nil]
  | append_singleton second d ih =>
    rw [← List.append_assoc, ofDigits_append_singleton, ofDigits_append_singleton, ih,
      List.length_append, List.length_singleton, powerOfTen_succ]
    ring

theorem ofDigits_zeros (count : Nat) (digits : List Nat) :
    ofDigits (List.replicate count 0 ++ digits) = ofDigits digits := by
  have none : ofDigits (List.replicate count 0) = 0 := by
    induction count with
    | zero => rfl
    | succ count ih => rw [List.replicate_succ', ofDigits_append_singleton, ih]
  rw [ofDigits_append, none, Nat.zero_mul, Nat.zero_add]

theorem length_digits_le {n width : Nat} (small : n < powerOfTen width) (wide : 0 < width) :
    (digits n).length ≤ width := by
  induction width generalizing n with
  | zero => exact absurd wide (by decide)
  | succ width ih =>
    rw [digits]
    split
    · simp
    · have less : n / 10 < powerOfTen width := by
        rw [powerOfTen_succ] at small
        omega
      have some : 0 < width := by
        rcases Nat.eq_zero_or_pos width with rfl | some
        · simp [powerOfTen] at less
          omega
        · exact some
      rw [List.length_append, List.length_singleton]
      exact Nat.succ_le_succ (ih less some)

/-- The digits of a number, after zeros up to the width. -/
def paddedDigits (width n : Nat) : List Nat :=
  List.replicate (width - (digits n).length) 0 ++ digits n

theorem padded_eq (width n : Nat) : padded width n = (paddedDigits width n).map digitChar := by
  have zeros (count : Nat) : List.replicate count '0' = (List.replicate count 0).map digitChar := by
    rw [List.map_replicate]
    rfl
  rw [padded, paddedDigits, ofNat, List.length_map, zeros, List.map_append]

theorem ofDigits_padded (width n : Nat) : ofDigits (paddedDigits width n) = n := by
  rw [paddedDigits, ofDigits_zeros, ofDigits_digits]

theorem length_padded {width n : Nat} (small : n < powerOfTen width) (wide : 0 < width) :
    (paddedDigits width n).length = width := by
  have := length_digits_le small wide
  rw [paddedDigits, List.length_append, List.length_replicate]
  omega

theorem padded_lt (width n : Nat) : ∀ d ∈ paddedDigits width n, d < 10 := by
  intro d member
  rcases List.mem_append.mp member with zero | digit
  · rw [(List.mem_replicate.mp zero).2]
    decide
  · exact digits_lt n d digit

theorem digitChar_toNat {d : Nat} (digit : d < 10) : (digitChar d).toNat = 48 + d := by
  have each : ∀ d < 10, (digitChar d).toNat = 48 + d := by decide
  exact each d digit

theorem digitChar_ascii (d : Nat) : (digitChar d).toNat < 128 := by
  have same : digitChar d = digitChar (d % 10) := by simp [digitChar]
  rw [same, digitChar_toNat (Nat.mod_lt _ (by decide))]
  omega

theorem padded_ascii (width n : Nat) : IsAscii (padded width n) := by
  rw [padded_eq, IsAscii, List.forall_mem_map]
  exact fun d _ => digitChar_ascii d

theorem length_bytesOf_padded {width n : Nat} (small : n < powerOfTen width) (wide : 0 < width) :
    (bytesOf (padded width n)).length = width := by
  rw [bytesOf, List.length_map, padded_eq, List.length_map, length_padded small wide]

end Text

/-! ### Dates in text -/

namespace Date

theorem daysInMonth_le (year month : Nat) : daysInMonth year month ≤ 31 := by
  unfold daysInMonth
  split
  · split <;> omega
  · split <;> omega

theorem bounds (date : Date) : (1 ≤ date.year ∧ date.year ≤ 9999) ∧
    (1 ≤ date.month ∧ date.month ≤ 12) ∧ 1 ≤ date.day ∧ date.day ≤ 31 := by
  have valid := date.valid
  simp only [exists?, Bool.and_eq_true, decide_eq_true_eq] at valid
  obtain ⟨⟨⟨⟨⟨early, late⟩, first⟩, last⟩, start⟩, within⟩ := valid
  exact ⟨⟨early, late⟩, ⟨first, last⟩, start, within.trans (daysInMonth_le _ _)⟩

/-- The numbers of a date have the digits in which they are written. -/
theorem small (date : Date) : date.year < powerOfTen 4 ∧ date.month < powerOfTen 2 ∧
    date.day < powerOfTen 2 := by
  obtain ⟨⟨-, years⟩, ⟨-, months⟩, -, days⟩ := date.bounds
  refine ⟨?_, ?_, ?_⟩
  · show date.year < 10000
    omega
  · show date.month < 100
    omega
  · show date.day < 100
    omega

end Date

namespace Moment

open Text

theorem bytesOf_dateText (date : Date) : bytesOf (dateText date) =
    bytesOf (padded 4 date.year) ++ UInt8.ofNat '-'.toNat :: (bytesOf (padded 2 date.month) ++
      UInt8.ofNat '-'.toNat :: bytesOf (padded 2 date.day)) := by
  simp [dateText]

theorem length_dateText (date : Date) : (bytesOf (dateText date)).length = 10 := by
  obtain ⟨years, months, days⟩ := date.small
  have four := length_bytesOf_padded years (by decide)
  have two := length_bytesOf_padded months (by decide)
  have others := length_bytesOf_padded days (by decide)
  simp only [bytesOf_dateText, List.length_append, List.length_cons, four, two, others]

end Moment

namespace Instant

open Text

theorem digit?_digitChar {d : Nat} (digit : d < 10) :
    digit? (UInt8.ofNat (digitChar d).toNat) = some d := by
  have each : ∀ d < 10, digit? (UInt8.ofNat (digitChar d).toNat) = some d := by decide
  exact each d digit

theorem digits?_digits {written : List Nat} (each : ∀ d ∈ written, d < 10) (rest : Bytes) :
    digits? written.length (bytesOf (written.map digitChar) ++ rest) =
      some (ofDigits written, rest) := by
  induction written with
  | nil => rfl
  | cons d later ih =>
    rw [List.forall_mem_cons] at each
    have value : ofDigits (d :: later) = d * powerOfTen later.length + ofDigits later := by
      have split := ofDigits_append [d] later
      rwa [show ofDigits [d] = d from by simp [ofDigits]] at split
    simp only [List.length_cons, List.map_cons, bytesOf_cons, List.cons_append, digits?,
      digit?_digitChar each.1, ih each.2, value]
    rfl

/-- A number with as many digits as are read. -/
theorem digits?_padded {width n : Nat} (small : n < powerOfTen width) (wide : 0 < width)
    (rest : Bytes) : digits? width (bytesOf (padded width n) ++ rest) = some (n, rest) := by
  have read := digits?_digits (padded_lt width n) rest
  rwa [length_padded small wide, ofDigits_padded, ← padded_eq] at read

/-! ### Dates -/

theorem hyphen?_hyphen (rest : Bytes) : hyphen? (UInt8.ofNat '-'.toNat :: rest) = some rest := rfl

theorem datePart_written (date : Date) (rest : Bytes) :
    datePart (bytesOf (Moment.dateText date) ++ rest) = .ok (some date, rest) := by
  obtain ⟨years, months, days⟩ := date.small
  obtain ⟨⟨early, -⟩, ⟨first, last⟩, -⟩ := date.bounds
  have long : ¬ (bytesOf (Moment.dateText date) ++ rest).length < 10 := by
    rw [List.length_append, Moment.length_dateText]
    omega
  have among : ¬ (date.month = 0 ∨ 12 < date.month) := by omega
  have day_of : dayOf date.year date.month date.day = .ok (some date) := by
    have made : Date.make? date.year date.month date.day = some date := dif_pos date.valid
    rw [dayOf, if_neg (by omega), made]
    rfl
  unfold datePart
  rw [if_neg long, Moment.bytesOf_dateText]
  simp only [List.append_assoc, List.cons_append, digits?_padded years (by decide : 0 < 4),
    digits?_padded months (by decide : 0 < 2), digits?_padded days (by decide : 0 < 2),
    hyphen?_hyphen, orRefuse, if_neg among, day_of, bind, Except.bind]

/-! ### Times of day -/

/-- What follows a time does not go on with a digit. -/
def EndsNumber (rest : Bytes) : Prop := ∀ byte ∈ rest.head?, digit? byte = none

theorem fractionPart_written {microsecond : Nat} (small : microsecond < microsecondsPerSecond)
    {rest : Bytes} (ends : EndsNumber rest) :
    fractionPart (bytesOf (padded 6 microsecond) ++ rest) = some (microsecond, rest) := by
  have size : microsecond < powerOfTen 6 := small
  have length := length_padded size (by decide : 0 < 6)
  have each := padded_lt 6 microsecond
  have digital : ∀ byte ∈ bytesOf (padded 6 microsecond), (digit? byte).isSome := by
    rw [padded_eq, bytesOf, List.map_map, List.forall_mem_map]
    intro d member
    rw [Function.comp, digit?_digitChar (each d member)]
    rfl
  have stop : rest.takeWhile (fun byte => (digit? byte).isSome) = [] := by
    cases rest with
    | nil => rfl
    | cons byte later =>
      have none : digit? byte = none := ends byte rfl
      rw [List.takeWhile_cons, none]
      rfl
  have taken : (bytesOf (padded 6 microsecond) ++ rest).takeWhile
      (fun byte => (digit? byte).isSome) = bytesOf (padded 6 microsecond) := by
    rw [List.takeWhile_append_of_pos digital, stop, List.append_nil]
  have read : (bytesOf (padded 6 microsecond)).filterMap digit? = paddedDigits 6 microsecond := by
    rw [padded_eq, bytesOf, List.map_map, List.filterMap_map]
    refine (List.filterMap_congr fun d member => ?_).trans List.filterMap_some
    exact digit?_digitChar (each d member)
  have kept : (paddedDigits 6 microsecond ++ List.replicate 6 0).take 6 =
      paddedDigits 6 microsecond := by
    rw [List.take_append_of_le_length (Nat.le_of_eq length.symm), List.take_of_length_le
      (Nat.le_of_eq length)]
  have filled : paddedDigits 6 microsecond ≠ [] := by
    intro none
    rw [none] at length
    cases length
  have dropped : (bytesOf (padded 6 microsecond) ++ rest).drop
      (paddedDigits 6 microsecond).length = rest := by
    have same : (paddedDigits 6 microsecond).length = (bytesOf (padded 6 microsecond)).length := by
      rw [padded_eq, bytesOf, List.length_map, List.length_map]
    rw [same, List.drop_left]
  unfold fractionPart
  simp only [taken, read, if_neg filled, kept, dropped]
  exact congrArg (fun n => some (n, rest)) (ofDigits_padded 6 microsecond)

/-- Neither a digit nor what goes on with a clock time stands at the start. -/
def EndsClock (rest : Bytes) : Prop :=
  EndsNumber rest ∧ ∀ byte ∈ rest.head?, ¬ isChar '.' byte ∧ ¬ isChar ',' byte

theorem secondPart_written {time : ClockTime} {rest : Bytes} (ends : EndsClock rest) :
    secondPart (UInt8.ofNat ':'.toNat :: (bytesOf (padded 2 time.second) ++
      (bytesOf (Moment.fractionText time.microsecond) ++ rest))) =
      some ((time.second, time.microsecond), rest) := by
  obtain ⟨-, -, seconds, fraction⟩ := time.valid
  have read := digits?_padded (show time.second < powerOfTen 2 by show _ < 100; omega)
    (by decide : 0 < 2) (bytesOf (Moment.fractionText time.microsecond) ++ rest)
  have colon : isChar ':' (UInt8.ofNat ':'.toNat) := by decide
  unfold secondPart
  simp only [if_pos colon, read, bind, Option.bind]
  by_cases whole : time.microsecond = 0
  · have none : Moment.fractionText time.microsecond = [] := if_pos whole
    rw [none, bytesOf_nil, List.nil_append, whole]
    cases rest with
    | nil => rfl
    | cons byte later =>
      obtain ⟨period, comma⟩ := ends.2 byte rfl
      simp [period, comma]
  · have some : Moment.fractionText time.microsecond = '.' :: padded 6 time.microsecond :=
      if_neg whole
    have period : isChar '.' (UInt8.ofNat '.'.toNat) := by decide
    rw [some, bytesOf_cons, List.cons_append]
    simp only [period, Bool.true_or, if_true, fractionPart_written fraction ends.1]

theorem timePart_written (time : ClockTime) {rest : Bytes} (ends : EndsClock rest) :
    timePart (bytesOf (Moment.timeText time) ++ rest) = some (time, rest) := by
  obtain ⟨hours, minutes, -, -⟩ := time.valid
  have written : bytesOf (Moment.timeText time) ++ rest = bytesOf (padded 2 time.hour) ++
      UInt8.ofNat ':'.toNat :: (bytesOf (padded 2 time.minute) ++ UInt8.ofNat ':'.toNat ::
        (bytesOf (padded 2 time.second) ++
          (bytesOf (Moment.fractionText time.microsecond) ++ rest))) := by
    simp [Moment.timeText]
  have colon : isChar ':' (UInt8.ofNat ':'.toNat) := by decide
  have made : ClockTime.make? time.hour time.minute time.second time.microsecond = some time :=
    dif_pos time.valid
  unfold timePart
  rw [written, digits?_padded (show time.hour < powerOfTen 2 by show _ < 100; omega) (by decide)]
  simp only [bind, Option.bind, if_pos colon,
    digits?_padded (show time.minute < powerOfTen 2 by show _ < 100; omega) (by decide : 0 < 2),
    secondPart_written ends, made]

/-! ### Offsets -/

end Instant

/-- An offset of whole minutes. -/
def Offset.IsWhole (offset : Offset) : Prop := (60000000 : Int) ∣ offset.microseconds

/-- A moment whose offset, if it has one, is of whole minutes. -/
def Moment.HasWholeOffset (m : Moment) : Prop := ∀ offset ∈ m.offset, offset.IsWhole

namespace Instant

open Text

/-- The offset of a moment as it is written. -/
def zoneText : Option Offset → List Char
  | none => []
  | some offset => if offset.microseconds = 0 then ['Z'] else Moment.offsetText offset

theorem toText_eq (m : Moment) : toText m = String.ofList (Moment.dateText m.date ++
    'T' :: (Moment.timeText m.time ++ zoneText m.offset)) := by
  obtain ⟨date, time, offset⟩ := m
  cases offset <;> simp [toText, zoneText, Moment.toText, Moment.wallClock]

theorem signPart_sign (negative : Bool) (rest : Bytes) :
    signPart (UInt8.ofNat (if negative then '-' else '+').toNat :: rest) =
      some (if negative then -1 else 1, rest) := by
  cases negative <;> rfl

theorem offsetPart_signed {text rest after : Bytes} {byte : UInt8} {sign : Int}
    {hours minutes : Nat} {offset : Offset} (long : 2 ≤ text.length)
    (signed : signPart text = some (sign, rest))
    (hour : digits? 2 rest = some (hours, byte :: after)) (colon : isChar ':' byte)
    (minute : digits? 2 after = some (minutes, [])) (fits : minutes < 60)
    (made : Offset.make? (sign * ((hours : Int) * 3600 + (minutes : Int) * 60) *
      (microsecondsPerSecond : Nat)) = some offset) : offsetPart text = some (some offset) := by
  unfold offsetPart
  split
  next => simp at long
  next => simp at long
  next =>
    rw [signed]
    simp only [bind, Option.bind, hour, if_pos colon, minute, fits, and_self, if_true, made]
    rfl

theorem offsetPart_written {offset : Offset} (whole : offset.IsWhole) :
    offsetPart (bytesOf (Moment.offsetText offset)) = some (some offset) := by
  obtain ⟨k, same⟩ := whole
  have bounded := offset.bounded
  have seconds : offset.microseconds.natAbs / microsecondsPerSecond = k.natAbs * 60 := by
    unfold microsecondsPerSecond
    omega
  have exact : offset.microseconds.natAbs % microsecondsPerSecond = 0 := by
    unfold microsecondsPerSecond
    omega
  have few : k.natAbs < 1440 := by
    unfold microsecondsPerDay at bounded
    omega
  have written : bytesOf (Moment.offsetText offset) =
      UInt8.ofNat (if decide (offset.microseconds < 0) then '-' else '+').toNat ::
        (bytesOf (padded 2 (k.natAbs / 60)) ++ UInt8.ofNat ':'.toNat ::
          (bytesOf (padded 2 (k.natAbs % 60)) ++ [])) := by
    have hours : k.natAbs * 60 / 3600 = k.natAbs / 60 := by omega
    have none : k.natAbs * 60 % 60 = 0 := by omega
    simp [Moment.offsetText, seconds, exact, hours, none]
  have colon : isChar ':' (UInt8.ofNat ':'.toNat) := by decide
  have made : Offset.make? ((if decide (offset.microseconds < 0) then -1 else 1) *
      ((k.natAbs / 60 : Nat) * 3600 + (k.natAbs % 60 : Nat) * 60 : Int) *
        (microsecondsPerSecond : Nat)) = some offset := by
    have value : (if decide (offset.microseconds < 0) then -1 else 1) *
        ((k.natAbs / 60 : Nat) * 3600 + (k.natAbs % 60 : Nat) * 60 : Int) *
          (microsecondsPerSecond : Nat) = offset.microseconds := by
      unfold microsecondsPerSecond
      by_cases negative : offset.microseconds < 0
      · rw [decide_eq_true negative, if_pos rfl]
        omega
      · rw [decide_eq_false negative, if_neg (by decide)]
        omega
    rw [value]
    exact dif_pos offset.bounded
  have hours (rest : Bytes) :
      digits? 2 (bytesOf (padded 2 (k.natAbs / 60)) ++ rest) = some (k.natAbs / 60, rest) :=
    digits?_padded (show k.natAbs / 60 < powerOfTen 2 by show _ < 100; omega) (by decide) rest
  have minutes : digits? 2 (bytesOf (padded 2 (k.natAbs % 60)) ++ []) = some (k.natAbs % 60, []) :=
    digits?_padded (show k.natAbs % 60 < powerOfTen 2 by show _ < 100; omega) (by decide) []
  rw [written]
  exact offsetPart_signed (by simp; omega) (signPart_sign _ _) (hours _) colon minutes
    (Nat.mod_lt _ (by decide)) made

theorem offsetPart_zone {offset : Option Offset} (whole : ∀ given ∈ offset, given.IsWhole) :
    offsetPart (bytesOf (zoneText offset)) = some offset := by
  cases offset with
  | none => rfl
  | some offset =>
    by_cases zero : offset.microseconds = 0
    · have universal : offset = .zero := by
        obtain ⟨microseconds, bounded⟩ := offset
        cases zero
        rfl
      rw [universal]
      rfl
    · have written : zoneText (some offset) = Moment.offsetText offset := if_neg zero
      rw [written]
      exact offsetPart_written (whole offset rfl)

theorem endsClock_zone (offset : Option Offset) : EndsClock (bytesOf (zoneText offset)) := by
  have head : (bytesOf (zoneText offset)).head? = none ∨
      ∃ c ∈ ['Z', '+', '-'], (bytesOf (zoneText offset)).head? = some (UInt8.ofNat c.toNat) := by
    cases offset with
    | none => exact .inl rfl
    | some offset =>
      by_cases zero : offset.microseconds = 0
      · have universal : zoneText (some offset) = ['Z'] := if_pos zero
        exact .inr ⟨'Z', by simp, by rw [universal]; rfl⟩
      · have written : zoneText (some offset) = Moment.offsetText offset := if_neg zero
        rw [written]
        by_cases negative : offset.microseconds < 0
        · exact .inr ⟨'-', by simp, by simp [Moment.offsetText, negative]⟩
        · exact .inr ⟨'+', by simp, by simp [Moment.offsetText, negative]⟩
  have each : ∀ c ∈ ['Z', '+', '-'], digit? (UInt8.ofNat c.toNat) = none ∧
      ¬ isChar '.' (UInt8.ofNat c.toNat) ∧ ¬ isChar ',' (UInt8.ofNat c.toNat) := by
    simp only [List.mem_cons, List.not_mem_nil, or_false]
    rintro c (rfl | rfl | rfl) <;> decide
  rcases head with none | ⟨c, among, first⟩
  · constructor <;> simp [EndsNumber, none]
  · constructor
    · simp [EndsNumber, first, (each c among).1]
    · simpa [first] using (each c among).2

theorem dateText_ascii (date : Date) : IsAscii (Moment.dateText date) :=
  .append (.append (padded_ascii _ _) (.cons (by decide) (padded_ascii _ _)))
    (.cons (by decide) (padded_ascii _ _))

theorem fractionText_ascii (microsecond : Nat) : IsAscii (Moment.fractionText microsecond) := by
  unfold Moment.fractionText
  split
  · exact .nil
  · exact .cons (by decide) (padded_ascii _ _)

theorem offsetText_ascii (offset : Offset) : IsAscii (Moment.offsetText offset) := by
  have seconds (second microsecond : Nat) : IsAscii (if second = 0 ∧ microsecond = 0 then []
      else ':' :: (padded 2 second ++ Moment.fractionText microsecond)) := by
    split
    · exact .nil
    · exact .cons (by decide) (.append (padded_ascii _ _) (fractionText_ascii _))
  refine .cons ?_ (.append (.append (padded_ascii _ _) (.cons (by decide) (padded_ascii _ _)))
    (seconds _ _))
  split <;> decide

theorem zoneText_ascii (offset : Option Offset) : IsAscii (zoneText offset) := by
  cases offset with
  | none => exact .nil
  | some offset =>
    by_cases zero : offset.microseconds = 0
    · have universal : zoneText (some offset) = ['Z'] := if_pos zero
      rw [universal]
      exact .cons (by decide) .nil
    · have written : zoneText (some offset) = Moment.offsetText offset := if_neg zero
      rw [written]
      exact offsetText_ascii offset

/-- The text of a moment is in ASCII. -/
theorem toText_ascii (m : Moment) : IsAscii (Moment.dateText m.date ++
    'T' :: (Moment.timeText m.time ++ zoneText m.offset)) := by
  have number (width n : Nat) : IsAscii (padded width n) := padded_ascii width n
  have time : IsAscii (Moment.timeText m.time) :=
    .append (.append (.append (number _ _) (.cons (by decide) (number _ _)))
      (.cons (by decide) (number _ _))) (fractionText_ascii _)
  exact .append (dateText_ascii m.date) (.cons (by decide) (.append time (zoneText_ascii _)))

/-- A moment whose offset is of whole minutes is read back from its text as it was. -/
theorem ofText_toText {m : Moment} (whole : m.HasWholeOffset) :
    ofText (toText m).toUTF8.toList = .ok m := by
  rw [toText_eq, toList_toUTF8 (toText_ascii m)]
  have read : dateTime? (bytesOf (Moment.dateText m.date ++ 'T' :: (Moment.timeText m.time ++
      zoneText m.offset))) = some (.ok m) := by
    have separator : isSeparator (UInt8.ofNat 'T'.toNat) := by decide
    unfold dateTime?
    simp only [bytesOf_append, bytesOf_cons, datePart_written, timePart_written _ (endsClock_zone _),
      offsetPart_zone whole, if_pos separator, bind, Option.bind, Except.toOption]
    rfl
  rw [ofText, read]

/-! ### Offsets that are read -/

theorem Offset.isWhole_zero : Offset.zero.IsWhole := Int.dvd_zero _

theorem make?_whole {sign : Int} {hours minutes : Nat} {offset : Offset}
    (made : Offset.make? (sign * ((hours : Int) * 3600 + (minutes : Int) * 60) *
      (microsecondsPerSecond : Nat)) = some offset) : offset.IsWhole := by
  unfold Offset.make? at made
  split at made
  next =>
    cases made
    refine ⟨sign * (hours * 60 + minutes), ?_⟩
    show sign * (hours * 3600 + minutes * 60) * 1000000 = _
    ring
  next => cases made

theorem offsetPart_whole {text : Bytes} {zone : Option Offset}
    (read : offsetPart text = some zone) : ∀ offset ∈ zone, offset.IsWhole := by
  have ended {sign : Int} {hours : Nat} {minutes : Option (Nat × Bytes)}
      (done : (minutes.bind fun read =>
        if read.2 = [] ∧ read.1 < 60 then
          (Offset.make? (sign * ((hours : Int) * 3600 + (read.1 : Int) * 60) *
            (microsecondsPerSecond : Nat))).map some
        else none) = some zone) : ∀ offset ∈ zone, offset.IsWhole := by
    obtain ⟨read, -, made⟩ := Option.bind_eq_some_iff.mp done
    split at made
    next =>
      obtain ⟨offset, given, rfl⟩ := Option.map_eq_some_iff.mp made
      rintro _ ⟨⟩
      exact make?_whole given
    next => cases made
  unfold offsetPart at read
  split at read
  next =>
    cases read
    exact fun offset member => absurd member (Option.not_mem_none offset)
  next =>
    split at read
    next =>
      cases read
      rintro _ ⟨⟩
      exact Offset.isWhole_zero
    next => cases read
  next =>
    obtain ⟨⟨sign, rest⟩, -, read⟩ := Option.bind_eq_some_iff.mp read
    obtain ⟨⟨hours, rest⟩, -, read⟩ := Option.bind_eq_some_iff.mp read
    dsimp only at read
    split at read
    next =>
      split at read
      next => exact ended read
      next => exact ended read
    next => exact ended read

theorem dateTime?_whole {text : Bytes} {m : Moment} (read : dateTime? text = some (.ok m)) :
    m.HasWholeOffset := by
  unfold dateTime? at read
  simp only [Option.bind_eq_bind, Option.bind_eq_some_iff] at read
  obtain ⟨⟨date, rest⟩, -, read⟩ := read
  dsimp only at read
  split at read
  next =>
    split at read
    next =>
      simp only [Option.bind_eq_some_iff] at read
      obtain ⟨⟨time, rest⟩, -, offset, zone, made⟩ := read
      cases date with
      | none => cases made
      | some date =>
        cases made
        exact offsetPart_whole zone
    next => cases read
  next => cases read

theorem ofCount_whole {count : Int} {microseconds : Nat} {m : Moment}
    (read : ofCount count microseconds = .ok m) : m.HasWholeOffset := by
  unfold ofCount at read
  extract_lets total seconds at read
  split at read
  next => cases read
  next =>
    split at read
    next => cases read
    next =>
      cases made : Moment.ofEpoch? total with
      | none =>
        rw [made] at read
        cases read
      | some moment =>
        rw [made] at read
        cases read
        obtain ⟨date, -, rfl⟩ := Option.map_eq_some_iff.mp made
        rintro _ ⟨⟩
        exact Offset.isWhole_zero

theorem ofFloat_whole {x : Binary64} {m : Moment} (read : ofFloat x = .ok m) :
    m.HasWholeOffset := by
  cases x with
  | nan => cases read
  | infinite => cases read
  | finite => exact ofCount_whole read

theorem ofDateText_whole {text : Bytes} {count : Option Count} {m : Moment}
    (read : ofDateText text count = .ok m) : m.HasWholeOffset := by
  unfold ofDateText at read
  split at read
  next date _ =>
    cases date with
    | none => cases read
    | some date =>
      cases read
      exact fun offset member => absurd member (Option.not_mem_none offset)
  next =>
    split at read
    next => exact ofCount_whole read
    next => split at read <;> cases read

/-- A moment that is read from text has an offset of whole minutes, if it has one. -/
theorem ofText_whole {text : Bytes} {m : Moment} (read : ofText text = .ok m) :
    m.HasWholeOffset := by
  unfold ofText at read
  split at read
  next outcome dated =>
    rw [read] at dated
    exact dateTime?_whole dated
  next =>
    split at read
    next => exact ofDateText_whole read
    next count _ =>
      split at read
      next written =>
        cases read
        cases count with
        | whole n => exact ofCount_whole written
        | fractional x => exact ofCount_whole written
      next => cases read
      next => exact ofDateText_whole read

end Instant

end Outreach
