import Outreach.Calendar.Iso
import Outreach.Proofs.Calendar.Exchange

/-! Moments are read back from their ISO text. Each part of the text is read for itself: a date, a
clock with its fraction, and behind a sign the clock of the offset. Only an offset of less than a
second is lost on the way. -/

namespace Outreach

namespace Offset

/-- The offset that is read from the text of an offset. What is less than a second counts for
nothing. -/
def reread (offset : Offset) : Offset :=
  if offset.microseconds.natAbs < microsecondsPerSecond then .zero else offset

/-- No offset at all, or one of a second at least. -/
def IsLegible (offset : Offset) : Prop :=
  offset.microseconds = 0 ∨ microsecondsPerSecond ≤ offset.microseconds.natAbs

theorem IsLegible.reread {offset : Offset} (legible : offset.IsLegible) :
    offset.reread = offset := by
  unfold Offset.reread
  split
  next short =>
    obtain none := legible.resolve_right (Nat.not_le.mpr short)
    obtain ⟨microseconds, bounded⟩ := offset
    cases none
    rfl
  next => rfl

end Offset

namespace Moment

/-- The moment that is read from the text of a moment. -/
def reread (m : Moment) : Moment := { m with offset := m.offset.map Offset.reread }

/-- A moment whose offset, if it has one, is legible. -/
def IsLegible (m : Moment) : Prop := ∀ offset ∈ m.offset, offset.IsLegible

theorem IsLegible.reread {m : Moment} (legible : m.IsLegible) : m.reread = m := by
  obtain ⟨date, time, offset⟩ := m
  cases offset with
  | none => rfl
  | some offset =>
    have same : offset.reread = offset := (legible offset rfl).reread
    simp only [Moment.reread, Option.map_some, same]

end Moment

namespace Iso

open Text

/-! ### Digits -/

/-- The properties of a digit's byte that reading asks for. -/
theorem digit_byte {d : Nat} (digit : d < 10) :
    isDigit (code (digitChar d)) = true ∧ (code (digitChar d)).toNat - 48 = d ∧
      isOffsetMark (code (digitChar d)) = false ∧ code (digitChar d) ≠ code 'W' ∧
      ¬(0x80 ≤ (code (digitChar d)).toNat) ∧ digitChar d ≠ 'Z' := by
  revert d
  decide

theorem foldl_digits {written : List Nat} (each : ∀ d ∈ written, d < 10) (n : Nat) :
    (bytesOf (written.map digitChar)).foldl (fun n byte => 10 * n + (byte.toNat - 48)) n =
      written.foldl (fun n d => 10 * n + d) n := by
  induction written generalizing n with
  | nil => rfl
  | cons d rest ih =>
    obtain ⟨here, later⟩ := List.forall_mem_cons.mp each
    have value : (UInt8.ofNat (digitChar d).toNat).toNat - 48 = d := (digit_byte here).2.1
    simp only [List.map_cons, bytesOf_cons, List.foldl_cons, value]
    exact ih later _

theorem digitsOf_digits {written : List Nat} (each : ∀ d ∈ written, d < 10) (rest : Bytes) :
    digitsOf written.length (bytesOf (written.map digitChar) ++ rest) =
      some (ofDigits written, rest) := by
  have length : (bytesOf (written.map digitChar)).length = written.length := by
    rw [bytesOf, List.length_map, List.length_map]
  have digital : (bytesOf (written.map digitChar)).all isDigit = true := by
    rw [bytesOf, List.map_map, List.all_map, List.all_eq_true]
    exact fun d member => (digit_byte (each d member)).1
  unfold digitsOf
  dsimp only
  rw [List.take_left' length, List.drop_left' length, if_pos ⟨length, digital⟩,
    foldl_digits each 0]
  rfl

/-- A number that is written with the count of digits that are read. -/
theorem digitsOf_padded {width n : Nat} (small : n < powerOfTen width) (wide : 0 < width)
    (rest : Bytes) : digitsOf width (bytesOf (padded width n) ++ rest) = some (n, rest) := by
  have read := digitsOf_digits (padded_lt width n) rest
  rwa [length_padded small wide, ofDigits_padded, ← padded_eq] at read

/-- Every byte of a written number is that of a digit. -/
theorem exists_digit {width n : Nat} {byte : UInt8} (member : byte ∈ bytesOf (padded width n)) :
    ∃ d < 10, byte = code (digitChar d) := by
  rw [padded_eq, bytesOf, List.map_map] at member
  obtain ⟨d, among, rfl⟩ := List.mem_map.mp member
  exact ⟨d, padded_lt width n d among, rfl⟩

theorem padded_cons {width n : Nat} (small : n < powerOfTen width) (wide : 0 < width) :
    ∃ d < 10, ∃ rest, bytesOf (padded width n) = code (digitChar d) :: rest := by
  cases written : bytesOf (padded width n) with
  | nil =>
    have length := length_bytesOf_padded small wide
    rw [written] at length
    exact absurd length.symm wide.ne'
  | cons byte rest =>
    have member : byte ∈ bytesOf (padded width n) := written ▸ List.mem_cons_self ..
    obtain ⟨d, digit, rfl⟩ := exists_digit member
    exact ⟨d, digit, rest, rfl⟩

/-! ### Dates -/

theorem bytesOf_dateText (date : Date) : bytesOf (Moment.dateText date) =
    bytesOf (padded 4 date.year) ++ code '-' :: (bytesOf (padded 2 date.month) ++
      code '-' :: bytesOf (padded 2 date.day)) := Moment.bytesOf_dateText date

theorem date?_written (date : Date) : date? (bytesOf (Moment.dateText date)) = some date := by
  obtain ⟨years, months, days⟩ := date.small
  obtain ⟨d, digit, later, written⟩ := padded_cons months (by decide)
  have month := digitsOf_padded months (by decide) (code '-' :: bytesOf (padded 2 date.day))
  have day := digitsOf_padded days (by decide) []
  have made : Date.make? date.year date.month date.day = some date := dif_pos date.valid
  rw [List.append_nil] at day
  rw [written, List.cons_append] at month
  have noWeek : code (digitChar d) ≠ code 'W' := (digit_byte digit).2.2.2.1
  unfold date?
  rw [bytesOf_dateText, written]
  simp only [digitsOf_padded years (by decide : 0 < 4), bind, Option.bind, if_true,
    List.cons_append, if_neg noWeek, month, skipHyphen, day, made]

/-- A hyphen behind four digits, and no week letter behind it, end the date after ten bytes. -/
theorem dateLength?_written (date : Date) (rest : Bytes) :
    dateLength? (bytesOf (Moment.dateText date) ++ rest) = some 10 := by
  obtain ⟨years, months, -⟩ := date.small
  obtain ⟨d, digit, later, written⟩ := padded_cons months (by decide)
  have length : 10 ≤ (bytesOf (Moment.dateText date) ++ rest).length := by
    rw [List.length_append, Moment.length_dateText]
    omega
  have four := length_bytesOf_padded years (by decide)
  have split : bytesOf (Moment.dateText date) ++ rest = bytesOf (padded 4 date.year) ++
      ([code '-', code (digitChar d)] ++
        (later ++ code '-' :: bytesOf (padded 2 date.day) ++ rest)) := by
    simp only [bytesOf_dateText, written, List.append_assoc, List.cons_append, List.nil_append]
  have hyphen : at? (bytesOf (Moment.dateText date) ++ rest) 4 = code '-' := by
    rw [at?, split, List.getElem?_append_right (by omega), four]
    rfl
  have month : at? (bytesOf (Moment.dateText date) ++ rest) 5 ≠ code 'W' := by
    rw [at?, split, List.getElem?_append_right (by omega), four]
    exact (digit_byte digit).2.2.2.1
  unfold dateLength?
  dsimp only
  rw [if_neg (by omega), if_neg (by omega), if_pos hyphen, if_neg month]

/-! ### Times of day -/

/-- The first byte of what follows a part, or zero at the end of the text. -/
def headOf (following : Bytes) : UInt8 := (following.head?).getD 0

theorem fraction?_padded {microsecond : Nat} (small : microsecond < microsecondsPerSecond)
    (following : Bytes) : fraction? (bytesOf (padded 6 microsecond)) following =
      some (microsecond, decide (headOf following ≠ 0)) := by
  have size : microsecond < powerOfTen 6 := small
  have length := length_bytesOf_padded size (by decide)
  have read := digitsOf_padded size (by decide) []
  rw [List.append_nil] at read
  have whole : microsecond * powerOfTen (6 - 6) = microsecond := Nat.mul_one _
  unfold fraction?
  simp only [length, Nat.min_self, read, whole, List.dropWhile_nil, List.nil_append]
  rfl

/-- The clock that the numbers read so far make. -/
def clockOf (values : List Nat) (microsecond : Nat) (following : Bytes) : Clock :=
  ⟨values.getD 0 0, values.getD 1 0, values.getD 2 0, microsecond, headOf following ≠ 0⟩

/-- The last part of a clock, with the fraction that may stand behind it. -/
theorem parts?_last {n microsecond : Nat} (two : n < 100)
    (small : microsecond < microsecondsPerSecond) (following : Bytes) (remaining : Nat)
    (separated : Option Bool) (seen : List Nat) :
    parts? following (remaining + 1) separated seen
      (bytesOf (padded 2 n) ++ bytesOf (Moment.fractionText microsecond)) =
      some (clockOf (seen ++ [n]) microsecond following) := by
  have number := digitsOf_padded (show n < powerOfTen 2 from two) (by decide)
    (bytesOf (Moment.fractionText microsecond))
  unfold parts?
  rw [number]
  by_cases whole : microsecond = 0
  · subst whole
    rfl
  · have point : bytesOf (Moment.fractionText microsecond) =
        code '.' :: bytesOf (padded 6 microsecond) := by
      rw [Moment.fractionText, if_neg whole, bytesOf_cons]
      rfl
    obtain ⟨d, -, later, filled⟩ :=
      padded_cons (show microsecond < powerOfTen 6 from small) (by decide)
    have fraction := fraction?_padded small following
    have period : code '.' ≠ code ':' := by decide
    rw [filled] at fraction
    simp only [point, filled, bind, Option.bind, List.cons_append, List.head?_cons,
      Option.getD_some, period, and_false, if_false, true_or, if_true, fraction]
    rfl

/-- A part with a colon behind it. -/
theorem parts?_colon {n : Nat} (two : n < 100) (following : Bytes) (remaining : Nat)
    {separated : Option Bool} (colons : separated.getD true = true) (seen : List Nat)
    {text : Bytes} (more : text ≠ []) :
    parts? following (remaining + 2) separated seen (bytesOf (padded 2 n) ++ code ':' :: text) =
      parts? following (remaining + 1) (some true) (seen ++ [n]) text := by
  have number := digitsOf_padded (show n < powerOfTen 2 from two) (by decide) (code ':' :: text)
  obtain ⟨byte, later, rfl⟩ := List.exists_cons_of_ne_nil more
  conv => lhs; unfold parts?
  rw [number]
  simp [colons]

/-- Hours, minutes and seconds with their fraction. -/
def clockBytes (hour minute second microsecond : Nat) : Bytes :=
  bytesOf (padded 2 hour) ++ code ':' :: (bytesOf (padded 2 minute) ++ code ':' ::
    (bytesOf (padded 2 second) ++ bytesOf (Moment.fractionText microsecond)))

theorem padded_append_ne_nil {n : Nat} (two : n < 100) (rest : Bytes) :
    bytesOf (padded 2 n) ++ rest ≠ [] := by
  obtain ⟨d, -, later, written⟩ := padded_cons (show n < powerOfTen 2 from two) (by decide)
  rw [written, List.cons_append]
  exact List.cons_ne_nil _ _

theorem clock?_written {hour minute second microsecond : Nat} (hours : hour < 100)
    (minutes : minute < 100) (seconds : second < 100)
    (small : microsecond < microsecondsPerSecond) (following : Bytes) :
    clock? (clockBytes hour minute second microsecond) following =
      some (clockOf [hour, minute, second] microsecond following) := by
  have last := parts?_last seconds small following 0 (some true) [hour, minute]
  rw [clock?, clockBytes,
    parts?_colon hours following 1 rfl [] (padded_append_ne_nil minutes _),
    parts?_colon minutes following 0 rfl _ (padded_append_ne_nil seconds _)]
  exact last

/-- A clock that ends with its minutes. -/
theorem clock?_short {hour minute : Nat} (hours : hour < 100) (minutes : minute < 100)
    (following : Bytes) :
    clock? (bytesOf (padded 2 hour) ++ code ':' :: bytesOf (padded 2 minute)) following =
      some (clockOf [hour, minute] 0 following) := by
  have last := parts?_last minutes (show 0 < microsecondsPerSecond by decide) following 1
    (some true) [hour]
  have plain : bytesOf (Moment.fractionText 0) = [] := rfl
  have more := padded_append_ne_nil minutes []
  rw [plain, List.append_nil] at last
  rw [List.append_nil] at more
  rw [clock?, parts?_colon hours following 1 rfl [] more]
  exact last

theorem bytesOf_timeText (time : ClockTime) : bytesOf (Moment.timeText time) =
    clockBytes time.hour time.minute time.second time.microsecond := by
  simp [Moment.timeText, clockBytes, code]

/-- No byte of a time is taken for the sign of an offset. -/
theorem clockBytes_unmarked {hour minute second microsecond : Nat} :
    ∀ byte ∈ clockBytes hour minute second microsecond, (!isOffsetMark byte) = true := by
  have number {width n : Nat} : ∀ byte ∈ bytesOf (padded width n), (!isOffsetMark byte) = true := by
    intro byte member
    obtain ⟨d, digit, rfl⟩ := exists_digit member
    rw [(digit_byte digit).2.2.1]
    rfl
  have fraction : ∀ byte ∈ bytesOf (Moment.fractionText microsecond),
      (!isOffsetMark byte) = true := by
    unfold Moment.fractionText
    split
    · exact List.forall_mem_nil _
    · exact List.forall_mem_cons.mpr ⟨by decide, number⟩
  have colon : (!isOffsetMark (code ':')) = true := by decide
  apply List.forall_mem_append.mpr ⟨number, List.forall_mem_cons.mpr ⟨colon, ?_⟩⟩
  apply List.forall_mem_append.mpr ⟨number, List.forall_mem_cons.mpr ⟨colon, ?_⟩⟩
  exact List.forall_mem_append.mpr ⟨number, fraction⟩

/-! ### Offsets -/

/-- The part of an offset's text behind its sign. -/
def sizeBytes (size : Nat) : Bytes :=
  let seconds := size / microsecondsPerSecond
  let fraction := size % microsecondsPerSecond
  if seconds % 60 = 0 ∧ fraction = 0 then
    bytesOf (padded 2 (seconds / 3600)) ++ code ':' :: bytesOf (padded 2 (seconds / 60 % 60))
  else clockBytes (seconds / 3600) (seconds / 60 % 60) (seconds % 60) fraction

theorem bytesOf_offsetText (offset : Offset) : bytesOf (Moment.offsetText offset) =
    code (if offset.microseconds < 0 then '-' else '+') ::
      sizeBytes offset.microseconds.natAbs := by
  unfold Moment.offsetText sizeBytes
  dsimp only
  split <;> split <;> simp [clockBytes, code]

/-- What reading makes of a size that is less than a day. -/
theorem clock?_size {size : Nat} (bounded : size < microsecondsPerDay) :
    ∃ clock : Clock, clock? (sizeBytes size) [] = some clock ∧ clock.leftover = false ∧
      clock.hour * 3600 + clock.minute * 60 + clock.second = size / microsecondsPerSecond ∧
      clock.microsecond = size % microsecondsPerSecond := by
  have day : size / microsecondsPerSecond < 86400 := by
    simp only [microsecondsPerDay, microsecondsPerSecond] at bounded ⊢
    omega
  have hours : size / microsecondsPerSecond / 3600 < 100 := by omega
  have minutes : size / microsecondsPerSecond / 60 % 60 < 100 := by omega
  have seconds : size / microsecondsPerSecond % 60 < 100 := by omega
  have fraction : size % microsecondsPerSecond < microsecondsPerSecond := Nat.mod_lt _ (by decide)
  unfold sizeBytes
  dsimp only
  split
  next whole =>
    refine ⟨_, clock?_short hours minutes [], rfl, ?_, whole.2.symm⟩
    show size / microsecondsPerSecond / 3600 * 3600 +
      size / microsecondsPerSecond / 60 % 60 * 60 + 0 = _
    omega
  next =>
    refine ⟨_, clock?_written hours minutes seconds fraction [], rfl, ?_, rfl⟩
    show size / microsecondsPerSecond / 3600 * 3600 +
      size / microsecondsPerSecond / 60 % 60 * 60 + size / microsecondsPerSecond % 60 = _
    omega

/-- A size with its sign is the offset that was written, or none where it is too short. -/
theorem make?_offsetOf {offset : Offset} {clock : Clock}
    (seconds : clock.hour * 3600 + clock.minute * 60 + clock.second =
      offset.microseconds.natAbs / microsecondsPerSecond)
    (fraction : clock.microsecond = offset.microseconds.natAbs % microsecondsPerSecond)
    {negative : Bool} (sign : negative = true ↔ offset.microseconds < 0) :
    Offset.make? (offsetOf negative clock) = some offset.reread := by
  have value : offsetOf negative clock = offset.reread.microseconds := by
    -- Whole seconds are looked at before the fraction, so a fraction alone counts for nothing.
    unfold offsetOf Offset.reread
    simp only [seconds, fraction, microsecondsPerSecond]
    by_cases short : offset.microseconds.natAbs < 1000000
    · have none : offset.microseconds.natAbs / 1000000 = 0 := Nat.div_eq_of_lt short
      simp only [none, short, if_true]
      split <;> rfl
    · have some : offset.microseconds.natAbs / 1000000 ≠ 0 := by omega
      simp only [some, short, if_false]
      split
      next negative =>
        have below := sign.mp negative
        omega
      next positive =>
        have above : ¬ offset.microseconds < 0 := fun below => positive (sign.mpr below)
        omega
  unfold Offset.make?
  rw [value, dif_pos offset.reread.bounded]

/-- The sign is what parts a time from the offset behind it. -/
theorem time?_signed {text : Bytes} (unmarked : ∀ byte ∈ text, (!isOffsetMark byte) = true)
    {mark : UInt8} (marked : isOffsetMark mark = true) {tail : Bytes} {clock size : Clock}
    {time : ClockTime} {offset : Offset} (read : clock? text (mark :: tail) = some clock)
    (behind : clock? tail [] = some size) (ends : size.leftover = false)
    (made : clock.toTime? = some time)
    (apart : Offset.make? (offsetOf (mark = code '-') size) = some offset) :
    time? (text ++ mark :: tail) = some (time, some offset) := by
  have front : (text ++ mark :: tail).takeWhile (!isOffsetMark ·) = text := by
    rw [List.takeWhile_append_of_pos unmarked, List.takeWhile_cons, marked]
    exact List.append_nil text
  have back : (text ++ mark :: tail).dropWhile (!isOffsetMark ·) = mark :: tail := by
    rw [List.dropWhile_append_of_pos unmarked, List.dropWhile_cons, marked]
    rfl
  unfold time?
  rw [front, back]
  simp only [read, behind, ends, made, apart, bind, Option.bind, Bool.false_eq_true, if_false]

theorem time?_unsigned {text : Bytes} (unmarked : ∀ byte ∈ text, (!isOffsetMark byte) = true)
    {clock : Clock} {time : ClockTime} (read : clock? text [] = some clock)
    (ends : clock.leftover = false) (made : clock.toTime? = some time) :
    time? text = some (time, none) := by
  have front : (text ++ []).takeWhile (!isOffsetMark ·) = text := by
    rw [List.takeWhile_append_of_pos unmarked]
    exact List.append_nil text
  have back : (text ++ []).dropWhile (!isOffsetMark ·) = [] :=
    List.dropWhile_append_of_pos unmarked
  rw [List.append_nil] at front back
  unfold time?
  rw [front, back]
  simp only [read, ends, made, bind, Option.bind, Bool.false_eq_true, if_false, Option.map_some]

/-- The bytes of an offset, where there is one. -/
def zoneBytes (offset : Option Offset) : Bytes :=
  bytesOf ((offset.map Moment.offsetText).getD [])

theorem time?_written (time : ClockTime) (offset : Option Offset) :
    time? (bytesOf (Moment.timeText time) ++ zoneBytes offset) =
      some (time, offset.map Offset.reread) := by
  obtain ⟨hours, minutes, seconds, small⟩ := time.valid
  have made (following : Bytes) : Clock.toTime?
      (clockOf [time.hour, time.minute, time.second] time.microsecond following) = some time :=
    dif_pos time.valid
  have read (following : Bytes) := clock?_written (show time.hour < 100 by omega)
    (show time.minute < 100 by omega) (show time.second < 100 by omega) small following
  rw [bytesOf_timeText]
  cases offset with
  | none =>
    rw [zoneBytes, Option.map_none, Option.getD_none, bytesOf_nil, List.append_nil]
    exact time?_unsigned clockBytes_unmarked (read []) rfl (made [])
  | some offset =>
    obtain ⟨size, behind, ends, whole, fraction⟩ := clock?_size offset.bounded
    have marked : isOffsetMark (code (if offset.microseconds < 0 then '-' else '+')) = true := by
      split <;> decide
    have sign : decide (code (if offset.microseconds < 0 then '-' else '+') = code '-') = true ↔
        offset.microseconds < 0 := by
      split
      next below => exact iff_of_true (by decide) below
      next above => exact iff_of_false (by decide) above
    rw [zoneBytes, Option.map_some, Option.getD_some, bytesOf_offsetText]
    exact time?_signed clockBytes_unmarked marked (read _) behind ends (made _)
      (make?_offsetOf whole fraction sign)

/-! ### Moments -/

/-- A clock begins with a digit, so that the letter before it is skipped alone. -/
theorem skipCharacter_timeText (time : ClockTime) (rest : Bytes) :
    skipCharacter (code 'T' :: (bytesOf (Moment.timeText time) ++ rest)) =
      bytesOf (Moment.timeText time) ++ rest := by
  obtain ⟨d, digit, later, written⟩ := padded_cons
    (show time.hour < powerOfTen 2 by have hours := time.valid.1; show _ < 100; omega) (by decide)
  have leading : ¬ (0x80 ≤ (code (digitChar d)).toNat) := (digit_byte digit).2.2.2.2.1
  rw [bytesOf_timeText, clockBytes, written, List.cons_append, List.cons_append, skipCharacter,
    List.dropWhile_cons]
  simp [leading]

theorem moment?_written (m : Moment) : moment? (bytesOf (m.toText 'T')) = some m.reread := by
  have written : bytesOf (m.toText 'T') = bytesOf (Moment.dateText m.date) ++ code 'T' ::
      (bytesOf (Moment.timeText m.time) ++ zoneBytes m.offset) := by
    simp [Moment.toText, zoneBytes, code]
  have length := Moment.length_dateText m.date
  unfold moment?
  rw [written, dateLength?_written]
  simp only [bind, Option.bind, List.take_left' length, List.drop_left' length, date?_written,
    skipCharacter_timeText, time?_written]
  rfl

theorem moment?_dateText (date : Date) :
    moment? (bytesOf (Moment.dateText date)) = some (Moment.ofDate date) := by
  have length := Moment.length_dateText date
  have ten := dateLength?_written date []
  rw [List.append_nil] at ten
  unfold moment?
  rw [ten]
  simp only [bind, Option.bind, List.take_of_length_le length.le, List.drop_of_length_le length.le,
    date?_written]

/-! ### Texts -/

/-- Characters that stand before the letter for the zero offset. -/
def IsUnzoned (text : List Char) : Prop := ∀ c ∈ text, c.toNat < 'Z'.toNat

theorem IsUnzoned.nil : IsUnzoned [] := List.forall_mem_nil _

theorem IsUnzoned.cons {c : Char} {rest : List Char} (first : c.toNat < 'Z'.toNat)
    (later : IsUnzoned rest) : IsUnzoned (c :: rest) := List.forall_mem_cons.mpr ⟨first, later⟩

theorem IsUnzoned.append {first second : List Char} (left : IsUnzoned first)
    (right : IsUnzoned second) : IsUnzoned (first ++ second) :=
  List.forall_mem_append.mpr ⟨left, right⟩

theorem IsUnzoned.ascii {text : List Char} (unzoned : IsUnzoned text) : IsAscii text :=
  fun c member => (unzoned c member).trans (by decide)

/-- A text without the letter for the zero offset is read as it stands. -/
theorem IsUnzoned.spelled {text : List Char} (unzoned : IsUnzoned text) :
    (text.flatMap fun c => if c = 'Z' then "+00:00".toList else [c]) = text := by
  have kept : ∀ c ∈ text, (if c = 'Z' then "+00:00".toList else [c]) = [c] := by
    intro c member
    apply if_neg
    rintro rfl
    exact absurd (unzoned 'Z' member) (Nat.lt_irrefl _)
  rw [List.flatMap_congr kept]
  exact List.flatMap_singleton' text

theorem padded_unzoned (width n : Nat) : IsUnzoned (padded width n) := by
  intro c member
  rw [padded_eq] at member
  obtain ⟨d, among, rfl⟩ := List.mem_map.mp member
  have digit : d < 10 := padded_lt width n d among
  rw [digitChar_toNat digit]
  show 48 + d < 90
  omega

theorem fractionText_unzoned (microsecond : Nat) : IsUnzoned (Moment.fractionText microsecond) := by
  unfold Moment.fractionText
  split
  · exact .nil
  · exact .cons (by decide) (padded_unzoned _ _)

theorem dateText_unzoned (date : Date) : IsUnzoned (Moment.dateText date) :=
  .append (.append (padded_unzoned _ _) (.cons (by decide) (padded_unzoned _ _)))
    (.cons (by decide) (padded_unzoned _ _))

theorem timeText_unzoned (time : ClockTime) : IsUnzoned (Moment.timeText time) :=
  .append (.append (.append (padded_unzoned _ _) (.cons (by decide) (padded_unzoned _ _)))
    (.cons (by decide) (padded_unzoned _ _))) (fractionText_unzoned _)

theorem offsetText_unzoned (offset : Offset) : IsUnzoned (Moment.offsetText offset) := by
  have seconds (second microsecond : Nat) : IsUnzoned (if second = 0 ∧ microsecond = 0 then []
      else ':' :: (padded 2 second ++ Moment.fractionText microsecond)) := by
    split
    · exact .nil
    · exact .cons (by decide) (.append (padded_unzoned _ _) (fractionText_unzoned _))
  refine .cons ?_ (.append (.append (padded_unzoned _ _) (.cons (by decide) (padded_unzoned _ _)))
    (seconds _ _))
  split <;> decide

theorem toText_unzoned (m : Moment) : IsUnzoned (m.toText 'T') := by
  have zone : IsUnzoned ((m.offset.map Moment.offsetText).getD []) := by
    cases m.offset with
    | none => exact .nil
    | some offset => exact offsetText_unzoned offset
  exact .append (.append (dateText_unzoned _) (.cons (by decide) (timeText_unzoned _))) zone

/-- Reading a moment's text gives the moment, but for an offset of less than a second. -/
theorem ofText?_toText (m : Moment) : ofText? (m.toText 'T') = some m.reread := by
  have unzoned := toText_unzoned m
  rw [ofText?, unzoned.spelled, toList_toUTF8 unzoned.ascii, moment?_written]

theorem ofText?_dateText (date : Date) :
    ofText? (Moment.dateText date) = some (Moment.ofDate date) := by
  have unzoned := dateText_unzoned date
  rw [ofText?, unzoned.spelled, toList_toUTF8 unzoned.ascii, moment?_dateText]

/-- The letter behind a clock reading stands for universal time. -/
theorem ofText?_zoned (m : Moment) :
    ofText? (m.wallClock.toText 'T' ++ ['Z']) = some { m with offset := some .zero } := by
  have unzoned := toText_unzoned m.wallClock
  have zero : padded 2 0 = ['0', '0'] := by rw [padded, Text.ofNat, digits]; rfl
  have zone : Moment.offsetText .zero = "+00:00".toList := by
    show '+' :: (padded 2 0 ++ ':' :: padded 2 0 ++ []) = _
    rw [zero]
    rfl
  have spelled : ((m.wallClock.toText 'T' ++ ['Z']).flatMap fun c =>
      if c = 'Z' then "+00:00".toList else [c]) =
      Moment.toText 'T' { m with offset := some .zero } := by
    rw [List.flatMap_append, unzoned.spelled, Moment.toText, Moment.toText, Option.map_some,
      Option.getD_some, zone]
    exact congrArg (· ++ "+00:00".toList) (List.append_nil _)
  have legible : Moment.IsLegible { m with offset := some .zero } := by
    rintro offset ⟨⟩
    exact .inl rfl
  have read := ofText?_toText { m with offset := some .zero }
  have ascii := (toText_unzoned { m with offset := some .zero }).ascii
  rw [ofText?, spelled, toList_toUTF8 ascii, moment?_written, legible.reread]

end Iso

end Outreach
