import Outreach.Proofs.Calendar.Exchange

/-! Moments counted from the epoch. The moment for a count has this count: the date that is found
for a number of days has this number. And the calendar is short enough for its seconds to have few
digits. -/

namespace Outreach

namespace Date

theorem foldl_daysInMonth_le (year days : Nat) (months : List Nat) :
    months.foldl (fun days month => days + daysInMonth year month) days ≤
      days + 31 * months.length := by
  induction months generalizing days with
  | nil => simp
  | cons month later ih =>
    have first := daysInMonth_le year month
    have rest := ih (days + daysInMonth year month)
    rw [List.foldl_cons, List.length_cons]
    omega

theorem ordinal_lt (date : Date) : date.ordinal < 4000000 := by
  obtain ⟨⟨early, late⟩, ⟨-, last⟩, -, most⟩ := date.bounds
  have months : daysBeforeMonth date.year date.month ≤ 31 * 12 := by
    have bound := foldl_daysInMonth_le date.year 0 ((List.range date.month).drop 1)
    rw [List.length_drop, List.length_range] at bound
    unfold daysBeforeMonth
    omega
  simp only [ordinal, daysBeforeYear]
  omega

theorem daysBeforeMonth_succ (year : Nat) {month : Nat} (positive : 0 < month) :
    daysBeforeMonth year (month + 1) = daysBeforeMonth year month + daysInMonth year month := by
  have within : 1 ≤ (List.range month).length := by
    rw [List.length_range]
    exact positive
  unfold daysBeforeMonth
  rw [List.range_succ, List.drop_append_of_le_length within, List.foldl_append]
  rfl

/-- Month and day make up the days of the year that were to be placed. -/
theorem monthFrom_days (year : Nat) {month : Nat} (positive : 0 < month) (months days : Nat) :
    daysBeforeMonth year (monthFrom year months month days).1 +
      (monthFrom year months month days).2 = daysBeforeMonth year month + days + 1 := by
  induction months generalizing month days with
  | zero => rfl
  | succ months ih =>
    unfold monthFrom
    split
    next => rfl
    next later =>
      rw [ih (Nat.succ_pos month), daysBeforeMonth_succ year positive]
      omega

/-- The days before a year that is given by eras of four centuries, centuries and four years. -/
theorem daysBeforeYear_parts {eras centuries quads years : Nat} (few : centuries ≤ 3)
    (short : quads ≤ 24) (last : years ≤ 3) :
    daysBeforeYear (eras * 400 + centuries * 100 + quads * 4 + years + 1) =
      eras * 146097 + centuries * 36524 + quads * 1461 + years * 365 := by
  unfold daysBeforeYear
  dsimp only
  rw [Nat.add_sub_cancel]
  have fourth : (eras * 400 + centuries * 100 + quads * 4 + years) / 4 =
      eras * 100 + centuries * 25 + quads := by omega
  have hundredth : (eras * 400 + centuries * 100 + quads * 4 + years) / 100 =
      eras * 4 + centuries := by omega
  have last : (eras * 400 + centuries * 100 + quads * 4 + years) / 400 = eras := by omega
  rw [fourth, hundredth, last]
  omega

/-- The year that is found for a day has the day. -/
theorem civil_days (number : Nat) : ∃ year days,
    civil number = (year, monthFrom year 11 1 days) ∧ daysBeforeYear year + days = number - 1 := by
  refine ⟨_, _, rfl, ?_⟩
  rw [daysBeforeYear_parts (by omega) (by omega) (by omega)]
  omega

/-- The date with a number has this number. -/
theorem ordinal_of_ofOrdinal? {number : Nat} {date : Date} (found : ofOrdinal? number = some date) :
    date.ordinal = number := by
  obtain ⟨year, days, parts, placed⟩ := civil_days number
  unfold ofOrdinal? at found
  split at found
  next => cases found
  next some =>
    rw [parts] at found
    dsimp only at found
    unfold make? at found
    split at found
    next valid =>
      obtain rfl := Option.some.inj found
      have month := monthFrom_days year Nat.one_pos 11 days
      have none : daysBeforeMonth year 1 = 0 := rfl
      unfold ordinal
      dsimp only
      omega
    next => cases found

end Date

theorem Moment.sinceEpoch_of_ofEpoch? {microseconds : Int} {m : Moment}
    (found : ofEpoch? microseconds = some m) : m.sinceEpoch = microseconds := by
  unfold ofEpoch? ofClock? at found
  obtain ⟨date, dated, rfl⟩ := Option.map_eq_some_iff.mp found
  have ordinal := Date.ordinal_of_ofOrdinal? dated
  have some : date.ordinal ≠ 0 := by
    intro none
    rw [none] at ordinal
    rw [← ordinal] at dated
    cases dated
  have time := ClockTime.sinceMidnight_ofMicroseconds
    ((microseconds + (epochDay * microsecondsPerDay : Nat)) % microsecondsPerDay).toNat
  unfold sinceEpoch instant clock shift
  dsimp only
  rw [time]
  simp only [microsecondsPerDay, Option.map_some, Option.getD_some, Offset.zero] at *
  omega

/-- The seconds of the calendar have few digits. -/
theorem Moment.epochSeconds_bounded (m : Moment) : m.epochSeconds.natAbs < powerOfTen 12 := by
  have day := m.date.ordinal_lt
  obtain ⟨hours, minutes, seconds, fraction⟩ := m.time.valid
  have shift : m.shift.natAbs < microsecondsPerDay := by
    unfold Moment.shift
    cases m.offset with
    | none => decide
    | some offset => exact offset.bounded
  show _ < 1000000000000
  simp only [Moment.epochSeconds, Moment.sinceEpoch, Moment.instant, Moment.clock,
    ClockTime.sinceMidnight, microsecondsPerSecond, microsecondsPerDay, Moment.epochDay] at *
  omega

end Outreach
