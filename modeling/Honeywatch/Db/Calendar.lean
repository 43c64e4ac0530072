import Honeywatch.Db.Models

/-!
# Moments counted from the epoch

The Gregorian calendar numbers its days one after the other, so a timestamp in
UTC is a number of microseconds, and timestamps are ordered as these numbers
are. Going back in time steps over days, months and years and takes exactly the
microseconds asked for.
-/

namespace Honeywatch.Collector

/-- The days of the years before a year, as `datetime` counts them. -/
def daysBeforeYear (year : Nat) : Nat :=
  (year - 1) * 365 + (year - 1) / 4 - (year - 1) / 100 + (year - 1) / 400

def daysInYear (year : Nat) : Nat :=
  if year % 4 = 0 ∧ (year % 100 ≠ 0 ∨ year % 400 = 0) then 366 else 365

/-- The days of the months before a month of a year. -/
def daysBeforeMonth (year month : Nat) : Nat :=
  ((List.range' 1 (month - 1)).map (daysInMonth year)).sum

/-- The days before a year are counted with the leap years up to it, and each year
adds its own days. The proof compares the three quotients of the leap year rule year
by year. -/
theorem daysBeforeYear_succ (year : Nat) (positive : 1 ≤ year) :
    daysBeforeYear (year + 1) = daysBeforeYear year + daysInYear year := by
  obtain ⟨before, rfl⟩ := Nat.exists_eq_add_of_le' positive
  simp only [daysBeforeYear, daysInYear, Nat.add_sub_cancel, Nat.succ_div,
    ← Nat.dvd_iff_mod_eq_zero, ne_eq]
  have fewer : before / 100 ≤ before / 4 := Nat.div_le_div_left (by decide) (by decide)
  have hundred : 100 ∣ before + 1 → 4 ∣ before + 1 := Nat.dvd_trans (by decide)
  have fourHundred : 400 ∣ before + 1 → 100 ∣ before + 1 := Nat.dvd_trans (by decide)
  by_cases four : 4 ∣ before + 1
  · by_cases century : 100 ∣ before + 1
    · by_cases quarter : 400 ∣ before + 1
      · simp only [four, century, quarter, if_true, or_true, and_self]
        omega
      · simp only [four, century, quarter, if_true, if_false, not_true, or_self, and_false]
        omega
    · simp only [four, century, mt fourHundred century, if_true, if_false, not_false_eq_true,
        true_or, and_self]
      omega
  · simp only [four, mt hundred four, mt fourHundred (mt hundred four), if_false, false_and]
    omega

/-- The days before a month are added up month by month. -/
theorem daysBeforeMonth_succ (year month : Nat) (positive : 1 ≤ month) :
    daysBeforeMonth year (month + 1) = daysBeforeMonth year month + daysInMonth year month := by
  obtain ⟨before, rfl⟩ := Nat.exists_eq_add_of_le' positive
  simp only [daysBeforeMonth, Nat.add_sub_cancel]
  rw [List.range'_1_concat, List.map_append, List.sum_append, List.map_singleton,
    List.sum_singleton, Nat.add_comm 1 before]

/-- The months of a year make up its days. -/
theorem daysBeforeMonth_year (year : Nat) : daysBeforeMonth year 13 = daysInYear year := by
  by_cases leap : year % 4 = 0 ∧ (year % 100 ≠ 0 ∨ year % 400 = 0)
  · simp [daysBeforeMonth, daysInYear, daysInMonth, leap, List.range'_succ]
  · simp [daysBeforeMonth, daysInYear, daysInMonth, leap, List.range'_succ]

/-- No month is empty. -/
theorem daysInMonth_pos (year month : Nat) : 1 ≤ daysInMonth year month := by
  unfold daysInMonth
  repeat' split
  all_goals omega

/-- Later years begin on later days, with one leap day more or less between them. -/
theorem daysBeforeYear_mono {earlier later : Nat} (positive : 1 ≤ earlier)
    (ordered : earlier ≤ later) : daysBeforeYear earlier ≤ daysBeforeYear later := by
  induction later, ordered using Nat.le_induction with
  | base => exact le_refl _
  | succ later ordered inductionHypothesis =>
    rw [daysBeforeYear_succ later (by omega)]
    omega

/-- So a later month has no fewer days before it, within the same year. -/
theorem daysBeforeMonth_mono (year : Nat) {earlier later : Nat} (positive : 1 ≤ earlier)
    (ordered : earlier ≤ later) : daysBeforeMonth year earlier ≤ daysBeforeMonth year later := by
  induction later, ordered using Nat.le_induction with
  | base => exact le_refl _
  | succ later ordered inductionHypothesis =>
    rw [daysBeforeMonth_succ year later (by omega)]
    omega

/-- The number of a day, counted from the first day of the first year. -/
def DateTime.dayNumber (time : DateTime) : Nat :=
  daysBeforeYear time.year + daysBeforeMonth time.year time.month + time.day

/-- The microseconds since midnight. -/
def DateTime.clock (time : DateTime) : Nat :=
  ((time.hour * 60 + time.minute) * 60 + time.second) * 1000000 + time.microsecond

/-- The microseconds of a day. -/
def dayLength : Nat := 24 * 60 * 60 * 1000000

/-- The number of a moment in microseconds. -/
def DateTime.microseconds (time : DateTime) : Nat := time.dayNumber * dayLength + time.clock

/-- The time of a day is less than a day: a date comes before every time of the next
one. -/
theorem DateTime.clock_lt (time : DateTime) : time.clock < dayLength := by
  obtain ⟨_, _, _, hour, minute, second, microsecond⟩ := time.valid
  unfold DateTime.clock dayLength
  omega

/-- A day of a year comes before the next year, which keeps the numbers of two years
apart. -/
theorem DateTime.day_in_year (time : DateTime) :
    daysBeforeMonth time.year time.month + time.day ≤ daysInYear time.year := by
  obtain ⟨_, month, day, _⟩ := time.valid
  have next := daysBeforeMonth_succ time.year time.month month.1
  have last := daysBeforeMonth_mono time.year (by omega : 1 ≤ time.month + 1)
    (by omega : time.month + 1 ≤ 13)
  rw [daysBeforeMonth_year] at last
  omega

/-- Two numbers in mixed radix compare by their high digits. -/
theorem radix_lt {radix left right low high : Nat} (small : low < radix) (before : left < right) :
    left * radix + low < right * radix + high := by
  have next : (left + 1) * radix ≤ right * radix := Nat.mul_le_mul_right radix before
  rw [Nat.succ_mul] at next
  omega

/-- Days are numbered in the order of the calendar. A later month of the same year
begins behind the earlier one, in leap years too. -/
theorem dayNumber_lt {left right : DateTime}
    (before : (left.year * 13 + left.month) * 32 + left.day <
      (right.year * 13 + right.month) * 32 + right.day) :
    left.dayNumber < right.dayNumber := by
  obtain ⟨year, month, day, _⟩ := left.valid
  obtain ⟨year', month', day', _⟩ := right.valid
  have small := left.day_lt
  have small' := right.day_lt
  unfold DateTime.dayNumber
  rcases Nat.lt_trichotomy left.year right.year with earlier | same | later
  · have inside := left.day_in_year
    have next := daysBeforeYear_succ left.year year.1
    have begun := daysBeforeYear_mono (by omega : 1 ≤ left.year + 1) earlier
    omega
  · rw [same] at before day ⊢
    rcases Nat.lt_trichotomy left.month right.month with earlier | equal | later
    · have next := daysBeforeMonth_succ right.year left.month month.1
      have begun := daysBeforeMonth_mono right.year (by omega : 1 ≤ left.month + 1) earlier
      omega
    · rw [equal] at before ⊢
      omega
    · omega
  · omega

/-- Timestamps are ordered as their numbers are, which lets the intervals be counted
in microseconds since the epoch. -/
theorem DateTime.microseconds_lt {left right : DateTime} (before : left < right) :
    left.microseconds < right.microseconds := by
  have ordinals : left.ordinal < right.ordinal := before
  have parts (time : DateTime) : time.ordinal =
      ((time.year * 13 + time.month) * 32 + time.day) * dayLength + time.clock := by
    unfold DateTime.ordinal DateTime.clock dayLength
    omega
  have clock := left.clock_lt
  have clock' := right.clock_lt
  rw [parts, parts] at ordinals
  unfold DateTime.microseconds
  rcases Nat.lt_trichotomy ((left.year * 13 + left.month) * 32 + left.day)
      ((right.year * 13 + right.month) * 32 + right.day) with earlier | same | later
  · exact radix_lt clock (dayNumber_lt earlier)
  · obtain ⟨years, day⟩ := radix_inj left.day_lt right.day_lt same
    obtain ⟨_, month, _⟩ := left.valid
    obtain ⟨_, month', _⟩ := right.valid
    obtain ⟨year, months⟩ := radix_inj (by omega) (by omega) years
    have equal : left.dayNumber = right.dayNumber := by
      rw [DateTime.dayNumber, year, months, day, DateTime.dayNumber]
    rw [same] at ordinals
    rw [equal]
    omega
  · exact absurd (radix_lt clock' later) (Nat.lt_asymm ordinals)

/-- The first moment of 1970. -/
def epoch : DateTime where
  year := 1970
  month := 1
  day := 1
  hour := 0
  minute := 0
  second := 0
  microsecond := 0
  valid := by decide

/-- The microseconds from the epoch. -/
def DateTime.sinceEpoch (time : DateTime) : Int := time.microseconds - epoch.microseconds

/-- The beginning of 1970 as a number, which the periods are measured against. -/
theorem epoch_microseconds : epoch.microseconds = 719163 * dayLength := by decide

/-- Later timestamps have greater numbers. -/
theorem DateTime.sinceEpoch_lt {left right : DateTime} (before : left < right) :
    left.sinceEpoch < right.sinceEpoch := by
  have numbers := DateTime.microseconds_lt before
  unfold DateTime.sinceEpoch
  omega

/-- Timestamps with one number are one moment. -/
theorem DateTime.sinceEpoch_injective : Function.Injective DateTime.sinceEpoch := by
  intro left right same
  rcases lt_trichotomy left right with earlier | equal | later
  · exact absurd same (Int.ne_of_lt (DateTime.sinceEpoch_lt earlier))
  · exact equal
  · exact absurd same (Int.ne_of_gt (DateTime.sinceEpoch_lt later))

/-- The same time on the day before; none on the first day of the calendar. -/
def DateTime.yesterday (time : DateTime) : Option DateTime :=
  if day : 1 < time.day then
    some
      { time with
        day := time.day - 1
        valid := ⟨time.valid.1, time.valid.2.1,
          ⟨Nat.le_sub_one_of_lt day, Nat.le_trans (Nat.sub_le _ _) time.valid.2.2.1.2⟩,
          time.valid.2.2.2⟩ }
  else if month : 1 < time.month then
    some
      { time with
        month := time.month - 1
        day := daysInMonth time.year (time.month - 1)
        valid := ⟨time.valid.1,
          ⟨Nat.le_sub_one_of_lt month, Nat.le_trans (Nat.sub_le _ _) time.valid.2.1.2⟩,
          ⟨daysInMonth_pos _ _, le_refl _⟩, time.valid.2.2.2⟩ }
  else if year : 1 < time.year then
    some
      { time with
        year := time.year - 1
        month := 12
        day := 31
        valid := ⟨⟨Nat.le_sub_one_of_lt year, Nat.le_trans (Nat.sub_le _ _) time.valid.1.2⟩,
          by decide, ⟨by decide, le_refl _⟩, time.valid.2.2.2⟩ }
  else none

/-- The same time so many days before. -/
def DateTime.minusDays (time : DateTime) : Nat → Option DateTime
  | 0 => some time
  | days + 1 => time.yesterday.bind fun before => before.minusDays days

/-- The time at another hour of the day. -/
def DateTime.withHour (time : DateTime) (hour : Nat) (inDay : hour < 24) : DateTime :=
  { time with
    hour
    valid := ⟨time.valid.1, time.valid.2.1, time.valid.2.2.1, inDay, time.valid.2.2.2.2⟩ }

/-- `time - timedelta(hours=hours)`; none where `OverflowError` is raised. -/
def DateTime.minusHours (time : DateTime) (hours : Nat) : Option DateTime :=
  (time.minusDays (hours / 24)).bind fun date =>
    if sameDay : hours % 24 ≤ date.hour then
      some (date.withHour (date.hour - hours % 24)
        (Nat.lt_of_le_of_lt (Nat.sub_le _ _) date.valid.2.2.2.1))
    else
      date.yesterday.map fun before =>
        before.withHour (date.hour + 24 - hours % 24) (by omega)

/-- The day before has the number before, and there is one unless the calendar
begins. -/
theorem yesterday_spec (time : DateTime) (later : 1 < time.dayNumber) :
    ∃ before, time.yesterday = some before ∧ before.dayNumber + 1 = time.dayNumber ∧
      before.clock = time.clock ∧ before.hour = time.hour := by
  obtain ⟨year, month, day, _⟩ := time.valid
  unfold DateTime.yesterday
  by_cases inMonth : 1 < time.day
  · rw [dif_pos inMonth]
    refine ⟨_, rfl, ?_, rfl, rfl⟩
    simp only [DateTime.dayNumber]
    omega
  · have first : time.day = 1 := by omega
    rw [dif_neg inMonth]
    by_cases inYear : 1 < time.month
    · rw [dif_pos inYear]
      refine ⟨_, rfl, ?_, rfl, rfl⟩
      have months := daysBeforeMonth_succ time.year (time.month - 1) (by omega)
      rw [Nat.sub_add_cancel month.1] at months
      simp only [DateTime.dayNumber]
      omega
    · have january : time.month = 1 := by omega
      rw [dif_neg inYear]
      by_cases inCalendar : 1 < time.year
      · rw [dif_pos inCalendar]
        refine ⟨_, rfl, ?_, rfl, rfl⟩
        have years := daysBeforeYear_succ (time.year - 1) (by omega)
        rw [Nat.sub_add_cancel year.1, ← daysBeforeMonth_year,
          daysBeforeMonth_succ _ 12 (by decide)] at years
        have december : daysInMonth (time.year - 1) 12 = 31 := rfl
        have none_before : daysBeforeMonth time.year 1 = 0 := rfl
        simp only [DateTime.dayNumber, january]
        omega
      · have begun : time.year = 1 := by omega
        have none_before : daysBeforeYear 1 + daysBeforeMonth 1 1 = 0 := rfl
        simp only [DateTime.dayNumber, begun, january, first] at later
        omega

/-- Going back by days goes back exactly so many of them and keeps the time of the
day, as long as the calendar reaches. By induction, day by day. -/
theorem minusDays_spec (time : DateTime) (days : Nat) (later : days < time.dayNumber) :
    ∃ before, time.minusDays days = some before ∧ before.dayNumber + days = time.dayNumber ∧
      before.clock = time.clock := by
  induction days generalizing time with
  | zero => exact ⟨time, rfl, rfl, rfl⟩
  | succ days inductionHypothesis =>
    obtain ⟨day, known, number, clock, _⟩ := yesterday_spec time (by omega)
    obtain ⟨before, found, counted, same⟩ := inductionHypothesis day (by omega)
    refine ⟨before, ?_, by omega, same.trans clock⟩
    rw [DateTime.minusDays, known]
    exact found

/-- The microseconds of an hour. -/
def hourLength : Nat := 60 * 60 * 1000000

/-- Setting the hour moves a time by the difference of the hours. It is stated
without a subtraction. -/
theorem microseconds_withHour (time : DateTime) (hour : Nat) (inDay : hour < 24) :
    (time.withHour hour inDay).microseconds + time.hour * hourLength =
      time.microseconds + hour * hourLength := by
  have sameDay : (time.withHour hour inDay).dayNumber = time.dayNumber := rfl
  rw [DateTime.microseconds, DateTime.microseconds, sameDay]
  simp only [DateTime.clock, DateTime.withHour, hourLength]
  omega

/-- A time so many hours before is exactly so far away, where there are enough
days before. -/
theorem minusHours_spec (time : DateTime) (hours : Nat) (later : hours / 24 + 1 < time.dayNumber) :
    ∃ before, time.minusHours hours = some before ∧
      before.microseconds + hours * hourLength = time.microseconds := by
  obtain ⟨date, reached, number, clock⟩ := minusDays_spec time (hours / 24) (by omega)
  have whole : date.microseconds + hours / 24 * dayLength = time.microseconds := by
    rw [DateTime.microseconds, DateTime.microseconds, clock, ← number, Nat.add_mul]
    omega
  have divided := Nat.div_add_mod hours 24
  unfold DateTime.minusHours
  rw [reached, Option.bind_some]
  by_cases sameDay : hours % 24 ≤ date.hour
  · rw [dif_pos sameDay]
    refine ⟨_, rfl, ?_⟩
    have bounded := date.valid.2.2.2.1
    have moved := microseconds_withHour date (date.hour - hours % 24) (by omega)
    have distance : (date.hour - hours % 24) * hourLength + hours * hourLength =
        date.hour * hourLength + hours / 24 * dayLength := by
      simp only [dayLength, hourLength]
      omega
    omega
  · obtain ⟨eve, known, before, sameClock, sameHour⟩ := yesterday_spec date (by omega)
    rw [dif_neg sameDay, known, Option.map_some]
    refine ⟨_, rfl, ?_⟩
    have bounded := date.valid.2.2.2.1
    have moved := microseconds_withHour eve (date.hour + 24 - hours % 24) (by omega)
    have earlier : eve.microseconds + dayLength = date.microseconds := by
      rw [DateTime.microseconds, DateTime.microseconds, sameClock, ← before, Nat.succ_mul]
      omega
    have distance : (date.hour + 24 - hours % 24) * hourLength + hours * hourLength =
        date.hour * hourLength + hours / 24 * dayLength + dayLength := by
      simp only [dayLength, hourLength]
      omega
    rw [sameHour] at moved
    omega

end Honeywatch.Collector
