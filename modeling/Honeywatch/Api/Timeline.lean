import Honeywatch.Api.Dashboard
import Honeywatch.Api.Period
import Honeywatch.Foundation.Buckets

/-!
# The buckets of the timeline

`get_dashboard_timeline` turns the interval into minutes, and from the minutes
`get_timeline` picks the unit that `date_trunc` cuts the timestamps by. By the
hour, the groups are the buckets of the interval. Of a quarter of an hour the
database knows no unit, and for five minutes it is asked for single minutes: so
the buckets are right only where no event has to be cut, or where every event
happens to lie in the first minute of its bucket.
-/

namespace Honeywatch.Api

open Text Collector Db

/-- `interval` as the route accepts it: `5m`, `15m` or `1h`. -/
inductive Interval
  | fiveMinutes
  | quarterHour
  | hour
deriving DecidableEq

/-- `interval_map`. -/
def Interval.minutes : Interval → Nat
  | .fiveMinutes => 5
  | .quarterHour => 15
  | .hour => 60

/-- `_MONTH_SENTINEL`. -/
def monthSentinel : Nat := 43200

/-- The minutes that the route asks the repository for. -/
def intervalMinutes (period : Period) (interval : Interval) : Nat :=
  if period = .year ∨ period = .all then monthSentinel else interval.minutes

/-- The route `get_dashboard_timeline` at a reading of the clock; none where the
request fails. -/
def getDashboardTimeline (table : AttackEvents) (period : Period) (interval : Interval)
    (now : DateTime) : Option (List TimelineRow) :=
  (resolvePeriodRange period now).bind fun range =>
    getTimeline table range.1 range.2 (intervalMinutes period interval)

/-- The microseconds of a minute. -/
def minuteLength : Nat := 60 * 1000000

/-- A moment lies in the bucket of so many minutes that begins at another. -/
def InBucket (minutes : Nat) (start time : DateTime) : Prop :=
  Within DateTime.sinceEpoch (minutes * minuteLength : Nat) start time

instance (minutes : Nat) (start time : DateTime) : Decidable (InBucket minutes start time) :=
  inferInstanceAs (Decidable (Within _ _ _ _))

/-- The events in a bucket. -/
def bucketEvents (events : List AttackEventModel) (minutes : Nat) (start : DateTime) :
    List AttackEventModel :=
  events.filter fun event => decide (InBucket minutes start event.timestamp)

/-- Rows that count events in buckets of one width: they begin at multiples of it
from the epoch, in increasing order, each counts the events within it, and every
event falls in exactly one. -/
structure IsTimeline (events : List AttackEventModel) (minutes : Nat) (rows : List TimelineRow) :
    Prop where
  increasing : rows.Pairwise fun earlier later => earlier.timestamp < later.timestamp
  multiples : ∀ row ∈ rows,
    ((minutes * minuteLength : Nat) : Int) ∣ row.timestamp.sinceEpoch
  total : ∀ row ∈ rows, row.total = (bucketEvents events minutes row.timestamp).length
  ssh : ∀ row ∈ rows, row.ssh = ((bucketEvents events minutes row.timestamp).filter fun event =>
    decide (event.protocol = literal "ssh")).length
  http : ∀ row ∈ rows, row.http = ((bucketEvents events minutes row.timestamp).filter fun event =>
    decide (event.protocol = literal "http")).length
  covered : ∀ event ∈ events,
    ∃! row, row ∈ rows ∧ InBucket minutes row.timestamp event.timestamp

/-- The interval serves an event whose timestamp the route cuts to the beginning
of its bucket. -/
def Interval.Serves : Interval → DateTime → Prop
  | .fiveMinutes, time => 5 ∣ time.minute
  | .quarterHour, _ => False
  | .hour, _ => True

/-- A period that is no longer than a week. -/
abbrev ShortPeriod := { period : Period // period ≠ .year ∧ period ≠ .all }

/-- Seconds since 1970 are counted from the number of its first day, so multiples of
an interval can be computed over natural numbers. -/
theorem sinceEpoch_eq (time : DateTime) :
    time.sinceEpoch = (time.microseconds : Int) - ((719163 * dayLength : Nat) : Int) := by
  rw [DateTime.sinceEpoch, epoch_microseconds]

/-- The rest of a timestamp below the hour. -/
theorem microseconds_hour (time : DateTime) :
    time.microseconds = (time.dayNumber * 24 + time.hour) * (60 * minuteLength) +
      ((time.minute * 60 + time.second) * 1000000 + time.microsecond) := by
  simp only [DateTime.microseconds, DateTime.clock, dayLength, minuteLength]
  omega

/-- A time that is truncated to the hour is a whole number of hours. -/
theorem truncated_hour (time : DateTime) : (dateTrunc .hour time).microseconds =
    (time.dayNumber * 24 + time.hour) * (60 * minuteLength) := by
  have sameDay : (dateTrunc .hour time).dayNumber = time.dayNumber := rfl
  rw [microseconds_hour, sameDay]
  simp only [dateTrunc, Nat.zero_mul, Nat.add_zero]

/-- One that is truncated to the minute is a whole number of minutes. -/
theorem truncated_minute (time : DateTime) : (dateTrunc .minute time).microseconds =
    ((time.dayNumber * 24 + time.hour) * 60 + time.minute) * minuteLength := by
  have sameDay : (dateTrunc .minute time).dayNumber = time.dayNumber := rfl
  rw [microseconds_hour, sameDay]
  simp only [dateTrunc, minuteLength]
  omega

/-- An hour is cut to its beginning, which is a multiple of an hour since the epoch,
as a day has full hours. -/
theorem truncates_hour (time : DateTime) :
    Truncates DateTime.sinceEpoch ((60 * minuteLength : Nat) : Int) (dateTrunc .hour) time := by
  obtain ⟨_, _, _, _, minute, second, microsecond⟩ := time.valid
  have whole := microseconds_hour time
  have cut := truncated_hour time
  constructor
  · refine ⟨(time.dayNumber * 24 + time.hour : Nat) - (719163 * 24 : Nat), ?_⟩
    rw [sinceEpoch_eq, cut]
    simp only [dayLength, minuteLength]
    omega
  · have rest : (time.minute * 60 + time.second) * 1000000 + time.microsecond <
        60 * minuteLength := by
      simp only [minuteLength]
      omega
    unfold Within
    rw [sinceEpoch_eq, sinceEpoch_eq, cut, whole]
    omega

/-- A minute is cut to the beginning of its five minutes where it is their first;
any other minute begins no five minutes, and `date_trunc` leaves it. -/
theorem truncates_minute (time : DateTime) (first : 5 ∣ time.minute) :
    Truncates DateTime.sinceEpoch ((5 * minuteLength : Nat) : Int) (dateTrunc .minute) time := by
  obtain ⟨_, _, _, _, _, second, microsecond⟩ := time.valid
  obtain ⟨fifth, minute⟩ := first
  have whole := microseconds_hour time
  have cut := truncated_minute time
  constructor
  · refine ⟨((time.dayNumber * 24 + time.hour) * 12 + fifth : Nat) - (719163 * 288 : Nat), ?_⟩
    rw [sinceEpoch_eq, cut, minute]
    simp only [dayLength, minuteLength]
    omega
  · unfold Within
    rw [sinceEpoch_eq, sinceEpoch_eq, cut, whole]
    simp only [minuteLength]
    omega

/-- A minute whose beginning is a multiple of five minutes is the first of them,
counted within its hour as well as since the epoch. -/
theorem first_of_multiple (time : DateTime)
    (multiple : ((5 * minuteLength : Nat) : Int) ∣ (dateTrunc .minute time).sinceEpoch) :
    5 ∣ time.minute := by
  rw [sinceEpoch_eq, truncated_minute] at multiple
  obtain ⟨count, same⟩ := multiple
  simp only [dayLength, minuteLength] at same
  omega

/-- The rows are those of the sorted groups, so the lemmas about groups apply to
them. -/
theorem timelineRows_eq (unit : TruncUnit) (events : List AttackEventModel) :
    timelineRows unit events =
      (sortedGroups (fun row => dateTrunc unit row.timestamp) events).map timelineRow := by
  rw [timelineRows, sortedGroups]
  symm
  exact List.map_insertionSort
    (fun earlier later : DateTime × List AttackEventModel => earlier.1 ≤ later.1)
    (fun earlier later : TimelineRow => earlier.timestamp ≤ later.timestamp) timelineRow _
    fun _ _ _ _ => Iff.rfl

/-- The rows of a timeline are the rows of the groups; the sort changes their order
only. -/
theorem mem_timelineRows {unit : TruncUnit} {events : List AttackEventModel} {row : TimelineRow} :
    row ∈ timelineRows unit events ↔
      ∃ group ∈ groupBy (fun row => dateTrunc unit row.timestamp) events,
        timelineRow group = row := by
  rw [timelineRows_eq, List.mem_map]
  simp only [mem_sortedGroups, iff_self]

/-- Where the unit cuts every event to the beginning of its bucket, a row is that
of the bucket which begins at its timestamp. -/
theorem mem_timelineRows_of_truncates {unit : TruncUnit} {minutes : Nat}
    {events : List AttackEventModel}
    (truncates : ∀ event ∈ events, Truncates DateTime.sinceEpoch
      ((minutes * minuteLength : Nat) : Int) (dateTrunc unit) event.timestamp)
    {row : TimelineRow} (member : row ∈ timelineRows unit events) :
    ((minutes * minuteLength : Nat) : Int) ∣ row.timestamp.sinceEpoch ∧
      row = timelineRow (row.timestamp, bucketEvents events minutes row.timestamp) := by
  obtain ⟨group, grouped, rfl⟩ := mem_timelineRows.mp member
  refine ⟨group_multiple truncates grouped, congrArg timelineRow ?_⟩
  exact Prod.ext rfl (group_within DateTime.sinceEpoch_injective truncates grouped)

/-- In this case the rows are the buckets: rows of the same cut are counted
together, and the cut of every row is where its interval begins. -/
theorem timelineRows_isTimeline {unit : TruncUnit} {minutes : Nat}
    {events : List AttackEventModel}
    (truncates : ∀ event ∈ events, Truncates DateTime.sinceEpoch
      ((minutes * minuteLength : Nat) : Int) (dateTrunc unit) event.timestamp) :
    IsTimeline events minutes (timelineRows unit events) := by
  have injective := DateTime.sinceEpoch_injective
  constructor
  · rw [timelineRows_eq]
    exact List.pairwise_map.mpr (sortedGroups_increasing _ events)
  · intro row member
    exact (mem_timelineRows_of_truncates truncates member).1
  · intro row member
    exact congrArg TimelineRow.total (mem_timelineRows_of_truncates truncates member).2
  · intro row member
    exact congrArg TimelineRow.ssh (mem_timelineRows_of_truncates truncates member).2
  · intro row member
    exact congrArg TimelineRow.http (mem_timelineRows_of_truncates truncates member).2
  · intro event known
    obtain ⟨group, grouped, within, only⟩ := row_in_one_group injective truncates known
    refine ⟨timelineRow group, ⟨mem_timelineRows.mpr ⟨group, grouped, rfl⟩, within⟩, ?_⟩
    rintro row ⟨member, inRow⟩
    obtain ⟨other, otherGrouped, rfl⟩ := mem_timelineRows.mp member
    have start : other.1 = group.1 := only other otherGrouped inRow
    have rows : other.2 = group.2 := by rw [mem_groupBy otherGrouped, mem_groupBy grouped, start]
    rw [Prod.ext start rows]

/-- Every event has a row at its truncated timestamp. -/
theorem timelineRow_of_event (unit : TruncUnit) {events : List AttackEventModel}
    {event : AttackEventModel} (known : event ∈ events) :
    ∃ row ∈ timelineRows unit events, row.timestamp = dateTrunc unit event.timestamp := by
  obtain ⟨group, grouped, start⟩ :=
    group_of_row (fun row => dateTrunc unit row.timestamp) known
  exact ⟨timelineRow group, mem_timelineRows.mpr ⟨group, grouped, rfl⟩, start⟩

/-- The unit that the database is asked for. Five minutes ask for single minutes,
and a quarter of an hour for a unit that does not exist. -/
theorem truncUnit_minutes (interval : Interval) :
    truncUnit interval.minutes =
      match interval with
      | .fiveMinutes => some .minute
      | .quarterHour => none
      | .hour => some .hour := by
  cases interval with
  | fiveMinutes | quarterHour | hour => rfl

/-- The timeline of a range has the requested buckets exactly when the interval
serves every event in it. -/
theorem getTimeline_isTimeline_iff (table : AttackEvents) (since : Option DateTime)
    (untilTime : DateTime) (interval : Interval) :
    (∃ rows, getTimeline table since untilTime interval.minutes = some rows ∧
        IsTimeline (inRange table since untilTime) interval.minutes rows) ↔
      ∀ event ∈ inRange table since untilTime, interval.Serves event.timestamp := by
  unfold getTimeline
  rw [truncUnit_minutes]
  cases interval with
  | fiveMinutes =>
    constructor
    · rintro ⟨rows, answer, timeline⟩ event known
      obtain ⟨row, member, start⟩ := timelineRow_of_event .minute known
      have multiple := timeline.multiples row (Option.some.inj answer ▸ member)
      rw [start] at multiple
      exact first_of_multiple event.timestamp multiple
    · intro served
      refine ⟨_, rfl, timelineRows_isTimeline fun event known => ?_⟩
      exact truncates_minute event.timestamp (served event known)
  | quarterHour =>
    constructor
    · rintro ⟨rows, answer, _⟩ event known
      have some_event : (inRange table since untilTime).isEmpty = false := by
        rw [List.isEmpty_eq_false_iff]
        exact List.ne_nil_of_mem known
      simp only [some_event, Bool.false_eq_true, if_false] at answer
      contradiction
    · intro served
      have none_left : inRange table since untilTime = [] :=
        List.eq_nil_iff_forall_not_mem.mpr served
      refine ⟨[], by simp [none_left], ?_⟩
      rw [none_left]
      constructor
      · exact List.Pairwise.nil
      all_goals
        intro entry member
        cases member
  | hour =>
    constructor
    · intro _ event _
      exact trivial
    · intro _
      exact ⟨_, rfl, timelineRows_isTimeline fun event _ => truncates_hour event.timestamp⟩

/-- For every table, every period up to a week, every interval and every time of
the request: the request asks for the events from the length of the period ago
until now, and it is answered with rows that count them in buckets of the
interval exactly when the interval serves each of them. By the hour it always
does. For five minutes every event has to lie in the first minute of its bucket,
and for a quarter of an hour there must be none. -/
theorem dashboardTimeline_correct_iff (table : AttackEvents) (period : ShortPeriod)
    (interval : Interval) (now : Now) :
    ∃ since, resolvePeriodRange period.val now.val = some (some since, now.val) ∧
      ((∃ rows, getDashboardTimeline table period.val interval now.val = some rows ∧
          IsTimeline (inRange table (some since) now.val) interval.minutes rows) ↔
        ∀ event ∈ inRange table (some since) now.val, interval.Serves event.timestamp) := by
  obtain ⟨hours, bounded⟩ : ∃ hours, period.val.hours = some hours := by
    cases known : period.val with
    | all => exact absurd known period.property.2
    | oneHour | sixHours | day | week | year => exact ⟨_, rfl⟩
  obtain ⟨since, range, _⟩ := resolvePeriodRange_bounded now bounded
  refine ⟨since, range, ?_⟩
  have asked : intervalMinutes period.val interval = interval.minutes :=
    if_neg (not_or.mpr period.property)
  rw [getDashboardTimeline, range, Option.bind_some, asked]
  exact getTimeline_isTimeline_iff table (some since) now.val interval

/-- A time in the fourth minute of an hour. -/
def atFourthMinute : DateTime :=
  { year := 2025
    month := 1
    day := 1
    hour := 9
    minute := 3
    second := 0
    microsecond := 0
    valid := by decide }

/-- One event at this time. -/
def fourthMinute : AttackEvents where
  rows := [{ burst (numbered 0) with timestamp := atFourthMinute }]
  distinct := by decide

/-- A period of a day, asked for at noon. -/
def lastDay : ShortPeriod := ⟨.day, by decide⟩

def noon : Now := ⟨atHour (hourOf 12), by decide +kernel⟩

/-- At noon, the last day by quarters of an hour is refused, and by five minutes
the event is counted at three minutes past nine, where no five minutes begin. -/
theorem timeline_misses_interval :
    getDashboardTimeline fourthMinute lastDay.val .quarterHour noon.val = none ∧
      (getDashboardTimeline fourthMinute lastDay.val .fiveMinutes noon.val).map
        (List.map TimelineRow.timestamp) = some [atFourthMinute] ∧
      ∀ rows, getDashboardTimeline fourthMinute lastDay.val .fiveMinutes noon.val = some rows →
        ∀ since, ¬ IsTimeline (inRange fourthMinute since noon.val)
          Interval.fiveMinutes.minutes rows := by
  have counted : (getDashboardTimeline fourthMinute lastDay.val .fiveMinutes noon.val).map
      (List.map TimelineRow.timestamp) = some [atFourthMinute] := by decide +kernel
  refine ⟨Option.isNone_iff_eq_none.mp (by decide +kernel), counted, ?_⟩
  intro rows answer since timeline
  rw [answer, Option.map_some] at counted
  obtain ⟨row, member, start⟩ : ∃ row ∈ rows, row.timestamp = atFourthMinute := by
    rw [← List.mem_map, Option.some.inj counted]
    exact List.mem_singleton_self _
  have multiple := timeline.multiples row member
  rw [start] at multiple
  have first : 5 ∣ atFourthMinute.minute := first_of_multiple atFourthMinute multiple
  exact absurd first (by decide)

end Honeywatch.Api
