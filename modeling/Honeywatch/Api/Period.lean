import Honeywatch.Db.Calendar

/-!
# The period of a request

`resolve_period_range` turns the period that a route is asked for into the range
of its queries. The range ends at the time of the request and, but for the period
`all`, begins exactly the length of the period before.
-/

namespace Honeywatch.Api

open Collector

/-- `period` as `PERIOD_PATTERN` accepts it: `1h`, `6h`, `24h`, `7d`, `1y` or `all`. -/
inductive Period
  | oneHour
  | sixHours
  | day
  | week
  | year
  | all
deriving DecidableEq

/-- `_PERIOD_MAP`, in hours. -/
def Period.hours : Period → Option Nat
  | .oneHour => some 1
  | .sixHours => some 6
  | .day => some 24
  | .week => some (7 * 24)
  | .year => some (365 * 24)
  | .all => none

/-- `resolve_period_range` at a reading of the clock; none where the calendar does
not go back so far. -/
def resolvePeriodRange (period : Period) (now : DateTime) :
    Option (Option DateTime × DateTime) :=
  match period.hours with
  | none => some (none, now)
  | some hours => (now.minusHours hours).map fun since => (some since, now)

/-- A reading of the clock, which counts from the epoch. -/
abbrev Now := { now : DateTime // 1970 ≤ now.year }

/-- `all` has no lower bound. -/
theorem resolvePeriodRange_all (now : DateTime) : resolvePeriodRange .all now = some (none, now) :=
  rfl

/-- No period is longer than a year, so from 1970 on every beginning is in the
calendar. -/
theorem Period.hours_le {period : Period} {hours : Nat} (bounded : period.hours = some hours) :
    hours ≤ 365 * 24 := by
  cases period with
  | all => cases bounded
  | oneHour | sixHours | day | week | year =>
    cases bounded
    decide

/-- The clock is far from the first day of the calendar. -/
theorem dayNumber_now (now : Now) : 719163 ≤ now.val.dayNumber := by
  have begun := daysBeforeYear_mono (by decide : 1 ≤ 1970) now.property
  have counted : daysBeforeYear 1970 = 719162 := by decide
  have day := now.val.valid.2.2.1.1
  unfold DateTime.dayNumber
  omega

/-- Any other period begins its length before the time of the request. From 1970 on
the subtraction stays within the calendar. -/
theorem resolvePeriodRange_bounded (now : Now) {period : Period} {hours : Nat}
    (bounded : period.hours = some hours) :
    ∃ since, resolvePeriodRange period now.val = some (some since, now.val) ∧
      since.microseconds + hours * hourLength = now.val.microseconds := by
  have short := Period.hours_le bounded
  have late := dayNumber_now now
  obtain ⟨since, reached, distance⟩ := minusHours_spec now.val hours (by omega)
  refine ⟨since, ?_, distance⟩
  rw [resolvePeriodRange, bounded]
  simp only [reached, Option.map_some]

end Honeywatch.Api
