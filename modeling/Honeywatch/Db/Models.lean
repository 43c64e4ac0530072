import Honeywatch.Collector.Encoding
import Mathlib.Data.List.Nodup
import Mathlib.Order.Basic

/-!
# The table of attack events

A row of `attack_events` holds an event and, once it is classified, its attack
type and severity. The primary key is distinct. Timestamps are compared as
moments. What the honeypots report is one of two protocols; the column itself
holds any string.
-/

namespace Honeywatch.Collector

open Digits

/-- A number for the moment of a timestamp, to compare it by. -/
def DateTime.ordinal (time : DateTime) : Nat :=
  (((((time.year * 13 + time.month) * 32 + time.day) * 24 + time.hour) * 60 + time.minute) * 60 +
    time.second) * 1000000 + time.microsecond

/-- Two numbers in mixed radix are equal digit by digit, so the number of a
timestamp determines all of its fields. -/
theorem radix_inj {radix left right low high : Nat} (small : low < radix) (small' : high < radix)
    (equal : left * radix + low = right * radix + high) : left = right ∧ low = high := by
  have quotient := congrArg (· / radix) equal
  have remainder := congrArg (· % radix) equal
  have positive : 0 < radix := by omega
  simp only [Nat.mul_comm _ radix, Nat.mul_add_div positive, Nat.mul_add_mod,
    Nat.div_eq_of_lt small, Nat.div_eq_of_lt small', Nat.mod_eq_of_lt small,
    Nat.mod_eq_of_lt small', Nat.add_zero] at quotient remainder
  exact ⟨quotient, remainder⟩

/-- No month has more days than there is room for. -/
theorem DateTime.day_lt (time : DateTime) : time.day < 32 := by
  have bounded := time.valid.2.2.1.2
  have most := daysInMonth_le time.year time.month
  omega

/-- Two timestamps with one number have the same fields, so the numbers order
timestamps linearly. -/
theorem DateTime.ordinal_injective : Function.Injective DateTime.ordinal := by
  intro left right equal
  obtain ⟨_, ⟨_, month⟩, _, hour, minute, second, microsecond⟩ := left.valid
  obtain ⟨_, ⟨_, month'⟩, _, hour', minute', second', microsecond'⟩ := right.valid
  obtain ⟨rest, sameMicrosecond⟩ := radix_inj microsecond microsecond' equal
  obtain ⟨rest, sameSecond⟩ := radix_inj second second' rest
  obtain ⟨rest, sameMinute⟩ := radix_inj minute minute' rest
  obtain ⟨rest, sameHour⟩ := radix_inj hour hour' rest
  obtain ⟨rest, sameDay⟩ := radix_inj left.day_lt right.day_lt rest
  obtain ⟨sameYear, sameMonth⟩ := radix_inj (by omega) (by omega) rest
  cases left
  cases right
  simp_all

instance : LinearOrder DateTime := LinearOrder.lift' DateTime.ordinal DateTime.ordinal_injective

/-- `datetime.isoformat()` of a timestamp in UTC. -/
def DateTime.isoformat (time : DateTime) : List Char :=
  printDate time ++ 'T' :: (printClock time ++ "+00:00".toList)

end Honeywatch.Collector

namespace Honeywatch.Db

open Text Json Collector

/-- `AttackEventModel`. -/
structure AttackEventModel where
  id : Uuid
  timestamp : DateTime
  sourceIp : Str
  sourcePort : Int
  destinationPort : Int
  protocol : Str
  eventType : Str
  attackType : Option Str := none
  severity : Option Str := none
  rawData : Dict

/-- `AttackEvent` of the columns of a row; none where its validation fails. -/
def AttackEventModel.toEvent (model : AttackEventModel) : Option AttackEvent :=
  (parseProtocol model.protocol).map fun protocol =>
    { id := model.id
      timestamp := model.timestamp
      sourceIp := model.sourceIp
      sourcePort := model.sourcePort
      destinationPort := model.destinationPort
      protocol
      eventType := model.eventType
      rawData := model.rawData }

/-- The table `attack_events`; `id` is its primary key. -/
@[ext] structure AttackEvents where
  rows : List AttackEventModel
  distinct : (rows.map AttackEventModel.id).Nodup

/-- Rows with distinct keys are distinct. -/
theorem AttackEvents.nodup (table : AttackEvents) : table.rows.Nodup :=
  List.Nodup.of_map AttackEventModel.id table.distinct

/-- The rows whose `attack_type IS NULL`. -/
def AttackEvents.unclassified (table : AttackEvents) : List AttackEventModel :=
  table.rows.filter fun row => row.attackType.isNone

/-- A row is known by its key. -/
theorem AttackEvents.eq_of_id (table : AttackEvents) {left right : AttackEventModel}
    (one : left ∈ table.rows) (other : right ∈ table.rows) (same : left.id = right.id) :
    left = right :=
  List.inj_on_of_nodup_map table.distinct one other same

/-- `INSERT`; none where the primary key is taken. -/
def AttackEvents.insertRow (table : AttackEvents) (row : AttackEventModel) : Option AttackEvents :=
  if taken : (table.rows.map AttackEventModel.id).contains row.id then none
  else
    some
      { rows := table.rows ++ [row]
        distinct := by
          rw [List.contains_iff_mem] at taken
          rw [List.map_append, List.map_singleton, ← List.concat_eq_append]
          exact table.distinct.concat taken }

/-- An insertion appends its row, and the key of the row was free. -/
theorem AttackEvents.insertRow_rows {table next : AttackEvents} {row : AttackEventModel}
    (inserted : table.insertRow row = some next) :
    next.rows = table.rows ++ [row] ∧ row.id ∉ table.rows.map AttackEventModel.id := by
  simp only [AttackEvents.insertRow, Option.dite_none_left_eq_some, Option.some.injEq] at inserted
  obtain ⟨fresh, rfl⟩ := inserted
  exact ⟨rfl, by rwa [List.contains_iff_mem] at fresh⟩

end Honeywatch.Db
