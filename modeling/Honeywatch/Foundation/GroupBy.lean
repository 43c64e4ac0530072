import Mathlib.Algebra.BigOperators.Group.List.Lemmas
import Mathlib.Algebra.GroupWithZero.Nat
import Mathlib.Data.List.Dedup

/-!
# Grouping rows

`GROUP BY`: one group for each value that occurs, with the rows that have it.
The groups share the rows out among them, whatever the value is.
-/

namespace Honeywatch

universe u v
variable {Row : Type u} {Key : Type v} [DecidableEq Key]

/-- The rows of each value of the key. -/
def groupBy (key : Row → Key) (rows : List Row) : List (Key × List Row) :=
  (rows.map key).dedup.map fun value => (value, rows.filter fun row => decide (key row = value))

/-- A group has the rows of its value. -/
theorem mem_groupBy {key : Row → Key} {rows : List Row} {group : Key × List Row}
    (member : group ∈ groupBy key rows) :
    group.2 = rows.filter fun row => decide (key row = group.1) := by
  obtain ⟨value, _, rfl⟩ := List.mem_map.mp member
  rfl

/-- A group stands for the key of a row. -/
theorem exists_row_of_group {key : Row → Key} {rows : List Row} {group : Key × List Row}
    (member : group ∈ groupBy key rows) : ∃ row ∈ rows, key row = group.1 := by
  obtain ⟨value, known, rfl⟩ := List.mem_map.mp member
  exact List.mem_map.mp (List.mem_dedup.mp known)

/-- Every row has a group. -/
theorem group_of_row (key : Row → Key) {rows : List Row} {row : Row} (member : row ∈ rows) :
    ∃ group ∈ groupBy key rows, group.1 = key row := by
  refine ⟨_, List.mem_map_of_mem (List.mem_dedup.mpr (List.mem_map_of_mem member)), rfl⟩

/-- Every row is in one group, so the lengths of the groups add up to that of the
rows. -/
theorem sum_groupBy (key : Row → Key) (rows : List Row) :
    ((groupBy key rows).map fun group => group.2.length).sum = rows.length := by
  have counted (value : Key) :
      (rows.filter fun row => decide (key row = value)).length = (rows.map key).count value := by
    rw [List.count_eq_length_filter, List.filter_map, List.length_map]
    rfl
  rw [groupBy, List.map_map]
  simp only [Function.comp_def, counted]
  rw [List.sum_map_count_dedup_eq_length, List.length_map]

end Honeywatch
