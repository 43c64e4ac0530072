import Honeywatch.Detection.Alongside

/-!
# What only grows

Rows are never removed, and a row changes only from unclassified to classified. So
whatever a query counts is never counted less afterwards, if the first classification of
a row does not take it out of the count, and what a query lists stays listed. As before,
one backfill runs at a time.
-/

namespace Honeywatch.Detection

open Text Collector Db Transition

/-- Some accesses lead from one state to the other. -/
def Leads (rules : DetectionRules) (start finish : Database) : Prop :=
  ∃ schedule, (database rules).run start schedule = some finish

/-- An unclassified row has no severity, as the events of the first phase were stored. -/
def Plain (table : AttackEvents) : Prop :=
  ∀ row ∈ table.rows, row.attackType = none → row.severity = none

section

variable {rules : DetectionRules}

/-- Whatever happens in between, a careful database stays careful and its table
grows. -/
theorem leads_grows {start finish : Database} (careful : start.Careful rules)
    (leads : Leads rules start finish) :
    finish.Careful rules ∧ Grows rules start.committed finish.committed := by
  obtain ⟨schedule, reached⟩ := leads
  obtain ⟨kept, grows, -⟩ := database_run_grows careful reached
  exact ⟨kept, grows⟩

/-- A row that was there is plain afterwards, and so is a row that the worker
stores, since a classification sets type and severity together. -/
theorem leads_plain {start finish : Database} (careful : start.Careful rules)
    (leads : Leads rules start finish) (plain : Plain start.committed) :
    Plain finish.committed := by
  obtain ⟨schedule, reached⟩ := leads
  obtain ⟨-, grows, ids, present⟩ := database_run_grows careful reached
  intro row member unclassified
  have known : row.id ∈ finish.committed.rows.map AttackEventModel.id :=
    List.mem_map_of_mem member
  rw [ids] at known
  rcases List.mem_append.mp known with old | new
  · obtain ⟨before, there, same⟩ := List.mem_map.mp old
    obtain ⟨later, here, filled⟩ := grows before there
    cases finish.committed.eq_of_id member here (same.symm.trans filled.same.1.symm)
    rcases filled with rfl | ⟨-, event, context, -, rfl⟩
    · exact plain row there unclassified
    · cases unclassified
  · obtain ⟨saved, inside, same⟩ := List.mem_map.mp new
    obtain rfl := finish.committed.eq_of_id (present saved inside) member same
    obtain ⟨access, -, stored⟩ := List.mem_flatMap.mp inside
    exact absurd unclassified (saved_classified access _ stored)

/-- What a first classification does not take out of a count is never counted less:
each counted row is found again in the later table, in the same order. -/
theorem count_grows {first second : AttackEvents} (grows : Grows rules first second)
    {counted countedLater : AttackEventModel → Bool}
    (stays : ∀ row ∈ first.rows, ∀ later, Filled rules row later → counted row = true →
      countedLater later = true) :
    (first.rows.filter counted).length ≤ (second.rows.filter countedLater).length := by
  let keys (keep : AttackEventModel → Bool) (table : AttackEvents) :=
    (table.rows.filter keep).map AttackEventModel.id
  have distinct : (keys counted first).Nodup :=
    first.distinct.sublist (List.filter_sublist.map _)
  have contained : keys counted first ⊆ keys countedLater second := by
    intro id member
    obtain ⟨row, inside, rfl⟩ := List.mem_map.mp member
    obtain ⟨there, own⟩ := List.mem_filter.mp inside
    obtain ⟨later, here, filled⟩ := grows row there
    have still := stays row there later filled own
    exact List.mem_map.mpr ⟨later, List.mem_filter.mpr ⟨here, still⟩, filled.same.1⟩
  have fewer := (List.subperm_of_subset distinct contained).length_le
  rwa [List.length_map, List.length_map] at fewer

/-- What the classified rows of an address say is said for ever; only rows without
an attack type are filled. -/
theorem filterMap_grows {first second : AttackEvents} (grows : Grows rules first second)
    (sourceIp : Str) {column : AttackEventModel → Option Str}
    (classified : ∀ row ∈ first.rows, column row ≠ none → row.attackType ≠ none) :
    (first.rows.filter fun row => decide (row.sourceIp = sourceIp)).filterMap column ⊆
      (second.rows.filter fun row => decide (row.sourceIp = sourceIp)).filterMap column := by
  intro value member
  obtain ⟨row, inside, said⟩ := List.mem_filterMap.mp member
  obtain ⟨there, own⟩ := List.mem_filter.mp inside
  obtain ⟨later, here, rfl | ⟨absent, -⟩⟩ := grows row there
  · exact List.mem_filterMap.mpr ⟨later, List.mem_filter.mpr ⟨here, own⟩, said⟩
  · exact absurd absent (classified row there (by rw [said]; exact Option.some_ne_none _))

end

end Honeywatch.Detection
