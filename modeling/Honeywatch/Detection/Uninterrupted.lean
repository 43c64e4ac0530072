import Honeywatch.Detection.Resumption

/-!
# Uninterrupted backfills

What one run makes of a table is said row by row, without the run: a row that
has no attack type gets the one of its event in the context of the rows without
one, of its address and up to its time. The memory of the run, its batches and
the rows of other addresses are nowhere in it.
-/

namespace Honeywatch.Detection

open Text Collector Db OrderBy Transition

/-- A table as the worker writes it, with pairwise distinct timestamps: any of the
rows may be classified. -/
structure StoredEvents where
  table : AttackEvents
  protocols : ∀ row ∈ table.rows, row.protocol = literal "ssh" ∨ row.protocol = literal "http"
  apart : (table.rows.map AttackEventModel.timestamp).Nodup

/-- What the backfill is to make of a row. -/
def specified (rules : DetectionRules) (table : AttackEvents) (row : AttackEventModel) :
    AttackEventModel :=
  match row.attackType, row.toEvent with
  | none, some event => classifiedAs row (classify rules event (evidence table.unclassified row))
  | _, _ => row

/-- The rows of an address. -/
def rowsOf (sourceIp : Str) (table : AttackEvents) : List AttackEventModel :=
  table.rows.filter fun row => decide (row.sourceIp = sourceIp)

/-- The columns of a row that no `UPDATE` sets. -/
def otherColumns (row : AttackEventModel) : AttackEventModel :=
  { row with attackType := none, severity := none }

/-- A row that has an attack type is specified to stay as it is, with whatever
severity it has. -/
theorem specified_classified (rules : DetectionRules) (table : AttackEvents)
    {row : AttackEventModel} (classified : row.attackType ≠ none) :
    specified rules table row = row := by
  unfold specified
  cases attackType : row.attackType with
  | none => exact absurd attackType classified
  | some _ => rfl

/-- A row that has none is specified to be classified in the context of the
unclassified events of its address up to its time. -/
theorem specified_unclassified (rules : DetectionRules) (table : AttackEvents)
    {row : AttackEventModel} {event : AttackEvent} (unclassified : row.attackType = none)
    (valid : row.toEvent = some event) :
    specified rules table row =
      classifiedAs row (classify rules event (evidence table.unclassified row)) := by
  unfold specified
  rw [unclassified, valid]

/-- The specification changes no address, -/
theorem specified_sourceIp (rules : DetectionRules) (table : AttackEvents)
    (row : AttackEventModel) : (specified rules table row).sourceIp = row.sourceIp := by
  unfold specified
  split
  · rfl
  · rfl

/-- and no column but the two of the classification. -/
theorem specified_otherColumns (rules : DetectionRules) (table : AttackEvents)
    (row : AttackEventModel) : otherColumns (specified rules table row) = otherColumns row := by
  unfold specified
  split
  · rfl
  · rfl

namespace StoredEvents

/-- A row over one of the two protocols is an event; the honeypots publish no other.
-/
theorem valid (given : StoredEvents) {row : AttackEventModel} (member : row ∈ given.table.rows) :
    row.toEvent ≠ none := by
  have known : parseProtocol row.protocol ≠ none := by
    rcases given.protocols row member with ssh | http
    · rw [ssh]
      decide
    · rw [http]
      decide
  unfold AttackEventModel.toEvent
  rwa [Ne, Option.map_eq_none_iff]

/-- What is selected of such a table is a schedule for it: its events are valid, and
no two have one timestamp. -/
theorem schedule (given : StoredEvents) : Schedule given.table (selected given.table) := by
  apply selected_schedule _ given.apart
  intro row member
  exact given.valid (List.mem_of_mem_filter member)

/-- Once all of the schedule is done, each row is as specified: the evidence of the
schedule is that of the rows of the address before it. -/
theorem relabelRow_specified (given : StoredEvents) (rules : DetectionRules)
    {row : AttackEventModel} (member : row ∈ given.table.rows) :
    relabelRow rules (selected given.table) (selected given.table) row =
      specified rules given.table row := by
  have schedule := given.schedule
  cases attackType : row.attackType with
  | none =>
    have inside : row ∈ selected given.table := by
      apply schedule.perm.symm.subset
      exact List.mem_filter.mpr ⟨member, Option.isNone_iff_eq_none.mpr attackType⟩
    obtain ⟨event, valid⟩ := Option.ne_none_iff_exists'.mp (given.valid member)
    rw [relabelRow_done rules inside, specified_unclassified rules _ attackType valid, verdict,
      valid, Option.map_some, evidence_perm schedule.perm]
    rfl
  | some given_type =>
    have classified : row.attackType ≠ none := by
      rw [attackType]
      exact Option.some_ne_none given_type
    rw [specified_classified rules _ classified]
    apply schedule.relabelRow_other rules _ (List.Subset.refl _) member
    intro inside
    exact classified (schedule.unclassified inside)

/-- No row is left without an attack type, since the classifier has one for every
event. -/
theorem specified_has_type (given : StoredEvents) (rules : DetectionRules)
    {row : AttackEventModel} (member : row ∈ given.table.rows) :
    (specified rules given.table row).attackType ≠ none := by
  cases attackType : row.attackType with
  | none =>
    obtain ⟨event, valid⟩ := Option.ne_none_iff_exists'.mp (given.valid member)
    rw [specified_unclassified rules _ attackType valid]
    exact Option.some_ne_none _
  | some given_type =>
    have classified : row.attackType ≠ none := by
      rw [attackType]
      exact Option.some_ne_none given_type
    rw [specified_classified rules _ classified]
    exact classified

/-- An uninterrupted run ends, with every row as specified. There is one state it
ends in, since its steps leave no choice. -/
theorem settles (given : StoredEvents) (rules : DetectionRules) :
    ∃ final, Settles (next rules) (begin given.table) final ∧
      final.committed = relabel rules (selected given.table) (selected given.table) given.table ∧
      final.committed.rows = given.table.rows.map (specified rules given.table) := by
  obtain ⟨final, settled, written⟩ := settles_relabel rules given.schedule
  refine ⟨final, settled, written, ?_⟩
  rw [written]
  exact List.map_congr_left fun row member => given.relabelRow_specified rules member

/-- A second run finds nothing to classify, as no row is left without an attack
type. -/
theorem settles_again (given : StoredEvents) (rules : DetectionRules) {final : Backfill}
    (written : final.committed =
      relabel rules (selected given.table) (selected given.table) given.table) :
    ∃ again, Settles (next rules) (begin final.committed) again ∧
      again.committed = final.committed := by
  have nothing : Schedule final.committed [] :=
    written ▸ given.schedule.rest rules (List.append_nil _).symm
  obtain ⟨again, settled, same⟩ := settles_relabel rules nothing
  exact ⟨again, settled, same.trans (relabel_nil rules [] final.committed)⟩

end StoredEvents

/-- The evidence for a row lies among the rows of its address, so a backfill can be
checked one address at a time. -/
theorem evidence_of_address (table : AttackEvents) (row : AttackEventModel) :
    evidence table.unclassified row =
      evidence ((rowsOf row.sourceIp table).filter fun other => other.attackType.isNone) row := by
  have mine : (table.unclassified.filter fun other =>
      decide (other.sourceIp = row.sourceIp) && decide (other.timestamp ≤ row.timestamp)) =
      ((rowsOf row.sourceIp table).filter fun other => other.attackType.isNone).filter fun other =>
        decide (other.sourceIp = row.sourceIp) && decide (other.timestamp ≤ row.timestamp) := by
    rw [AttackEvents.unclassified, rowsOf, List.filter_filter, List.filter_filter,
      List.filter_filter]
    apply List.filter_congr
    intro other _
    cases decide (other.sourceIp = row.sourceIp) with
    | true => simp
    | false => simp
  simp only [evidence, mine]

/-- So is what is specified for it: two tables with the same rows of an address make
the same of them. -/
theorem specified_of_address (rules : DetectionRules) {first second : AttackEvents} {sourceIp : Str}
    (same : rowsOf sourceIp first = rowsOf sourceIp second) {row : AttackEventModel}
    (own : row.sourceIp = sourceIp) : specified rules first row = specified rules second row := by
  have evidences : evidence first.unclassified row = evidence second.unclassified row := by
    rw [evidence_of_address first, evidence_of_address second, own, same]
  unfold specified
  rw [evidences]

end Honeywatch.Detection
