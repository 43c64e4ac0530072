import Honeywatch.Detection.Backfill

/-!
# Interrupted backfills

A run goes through its events in order. Its memory holds the events it has been
through, its session has them classified, and what is committed has some first
part of them classified, wherever the run is killed. The run after that finds
exactly the rest.
-/

namespace Honeywatch.Detection

open Text Collector Db OrderBy Transition

/-- The memory after these events. -/
def remembering (events : List AttackEventModel) : IPContextBuilder :=
  { attempts := fun sourceIp =>
      (events.filter fun other => decide (other.sourceIp = sourceIp)).length
    ports := fun sourceIp =>
      ((events.filter fun other => decide (other.sourceIp = sourceIp)).map
        AttackEventModel.destinationPort).toFinset }

/-- The classification of a row among these events. -/
def verdict (rules : DetectionRules) (events : List AttackEventModel) (row : AttackEventModel) :
    Option ClassificationResult :=
  row.toEvent.map fun event => classify rules event (evidence events row)

/-- A row with its classification, where it has one. -/
def labelled (row : AttackEventModel) : Option ClassificationResult → AttackEventModel
  | none => row
  | some result => classifiedAs row result

/-- A classification does not touch the key of a row. -/
@[simp] theorem labelled_id (row : AttackEventModel) (result : Option ClassificationResult) :
    (labelled row result).id = row.id := by
  cases result <;> rfl

/-- A row, with its classification among all events of the run once it is done. -/
def relabelRow (rules : DetectionRules) (events done : List AttackEventModel)
    (row : AttackEventModel) : AttackEventModel :=
  if row.id ∈ done.map AttackEventModel.id then labelled row (verdict rules events row) else row

/-- Nor does it when it is looked up in a table of results. -/
@[simp] theorem relabelRow_id (rules : DetectionRules) (events done : List AttackEventModel)
    (row : AttackEventModel) : (relabelRow rules events done row).id = row.id := by
  unfold relabelRow
  split <;> simp

/-- The table with the events that are done classified. -/
def relabel (rules : DetectionRules) (events done : List AttackEventModel) (table : AttackEvents) :
    AttackEvents where
  rows := table.rows.map (relabelRow rules events done)
  distinct := by
    have ids : (table.rows.map (relabelRow rules events done)).map AttackEventModel.id =
        table.rows.map AttackEventModel.id := by
      rw [List.map_map]
      exact List.map_congr_left fun row _ => relabelRow_id rules events done row
    exact ids ▸ table.distinct

/-- The unclassified events of a table in the order of their timestamps. -/
structure Schedule (table : AttackEvents) (events : List AttackEventModel) : Prop where
  perm : events.Perm table.unclassified
  ascending : events.Pairwise fun sooner later => sooner.timestamp < later.timestamp
  valid : ∀ row ∈ events, row.toEvent ≠ none

/-- The row of an event that is done is classified. -/
theorem relabelRow_done (rules : DetectionRules) {events done : List AttackEventModel}
    {row : AttackEventModel} (member : row ∈ done) :
    relabelRow rules events done row = labelled row (verdict rules events row) :=
  if_pos (List.mem_map_of_mem member)

/-- With no results nothing is labelled: this is where a run begins, and what it
leaves if it is killed before its first commit. -/
theorem relabel_nil (rules : DetectionRules) (events : List AttackEventModel)
    (table : AttackEvents) : relabel rules events [] table = table := by
  ext1
  have same : relabelRow rules events [] = id := by
    funext row
    simp [relabelRow]
  simp [relabel, same]

/-- The evidence of a row is counted, so the order of the events behind it does not
matter. -/
theorem evidence_perm {first second : List AttackEventModel} (same : first.Perm second)
    (row : AttackEventModel) : evidence first row = evidence second row := by
  have mine := same.filter fun other =>
    decide (other.sourceIp = row.sourceIp) && decide (other.timestamp ≤ row.timestamp)
  simp only [evidence, IPContext.mk.injEq]
  exact ⟨mine.length_eq, List.toFinset_eq_of_perm _ _ (mine.map _)⟩

namespace Schedule

variable {table : AttackEvents} {events : List AttackEventModel}

/-- What is scheduled is in the table. -/
theorem mem (schedule : Schedule table events) {row : AttackEventModel} (member : row ∈ events) :
    row ∈ table.rows :=
  List.mem_of_mem_filter (schedule.perm.subset member)

/-- What is scheduled was unclassified when it was selected. -/
theorem unclassified (schedule : Schedule table events) {row : AttackEventModel}
    (member : row ∈ events) : row.attackType = none :=
  Option.isNone_iff_eq_none.mp (List.mem_filter.mp (schedule.perm.subset member)).2

/-- A row of the table is one of these events when its key is. -/
theorem mem_of_id (schedule : Schedule table events) {part : List AttackEventModel}
    (contained : part ⊆ events) {row : AttackEventModel} (stored : row ∈ table.rows)
    (known : row.id ∈ part.map AttackEventModel.id) : row ∈ part := by
  obtain ⟨other, member, same⟩ := List.mem_map.mp known
  exact table.eq_of_id (schedule.mem (contained member)) stored same ▸ member

/-- The row of any other event is as it was. -/
theorem relabelRow_other (schedule : Schedule table events) (rules : DetectionRules)
    (among : List AttackEventModel) {done : List AttackEventModel} (contained : done ⊆ events)
    {row : AttackEventModel} (stored : row ∈ table.rows) (absent : row ∉ done) :
    relabelRow rules among done row = row :=
  if_neg fun known => absent (schedule.mem_of_id contained stored known)

/-- A schedule is what the run selects, in the order in which it will be classified.
-/
theorem selected_eq (schedule : Schedule table events) : selected table = events := by
  have ordered := arrange_ordered (fun row => OrderDual.toDual row.timestamp) table.unclassified
  have selectedAscending : (selected table).Pairwise fun sooner later =>
      sooner.timestamp ≤ later.timestamp := ordered.descending
  apply (ordered.perm.trans schedule.perm.symm).eq_of_pairwise _ selectedAscending
    (schedule.ascending.imp le_of_lt)
  intro left right one other below above
  have equal : left.timestamp = right.timestamp := le_antisymm below above
  have one : left ∈ events := (ordered.perm.trans schedule.perm.symm).subset one
  have apart : (events.map AttackEventModel.timestamp).Nodup :=
    List.pairwise_map.mpr (schedule.ascending.imp ne_of_lt)
  exact List.inj_on_of_nodup_map apart one other equal

/-- The evidence for an event of the schedule is what comes before it, of its
address, and the event itself. Times are distinct, so the sort leaves no choice. -/
theorem evidence_at (schedule : Schedule table events) (done rest : List AttackEventModel)
    (model : AttackEventModel) (split : events = done ++ model :: rest) :
    evidence events model =
      { recentAttempts := (remembering (done ++ [model])).attempts model.sourceIp
        distinctPorts := (remembering (done ++ [model])).ports model.sourceIp } := by
  have ascending := schedule.ascending
  rw [split] at ascending
  obtain ⟨_, fromModel, beforeModel⟩ := List.pairwise_append.mp ascending
  have mine : (events.filter fun other =>
      decide (other.sourceIp = model.sourceIp) && decide (other.timestamp ≤ model.timestamp)) =
      (done ++ [model]).filter fun other => decide (other.sourceIp = model.sourceIp) := by
    have parts : events = (done ++ [model]) ++ rest := by simp [split]
    have later : (rest.filter fun other => decide (other.sourceIp = model.sourceIp) &&
        decide (other.timestamp ≤ model.timestamp)) = [] := by
      refine List.filter_eq_nil_iff.mpr fun other member => ?_
      have after := (List.pairwise_cons.mp fromModel).1 other member
      simp [not_le_of_gt after]
    rw [parts, List.filter_append, later, List.append_nil]
    refine List.filter_congr fun other member => ?_
    have sooner : other.timestamp ≤ model.timestamp := by
      rcases List.mem_append.mp member with earlier | same
      · exact le_of_lt (beforeModel other earlier model (by simp))
      · exact le_of_eq (congrArg _ (List.mem_singleton.mp same))
    simp [sooner]
  simp only [evidence, remembering, mine]

end Schedule

/-- An event that joins the memory. The builder answers with the counts after the
event, as the store of the worker does. -/
theorem updateAndGet_remembering (done : List AttackEventModel) (model : AttackEventModel) :
    (remembering done).updateAndGet model.sourceIp model.destinationPort =
      (remembering (done ++ [model]),
        { recentAttempts := (remembering (done ++ [model])).attempts model.sourceIp
          distinctPorts := (remembering (done ++ [model])).ports model.sourceIp }) := by
  have attempts : Function.update (remembering done).attempts model.sourceIp
      ((remembering done).attempts model.sourceIp + 1) =
      (remembering (done ++ [model])).attempts := by
    funext sourceIp
    by_cases same : sourceIp = model.sourceIp
    · simp [same, remembering]
    · simp [same, remembering, Ne.symm same]
  have ports : Function.update (remembering done).ports model.sourceIp
      (insert model.destinationPort ((remembering done).ports model.sourceIp)) =
      (remembering (done ++ [model])).ports := by
    funext sourceIp
    by_cases same : sourceIp = model.sourceIp
    · subst same
      ext port
      simp [remembering]
    · simp [same, remembering, Ne.symm same]
  simp only [IPContextBuilder.updateAndGet, attempts, ports]

/-- The statement that writes the classification of the next event. Identifiers are
distinct, so it meets one row, and the classification is the one the schedule gives
it. -/
theorem updateRow_relabel (rules : DetectionRules) {table : AttackEvents}
    {events done rest : List AttackEventModel} {model : AttackEventModel}
    {result : ClassificationResult} (schedule : Schedule table events)
    (split : events = done ++ model :: rest) (given : verdict rules events model = some result) :
    updateRow (relabel rules events done table) model.id result =
      relabel rules events (done ++ [model]) table := by
  have contained : done ++ [model] ⊆ events := by simp [split]
  have once : model ∉ done := by
    have distinct : events.Nodup :=
      schedule.perm.nodup_iff.mpr (table.nodup.filter _)
    rw [split] at distinct
    exact fun twice => (List.nodup_append.mp distinct).2.2 model twice model (by simp) rfl
  have stored : model ∈ table.rows := schedule.mem (by simp [split])
  ext1
  simp only [updateRow, relabel, List.map_map]
  refine List.map_congr_left fun row member => ?_
  have before : done ⊆ events := (List.append_subset.mp contained).1
  simp only [Function.comp_apply, relabelRow_id]
  by_cases same : row = model
  · subst same
    rw [if_pos rfl, schedule.relabelRow_other rules _ before member once,
      relabelRow_done rules (by simp), given]
    rfl
  · rw [if_neg fun equal => same (table.eq_of_id member stored equal)]
    by_cases known : row ∈ done
    · rw [relabelRow_done rules known, relabelRow_done rules (List.mem_append_left _ known)]
    · rw [schedule.relabelRow_other rules _ before member known,
        schedule.relabelRow_other rules _ contained member (by simp [known, same])]

/-- What is left to classify when these events are done: a row that a classification
has reached is never selected again. -/
theorem Schedule.unclassified_relabel (rules : DetectionRules) {table : AttackEvents}
    {events done : List AttackEventModel} (schedule : Schedule table events)
    (contained : done ⊆ events) :
    (relabel rules events done table).unclassified =
      table.unclassified.filter fun row => decide (row.id ∉ done.map AttackEventModel.id) := by
  have kept : table.rows.filter ((fun row => row.attackType.isNone) ∘
      relabelRow rules events done) = table.rows.filter fun row =>
        decide (row.id ∉ done.map AttackEventModel.id) && row.attackType.isNone := by
    refine List.filter_congr fun row stored => ?_
    by_cases known : row.id ∈ done.map AttackEventModel.id
    · have member := schedule.mem_of_id contained stored known
      obtain ⟨event, valid⟩ := Option.ne_none_iff_exists'.mp
        (schedule.valid row (contained member))
      simp only [Function.comp_apply, relabelRow_done rules member, verdict, valid, known]
      rfl
    · simp [relabelRow, known]
  simp only [AttackEvents.unclassified, relabel, List.filter_map, List.filter_filter, kept]
  refine (List.map_congr_left fun row member => ?_).trans (List.map_id _)
  have absent := (Bool.and_eq_true _ _).mp (List.mem_filter.mp member).2
  exact if_neg (of_decide_eq_true absent.1)

/-- After some part of the schedule, the rest is what the next run finds, in the
same order and with the same times. -/
theorem Schedule.rest (rules : DetectionRules) {table : AttackEvents}
    {events done rest : List AttackEventModel} (schedule : Schedule table events)
    (split : events = done ++ rest) : Schedule (relabel rules events done table) rest := by
  have contained : done ⊆ events := by simp [split]
  have distinct : (events.map AttackEventModel.id).Nodup :=
    (schedule.perm.map _).nodup_iff.mpr (table.distinct.sublist (List.filter_sublist.map _))
  have ascending := schedule.ascending
  rw [split] at ascending
  rw [split, List.map_append] at distinct
  refine ⟨?_, (List.pairwise_append.mp ascending).2.1, fun row member => ?_⟩
  · rw [schedule.unclassified_relabel rules contained]
    refine List.Perm.trans (List.Perm.of_eq ?_) (schedule.perm.filter _)
    have gone : (done.filter fun row => decide (row.id ∉ done.map AttackEventModel.id)) = [] :=
      List.filter_eq_nil_iff.mpr fun row member => by
        simpa using ⟨row, member, rfl⟩
    have left : (rest.filter fun row => decide (row.id ∉ done.map AttackEventModel.id)) = rest :=
      List.filter_eq_self.mpr fun row member => decide_eq_true fun twice =>
        (List.nodup_append.mp distinct).2.2 _ twice _ (List.mem_map_of_mem member) rfl
    rw [split, List.filter_append, gone, left, List.nil_append]
  · exact schedule.valid row (by simp [split, member])

/-- Where a run is with its schedule: what it remembers, what its session has
classified, and the part of it that is committed. -/
structure Halfway (rules : DetectionRules) (table : AttackEvents)
    (events : List AttackEventModel) (run : Backfill) : Prop where
  committed : ∃ kept, kept <+: events ∧ run.committed = relabel rules events kept table
  at_phase : match run.phase with
    | .selecting => run.session = table ∧ run.contextBuilder = remembering []
    | .iterating rest | .counting rest | .committing rest =>
      ∃ done, events = done ++ rest ∧ run.contextBuilder = remembering done ∧
        run.session = relabel rules events done table
    | .updating model result rest =>
      ∃ done, events = done ++ model :: rest ∧ verdict rules events model = some result ∧
        run.contextBuilder = remembering (done ++ [model]) ∧
        run.session = relabel rules events done table
    | .finishing => run.session = relabel rules events events table
    | .finished => run.committed = relabel rules events events table

/-- A run begins halfway with nothing done: nothing is committed, and its builder is
empty. This is the first case of the induction over its statements. -/
theorem halfway_begin (rules : DetectionRules) (table : AttackEvents)
    (events : List AttackEventModel) : Halfway rules table events (begin table) where
  committed := ⟨[], List.nil_prefix, (relabel_nil rules events table).symm⟩
  at_phase := ⟨rfl, rfl⟩

/-- Every statement keeps a run on its schedule. The cases are the phases of the
loop: what is committed are the events of the full batches, what the session holds
are all those done so far. -/
theorem Halfway.next (rules : DetectionRules) {table : AttackEvents}
    {events : List AttackEventModel} (schedule : Schedule table events) (run after : Backfill)
    (halfway : Halfway rules table events run) (moved : next rules run = some after) :
    Halfway rules table events after := by
  obtain ⟨kept, here⟩ := halfway
  obtain ⟨phase, contextBuilder, totalProcessed, session, committed⟩ := run
  cases phase with
  | selecting =>
    obtain ⟨same, fresh⟩ := here
    simp only at same fresh
    subst same fresh
    simp only [Detection.next, schedule.selected_eq, Option.some.injEq] at moved
    subst moved
    refine ⟨kept, ?_⟩
    cases events with
    | nil =>
      obtain ⟨part, empty, same⟩ := kept
      rw [List.prefix_nil.mp empty] at same
      exact same
    | cons first later =>
      exact ⟨[], rfl, rfl, (relabel_nil rules (first :: later) session).symm⟩
  | iterating rest =>
    obtain ⟨done, split, remembered, written⟩ := here
    cases rest with
    | nil =>
      simp only [Detection.next, Option.some.injEq] at moved
      subst moved
      rw [List.append_nil] at split
      exact ⟨kept, split ▸ written⟩
    | cons model later =>
      obtain ⟨event, valid⟩ := Option.ne_none_iff_exists'.mp
        (schedule.valid model (by simp [split]))
      simp only at remembered
      simp only [Detection.next, valid, remembered, updateAndGet_remembering,
        ← schedule.evidence_at done later model split, Option.some.injEq] at moved
      subst moved
      exact ⟨kept, done, split, by simp [verdict, valid], rfl, written⟩
  | updating model result rest =>
    obtain ⟨done, split, given, remembered, written⟩ := here
    simp only [Detection.next, Option.some.injEq] at moved
    subst moved
    simp only at written
    refine ⟨kept, done ++ [model], by simp [split], remembered, ?_⟩
    simp only [written, updateRow_relabel rules schedule split given]
  | counting rest =>
    simp only [Detection.next, Option.some.injEq] at moved
    subst moved
    by_cases full : (totalProcessed + 1) % batchSize = 0
    · exact ⟨kept, by simpa only [full, if_true] using here⟩
    · exact ⟨kept, by simpa only [full, if_false] using here⟩
  | committing rest =>
    obtain ⟨done, split, remembered, written⟩ := here
    simp only [Detection.next, Option.some.injEq] at moved
    subst moved
    exact ⟨⟨done, ⟨rest, split.symm⟩, written⟩, done, split, remembered, written⟩
  | finishing =>
    simp only [Detection.next, Option.some.injEq] at moved
    subst moved
    exact ⟨⟨events, List.prefix_refl events, here⟩, here⟩
  | finished => simp [Detection.next] at moved

/-- The statements a run has still to go through. -/
def remaining (run : Backfill) : Nat :=
  match run.phase with
  | .selecting => 4 * (selected run.session).length + 3
  | .updating _ _ rest => 4 * rest.length + 5
  | .counting rest => 4 * rest.length + 4
  | .committing rest => 4 * rest.length + 3
  | .iterating rest => 4 * rest.length + 2
  | .finishing => 1
  | .finished => 0

/-- Every statement leaves less to do. The measure counts what is left of the phase
the run is in and of the phases after it, so a run that is not killed ends. -/
theorem next_remaining (rules : DetectionRules) (run after : Backfill)
    (moved : next rules run = some after) : remaining after < remaining run := by
  obtain ⟨phase, contextBuilder, totalProcessed, session, committed⟩ := run
  cases phase with
  | selecting =>
    simp only [next, Option.some.injEq] at moved
    subst moved
    by_cases empty : (selected session).isEmpty
    · simp [remaining, empty]
    · simp [remaining, empty]
  | iterating rest =>
    cases rest with
    | nil =>
      simp only [next, Option.some.injEq] at moved
      simp [remaining, ← moved]
    | cons model later =>
      cases valid : model.toEvent with
      | none =>
        simp only [next, valid, Option.some.injEq] at moved
        simp [remaining, ← moved]
      | some event =>
        simp only [next, valid, Option.some.injEq] at moved
        simp only [remaining, ← moved, List.length_cons]
        omega
  | counting rest =>
    simp only [next, Option.some.injEq] at moved
    subst moved
    by_cases full : (totalProcessed + 1) % batchSize = 0
    · simp [remaining, full]
    · simp [remaining, full]
  | updating _ _ _ | committing _ | finishing =>
    simp only [next, Option.some.injEq] at moved
    simp [remaining, ← moved]
  | finished => simp [next] at moved

/-- A run that nobody kills ends with its whole schedule classified and committed,
the last batch also when it is not full. -/
theorem settles_relabel (rules : DetectionRules) {table : AttackEvents}
    {events : List AttackEventModel} (schedule : Schedule table events) :
    ∃ final, Settles (next rules) (begin table) final ∧
      final.committed = relabel rules events events table := by
  obtain ⟨final, settled⟩ := Settles.exists_of_measure (fun _ => True) remaining
    (fun _ _ _ _ => trivial) (fun run after _ => next_remaining rules run after)
    (begin table) trivial
  have halfway := settled.invariant (Halfway rules table events)
    (fun run after => Halfway.next rules schedule run after) (halfway_begin rules table events)
  refine ⟨final, settled, ?_⟩
  have idle := settled.idle
  obtain ⟨phase, contextBuilder, totalProcessed, session, committed⟩ := final
  cases phase with
  | finished => exact halfway.at_phase
  | iterating rest =>
    cases rest with
    | nil => simp [next] at idle
    | cons model later =>
      simp only [next] at idle
      split at idle <;> simp at idle
  | selecting | updating _ _ _ | counting _ | committing _ | finishing => simp [next] at idle

/-- A killed run leaves some first part of its schedule classified. How long that
part is depends on the batches that were committed. -/
theorem killed_eq (rules : DetectionRules) {table : AttackEvents}
    {events : List AttackEventModel} (schedule : Schedule table events) (statements : Nat) :
    ∃ kept rest, events = kept ++ rest ∧
      killed rules table statements = relabel rules events kept table := by
  have halfway := follow_invariant (next rules) (Halfway rules table events)
    (fun run after => Halfway.next rules schedule run after) statements (begin table)
    (halfway_begin rules table events)
  obtain ⟨kept, ⟨rest, split⟩, same⟩ := halfway.committed
  exact ⟨kept, rest, split.symm, same⟩

/-- With valid events at distinct times, what a run selects is its schedule; an
invalid row would end the run with an exception. -/
theorem selected_schedule {table : AttackEvents}
    (valid : ∀ row ∈ table.unclassified, row.toEvent ≠ none)
    (apart : (table.rows.map AttackEventModel.timestamp).Nodup) :
    Schedule table (selected table) := by
  have ordered := arrange_ordered (fun row => OrderDual.toDual row.timestamp) table.unclassified
  have few : (table.unclassified.map AttackEventModel.timestamp).Nodup :=
    apart.sublist (List.filter_sublist.map _)
  have distinct : ((selected table).map AttackEventModel.timestamp).Nodup :=
    (ordered.perm.map _).nodup_iff.mpr few
  refine ⟨ordered.perm, ?_, fun row member => valid row (ordered.perm.subset member)⟩
  have ascending : (selected table).Pairwise fun sooner later =>
      sooner.timestamp ≤ later.timestamp := ordered.descending
  exact (ascending.and (List.pairwise_map.mp distinct)).imp fun both =>
    lt_of_le_of_ne both.1 both.2

/-- What the backfill selects of such a table is a schedule for it. -/
theorem UnclassifiedEvents.schedule (given : UnclassifiedEvents) :
    Schedule given.table (selected given.table) := by
  apply selected_schedule _ given.apart
  intro row member
  exact given.events row (List.mem_of_mem_filter member)

/-- Of such a table every row is unclassified, so the selection leaves none out. -/
theorem UnclassifiedEvents.all_unclassified (given : UnclassifiedEvents) :
    given.table.unclassified = given.table.rows :=
  List.filter_eq_self.mpr fun row member => by simp [given.unclassified row member]

/-- Different attack types have different names, so a stored name says which type it
was. -/
theorem attackType_value_injective : Function.Injective AttackType.value := by
  intro left right same
  cases left <;> cases right <;> first | rfl | exact absurd same (by decide)

/-- The same for the severities. -/
theorem severity_value_injective : Function.Injective Severity.value := by
  intro left right same
  cases left <;> cases right <;> first | rfl | exact absurd same (by decide)

/-- The builder of a resumed run sees only the events that are left, and so no more
attempts and no other ports than the whole history has. This is why a resumption can
only lower what an event is classified as by its context. -/
theorem evidence_rest (kept rest : List AttackEventModel) (row : AttackEventModel) :
    (evidence rest row).recentAttempts ≤ (evidence (kept ++ rest) row).recentAttempts ∧
      (evidence rest row).distinctPorts ⊆ (evidence (kept ++ rest) row).distinctPorts := by
  have fewer : rest.Sublist (kept ++ rest) := List.sublist_append_right kept rest
  have mine := fewer.filter fun other =>
    decide (other.sourceIp = row.sourceIp) && decide (other.timestamp ≤ row.timestamp)
  refine ⟨mine.length_le, ?_⟩
  intro port member
  exact List.mem_toFinset.mpr ((mine.map _).subset (List.mem_toFinset.mp member))

/-- The attack type and the severity of a row. -/
def verdictIn (row : AttackEventModel) : Uuid × Option Str × Option Str :=
  (row.id, row.attackType, row.severity)

/-- Two classifications of one row that show the same values are the same, so a row
tells its verdict. -/
theorem verdictIn_labelled_inj (row : AttackEventModel) (left right : ClassificationResult) :
    verdictIn (labelled row (some left)) = verdictIn (labelled row (some right)) ↔
      left = right := by
  obtain ⟨leftType, leftSeverity⟩ := left
  obtain ⟨rightType, rightSeverity⟩ := right
  simp [verdictIn, labelled, classifiedAs, attackType_value_injective.eq_iff,
    severity_value_injective.eq_iff]

/-- The next run agrees with an uninterrupted one when every event of the rest
is classified the same without the events that were done. -/
theorem verdicts_relabel_iff (rules : DetectionRules) {table : AttackEvents}
    {events kept rest : List AttackEventModel} (schedule : Schedule table events)
    (split : events = kept ++ rest) :
    verdicts (relabel rules rest rest (relabel rules events kept table)) =
        verdicts (relabel rules events events table) ↔
      ∀ row ∈ rest, verdict rules rest row = verdict rules events row := by
  have contained : kept ⊆ events := by simp [split]
  have after : rest ⊆ events := by simp [split]
  have distinct : (kept ++ rest).Nodup :=
    split ▸ schedule.perm.nodup_iff.mpr (table.nodup.filter _)
  have verdicts_map (some_table : AttackEvents) :
      verdicts some_table = some_table.rows.map verdictIn := rfl
  rw [verdicts_map, verdicts_map]
  simp only [relabel, List.map_map]
  rw [List.map_inj_left]
  constructor
  · intro same row member
    have stored := schedule.mem (after member)
    have absent : row ∉ kept := fun twice =>
      (List.nodup_append.mp distinct).2.2 row twice row member rfl
    have equal := same row stored
    simp only [Function.comp_apply, schedule.relabelRow_other rules _ contained stored absent,
      relabelRow_done rules member, relabelRow_done rules (after member)] at equal
    obtain ⟨event, valid⟩ := Option.ne_none_iff_exists'.mp (schedule.valid row (after member))
    simp only [verdict, valid, Option.map_some] at equal ⊢
    rw [(verdictIn_labelled_inj row _ _).mp equal]
  · intro same row stored
    simp only [Function.comp_apply]
    by_cases known : row ∈ kept
    · have absent : row ∉ rest := fun twice =>
        (List.nodup_append.mp distinct).2.2 row known row twice rfl
      rw [relabelRow_done rules known, relabelRow_done rules (contained known)]
      congr 1
      apply if_neg
      rw [labelled_id]
      exact fun twice => absent (schedule.mem_of_id after stored twice)
    · rw [schedule.relabelRow_other rules _ contained stored known]
      by_cases member : row ∈ rest
      · rw [relabelRow_done rules member, relabelRow_done rules (after member), same row member]
      · rw [schedule.relabelRow_other rules _ after stored member,
          schedule.relabelRow_other rules _ (List.Subset.refl _) stored
            (by simp [split, known, member])]

/-- For every rule set, every table of unclassified events with distinct
timestamps and every statement before which a run is killed, running the
backfill again to its end gives every event the attack type and the severity of
one uninterrupted run exactly when, for every event that the killed run left
unclassified, the unclassified events of its address up to it still reach each
deciding threshold that all events of its address up to it reach. -/
theorem resumed_agrees_iff (rules : DetectionRules) (given : UnclassifiedEvents)
    (statements : Nat) :
    ∃ whole resumed, Settles (next rules) (begin given.table) whole ∧
      Settles (next rules) (begin (killed rules given.table statements)) resumed ∧
      (verdicts resumed.committed = verdicts whole.committed ↔
        ∀ row ∈ (killed rules given.table statements).unclassified,
          ∀ event, row.toEvent = some event →
            ReachedByRest rules event (evidence given.table.rows row)
              (evidence (killed rules given.table statements).unclassified row)) := by
  have schedule := given.schedule
  obtain ⟨kept, rest, split, left⟩ := killed_eq rules schedule statements
  have after := schedule.rest rules split
  obtain ⟨whole, completed, wholly⟩ := settles_relabel rules schedule
  obtain ⟨resumed, continued, finished⟩ := settles_relabel rules after
  refine ⟨whole, resumed, completed, left ▸ continued, ?_⟩
  rw [wholly, finished, verdicts_relabel_iff rules schedule split, left]
  have all : given.table.rows.Perm (selected given.table) :=
    given.all_unclassified ▸ schedule.perm.symm
  constructor
  · intro same row member event valid
    have known : row ∈ rest := after.perm.symm.subset member
    obtain ⟨fewer, contained⟩ := evidence_rest kept rest row
    have equal := same row known
    simp only [verdict, valid, Option.map_some, Option.some.injEq] at equal
    rw [evidence_perm all row, evidence_perm after.perm.symm row, split]
    exact (classify_rest_iff rules event fewer contained).mp (split ▸ equal)
  · intro reached row member
    obtain ⟨event, valid⟩ := Option.ne_none_iff_exists'.mp (after.valid row member)
    obtain ⟨fewer, contained⟩ := evidence_rest kept rest row
    have still := reached row (after.perm.subset member) event valid
    rw [evidence_perm all row, evidence_perm after.perm.symm row, split] at still
    simp only [verdict, valid, Option.map_some, Option.some.injEq, split]
    exact (classify_rest_iff rules event fewer contained).mpr still

/-- A run at the head of its loop. -/
def looping (rules : DetectionRules) (table : AttackEvents)
    (events done rest : List AttackEventModel) : Backfill :=
  { phase := .iterating rest, contextBuilder := remembering done, totalProcessed := done.length
    session := relabel rules events done table, committed := table }

/-- The three statements of one event that does not fill its batch: it is read, it
is written, and it is counted. -/
theorem follow_event (rules : DetectionRules) {table : AttackEvents}
    {events done rest : List AttackEventModel} {model : AttackEventModel}
    (schedule : Schedule table events) (split : events = done ++ model :: rest) :
    follow (next rules) 3 (looping rules table events done (model :: rest)) =
      { looping rules table events (done ++ [model]) rest with
        phase := if (done.length + 1) % batchSize = 0 then .committing rest
          else .iterating rest } := by
  obtain ⟨event, valid⟩ := Option.ne_none_iff_exists'.mp
    (schedule.valid model (by simp [split]))
  have given : verdict rules events model =
      some (classify rules event (evidence events model)) := by simp [verdict, valid]
  have written := updateRow_relabel rules schedule split given
  simp [follow, next, looping, valid, updateAndGet_remembering,
    ← schedule.evidence_at done rest model split, written]

/-- The statements of the events of a batch before its last. None of them commits,
so a kill among them loses all that they wrote. -/
theorem follow_events (rules : DetectionRules) {table : AttackEvents}
    {events batch rest : List AttackEventModel} (schedule : Schedule table events)
    (split : events = batch ++ rest) (short : batch.length < batchSize) :
    follow (next rules) (3 * batch.length) (looping rules table events [] events) =
      looping rules table events batch rest := by
  induction batch using List.reverseRecOn generalizing rest with
  | nil => simp [follow, split]
  | append_singleton batch model inductionHypothesis =>
    rw [List.append_assoc, List.singleton_append] at split
    rw [List.length_append, List.length_singleton] at short ⊢
    have earlier := inductionHypothesis split (by omega)
    have unfilled : (batch.length + 1) % batchSize ≠ 0 := by
      rw [Nat.mod_eq_of_lt short]
      omega
    rw [Nat.mul_succ, follow_add, earlier, follow_event rules schedule split, if_neg unfilled]
    rfl

/-- A run killed right after its first commit leaves one batch classified. The
number of statements is that of the selection, of three for each event, and of the
commit. -/
theorem killed_after_batch (rules : DetectionRules) {table : AttackEvents}
    {events batch rest : List AttackEventModel} {model : AttackEventModel}
    (schedule : Schedule table events) (split : events = batch ++ model :: rest)
    (full : batch.length + 1 = batchSize) :
    killed rules table (1 + (3 * batch.length + (3 + 1))) =
      relabel rules events (batch ++ [model]) table := by
  have started : follow (next rules) 1 (begin table) = looping rules table events [] events := by
    have some_events : events.isEmpty = false := by simp [split]
    simp [follow, next, begin, schedule.selected_eq, some_events, looping, relabel_nil]
    rfl
  rw [killed, follow_add, started, follow_add,
    follow_events rules schedule split (by omega), follow_add, follow_event rules schedule split,
    if_pos (by rw [full]; rfl)]
  simp [follow, next, looping]

/-- One of many login attempts of an address, at a microsecond of its own. -/
def attempt (number : Fin 1000000) : AttackEventModel :=
  { id := ⟨number, by omega⟩
    timestamp := { year := 2025, month := 1, day := 1, hour := 0, minute := 0, second := 0,
                   microsecond := number, valid := by
                     refine ⟨by decide, by decide, by decide, by decide, by decide, by decide, ?_⟩
                     exact number.isLt }
    sourceIp := literal "10.0.0.1"
    sourcePort := 4000
    destinationPort := 22
    protocol := literal "ssh"
    eventType := literal "ssh_login_attempt"
    rawData := [] }

/-- The attempts of the examples are ordered in time by their numbers. -/
theorem attempt_lt {left right : Fin 1000000} (sooner : left < right) :
    (attempt left).timestamp < (attempt right).timestamp := by
  have ordinals : (attempt left).timestamp.ordinal < (attempt right).timestamp.ordinal :=
    Nat.add_lt_add_left sooner _
  exact ordinals

/-- These attempts, none of them classified. -/
def attempts (numbers : List (Fin 1000000))
    (ascending : numbers.Pairwise fun sooner later => sooner < later) : UnclassifiedEvents where
  table :=
    { rows := numbers.map attempt
      distinct := by
        rw [List.map_map]
        have distinct : numbers.Nodup := ascending.imp ne_of_lt
        exact distinct.map fun left right same =>
          Fin.ext (congrArg (fun id : Uuid => id.val) same) }
  unclassified := by simp [attempt]
  events := by
    intro row member
    obtain ⟨number, _, rfl⟩ := List.mem_map.mp member
    exact Option.some_ne_none _
  apart := by
    rw [List.map_map]
    exact List.pairwise_map.mpr (ascending.imp fun sooner => ne_of_lt (attempt_lt sooner))

/-- In this order they are a schedule for the table that holds them. -/
theorem attempts_schedule (numbers : List (Fin 1000000))
    (ascending : numbers.Pairwise fun sooner later => sooner < later) :
    Schedule (attempts numbers ascending).table (numbers.map attempt) where
  perm := List.Perm.of_eq (attempts numbers ascending).all_unclassified.symm
  ascending := List.pairwise_map.mpr (ascending.imp attempt_lt)
  valid := (attempts numbers ascending).events

/-- A batch of attempts and one more. -/
def batchAndOne : List (Fin 1000000) :=
  ((List.finRange 499).map (Fin.castLE (by decide))) ++ [⟨499, by decide⟩] ++ [⟨500, by decide⟩]

/-- The numbers of a full batch and one more event ascend, so the last event comes
last. -/
theorem batchAndOne_ascending : batchAndOne.Pairwise fun sooner later => sooner < later := by
  have first : ((List.finRange 499).map (Fin.castLE (by decide : 499 ≤ 1000000))).Pairwise
      fun sooner later => sooner < later :=
    List.pairwise_map.mpr ((List.pairwise_lt_finRange 499).imp fun sooner => sooner)
  simp only [batchAndOne, List.pairwise_append, List.mem_append, List.mem_map, List.mem_singleton]
  refine ⟨⟨first, by simp, ?_⟩, by simp, ?_⟩
  · rintro _ ⟨number, _, rfl⟩ _ rfl
    exact number.isLt
  · rintro _ (⟨number, _, rfl⟩ | rfl) _ rfl
    · exact Nat.lt_succ_of_lt number.isLt
    · exact Nat.lt_succ_self 499

/-- Killed after its first commit, the run leaves the last attempt. The next run
does not remember the five hundred before it. -/
theorem kill_after_batch_differs :
    ∃ whole resumed,
      Settles (next {}) (begin (attempts batchAndOne batchAndOne_ascending).table) whole ∧
      Settles (next {})
        (begin (killed {} (attempts batchAndOne batchAndOne_ascending).table 1502)) resumed ∧
      verdicts resumed.committed ≠ verdicts whole.committed := by
  have schedule := attempts_schedule batchAndOne batchAndOne_ascending
  have split : batchAndOne.map attempt =
      (((List.finRange 499).map (Fin.castLE (by decide))).map attempt ++
        [attempt ⟨499, by decide⟩]) ++ [attempt ⟨500, by decide⟩] := by
    simp only [batchAndOne, List.map_append, List.map_cons, List.map_nil]
  have left := killed_after_batch {} schedule (split.trans (List.append_assoc _ _ _))
    (by simp [batchSize])
  have count : 1 + (3 * (((List.finRange 499).map (Fin.castLE (by decide))).map attempt).length +
      (3 + 1)) = 1502 := by simp
  rw [count] at left
  obtain ⟨whole, completed, wholly⟩ := settles_relabel {} schedule
  obtain ⟨resumed, continued, finished⟩ := settles_relabel {} (schedule.rest {} split)
  refine ⟨whole, resumed, completed, left ▸ continued, ?_⟩
  rw [wholly, finished]
  intro agree
  have same := (verdicts_relabel_iff {} schedule split).mp agree _ (List.mem_singleton_self _)
  have event : ∃ event, (attempt ⟨500, by decide⟩).toEvent = some event ∧
      hasPriority {} event = false ∧ event.protocol.value = literal "ssh" := ⟨_, rfl, rfl, rfl⟩
  obtain ⟨event, valid, plain, ssh⟩ := event
  obtain ⟨fewer, contained⟩ := evidence_rest (((List.finRange 499).map
    (Fin.castLE (by decide))).map attempt ++ [attempt ⟨499, by decide⟩])
    [attempt ⟨500, by decide⟩] (attempt ⟨500, by decide⟩)
  rw [← split] at fewer contained
  simp only [verdict, valid, Option.map_some, Option.some.injEq] at same
  have reached := ((classify_rest_iff {} event fewer contained).mp same).attempts plain ssh
  have all : (evidence (batchAndOne.map attempt) (attempt ⟨500, by decide⟩)).recentAttempts =
      501 := by
    have mine : ((batchAndOne.map attempt).filter fun other =>
        decide (other.sourceIp = (attempt ⟨500, by decide⟩).sourceIp)) =
        batchAndOne.map attempt := by
      refine List.filter_eq_self.mpr fun other member => ?_
      obtain ⟨number, _, rfl⟩ := List.mem_map.mp member
      exact decide_eq_true rfl
    rw [schedule.evidence_at _ [] _ split, ← split]
    simp only [remembering, mine]
    simp [batchAndOne]
  have alone : (evidence [attempt ⟨500, by decide⟩] (attempt ⟨500, by decide⟩)).recentAttempts =
      1 := by
    simp [evidence]
  rw [all, alone] at reached
  exact absurd (reached (by decide)) (by decide)

end Honeywatch.Detection
