import Honeywatch.Detection.Resumption
import Honeywatch.Detection.ShippedRules

/-!
# The backfill beside the worker

While a backfill runs, the worker goes on to store events. The two work on different
rows: what the worker stores is classified and has a key of its own, and the backfill
updates unclassified rows that it has selected. At `READ COMMITTED` the statements of the
backfill see the rows that have been stored meanwhile, and its own updates are seen by
others after its commit. It may be killed at any statement and started again.

One backfill runs at a time. The script takes no lock, and its update does not ask again
whether the row is unclassified, so of two backfills that overlap the later one could
replace what the earlier one wrote; nothing is said here about such runs.

So a row is never removed, an event never changes, and a classification is final.
-/

namespace Honeywatch.Detection

open Text Collector Db OrderBy Transition

/-- The row that `_process_event` stores. -/
def modelOf (event : AttackEvent) (classification : ClassificationResult) : AttackEventModel where
  id := event.id
  timestamp := event.timestamp
  sourceIp := event.sourceIp
  sourcePort := event.sourcePort
  destinationPort := event.destinationPort
  protocol := event.protocol.value
  eventType := event.eventType
  attackType := some classification.attackType.value
  severity := some classification.severity.value
  rawData := event.rawData

/-- The database, alone with the worker or with a backfill under way. -/
inductive Database
  | idle (table : AttackEvents)
  | backfilling (run : Backfill)

/-- What everybody sees. -/
def Database.committed : Database → AttackEvents
  | idle table => table
  | backfilling run => run.committed

inductive Access
  /-- The worker commits an event. -/
  | save (event : AttackEvent) (classification : ClassificationResult)
  | begin
  | statement
  | close
  | kill

/-- Whatever is stored is there for the session of the backfill, too. -/
def saveBeside (run : Backfill) (row : AttackEventModel) : Option Backfill := do
  let committed ← run.committed.insertRow row
  let session ← run.session.insertRow row
  return { run with committed, session }

/-- The worker may save at any time. A backfill begins where none is under way: this is
how the script is meant to be run, and not something that it checks. -/
def database (rules : DetectionRules) : System Database Access where
  step
    | .idle table, .save event classification =>
      (table.insertRow (modelOf event classification)).map .idle
    | .backfilling run, .save event classification =>
      (saveBeside run (modelOf event classification)).map .backfilling
    | .idle table, .begin => some (.backfilling (begin table))
    | .backfilling run, .statement => (next rules run).map .backfilling
    | .backfilling run, .close =>
      match run.phase with
      | .finished => some (.idle run.committed)
      | _ => none
    | .backfilling run, .kill => some (.idle run.committed)
    | _, _ => none

/-- A row as it was, or with the classification of its own event that it did not have. -/
def Filled (rules : DetectionRules) (before after : AttackEventModel) : Prop :=
  after = before ∨ before.attackType = none ∧ ∃ event context,
    before.toEvent = some event ∧ after = classifiedAs before (classify rules event context)

/-- Every row is there as it was, or classified for the first time. -/
def Grows (rules : DetectionRules) (before after : AttackEvents) : Prop :=
  ∀ row ∈ before.rows, ∃ later ∈ after.rows, Filled rules row later

section

variable {rules : DetectionRules}

/-- A row is classified at most once: after a first classification there is none to
come. -/
theorem Filled.trans {first second third : AttackEventModel} (one : Filled rules first second)
    (other : Filled rules second third) : Filled rules first third := by
  rcases one with rfl | ⟨absent, event, context, own, rfl⟩
  · exact other
  · rcases other with rfl | ⟨unclassified, -⟩
    · exact .inr ⟨absent, event, context, own, rfl⟩
    · cases unclassified

/-- A classification leaves the other columns alone. -/
theorem Filled.same {before after : AttackEventModel} (filled : Filled rules before after) :
    after.id = before.id ∧ after.sourceIp = before.sourceIp ∧
      after.timestamp = before.timestamp ∧ after.protocol = before.protocol := by
  rcases filled with rfl | ⟨-, event, context, -, rfl⟩
  · exact ⟨rfl, rfl, rfl, rfl⟩
  · exact ⟨rfl, rfl, rfl, rfl⟩

/-- A row with an attack type stays as it is. -/
theorem Filled.unchanged {row later : AttackEventModel} (filled : Filled rules row later)
    (classified : row.attackType ≠ none) : later = row := by
  rcases filled with same | ⟨absent, -⟩
  · exact same
  · exact absurd absent classified

/-- A table has grown from itself, -/
theorem Grows.refl (table : AttackEvents) : Grows rules table table :=
  fun row member => ⟨row, member, .inl rfl⟩

/-- and growth adds up along a run. -/
theorem Grows.trans {first second third : AttackEvents} (one : Grows rules first second)
    (other : Grows rules second third) : Grows rules first third := by
  intro row member
  obtain ⟨middle, between, filled⟩ := one row member
  obtain ⟨later, after, again⟩ := other middle between
  exact ⟨later, after, filled.trans again⟩

/-- An insertion leaves the old rows as they are. -/
theorem grows_insertRow {table next : AttackEvents} {row : AttackEventModel}
    (inserted : table.insertRow row = some next) : Grows rules table next := by
  intro other member
  obtain ⟨rows, -⟩ := AttackEvents.insertRow_rows inserted
  exact ⟨other, rows ▸ List.mem_append_left _ member, .inl rfl⟩

/-- The update of an unclassified row classifies it for the first time. All other
rows, and all other columns of this one, stay. -/
theorem grows_updateRow {table : AttackEvents} {model : AttackEventModel} {event : AttackEvent}
    (context : IPContext) (known : model ∈ table.rows) (absent : model.attackType = none)
    (own : model.toEvent = some event) :
    Grows rules table (updateRow table model.id (classify rules event context)) := by
  intro row member
  refine ⟨_, List.mem_map_of_mem member, ?_⟩
  split
  · next same =>
    cases table.eq_of_id member known same
    exact .inr ⟨absent, event, context, own, rfl⟩
  · exact .inl rfl

/-- An update leaves the other rows alone. -/
theorem mem_updateRow {table : AttackEvents} {row : AttackEventModel} {id : Uuid}
    (result : ClassificationResult) (known : row ∈ table.rows) (other : row.id ≠ id) :
    row ∈ (updateRow table id result).rows :=
  List.mem_map.mpr ⟨row, known, if_neg other⟩

/-- An update keeps the keys, and with them the order of the rows; it never adds
one. -/
theorem updateRow_ids (table : AttackEvents) (id : Uuid) (result : ClassificationResult) :
    (updateRow table id result).rows.map AttackEventModel.id =
      table.rows.map AttackEventModel.id := by
  rw [updateRow, List.map_map]
  refine List.map_congr_left fun row _ => ?_
  simp only [Function.comp_apply]
  split <;> rfl

/-- The events that a run is still to update. -/
def Phase.pending : Phase → List AttackEventModel
  | iterating events | counting events | committing events => events
  | updating model _ events => model :: events
  | selecting | finishing | finished => []

/-- The classification that a run is about to write is one of the event it is for. -/
def Phase.Own (rules : DetectionRules) : Phase → Prop
  | updating model result _ => ∃ event context,
    model.toEvent = some event ∧ result = classify rules event context
  | _ => True

/-- What a run is still to update is there and unclassified, and what it has updated is
the table with some rows classified. -/
structure Careful (rules : DetectionRules) (run : Backfill) : Prop where
  grows : Grows rules run.committed run.session
  ids : run.session.rows.map AttackEventModel.id = run.committed.rows.map AttackEventModel.id
  known : ∀ model ∈ run.phase.pending, model ∈ run.session.rows ∧ model.attackType = none
  apart : (run.phase.pending.map AttackEventModel.id).Nodup
  own : run.phase.Own rules

/-- A run that has nothing to update, with a session like the table, as at its start
and after its last commit. -/
theorem careful_of_done {run : Backfill} (session : run.session = run.committed)
    (nothing : run.phase.pending = []) (own : run.phase.Own rules) : Careful rules run where
  grows := session ▸ Grows.refl _
  ids := by rw [session]
  known model member := by rw [nothing] at member; cases member
  apart := by rw [nothing]; exact List.nodup_nil
  own := own

/-- A run over the same tables with no more events to come: what was careful of all
is careful of a part. -/
theorem Careful.fewer {run after : Backfill} (careful : Careful rules run)
    (session : after.session = run.session) (committed : after.committed = run.committed)
    (fewer : after.phase.pending.Sublist run.phase.pending) (own : after.phase.Own rules) :
    Careful rules after where
  grows := by rw [session, committed]; exact careful.grows
  ids := by rw [session, committed]; exact careful.ids
  known model member := session ▸ careful.known model (fewer.subset member)
  apart := careful.apart.sublist (fewer.map _)
  own := own

/-- A run selects the unclassified rows, each once, sorted by time. -/
theorem selected_perm (table : AttackEvents) : (selected table).Perm table.unclassified :=
  (arrange_ordered _ _).perm

/-- What a run selects is unclassified, and no event is selected twice; the
identifiers of the table are distinct. -/
theorem selected_careful {run : Backfill} (careful : Careful rules run) :
    Careful rules { run with phase := .iterating (selected run.session) } where
  grows := careful.grows
  ids := careful.ids
  known model member := by
    have unclassified := (selected_perm run.session).mem_iff.mp member
    obtain ⟨known, absent⟩ := List.mem_filter.mp unclassified
    exact ⟨known, Option.isNone_iff_eq_none.mp absent⟩
  apart := by
    have perm := (selected_perm run.session).map AttackEventModel.id
    exact perm.nodup_iff.mpr (run.session.distinct.sublist (List.filter_sublist.map _))
  own := trivial

/-- An update is one of the event it is for, and leaves the events to come alone,
which therefore are still unclassified when it is their turn. -/
theorem updated_careful {run : Backfill} {model : AttackEventModel}
    {result : ClassificationResult} {events : List AttackEventModel}
    (careful : Careful rules run) (phase : run.phase = .updating model result events) :
    Careful rules
      { run with phase := .counting events, session := updateRow run.session model.id result } := by
  have known := careful.known
  have apart := careful.apart
  have own := careful.own
  rw [phase] at known apart own
  obtain ⟨event, context, own, rfl⟩ := own
  obtain ⟨here, absent⟩ := known model List.mem_cons_self
  obtain ⟨different, rest⟩ := List.nodup_cons.mp apart
  refine ⟨careful.grows.trans (grows_updateRow context here absent own),
    (updateRow_ids _ _ _).trans careful.ids, fun other member => ?_, rest, trivial⟩
  obtain ⟨there, unclassified⟩ := known other (List.mem_cons_of_mem _ member)
  have distinct : other.id ≠ model.id := fun same =>
    different (same ▸ List.mem_map_of_mem (f := AttackEventModel.id) member)
  exact ⟨mem_updateRow _ there distinct, unclassified⟩

/-- One statement of a run: the committed table grows. Only a commit changes it, and
what is committed then has been filled from what was unclassified. -/
theorem next_careful {run after : Backfill} (careful : Careful rules run)
    (moved : next rules run = some after) :
    Careful rules after ∧ Grows rules run.committed after.committed ∧
      after.committed.rows.map AttackEventModel.id =
        run.committed.rows.map AttackEventModel.id := by
  have committed : Careful rules after ∧ (after.committed = run.committed ∨
      after.committed = run.session) := by
    simp only [next] at moved
    split at moved
    case h_1 phase =>
      cases moved
      refine ⟨?_, .inl rfl⟩
      have chosen := selected_careful careful
      split
      · exact chosen.fewer rfl rfl (List.nil_sublist _) trivial
      · exact chosen
    case h_2 phase =>
      cases moved
      exact ⟨careful.fewer rfl rfl (List.nil_sublist _) trivial, .inl rfl⟩
    case h_3 model events phase =>
      have same : run.phase.pending = model :: events := by rw [phase]; rfl
      split at moved
      · cases moved
        exact ⟨careful_of_done rfl rfl trivial, .inl rfl⟩
      · next event own =>
        cases moved
        exact ⟨careful.fewer rfl rfl (same ▸ .refl _) ⟨event, _, own, rfl⟩, .inl rfl⟩
    case h_4 model result events phase =>
      cases moved
      exact ⟨updated_careful careful phase, .inl rfl⟩
    case h_5 events phase =>
      have same : run.phase.pending = events := by rw [phase]; rfl
      cases moved
      refine ⟨?_, .inl rfl⟩
      split
      · exact careful.fewer rfl rfl (same ▸ .refl _) trivial
      · exact careful.fewer rfl rfl (same ▸ .refl _) trivial
    case h_6 events phase =>
      have same : run.phase.pending = events := by rw [phase]; rfl
      cases moved
      refine ⟨⟨Grows.refl _, rfl, ?_, ?_, trivial⟩, .inr rfl⟩
      · exact same ▸ careful.known
      · exact same ▸ careful.apart
    case h_7 phase =>
      cases moved
      exact ⟨careful_of_done rfl rfl trivial, .inr rfl⟩
    case h_8 => cases moved
  obtain ⟨kept, same | session⟩ := committed
  · exact ⟨kept, same ▸ Grows.refl _, by rw [same]⟩
  · exact ⟨kept, session ▸ careful.grows, by rw [session, careful.ids]⟩

/-- An event that is stored meanwhile is seen by a run, and is none of those it is to
update. -/
theorem saveBeside_careful {run after : Backfill} {row : AttackEventModel}
    (careful : Careful rules run) (saved : saveBeside run row = some after) :
    Careful rules after ∧ run.committed.insertRow row = some after.committed ∧
      run.session.insertRow row = some after.session ∧ after.phase = run.phase := by
  simp only [saveBeside, bind, Option.bind_eq_some_iff, pure, Option.some.injEq] at saved
  obtain ⟨committed, stored, session, seen, rfl⟩ := saved
  obtain ⟨storedRows, -⟩ := AttackEvents.insertRow_rows stored
  obtain ⟨seenRows, -⟩ := AttackEvents.insertRow_rows seen
  refine ⟨⟨fun other member => ?_, ?_, fun model member => ?_, careful.apart, careful.own⟩,
    stored, seen, rfl⟩
  · rw [storedRows] at member
    rcases List.mem_append.mp member with old | new
    · exact (careful.grows.trans (grows_insertRow seen)) other old
    · exact ⟨other, seenRows ▸ List.mem_append_right _ new, .inl rfl⟩
  · simp only [storedRows, seenRows, List.map_append, careful.ids]
  · obtain ⟨known, absent⟩ := careful.known model member
    exact ⟨seenRows ▸ List.mem_append_left _ known, absent⟩

/-- A run that is under way is careful. -/
def Database.Careful (rules : DetectionRules) : Database → Prop
  | idle _ => True
  | backfilling run => Detection.Careful rules run

/-- Without a run there is nothing to be careful about. -/
theorem idle_careful (table : AttackEvents) : (Database.idle table).Careful rules := trivial

/-- What an access stores. -/
def Access.saved : Access → List AttackEventModel
  | save event classification => [modelOf event classification]
  | begin | statement | close | kill => []

/-- What the worker stores is classified, so no run selects it. -/
theorem saved_classified (access : Access) : ∀ row ∈ access.saved, row.attackType ≠ none := by
  cases access <;> simp [Access.saved, modelOf]

/-- One access: no row is lost or changed but by its first classification, and what is
new is what the worker stores. -/
theorem database_grows {state next : Database} {access : Access}
    (careful : state.Careful rules) (moved : (database rules).step state access = some next) :
    next.Careful rules ∧ Grows rules state.committed next.committed ∧
      next.committed.rows.map AttackEventModel.id =
        state.committed.rows.map AttackEventModel.id ++ access.saved.map AttackEventModel.id ∧
      ∀ row ∈ access.saved, row ∈ next.committed.rows := by
  have still (table : AttackEvents) : Grows rules table table ∧
      table.rows.map AttackEventModel.id = table.rows.map AttackEventModel.id ++ [] ∧
      ∀ row ∈ ([] : List AttackEventModel), row ∈ table.rows :=
    ⟨Grows.refl table, (List.append_nil _).symm, nofun⟩
  have inserted {table after : AttackEvents} {row : AttackEventModel}
      (stored : table.insertRow row = some after) : Grows rules table after ∧
      after.rows.map AttackEventModel.id =
        table.rows.map AttackEventModel.id ++ [row.id] ∧
      ∀ other ∈ [row], other ∈ after.rows := by
    obtain ⟨rows, -⟩ := AttackEvents.insertRow_rows stored
    refine ⟨grows_insertRow stored, by rw [rows, List.map_append]; rfl, fun other member => ?_⟩
    exact rows ▸ List.mem_append_right _ member
  cases state with
  | idle table =>
    cases access with
    | save event classification =>
      obtain ⟨after, stored, rfl⟩ := Option.map_eq_some_iff.mp moved
      exact ⟨trivial, inserted stored⟩
    | begin =>
      cases moved
      exact ⟨careful_of_done rfl rfl trivial, still table⟩
    | statement | close | kill => cases moved
  | backfilling run =>
    cases access with
    | save event classification =>
      obtain ⟨after, saved, rfl⟩ := Option.map_eq_some_iff.mp moved
      obtain ⟨kept, stored, -⟩ := saveBeside_careful careful saved
      exact ⟨kept, inserted stored⟩
    | begin => cases moved
    | statement =>
      obtain ⟨after, taken, rfl⟩ := Option.map_eq_some_iff.mp moved
      obtain ⟨kept, grows, ids⟩ := next_careful careful taken
      exact ⟨kept, grows, by rw [Database.committed, ids]; exact (List.append_nil _).symm, nofun⟩
    | close =>
      simp only [database] at moved
      split at moved
      · cases moved
        exact ⟨trivial, still run.committed⟩
      · cases moved
    | kill =>
      cases moved
      exact ⟨trivial, still run.committed⟩

/-- What a schedule stores. -/
def savedRows (schedule : List Access) : List AttackEventModel :=
  schedule.flatMap Access.saved

/-- What a schedule stores is stored access by access. -/
@[simp] theorem savedRows_cons (access : Access) (rest : List Access) :
    savedRows (access :: rest) = access.saved ++ savedRows rest := List.flatMap_cons

/-- The same along a schedule. What has been stored is classified and stays as it
is, and the rows of the worker come behind those of the table in their order. -/
theorem database_run_grows {state final : Database} {schedule : List Access}
    (careful : state.Careful rules) (reached : (database rules).run state schedule = some final) :
    final.Careful rules ∧ Grows rules state.committed final.committed ∧
      final.committed.rows.map AttackEventModel.id =
        state.committed.rows.map AttackEventModel.id ++
          (savedRows schedule).map AttackEventModel.id ∧
      ∀ row ∈ savedRows schedule, row ∈ final.committed.rows := by
  induction schedule generalizing state with
  | nil =>
    cases reached
    exact ⟨careful, Grows.refl _, (List.append_nil _).symm, nofun⟩
  | cons access rest inductionHypothesis =>
    obtain ⟨next, moved, remaining⟩ := (System.run_cons_iff _ _ _ _ _).mp reached
    obtain ⟨kept, grows, ids, present⟩ := database_grows careful moved
    obtain ⟨still, more, others, later⟩ := inductionHypothesis kept remaining
    refine ⟨still, grows.trans more, ?_, fun row member => ?_⟩
    · rw [others, ids, savedRows_cons, List.map_append, List.append_assoc]
    · rcases List.mem_append.mp (savedRows_cons access rest ▸ member) with now | after
      · obtain ⟨same, there, rfl | ⟨absent, -⟩⟩ := more row (present row now)
        · exact there
        · exact absurd absent (saved_classified access row now)
      · exact later row after

end

/-- In every interleaving of the worker, of backfills that run one at a time and of
kills, between any two moments: no row is lost, and a row changes at most once, from
unclassified to the classification of its own event. The new rows are those that the
worker has stored, as the worker has classified them. -/
theorem verdicts_are_final (rules : DetectionRules) (table : AttackEvents)
    (before after : List Access) {middle final : Database}
    (first : (database rules).run (.idle table) before = some middle)
    (second : (database rules).run middle after = some final) :
    (∀ row ∈ middle.committed.rows, ∃ later ∈ final.committed.rows, Filled rules row later) ∧
      final.committed.rows.map AttackEventModel.id =
        middle.committed.rows.map AttackEventModel.id ++ (savedRows after).map AttackEventModel.id ∧
      ∀ row ∈ savedRows after, row ∈ final.committed.rows := by
  obtain ⟨careful, -⟩ := database_run_grows (idle_careful table) first
  exact (database_run_grows careful second).2

/-- One attempt, not yet classified. -/
def oneAttempt : AttackEvents := (attempts [⟨0, by decide⟩] (List.pairwise_singleton _ _)).table

/-- A login attempt that the worker stores. -/
def storedAttempt : Access :=
  .save
    { id := ⟨7, by decide⟩
      timestamp := (attempt ⟨7, by decide⟩).timestamp
      sourceIp := literal "10.0.0.2"
      sourcePort := 4000
      destinationPort := 22
      protocol := .ssh
      eventType := literal "ssh_login_attempt"
      rawData := [] }
    { attackType := .bruteForce, severity := .low }

/-- A backfill is killed after its update, and the next one selects before the worker
stores an event and updates after it. -/
theorem verdicts_are_final_killed :
    ∃ middle final,
      (database shippedRules).run
        (.idle oneAttempt) [.begin, .statement, .statement, .statement, .kill] = some middle ∧
      (database shippedRules).run middle
        [.begin, .statement, storedAttempt, .statement, .statement, .statement, .statement,
          .statement, .close] = some final ∧
      (∀ row ∈ middle.committed.rows, ∃ later ∈ final.committed.rows,
        Filled shippedRules row later) ∧
      final.committed.rows.map AttackEventModel.id =
        middle.committed.rows.map AttackEventModel.id ++ [⟨7, by decide⟩] := by
  refine ⟨_, _, rfl, rfl, ?_⟩
  have final := verdicts_are_final shippedRules oneAttempt
    [.begin, .statement, .statement, .statement, .kill]
    [.begin, .statement, storedAttempt, .statement, .statement, .statement, .statement,
      .statement, .close] rfl rfl
  exact ⟨final.1, final.2.1⟩

end Honeywatch.Detection
