import Honeywatch.Detection.Alongside
import Honeywatch.Detection.Uninterrupted

/-!
# Undisturbed backfills

The rows that the worker stores meanwhile are a frame around a backfill: they are
classified, so no run selects them, and their keys are their own, so no update finds them.
Every statement does with them what it does without them. An interleaving is that of the
backfills alone, with the rows of the worker behind. The backfills follow each other; no
two of them overlap.
-/

namespace Honeywatch.Detection

open Text Collector Db OrderBy Transition

/-- The second table is the first one with these rows behind. -/
def Extends (extra : List AttackEventModel) (alone both : AttackEvents) : Prop :=
  both.rows = alone.rows ++ extra

/-- Two runs at the same statement, the second one over tables with these rows behind. -/
structure Framed (extra : List AttackEventModel) (alone both : Backfill) : Prop where
  phase : both.phase = alone.phase
  contextBuilder : both.contextBuilder = alone.contextBuilder
  totalProcessed : both.totalProcessed = alone.totalProcessed
  session : Extends extra alone.session both.session
  committed : Extends extra alone.committed both.committed

/-- The same for databases. -/
inductive Beside (extra : List AttackEventModel) : Database → Database → Prop
  | idle {alone both : AttackEvents} (extends_ : Extends extra alone both) :
    Beside extra (.idle alone) (.idle both)
  | backfilling {alone both : Backfill} (framed : Framed extra alone both) :
    Beside extra (.backfilling alone) (.backfilling both)

/-- Without rows of the worker the two databases are the same. -/
theorem beside_self (table : AttackEvents) : Beside [] (.idle table) (.idle table) :=
  .idle (List.append_nil _).symm

/-- What everybody sees differs by the rows of the worker. -/
theorem Beside.committed {extra : List AttackEventModel} {alone both : Database}
    (beside : Beside extra alone both) : Extends extra alone.committed both.committed := by
  cases beside with
  | idle extends_ => exact extends_
  | backfilling framed => exact framed.committed

section

variable {rules : DetectionRules} {extra : List AttackEventModel}

/-- A row that the worker stores comes behind the others. -/
theorem Extends.insertRow {alone both after : AttackEvents} {row : AttackEventModel}
    (extends_ : Extends extra alone both) (inserted : both.insertRow row = some after) :
    Extends (extra ++ [row]) alone after := by
  obtain ⟨rows, -⟩ := AttackEvents.insertRow_rows inserted
  rw [Extends, rows, extends_, List.append_assoc]

/-- Classified rows are not selected, so rows that the worker stores make no
difference to what a run goes through. -/
theorem Extends.selected {alone both : AttackEvents} (extends_ : Extends extra alone both)
    (classified : ∀ row ∈ extra, row.attackType ≠ none) :
    Detection.selected both = Detection.selected alone := by
  have none_of_extra : (extra.filter fun row => row.attackType.isNone) = [] := by
    refine List.filter_eq_nil_iff.mpr fun row member => ?_
    simpa using classified row member
  have unclassified : both.unclassified = alone.unclassified := by
    rw [AttackEvents.unclassified, extends_, List.filter_append, none_of_extra, List.append_nil,
      AttackEvents.unclassified]
  rw [Detection.selected, Detection.selected, unclassified]

/-- An update of a row of the first table finds none of the rows behind, whose
identifiers are others. -/
theorem Extends.updateRow {alone both : AttackEvents} (extends_ : Extends extra alone both)
    {model : AttackEventModel} (known : model ∈ alone.rows) (result : ClassificationResult) :
    Extends extra (Detection.updateRow alone model.id result)
      (Detection.updateRow both model.id result) := by
  have apart : ∀ row ∈ extra, row.id ≠ model.id := by
    intro row member same
    have distinct := both.distinct
    rw [extends_, List.map_append] at distinct
    exact List.disjoint_of_nodup_append distinct (List.mem_map_of_mem known)
      (same ▸ List.mem_map_of_mem member)
  have untouched : (extra.map fun row =>
      if row.id = model.id then classifiedAs row result else row) = extra := by
    refine (List.map_congr_left fun row member => ?_).trans (List.map_id _)
    exact if_neg (apart row member)
  simp only [Extends, Detection.updateRow]
  rw [extends_, List.map_append, untouched]

/-- Every statement is the same with classified rows behind, and leaves them as they
are; the frame lemma of a backfill. -/
theorem next_framed {alone both after : Backfill} (framed : Framed extra alone both)
    (careful : Careful rules alone) (classified : ∀ row ∈ extra, row.attackType ≠ none)
    (moved : next rules both = some after) :
    ∃ aloneAfter, next rules alone = some aloneAfter ∧ Framed extra aloneAfter after := by
  obtain ⟨_, _, _, session, committed⟩ := alone
  obtain ⟨phase, contextBuilder, totalProcessed, session', committed'⟩ := both
  obtain ⟨rfl, rfl, rfl, sessions, tables⟩ := framed
  cases phase with
  | selecting =>
    simp only [next, sessions.selected classified, Option.some.injEq] at moved
    exact ⟨_, rfl, moved ▸ ⟨rfl, rfl, rfl, sessions, tables⟩⟩
  | iterating events =>
    cases events with
    | nil => exact ⟨_, rfl, Option.some.inj moved ▸ ⟨rfl, rfl, rfl, sessions, tables⟩⟩
    | cons model rest =>
      cases own : model.toEvent with
      | none =>
        simp only [next, own, Option.some.injEq] at moved ⊢
        exact ⟨_, rfl, moved ▸ ⟨rfl, rfl, rfl, tables, tables⟩⟩
      | some event =>
        simp only [next, own, Option.some.injEq] at moved ⊢
        exact ⟨_, rfl, moved ▸ ⟨rfl, rfl, rfl, sessions, tables⟩⟩
  | updating model result events =>
    obtain ⟨known, -⟩ := careful.known model List.mem_cons_self
    refine ⟨_, rfl, Option.some.inj moved ▸ ⟨rfl, rfl, rfl, ?_, tables⟩⟩
    exact sessions.updateRow known result
  | counting events => exact ⟨_, rfl, Option.some.inj moved ▸ ⟨rfl, rfl, rfl, sessions, tables⟩⟩
  | committing events =>
    exact ⟨_, rfl, Option.some.inj moved ▸ ⟨rfl, rfl, rfl, sessions, sessions⟩⟩
  | finishing => exact ⟨_, rfl, Option.some.inj moved ▸ ⟨rfl, rfl, rfl, sessions, sessions⟩⟩
  | finished => cases moved

/-- The accesses of the backfills. -/
def Access.ofBackfill : Access → Bool
  | save _ _ => false
  | begin | statement | close | kill => true

/-- What the worker stores joins the rows behind, in the committed table as well as
in what a run under way sees of it. -/
theorem save_beside {alone both next : Database} {event : AttackEvent}
    {classification : ClassificationResult} (beside : Beside extra alone both)
    (moved : (database rules).step both (.save event classification) = some next) :
    Beside (extra ++ [modelOf event classification]) alone next := by
  cases beside with
  | idle extends_ =>
    obtain ⟨after, inserted, rfl⟩ := Option.map_eq_some_iff.mp moved
    exact .idle (extends_.insertRow inserted)
  | backfilling framed =>
    obtain ⟨after, saved, rfl⟩ := Option.map_eq_some_iff.mp moved
    simp only [saveBeside, bind, Option.bind_eq_some_iff, pure, Option.some.injEq] at saved
    obtain ⟨committed, stored, session, seen, rfl⟩ := saved
    exact .backfilling
      { framed with
        session := framed.session.insertRow seen
        committed := framed.committed.insertRow stored }

/-- Every other access is the same with classified rows behind: it is made of
statements, or it begins or ends a run. -/
theorem access_beside {alone both next : Database} {access : Access}
    (beside : Beside extra alone both) (careful : alone.Careful rules)
    (classified : ∀ row ∈ extra, row.attackType ≠ none) (own : access.ofBackfill = true)
    (moved : (database rules).step both access = some next) :
    ∃ aloneNext, (database rules).step alone access = some aloneNext ∧
      Beside extra aloneNext next := by
  cases beside with
  | idle extends_ =>
    cases access with
    | save => cases own
    | begin =>
      refine ⟨_, rfl, Option.some.inj moved ▸ .backfilling ⟨rfl, rfl, rfl, ?_, ?_⟩⟩
      · exact extends_
      · exact extends_
    | statement | close | kill => cases moved
  | backfilling framed =>
    cases access with
    | save => cases own
    | begin => cases moved
    | statement =>
      obtain ⟨after, taken, rfl⟩ := Option.map_eq_some_iff.mp moved
      obtain ⟨aloneAfter, alike, still⟩ := next_framed framed careful classified taken
      exact ⟨_, Option.map_eq_some_iff.mpr ⟨aloneAfter, alike, rfl⟩, .backfilling still⟩
    | close =>
      simp only [database, framed.phase] at moved ⊢
      split at moved
      · exact ⟨_, rfl, Option.some.inj moved ▸ .idle framed.committed⟩
      · cases moved
    | kill => exact ⟨_, rfl, Option.some.inj moved ▸ .idle framed.committed⟩

/-- The saves of a schedule can be left out of it. What they stored is behind the
rows of the shorter schedule, in the order of the saves. -/
theorem run_beside {alone both final : Database} {schedule : List Access}
    (beside : Beside extra alone both) (careful : alone.Careful rules)
    (classified : ∀ row ∈ extra, row.attackType ≠ none)
    (reached : (database rules).run both schedule = some final) :
    ∃ aloneFinal, (database rules).run alone (schedule.filter Access.ofBackfill) = some aloneFinal ∧
      Beside (extra ++ savedRows schedule) aloneFinal final := by
  induction schedule generalizing alone both extra with
  | nil =>
    cases reached
    exact ⟨alone, rfl, (List.append_nil extra).symm ▸ beside⟩
  | cons access rest inductionHypothesis =>
    obtain ⟨next, moved, remaining⟩ := (System.run_cons_iff _ _ _ _ _).mp reached
    rw [savedRows_cons, ← List.append_assoc]
    cases own : access.ofBackfill with
    | false =>
      cases access with
      | save event classification =>
        rw [List.filter_cons_of_neg (by simp [own])]
        refine inductionHypothesis (save_beside beside moved) careful ?_ remaining
        intro row member
        rcases List.mem_append.mp member with before | now
        · exact classified row before
        · exact saved_classified _ row now
      | begin | statement | close | kill => cases own
    | true =>
      have nothing : access.saved = [] := by cases access <;> first | rfl | cases own
      obtain ⟨aloneNext, alike, still⟩ := access_beside beside careful classified own moved
      obtain ⟨kept, -⟩ := database_grows careful alike
      rw [List.filter_cons_of_pos own, nothing, List.append_nil]
      obtain ⟨aloneFinal, ended, beside⟩ := inductionHypothesis still kept classified remaining
      exact ⟨aloneFinal, (System.run_cons_iff _ _ _ _ _).mpr ⟨aloneNext, alike, ended⟩, beside⟩

/-- A backfill that is closed without a kill has come to rest: the database lets a
run be closed only where no statement is left. -/
theorem settles_of_close {run : Backfill} {final : Database} {schedule : List Access}
    (unharmed : ∀ access ∈ schedule, access = .begin ∨ access = .statement)
    (reached : (database rules).run (.backfilling run) (schedule ++ [.close]) = some final) :
    ∃ ended, Settles (next rules) run ended ∧ final = .idle ended.committed := by
  induction schedule generalizing run with
  | nil =>
    obtain ⟨closed, moved, rest⟩ := (System.run_cons_iff _ _ _ _ _).mp reached
    cases rest
    simp only [database] at moved
    split at moved
    · next finished =>
      cases moved
      exact ⟨run, .rest run (by simp only [next, finished]), rfl⟩
    · cases moved
  | cons access rest inductionHypothesis =>
    obtain ⟨middle, moved, remaining⟩ := (System.run_cons_iff _ _ _ _ _).mp reached
    rcases unharmed access List.mem_cons_self with rfl | rfl
    · cases moved
    · obtain ⟨after, taken, rfl⟩ := Option.map_eq_some_iff.mp moved
      obtain ⟨ended, settled, same⟩ := inductionHypothesis
        (fun other member => unharmed other (List.mem_cons_of_mem _ member)) remaining
      exact ⟨ended, .step run after ended taken settled, same⟩

end

/-- For every interleaving of what the worker stores with backfills that run one at a
time, killed or not: the backfills alone go the same way, and the table is the one they
leave behind, with the worker's rows after it. -/
theorem worker_disturbs_no_backfill (rules : DetectionRules) (table : AttackEvents)
    (schedule : List Access) {final : Database}
    (reached : (database rules).run (.idle table) schedule = some final) :
    ∃ alone, (database rules).run (.idle table) (schedule.filter Access.ofBackfill) = some alone ∧
      final.committed.rows = alone.committed.rows ++ savedRows schedule := by
  obtain ⟨alone, ended, beside⟩ :=
    run_beside (beside_self _) (idle_careful _) nofun reached
  exact ⟨alone, ended, beside.committed⟩

/-- A backfill that is killed and started again beside the worker leaves what it
leaves alone, and the row of the worker behind it. -/
theorem worker_disturbs_no_backfill_killed :
    ∃ final alone,
      (database shippedRules).run (.idle oneAttempt)
        [.begin, .statement, .statement, storedAttempt, .kill, .begin, .statement] =
          some final ∧
      (database shippedRules).run (.idle oneAttempt)
        [.begin, .statement, .statement, .kill, .begin, .statement] = some alone ∧
      final.committed.rows = alone.committed.rows ++ savedRows [storedAttempt] := by
  obtain ⟨alone, ended, rows⟩ := worker_disturbs_no_backfill shippedRules oneAttempt
    [.begin, .statement, .statement, storedAttempt, .kill, .begin, .statement] rfl
  exact ⟨_, alone, rfl, ended, rows⟩

/-- A backfill that runs alone of its kind and is left to its end beside the worker
classifies what it has found unclassified as specified, in the context of these events
alone, whatever the worker stores meanwhile and whenever. Afterwards every event has an
attack type. -/
theorem backfill_beside_worker_completes (rules : DetectionRules) (given : StoredEvents)
    (schedule : List Access) {final : Database} (unharmed : Access.kill ∉ schedule)
    (once : Access.close ∉ schedule)
    (reached : (database rules).run (.idle given.table) (.begin :: (schedule ++ [.close])) =
      some final) :
    final.committed.rows =
        given.table.rows.map (specified rules given.table) ++ savedRows schedule ∧
      ∀ row ∈ final.committed.rows, row.attackType ≠ none := by
  obtain ⟨state, ended, beside⟩ :=
    run_beside (beside_self _) (idle_careful _) nofun reached
  rw [List.filter_cons_of_pos rfl, List.filter_append] at ended
  obtain ⟨begun, moved, remaining⟩ := (System.run_cons_iff _ _ _ _ _).mp ended
  cases moved
  have statements : ∀ access ∈ schedule.filter Access.ofBackfill,
      access = .begin ∨ access = .statement := by
    intro access member
    obtain ⟨inside, own⟩ := List.mem_filter.mp member
    cases access with
    | begin => exact .inl rfl
    | statement => exact .inr rfl
    | save => cases own
    | close => exact absurd inside once
    | kill => exact absurd inside unharmed
  obtain ⟨last, settled, rfl⟩ := settles_of_close statements remaining
  obtain ⟨alone, alike, -, rows⟩ := given.settles rules
  cases settled.unique alike
  have saved : savedRows (.begin :: (schedule ++ [.close])) = savedRows schedule := by
    simp [savedRows, Access.saved]
  have all : final.committed.rows =
      given.table.rows.map (specified rules given.table) ++ savedRows schedule := by
    rw [beside.committed, Database.committed, rows, List.nil_append, saved]
  refine ⟨all, fun row member => ?_⟩
  rcases List.mem_append.mp (all ▸ member) with old | new
  · obtain ⟨before, there, rfl⟩ := List.mem_map.mp old
    exact given.specified_has_type rules there
  · obtain ⟨access, -, inside⟩ := List.mem_flatMap.mp new
    exact saved_classified access row inside

/-- The same table, as the backfill may find it. -/
def oneStored : StoredEvents where
  table := oneAttempt
  protocols row member := .inl (by rw [List.mem_singleton.mp member]; rfl)
  apart := List.nodup_singleton _

/-- The worker stores an event between the selection and the update; the run ends
all the same, with every row classified. -/
theorem backfill_beside_worker_completes_saved :
    ∃ final,
      (database shippedRules).run (.idle oneAttempt)
        [.begin, .statement, storedAttempt, .statement, .statement, .statement, .statement,
          .statement, .close] = some final ∧
      ∀ row ∈ final.committed.rows, row.attackType ≠ none :=
  ⟨_, rfl, (backfill_beside_worker_completes shippedRules oneStored
    [.statement, storedAttempt, .statement, .statement, .statement, .statement, .statement]
    (by simp [storedAttempt]) (by simp [storedAttempt]) rfl).2⟩

end Honeywatch.Detection
