import Honeywatch.Db.Models
import Honeywatch.Detection.Severity
import Honeywatch.Foundation.OrderBy
import Honeywatch.Foundation.Transition

/-!
# The backfill

`backfill` over the table `attack_events`, cut at its statements; those between two
accesses of the database are one, since a kill loses the memory anyway. It selects the
unclassified events in the order of their timestamps, rebuilds the context of
each address in memory, and commits after every batch. A killed run leaves what
it has committed; the next run selects what is left and starts with an empty
memory, so an event of the rest is classified without the committed events of
its address. That changes its classification exactly when they make the
difference at a threshold.
-/

namespace Honeywatch.Detection

open Text Collector Db OrderBy Transition

/-- `BATCH_SIZE`. -/
def batchSize : Nat := 500

/-- `_IPContextBuilder`; both dictionaries have a default. -/
structure IPContextBuilder where
  attempts : Str → Nat := fun _ => 0
  ports : Str → Finset Int := fun _ => ∅

/-- `_IPContextBuilder.update_and_get`. -/
def IPContextBuilder.updateAndGet (builder : IPContextBuilder) (sourceIp : Str)
    (destinationPort : Int) : IPContextBuilder × IPContext :=
  let attempts := Function.update builder.attempts sourceIp (builder.attempts sourceIp + 1)
  let ports := Function.update builder.ports sourceIp
    (insert destinationPort (builder.ports sourceIp))
  ({ attempts, ports },
    { recentAttempts := attempts sourceIp, distinctPorts := ports sourceIp })

/-- The values of the `UPDATE` in a row. -/
def classifiedAs (row : AttackEventModel) (result : ClassificationResult) : AttackEventModel :=
  { row with attackType := some result.attackType.value, severity := some result.severity.value }

/-- `UPDATE attack_events SET ... WHERE id = ...`. -/
def updateRow (table : AttackEvents) (id : Uuid) (result : ClassificationResult) :
    AttackEvents where
  rows := table.rows.map fun row => if row.id = id then classifiedAs row result else row
  distinct := by
    have ids : (table.rows.map fun row => if row.id = id then classifiedAs row result else row).map
        AttackEventModel.id = table.rows.map AttackEventModel.id := by
      rw [List.map_map]
      refine List.map_congr_left fun row _ => ?_
      simp only [Function.comp_apply]
      split <;> rfl
    exact ids ▸ table.distinct

/-- The statement a run is at, with the events that are still to come. -/
inductive Phase
  | selecting
  | iterating (events : List AttackEventModel)
  | updating (model : AttackEventModel) (result : ClassificationResult)
      (events : List AttackEventModel)
  | counting (events : List AttackEventModel)
  | committing (events : List AttackEventModel)
  | finishing
  | finished

/-- A run: its memory, its session's view of the table, and the committed table. -/
structure Backfill where
  phase : Phase
  contextBuilder : IPContextBuilder
  totalProcessed : Nat
  session : AttackEvents
  committed : AttackEvents

/-- A run begins with an empty memory and a new session. -/
def begin (table : AttackEvents) : Backfill :=
  { phase := .selecting, contextBuilder := {}, totalProcessed := 0, session := table
    committed := table }

/-- The selected events, `ORDER BY timestamp ASC`. With different timestamps
there is one such order. -/
def selected (table : AttackEvents) : List AttackEventModel :=
  arrange (fun row => OrderDual.toDual row.timestamp) table.unclassified

/-- The next statement of `backfill`. A row that is no `AttackEvent` raises, and
the session is closed without a commit. -/
def next (rules : DetectionRules) (run : Backfill) : Option Backfill :=
  match run.phase with
  | .selecting =>
    let events := selected run.session
    some { run with phase := if events.isEmpty then .finished else .iterating events }
  | .iterating [] => some { run with phase := .finishing }
  | .iterating (model :: events) =>
    match model.toEvent with
    | none => some { run with phase := .finished, session := run.committed }
    | some event =>
      let (contextBuilder, context) :=
        run.contextBuilder.updateAndGet model.sourceIp model.destinationPort
      some { run with
        phase := .updating model (classify rules event context) events
        contextBuilder }
  | .updating model result events =>
    some { run with phase := .counting events, session := updateRow run.session model.id result }
  | .counting events =>
    let totalProcessed := run.totalProcessed + 1
    some { run with
      phase := if totalProcessed % batchSize = 0 then .committing events else .iterating events
      totalProcessed }
  | .committing events => some { run with phase := .iterating events, committed := run.session }
  | .finishing => some { run with phase := .finished, committed := run.session }
  | .finished => none

/-- What a run that is killed after so many statements leaves behind. -/
def killed (rules : DetectionRules) (table : AttackEvents) (statements : Nat) : AttackEvents :=
  (follow (next rules) statements (begin table)).committed

/-- The attack type and the severity of every event. -/
def verdicts (table : AttackEvents) : List (Uuid × Option Str × Option Str) :=
  table.rows.map fun row => (row.id, row.attackType, row.severity)

/-- A table of unclassified events with pairwise distinct timestamps. -/
structure UnclassifiedEvents where
  table : AttackEvents
  unclassified : ∀ row ∈ table.rows, row.attackType = none
  events : ∀ row ∈ table.rows, row.toEvent ≠ none
  apart : (table.rows.map AttackEventModel.timestamp).Nodup

/-- The context of an event among these events: those of its address up to it. -/
def evidence (events : List AttackEventModel) (row : AttackEventModel) : IPContext :=
  let mine := events.filter fun other =>
    decide (other.sourceIp = row.sourceIp) && decide (other.timestamp ≤ row.timestamp)
  { recentAttempts := mine.length
    distinctPorts := (mine.map AttackEventModel.destinationPort).toFinset }

/-- Some condition of a severity level is met. -/
def isMetBy (conditions : List SeverityCondition) (attackType : AttackType)
    (context : IPContext) : Bool :=
  conditions.any fun condition => condition.isMet attackType context

/-- Every threshold that decides the classification of an event and is reached
by all of the evidence is reached by the rest of it: the attempts of a brute
force and the ports of a port scan where no type before them matches, and the
attempts of the severity levels for the event's type. -/
structure ReachedByRest (rules : DetectionRules) (event : AttackEvent) (all rest : IPContext) :
    Prop where
  attempts : hasPriority rules event = false →
    event.protocol.value = rules.attackTypes.bruteForce.protocol →
    rules.attackTypes.bruteForce.minAttempts ≤ all.recentAttempts →
    rules.attackTypes.bruteForce.minAttempts ≤ rest.recentAttempts
  ports : hasPriority rules event = false → isBruteForce rules event all = false →
    rules.attackTypes.portScan.minDistinctPorts ≤ all.distinctPorts.card →
    rules.attackTypes.portScan.minDistinctPorts ≤ rest.distinctPorts.card
  high : isMetBy rules.severityRules.high (determineAttackType rules event all) all = true →
    isMetBy rules.severityRules.high (determineAttackType rules event all) rest = true
  medium : isMetBy rules.severityRules.high (determineAttackType rules event all) all = false →
    isMetBy rules.severityRules.medium (determineAttackType rules event all) all = true →
    isMetBy rules.severityRules.medium (determineAttackType rules event all) rest = true

/-- More attempts meet every condition that fewer have met, since a condition asks
for at least a number. -/
theorem isMetBy_mono (conditions : List SeverityCondition) (attackType : AttackType)
    {rest all : IPContext} (fewer : rest.recentAttempts ≤ all.recentAttempts)
    (met : isMetBy conditions attackType rest = true) :
    isMetBy conditions attackType all = true := by
  obtain ⟨condition, member, holds⟩ := List.any_eq_true.mp met
  have still := (SeverityCondition.isMet_iff.mp holds).mono (Int.ofNat_le.mpr fewer)
  exact List.any_eq_true.mpr ⟨condition, member, SeverityCondition.isMet_iff.mpr still⟩

/-- The evaluation asks for the high conditions and then for the medium ones. -/
theorem evaluate_eq (rules : DetectionRules) (attackType : AttackType) (context : IPContext) :
    evaluate rules attackType context =
      if isMetBy rules.severityRules.high attackType context then .high
      else if isMetBy rules.severityRules.medium attackType context then .medium
      else .low := rfl

/-- With less evidence the severity of a type stays the same exactly when no
level is lost. -/
theorem evaluate_rest_iff (rules : DetectionRules) (attackType : AttackType)
    {rest all : IPContext} (fewer : rest.recentAttempts ≤ all.recentAttempts) :
    evaluate rules attackType rest = evaluate rules attackType all ↔
      (isMetBy rules.severityRules.high attackType all = true →
        isMetBy rules.severityRules.high attackType rest = true) ∧
      (isMetBy rules.severityRules.high attackType all = false →
        isMetBy rules.severityRules.medium attackType all = true →
        isMetBy rules.severityRules.medium attackType rest = true) := by
  have high := isMetBy_mono rules.severityRules.high attackType fewer
  have medium := isMetBy_mono rules.severityRules.medium attackType fewer
  simp only [evaluate_eq]
  revert high medium
  cases isMetBy rules.severityRules.high attackType all <;>
    cases isMetBy rules.severityRules.high attackType rest <;>
    cases isMetBy rules.severityRules.medium attackType all <;>
    cases isMetBy rules.severityRules.medium attackType rest <;>
    simp

/-- With less evidence the type stays the same exactly when neither the attempts
of a brute force nor the ports of a port scan are lost. -/
theorem determineAttackType_rest_iff (rules : DetectionRules) (event : AttackEvent)
    {rest all : IPContext} (fewer : rest.recentAttempts ≤ all.recentAttempts)
    (contained : rest.distinctPorts ⊆ all.distinctPorts) :
    determineAttackType rules event rest = determineAttackType rules event all ↔
      (hasPriority rules event = false →
        event.protocol.value = rules.attackTypes.bruteForce.protocol →
        rules.attackTypes.bruteForce.minAttempts ≤ all.recentAttempts →
        rules.attackTypes.bruteForce.minAttempts ≤ rest.recentAttempts) ∧
      (hasPriority rules event = false → isBruteForce rules event all = false →
        rules.attackTypes.portScan.minDistinctPorts ≤ all.distinctPorts.card →
        rules.attackTypes.portScan.minDistinctPorts ≤ rest.distinctPorts.card) := by
  have ports := Finset.card_le_card contained
  cases priority : hasPriority rules event with
  | true =>
    have same : determineAttackType rules event rest = determineAttackType rules event all := by
      rcases Bool.or_eq_true_iff.mp priority with injected | credential
      · simp [determineAttackType, injected]
      · simp [determineAttackType, credential]
    simp [same]
  | false =>
    rw [determine_without_priority rules event rest priority,
      determine_without_priority rules event all priority]
    by_cases protocol : event.protocol.value = rules.attackTypes.bruteForce.protocol
    · simp only [isBruteForce, isPortScan, protocol]
      split <;> split <;> simp_all <;> grind
    · simp only [isBruteForce, isPortScan, protocol]
      grind

/-- With less evidence an event is classified the same exactly when every
deciding threshold is still reached. -/
theorem classify_rest_iff (rules : DetectionRules) (event : AttackEvent) {rest all : IPContext}
    (fewer : rest.recentAttempts ≤ all.recentAttempts)
    (contained : rest.distinctPorts ⊆ all.distinctPorts) :
    classify rules event rest = classify rules event all ↔ ReachedByRest rules event all rest := by
  have types := determineAttackType_rest_iff rules event fewer contained
  have severities := evaluate_rest_iff rules (determineAttackType rules event all) fewer
  simp only [classify, ClassificationResult.mk.injEq]
  constructor
  · rintro ⟨same, severity⟩
    rw [same] at severity
    obtain ⟨attempts, ports⟩ := types.mp same
    obtain ⟨high, medium⟩ := severities.mp severity
    exact ⟨attempts, ports, high, medium⟩
  · intro reached
    have same := types.mpr ⟨reached.attempts, reached.ports⟩
    refine ⟨same, ?_⟩
    rw [same]
    exact severities.mpr ⟨reached.high, reached.medium⟩

end Honeywatch.Detection
