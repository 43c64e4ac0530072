import Honeywatch.Collector.Events
import Honeywatch.Collector.Publish
import Mathlib.Data.List.Forall2

/-!
# Log records

What the loggers write, without the clock and the fields that are settings. Only
two calls write the result of a classification, both at the level `DEBUG`, so a
record either has none of it or has it as a whole. Two others write `str(e)` of
whatever PostgreSQL raised, which for an error of the statement renders its row.
`EventQueue` logs between its awaits; every record is determined by the answer,
the attempt and the id of the event.
-/

namespace Honeywatch.Collector

open Text Cooperative

/-- The levels in use. -/
inductive Level
  | debug
  | info
  | warning
  | error
deriving DecidableEq, Repr

/-- The number of a level in `logging`. -/
def Level.value : Level → Nat
  | .debug => 10
  | .info => 20
  | .warning => 30
  | .error => 40

/-- No level is below `DEBUG`. -/
theorem Level.debug_le (level : Level) : Level.debug.value ≤ level.value := by
  cases level <;> decide

/-- The value of a field. -/
inductive Field
  | text (value : Str)
  | number (value : Int)
  | flag (value : Bool)
  | id (value : Uuid)
deriving DecidableEq

/-- A record without its level and without what it shows of an event's content. -/
structure Entry where
  event : String
  fields : List (String × Field)
deriving DecidableEq

/-- A record: `classification` has the `attack_type` and the `severity` of a
result as well, `statement` the text of a statement error as its `error`. -/
inductive LogRecord (Label Message : Type)
  | plain (level : Level) (entry : Entry)
  | classification (entry : Entry) (label : Label)
  | statement (level : Level) (entry : Entry) (error : Message)
deriving DecidableEq

namespace LogRecord

variable {Label Message Other Report : Type}

def level : LogRecord Label Message → Level
  | .plain level _ => level
  | .classification _ _ => .debug
  | .statement level _ _ => level

/-- The record with other contents in the place of its own. -/
def map (f : Label → Other) (g : Message → Report) : LogRecord Label Message →
    LogRecord Other Report
  | .plain level entry => .plain level entry
  | .classification entry label => .classification entry (f label)
  | .statement level entry error => .statement level entry (g error)

/-- The record without the result of a classification and the text of a statement
error. -/
def erase : LogRecord Label Message → LogRecord Unit Unit := map (fun _ => ()) fun _ => ()

/-- Without the values that a renaming concerns, a record is the same before and
after it. -/
@[simp] theorem erase_map (f : Label → Other) (g : Message → Report)
    (record : LogRecord Label Message) : (record.map f g).erase = record.erase := by
  cases record <;> rfl

/-- They do not decide about the level. -/
@[simp] theorem level_erase (record : LogRecord Label Message) :
    record.erase.level = record.level := by
  cases record <;> rfl

/-- The same record, but for the text of a statement error. -/
def SameButStatement (left right : LogRecord Label Message) : Prop :=
  left = right ∨ ∃ level entry error other, left = .statement level entry error ∧
    right = .statement level entry other

/-- Above `DEBUG` nothing else is erased, so two records that agree after the
erasure differ at most in the text of a statement error. -/
theorem sameButStatement_of_erase {left right : LogRecord Label Message}
    (same : left.erase = right.erase) (above : Level.debug.value < left.level.value) :
    left.SameButStatement right := by
  cases left with
  | plain level entry =>
    cases right with
    | plain other otherEntry =>
      cases same
      exact .inl rfl
    | classification entry label => cases same
    | statement level entry error => cases same
  | classification entry label => exact absurd above (Nat.lt_irrefl _)
  | statement level entry error =>
    cases right with
    | plain other otherEntry => cases same
    | classification entry label => cases same
    | statement other otherEntry otherError =>
      cases same
      exact .inr ⟨_, _, _, _, rfl, rfl⟩

end LogRecord

/-- The records that a root logger of the given level writes. -/
def written {Label Message : Type} (logLevel : Nat) (log : List (LogRecord Label Message)) :
    List (LogRecord Label Message) :=
  log.filter fun record => decide (logLevel ≤ record.level.value)

/-- What is written of logs that are erased to the same is erased to the same, as
the level of a record survives its erasure. -/
theorem written_erase {Label Message : Type} (logLevel : Nat)
    {log other : List (LogRecord Label Message)}
    (same : log.map LogRecord.erase = other.map LogRecord.erase) :
    (written logLevel log).map LogRecord.erase = (written logLevel other).map LogRecord.erase := by
  have erased (log : List (LogRecord Label Message)) :
      (written logLevel log).map LogRecord.erase = written logLevel (log.map LogRecord.erase) := by
    simp [written, List.filter_map, Function.comp_def]
  rw [erased, erased, same]

/-- Above `DEBUG` it differs in the texts of statement errors only: the records of
the classification, in which more may differ, are below the level. -/
theorem written_above_debug {Label Message : Type} {logLevel : Nat}
    (above : Level.debug.value < logLevel) {log other : List (LogRecord Label Message)}
    (same : log.map LogRecord.erase = other.map LogRecord.erase) :
    List.Forall₂ LogRecord.SameButStatement (written logLevel log) (written logLevel other) := by
  induction log generalizing other with
  | nil =>
    rw [List.map_eq_nil_iff.mp same.symm]
    exact .nil
  | cons record rest inductionHypothesis =>
    obtain ⟨twin, others, rfl, erased, remaining⟩ := List.map_eq_cons_iff.mp same.symm
    have later := inductionHypothesis remaining.symm
    have level : twin.level = record.level := by
      rw [← LogRecord.level_erase, erased, LogRecord.level_erase]
    simp only [written, List.filter_cons, level]
    by_cases kept : logLevel ≤ record.level.value
    · simp only [kept, decide_true, if_true]
      exact .cons (LogRecord.sameButStatement_of_erase erased.symm (Nat.lt_of_lt_of_le above kept))
        later
    · simp only [kept, decide_false, Bool.false_eq_true, if_false]
      exact later

/-- What an exception says of itself. -/
inductive ErrorText (Message : Type)
  | plain (error : Str)
  | statement (error : Message)

namespace ErrorText

variable {Message Report : Type}

def map (g : Message → Report) : ErrorText Message → ErrorText Report
  | .plain error => .plain error
  | .statement error => .statement (g error)

end ErrorText

variable {Label Message : Type}

/-- A record with `error=str(e)`. -/
def logRaised (level : Level) (event : String) (fields : List (String × Field)) :
    ErrorText Message → LogRecord Label Message
  | .plain error => .plain level { event, fields := fields ++ [("error", .text error)] }
  | .statement error => .statement level { event, fields } error

def logDebug (event : String) (fields : List (String × Field)) : LogRecord Label Message :=
  .plain .debug { event, fields }

def logInfo (event : String) (fields : List (String × Field)) : LogRecord Label Message :=
  .plain .info { event, fields }

def logWarning (event : String) (fields : List (String × Field)) : LogRecord Label Message :=
  .plain .warning { event, fields }

def logError (event : String) (fields : List (String × Field)) : LogRecord Label Message :=
  .plain .error { event, fields }

namespace EventQueue

variable {Payload : Type}

/-- The records of `_ensure_consumer_group`. -/
def ensureRecords : RedisReply → List (LogRecord Label Message)
  | .answered => [logInfo "event_queue.consumer_group_created" []]
  | .failed failure _ =>
    if failure.isBusyGroup then [logDebug "event_queue.consumer_group_exists" []] else []

/-- The records of `connect`. -/
def connectRecords (reply : RedisReply) : List (LogRecord Label Message) :=
  match reply with
  | .answered => ensureRecords reply ++ [logInfo "event_queue.connected" []]
  | .failed failure _ =>
    if failure.isBusyGroup then ensureRecords reply ++ [logInfo "event_queue.connected" []] else []

/-- The record of the except clause of `publish`. -/
def retryRecords (attempt : Nat) (failure : RedisFailure) (error : Str) :
    List (LogRecord Label Message) :=
  if failure.isConnectionLoss then
    [logWarning "event_queue.publish_retry"
      [("attempt", .number (attempt + 1)), ("error", .text error)]]
  else []

/-- The records of `publish` when its await is answered; `error` is the text of
the failure, if it is one. -/
def publishRecords (eventId : Uuid) (queue : EventQueue Payload) (error : Str) :
    PublishPoint Payload → RedisReply → List (LogRecord Label Message)
  | .connecting attempt, reply =>
    connectRecords reply ++
      match reply with
      | .answered => []
      | .failed failure _ => retryRecords attempt failure error
  | .adding _ _, .answered =>
    [logDebug "event_queue.published"
      [("event_id", .id eventId), ("entry_id", .number queue.entries.length)]]
  | .adding attempt _, .failed failure _ => retryRecords attempt failure error
  | .sleeping _, _ => []

end EventQueue

end Honeywatch.Collector
