import Honeywatch.Collector.Logging
import Honeywatch.Detection.IpContext
import Honeywatch.Honeypot.Answers
import Honeywatch.Honeypot.Naturality
import Honeywatch.Tasks.Naturality

/-!
# From a honeypot to the table, with the logs

A honeypot with its emits, the stream, the context store, the worker and the
table, over one log. Every move says how an await ends and, where it fails, what
the text of the failure is; the text of a statement error is rendered from the
row that was to be inserted. The moves of the honeypot and of the worker are
those of their own models; what is added here is what they log on the way. The
other honeypot shares the queue, and what it does to it is a move of its own.

An emit or the periodic flush may be cancelled at its await: the SSH server cancels
the callbacks of a lost connection, the HTTP server its handlers, a stop the flush.
When the process of the honeypots ends, its emits and its buffer are gone; what it
leaves is in Redis.
-/

namespace Honeywatch.Tasks

open Collector Cooperative Detection Honeypot Redis Text EventQueue

variable {Event Payload Label Message : Type}

/-- What the pipeline knows of its events: how they are written and read back,
with the text of a validation error, what it takes from them, how they are
classified, and the text of a statement error for the row of one. -/
structure Handling (Event Payload Label Message : Type) where
  toJsonStr : Event → Option Payload
  fromJsonStr : Payload → Except Str Event
  eventId : Event → Uuid
  protocol : Event → Protocol
  sourceIp : Event → Str
  destinationPort : Event → Int
  timeWindow : ℚ
  classify : Event → IPContext → Label
  statementError : Event → Label → Str → Message

/-- The error of a failed insert: an error of the statement renders the bound
parameters, any other error is its own text. -/
inductive DbError
  | statement (original : Str)
  | other (text : Str)

/-- An emit or the periodic flush, the `flushed` of its flush so far, and what
the handler logs when its emit returns. -/
structure Emission (Event Payload Label Message : Type) where
  task : Honeypot.Task Event
  flushed : Nat
  returns : List (LogRecord Label Message)
  progress : Progress (TaskPoint Event (PublishPoint Payload)) (Except Raised Unit)

/-- The whole of it. -/
structure Pipeline (Event Payload Label Message : Type) where
  memory : Queued Event Payload
  emissions : List (Emission Event Payload Label Message)
  backend : State Payload Event Label
  store : IPContextStore
  log : List (LogRecord Label Message)

/-- A fresh honeypot on a queue with or without a client, nothing published and
nothing stored. -/
def Pipeline.initial (redis : Bool) : Pipeline Event Payload Label Message :=
  { memory :=
      { buffer := .empty
        queue := { redis, entries := [], record := [] }
        evicted := [] }
    emissions := []
    backend := Tasks.initial
    store := .empty
    log := [] }

/-- What happens: a handler logs and emits, an await of the honeypot ends, the
other honeypot uses the queue, or the worker goes on. Of an await that is cancelled
it is told whether Redis executes the command all the same. When the process of the
honeypots ends, by a stop or a crash, it is started again. A degraded context store
tells its error and whether the transaction was executed. -/
inductive Happening (Event Payload Label Message : Type)
  | receive (before : List (LogRecord Label Message))
      (emitted : Option (Event × LogRecord Label Message))
  | startFlushLoop
  | answer (emission : Nat) (reply : RedisReply) (error : Str)
  | cancel (emission : Nat) (executed : Bool)
  | restartHoneypots (redis : Bool) (records : List (LogRecord Label Message))
  | elsewhere (redis : Bool) (payloads : List Payload) (records : List (LogRecord Label Message))
  | loseGroup
  | start
  | stop
  | crash
  | reply (reply : RedisReply) (error : Str)
  | classify (now : ℚ) (degraded : Option (Str × Bool))
  | store (reply : DbReply) (error : DbError)
  | awake

/-- What Redis appends for an await that is cancelled. -/
def cancelledAppends (point : TaskPoint Event (PublishPoint Payload)) (executed : Bool) :
    List Payload :=
  if executed then taskAppends point .answered else []

/-- A suspended task of the honeypot is cancelled. No except clause of it names the
`CancelledError`, so it ends there and leaves the buffer as it is. -/
def Pipeline.cancels (pipeline : Pipeline Event Payload Label Message) (index : Nat)
    (executed : Bool) : Option (Pipeline Event Payload Label Message) :=
  match pipeline.emissions[index]? with
  | some ⟨_, _, _, .suspended point⟩ =>
    let appended := cancelledAppends point executed
    some { pipeline with
      memory :=
        { pipeline.memory with
          queue :=
            { pipeline.memory.queue with
              entries := pipeline.memory.queue.entries ++ appended } }
      emissions := pipeline.emissions.eraseIdx index
      backend :=
        { pipeline.backend with
          stream := appended.foldl Stream.xadd pipeline.backend.stream } }
  | _ => none

/-- The process of the honeypots ends, with its emits and its buffer, and is started
again on the stream that is there. -/
def Pipeline.restartsHoneypots (pipeline : Pipeline Event Payload Label Message)
    (redis : Bool) (records : List (LogRecord Label Message)) :
    Pipeline Event Payload Label Message :=
  { pipeline with
    memory :=
      { buffer := .empty
        queue := { redis, entries := pipeline.memory.queue.entries, record := [] }
        evicted := [] }
    emissions := []
    log := pipeline.log ++ records }

section Records

variable (handling : Handling Event Payload Label Message)

/-- `flushed` after the answer. The periodic flush begins a flush when it wakes. -/
def countFlushed (memory : Queued Event Payload) (flushed : Nat) :
    TaskPoint Event (PublishPoint Payload) → RedisReply → Nat
  | .flushing _ (.adding _ _), .answered =>
    if memory.buffer.items = [] then flushed else flushed + 1
  | .sleeping, _ => 0
  | _, _ => flushed

/-- The record of a flush that comes to its end. -/
def flushRecords (flushed : Nat) :
    Queued Event Payload × Flush Event (PublishPoint Payload) → List (LogRecord Label Message)
  | (memory, .ended) =>
    if 0 < flushed then
      [logInfo "honeypot.buffer_flushed"
        [("flushed", .number flushed), ("remaining", .number memory.buffer.items.length)]]
    else []
  | _ => []

/-- The record of an emit whose publish gave up. -/
def bufferRecords (memory : Queued Event Payload) (event : Event) :
    PublishProgress Payload → List (LogRecord Label Message)
  | .finished (.error raised) =>
    if raised.isOSError then
      [logWarning "honeypot.buffer_event"
        [("event_id", .id (handling.eventId event)),
          ("buffer_size", .number memory.buffer.items.length),
          ("error", .text (literal "Redis 接続に失敗しました（5回リトライ後）"))]]
    else []
  | _ => []

/-- What a task of the honeypot logs when its await ends. -/
def emissionRecords (memory : Queued Event Payload) (task : Honeypot.Task Event) (flushed : Nat)
    (reply : RedisReply) (error : Str) :
    TaskPoint Event (PublishPoint Payload) → List (LogRecord Label Message)
  | .flushing head point =>
    let resumed := (EventQueue.publish handling.toJsonStr).resume memory.queue head point reply
    publishRecords (handling.eventId head) memory.queue error point reply ++
      flushRecords (countFlushed memory flushed (.flushing head point) reply)
        (flushResumed (EventQueue.publish handling.toJsonStr) { memory with queue := resumed.1 }
          head resumed.2)
  | .publishing point =>
    match task with
    | .emitEvent event =>
      publishRecords (handling.eventId event) memory.queue error point reply ++
        bufferRecords handling memory event
          ((EventQueue.publish handling.toJsonStr).resume memory.queue event point reply).2
    | .periodicFlush => []
  | .sleeping => []

/-- What the handler logs once its emit has returned. -/
def returnRecords (returns : List (LogRecord Label Message)) :
    Progress (TaskPoint Event (PublishPoint Payload)) (Except Raised Unit) →
      List (LogRecord Label Message)
  | .finished (.ok _) => returns
  | _ => []

/-- The records of `stop`. -/
def stopRecords (redis : Bool) : List (LogRecord Label Message) :=
  logInfo "worker.stopping" [] ::
    (if redis then [logInfo "event_queue.closed" []] else []) ++ [logInfo "worker.stopped" []]

/-- An exception ends the worker; `run_worker` logs it, unless it is shutting
down already. -/
def crashRecords (worker : EventWorker Payload Event Label) (error : Str) :
    List (LogRecord Label Message) :=
  if worker.running then
    logError "worker.crashed" [("exception", .text error)] :: stopRecords worker.redis
  else []

/-- The records of the except clause of the consume loop. -/
def consumeRecords (worker : EventWorker Payload Event Label) (error : Str)
    (failure : RedisFailure) : List (LogRecord Label Message) :=
  if failure.isConnectionLoss then
    [logWarning "event_queue.consume_reconnect" [("error", .text error)]]
  else crashRecords worker error

/-- The record of the next entry of a batch, if it is malformed. -/
def advanceRecords : List (Nat × Payload) → List (LogRecord Label Message)
  | [] => []
  | (entry, payload) :: _ =>
    match handling.fromJsonStr payload with
    | .error error =>
      [logError "event_queue.parse_error"
        [("entry_id", .number entry), ("error", .text error)]]
    | .ok _ => []

/-- The records of the except clause of `_process_event`. -/
def attemptRecords (batch : List (Nat × Payload)) (entry : Nat) (event : Event) (attempt : Nat)
    (error : ErrorText Message) : List (LogRecord Label Message) :=
  logRaised .warning "worker.db_error"
      [("attempt", .number (attempt + 1)), ("event_id", .id (handling.eventId event))] error ::
    if attempt + 1 < dbMaxRetries then []
    else
      logRaised .error "worker.event_failed"
          [("event_id", .id (handling.eventId event)), ("entry_id", .number entry)] error ::
        advanceRecords handling batch

/-- The records of the two outcomes of a command. -/
def outcomeRecords (failure : Option RedisFailure) (returned : List (LogRecord Label Message))
    (raised : RedisFailure → List (LogRecord Label Message)) : List (LogRecord Label Message) :=
  match failure with
  | none => returned
  | some failure => raised failure

def ackedRecord (entry : Nat) : LogRecord Label Message :=
  logDebug "event_queue.acked" [("entry_id", .number entry)]

/-- What the worker logs when Redis replies. -/
def workerRecords (stream : Stream Payload) (worker : EventWorker Payload Event Label)
    (reply : RedisReply) (error : Str) : List (LogRecord Label Message) :=
  match worker.activity with
  | .starting =>
    connectRecords reply ++ outcomeRecords (ensureConsumerGroup stream reply).2
      [logInfo "worker.started" []]
      fun _ => crashRecords { worker with running := true } error
  | .connecting =>
    connectRecords reply ++ outcomeRecords (ensureConsumerGroup stream reply).2
      (if worker.redis then [] else crashRecords worker [])
      (consumeRecords worker error)
  | .regrouping =>
    ensureRecords reply ++ outcomeRecords (ensureConsumerGroup stream reply).2 []
      (consumeRecords worker error)
  | .reading =>
    match (xreadgroup stream reply).2 with
    | .ok batch => advanceRecords handling batch
    | .error failure =>
      if failure.isNoGroup then
        logWarning "event_queue.consumer_group_missing" [("error", .text error)] ::
          if worker.redis then [] else crashRecords worker []
      else consumeRecords worker error failure
  | .handling batch (.acknowledging entry event _ attempt .connecting) =>
    connectRecords reply ++ outcomeRecords (ensureConsumerGroup stream reply).2
      (if worker.redis then [] else attemptRecords handling batch entry event attempt (.plain []))
      fun _ => attemptRecords handling batch entry event attempt (.plain error)
  | .handling batch (.acknowledging entry event label attempt .acking) =>
    outcomeRecords (xack stream entry reply).2
      (ackedRecord entry ::
        .classification
          { event := "worker.event_processed"
            fields := [("event_id", .id (handling.eventId event)), ("entry_id", .number entry),
              ("protocol", .text (handling.protocol event).value)] }
          label ::
        advanceRecords handling batch)
      fun _ => attemptRecords handling batch entry event attempt (.plain error)
  | .handling _ (.rejecting _ .connecting) =>
    connectRecords reply ++ outcomeRecords (ensureConsumerGroup stream reply).2
      (if worker.redis then [] else crashRecords worker [])
      (consumeRecords worker error)
  | .handling batch (.rejecting entry .acking) =>
    outcomeRecords (xack stream entry reply).2
      (ackedRecord entry :: advanceRecords handling batch)
      (consumeRecords worker error)
  | _ => []

/-- What the driver says of a second row with one primary key. -/
def uniqueViolation : Str := literal "duplicate key value violates unique constraint"

/-- `str(e)` of a failed insert of the event's row. -/
def DbError.text (event : Event) (label : Label) : DbError → ErrorText Message
  | .statement original => .statement (handling.statementError event label original)
  | .other text => .plain text

/-- What the worker logs when the insert ends. -/
def storeRecords (table : List (AttackEventModel Event Label)) (batch : List (Nat × Payload))
    (entry : Nat) (event : Event) (label : Label) (attempt : Nat) (reply : DbReply)
    (error : DbError) : List (LogRecord Label Message) :=
  match reply, commit handling.eventId table { event, label } with
  | .answered, some _ => []
  | .answered, none =>
    attemptRecords handling batch entry event attempt
      ((DbError.statement uniqueViolation).text handling event label)
  | .failed _, _ =>
    attemptRecords handling batch entry event attempt (error.text handling event label)

end Records

namespace Handling

variable (handling : Handling Event Payload Label Message)

/-- `from_json_str` as the worker sees it. -/
def parse (payload : Payload) : Option Event := (handling.fromJsonStr payload).toOption

/-- The worker with its stream and its table. -/
def worker : Transition.System (State Payload Event Label) (Move Payload Label) :=
  system handling.parse handling.eventId

/-- A move of the worker's system, with what it logs. -/
def backendMoves (pipeline : Pipeline Event Payload Label Message) (move : Move Payload Label)
    (records : List (LogRecord Label Message)) : Option (Pipeline Event Payload Label Message) :=
  (handling.worker.step pipeline.backend move).map fun backend =>
    { pipeline with backend := backend, log := pipeline.log ++ records }

/-- A handler logs, and emits an event if it has one. -/
def receives (pipeline : Pipeline Event Payload Label Message)
    (before : List (LogRecord Label Message)) :
    Option (Event × LogRecord Label Message) → Pipeline Event Payload Label Message
  | none => { pipeline with log := pipeline.log ++ before }
  | some (event, after) =>
    let entered :=
      (honeypot (EventQueue.publish handling.toJsonStr)).enter pipeline.memory (.emitEvent event)
    { pipeline with
      memory := entered.1
      emissions := pipeline.emissions ++
        [{ task := .emitEvent event, flushed := 0, returns := [after], progress := entered.2 }]
      log := pipeline.log ++ before ++ returnRecords [after] entered.2 }

/-- An await of the honeypot ends. What its publish appends is in the stream. -/
def answers (pipeline : Pipeline Event Payload Label Message) (index : Nat) (reply : RedisReply)
    (error : Str) : Option (Pipeline Event Payload Label Message) :=
  match pipeline.emissions[index]? with
  | some ⟨task, flushed, returns, .suspended point⟩ =>
    let resumed := (honeypot (EventQueue.publish handling.toJsonStr)).resume pipeline.memory task
      point reply
    let stream := (taskAppends point reply).foldl Stream.xadd pipeline.backend.stream
    some { pipeline with
      memory := resumed.1
      emissions := pipeline.emissions.set index
        { task := task
          flushed := countFlushed pipeline.memory flushed point reply
          returns := returns
          progress := resumed.2 }
      backend := { pipeline.backend with stream := stream }
      log := pipeline.log ++ emissionRecords handling pipeline.memory task flushed reply error point
        ++ returnRecords returns resumed.2 }
  | _ => none

/-- The worker classifies the event it has read, on its context or, where the
store has failed, on an empty one. -/
def classifies (pipeline : Pipeline Event Payload Label Message) (now : ℚ)
    (degraded : Option (Str × Bool)) : Option (Pipeline Event Payload Label Message) :=
  match pipeline.backend.worker with
  | some ⟨_, _, .handling _ (.classifying _ event)⟩ =>
    let updated := pipeline.store.updateAndGet now (handling.sourceIp event)
      (handling.destinationPort event) handling.timeWindow
    let store :=
      match degraded with
      | some (_, false) => pipeline.store
      | _ => updated.1
    let context :=
      match degraded with
      | some _ => { recentAttempts := 0, distinctPorts := ∅ }
      | none => updated.2
    let records : List (LogRecord Label Message) :=
      match degraded with
      | some (error, _) =>
        [logWarning "ipcontext.degraded"
          [("source_ip", .text (handling.sourceIp event)), ("error", .text error)]]
      | none => []
    let label := handling.classify event context
    handling.backendMoves { pipeline with store := store } (.reply (.classified label))
      (records ++
        [.classification
          { event := "classifier.classified"
            fields := [("event_id", .id (handling.eventId event))] }
          label])
  | _ => none

/-- The insert of the worker ends. -/
def stores (pipeline : Pipeline Event Payload Label Message) (reply : DbReply) (error : DbError) :
    Option (Pipeline Event Payload Label Message) :=
  match pipeline.backend.worker with
  | some ⟨_, _, .handling batch (.inserting entry event label attempt)⟩ =>
    handling.backendMoves pipeline (.reply (.database reply))
      (storeRecords handling pipeline.backend.table batch entry event label attempt reply error)
  | _ => none

/-- The records of a reply of Redis to the worker. -/
def replyRecords (pipeline : Pipeline Event Payload Label Message) (reply : RedisReply)
    (error : Str) : List (LogRecord Label Message) :=
  match pipeline.backend.worker with
  | some worker => workerRecords handling pipeline.backend.stream worker reply error
  | none => []

/-- Everything that can happen. -/
def pipeline : Transition.System (Pipeline Event Payload Label Message)
    (Happening Event Payload Label Message) where
  step state happening :=
    match happening with
    | .receive before emitted => some (handling.receives state before emitted)
    | .startFlushLoop =>
      some { state with
        emissions := state.emissions ++
          [{ task := .periodicFlush
             flushed := 0
             returns := []
             progress := .suspended .sleeping }] }
    | .answer index reply error => handling.answers state index reply error
    | .cancel index executed => state.cancels index executed
    | .restartHoneypots redis records => some (state.restartsHoneypots redis records)
    | .elsewhere redis payloads records =>
      some { state with
        memory :=
          { state.memory with
            queue :=
              { state.memory.queue with
                redis := redis
                entries := state.memory.queue.entries ++ payloads } }
        backend := { state.backend with stream := payloads.foldl Stream.xadd state.backend.stream }
        log := state.log ++ records }
    | .loseGroup => handling.backendMoves state .loseGroup []
    | .start => handling.backendMoves state .start [logInfo "worker.starting" []]
    | .stop =>
      handling.backendMoves state .stop
        (stopRecords (state.backend.worker.any fun worker => worker.redis))
    | .crash => handling.backendMoves state .crash []
    | .reply reply error =>
      handling.backendMoves state (.reply (.redis reply)) (handling.replyRecords state reply error)
    | .classify now degraded => handling.classifies state now degraded
    | .store reply error => handling.stores state reply error
    | .awake => handling.backendMoves state (.reply .awake) []

end Handling

end Honeywatch.Tasks
