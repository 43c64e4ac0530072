import Honeywatch.Tasks.Pipeline

/-!
# The pipeline under a renaming

A renaming of events, payloads and classifications that agrees with what the
pipeline knows of its events carries every step of one pipeline to a step of the
other, with the same records up to the renamed classifications and the text of
statement errors.
-/

namespace Honeywatch.Tasks

open Collector Cooperative Detection Honeypot Redis Text EventQueue Stream

variable {Event Payload Label Message Other Target Result Report : Type}

/-- A renaming from one handling of events to another. -/
structure Renaming (source : Handling Event Payload Label Message)
    (target : Handling Other Target Result Report) where
  event : Event → Other
  payload : Payload → Target
  label : Label → Result
  message : Message → Report
  toJsonStr : ∀ own, target.toJsonStr (event own) = (source.toJsonStr own).map payload
  fromJsonStr : ∀ own, target.fromJsonStr (payload own) = (source.fromJsonStr own).map event
  eventId : ∀ own, target.eventId (event own) = source.eventId own
  protocol : ∀ own, target.protocol (event own) = source.protocol own
  sourceIp : ∀ own, target.sourceIp (event own) = source.sourceIp own
  destinationPort : ∀ own, target.destinationPort (event own) = source.destinationPort own
  timeWindow : target.timeWindow = source.timeWindow
  classify : ∀ own context, target.classify (event own) context =
    label (source.classify own context)
  statementError : ∀ own result original,
    target.statementError (event own) (label result) original =
      message (source.statementError own result original)

namespace Renaming

variable {source : Handling Event Payload Label Message}
  {target : Handling Other Target Result Report} (rename : Renaming source target)

/-- Parsing commutes with the renaming, entry by entry: an entry is rejected on one
side exactly when it is on the other. -/
theorem parse (own : Payload) :
    target.parse (rename.payload own) = (source.parse own).map rename.event := by
  simp only [Handling.parse, rename.fromJsonStr]
  cases source.fromJsonStr own <;> rfl

def record : LogRecord Label Message → LogRecord Result Report :=
  LogRecord.map rename.label rename.message

def records (log : List (LogRecord Label Message)) : List (LogRecord Result Report) :=
  log.map rename.record

/-- Records are renamed one by one, so a log may be renamed in parts. -/
@[simp] theorem records_append (left right : List (LogRecord Label Message)) :
    rename.records (left ++ right) = rename.records left ++ rename.records right :=
  List.map_append

def memory : Queued Event Payload → Queued Other Target :=
  Memory.map rename.event rename.payload

def point : TaskPoint Event (PublishPoint Payload) → TaskPoint Other (PublishPoint Target) :=
  TaskPoint.map rename.event rename.payload

def emission (own : Emission Event Payload Label Message) : Emission Other Target Result Report :=
  { task := own.task.map rename.event
    flushed := own.flushed
    returns := rename.records own.returns
    progress := own.progress.map rename.point }

def worker : EventWorker Payload Event Label → EventWorker Target Other Result :=
  EventWorker.map rename.event rename.payload rename.label

def backend : State Payload Event Label → State Target Other Result :=
  State.map rename.event rename.payload rename.label

def pipeline (own : Pipeline Event Payload Label Message) : Pipeline Other Target Result Report :=
  { memory := rename.memory own.memory
    emissions := own.emissions.map rename.emission
    backend := rename.backend own.backend
    store := own.store
    log := rename.records own.log }

def happening : Happening Event Payload Label Message → Happening Other Target Result Report
  | .receive before emitted =>
    .receive (rename.records before)
      (emitted.map (Prod.map rename.event rename.record))
  | .startFlushLoop => .startFlushLoop
  | .answer emission reply error => .answer emission reply error
  | .cancel emission executed => .cancel emission executed
  | .restartHoneypots redis records => .restartHoneypots redis (rename.records records)
  | .elsewhere redis payloads records =>
    .elsewhere redis (payloads.map rename.payload) (rename.records records)
  | .loseGroup => .loseGroup
  | .start => .start
  | .stop => .stop
  | .crash => .crash
  | .reply reply error => .reply reply error
  | .classify now degraded => .classify now degraded
  | .store reply error => .store reply error
  | .awake => .awake

section Records

/-- The records about the consumer group carry neither an event nor a payload, so a
renaming leaves them as they are. The cases are the answers of Redis. -/
theorem ensureRecords_map (reply : RedisReply) :
    rename.records (ensureRecords reply) = ensureRecords reply := by
  cases reply with
  | answered => rfl
  | failed failure executed =>
    simp only [ensureRecords]
    split <;> rfl

/-- The same for the records about a connection, whatever its outcome: they name no
event. -/
theorem connectRecords_map (reply : RedisReply) :
    rename.records (connectRecords reply) = connectRecords reply := by
  cases reply with
  | answered => rfl
  | failed failure executed =>
    simp only [connectRecords]
    split
    · rw [records_append, ensureRecords_map]
      rfl
    · rfl

/-- And for those about another attempt, which name the attempt and the error only.
-/
theorem retryRecords_map (attempt : Nat) (failure : RedisFailure) (error : Str) :
    rename.records (retryRecords attempt failure error) = retryRecords attempt failure error := by
  simp only [retryRecords]
  split <;> rfl

/-- What a publication logs names the event by its identifier. Where the publication
stands and how Redis answers decide which records there are, and a renaming keeps
both. -/
theorem publishRecords_map (id : Uuid) (queue : EventQueue Payload) (error : Str)
    (point : PublishPoint Payload) (reply : RedisReply) :
    publishRecords id (queue.map rename.payload) error (point.map rename.payload) reply =
      rename.records (publishRecords id queue error point reply) := by
  cases point with
  | connecting attempt =>
    cases reply with
    | answered => rfl
    | failed failure executed =>
      simp only [publishRecords, PublishPoint.map, records_append, connectRecords_map,
        retryRecords_map]
  | adding attempt payload =>
    cases reply with
    | answered =>
      simp [publishRecords, PublishPoint.map, EventQueue.map, records, record, logDebug,
        LogRecord.map]
    | failed failure executed => exact (retryRecords_map rename attempt failure error).symm
  | sleeping attempt => rfl

/-- How many events a flush has published depends on where it stands and on the
answer, not on the payloads. -/
theorem countFlushed_map (memory : Queued Event Payload) (flushed : Nat)
    (point : TaskPoint Event (PublishPoint Payload)) (reply : RedisReply) :
    countFlushed (rename.memory memory) flushed (rename.point point) reply =
      countFlushed memory flushed point reply := by
  cases point with
  | flushing head point =>
    cases point <;> cases reply <;>
      simp [countFlushed, Renaming.point, TaskPoint.map, PublishPoint.map, Renaming.memory,
        Memory.map]
  | publishing point => rfl
  | sleeping => rfl

/-- What a flush logs is the number of events and how it ended, both of which a
renaming keeps. -/
theorem flushRecords_map (flushed : Nat)
    (result : Queued Event Payload × Flush Event (PublishPoint Payload)) :
    flushRecords flushed (mapFlush rename.event rename.payload result) =
      rename.records (flushRecords flushed result) := by
  obtain ⟨memory, flush⟩ := result
  cases flush with
  | awaiting head point => rfl
  | raised raised => rfl
  | ended =>
    simp only [flushRecords, mapFlush, Flush.map]
    split
    · simp [records, record, logInfo, LogRecord.map, Memory.map]
    · rfl

/-- An event that is buffered is logged by its identifier, with the length of the
buffer, and so is the one that it displaces. A renaming keeps identifiers and
lengths. -/
theorem bufferRecords_map (memory : Queued Event Payload) (event : Event)
    (progress : PublishProgress Payload) :
    bufferRecords target (rename.memory memory) (rename.event event)
        (progress.map (PublishPoint.map rename.payload)) =
      rename.records (bufferRecords source memory event progress) := by
  cases progress with
  | suspended point => rfl
  | finished result =>
    cases result with
    | ok entryId => rfl
    | error raised =>
      simp only [bufferRecords, Progress.map, rename.eventId]
      split
      · simp [records, record, logWarning, LogRecord.map, Renaming.memory, Memory.map]
      · rfl

/-- What an answered emission logs: the records of the publication or of the flush,
and then those of the buffer. Each part is renamed by its own lemma. -/
theorem emissionRecords_map (memory : Queued Event Payload) (task : Honeypot.Task Event)
    (flushed : Nat) (reply : RedisReply) (error : Str)
    (point : TaskPoint Event (PublishPoint Payload)) :
    emissionRecords target (rename.memory memory) (task.map rename.event) flushed reply error
        (rename.point point) =
      rename.records (emissionRecords source memory task flushed reply error point) := by
  cases point with
  | flushing head point =>
    have counted := rename.countFlushed_map memory flushed (.flushing head point) reply
    have flushes := flushAnswered_map rename.toJsonStr memory head point reply
    simp only [emissionRecords, records_append, ← publishRecords_map, ← flushRecords_map, ← flushes,
      ← counted, ← rename.eventId]
    rfl
  | publishing point =>
    cases task with
    | periodicFlush => rfl
    | emitEvent event =>
      have resumed := publish_resume_map rename.toJsonStr event memory.queue point reply
      have outcome : ((EventQueue.publish target.toJsonStr).resume (rename.memory memory).queue
          (rename.event event) (point.map rename.payload) reply).2 = _ := congrArg Prod.snd resumed
      simp only [emissionRecords, Renaming.point, TaskPoint.map, Honeypot.Task.map, outcome,
        records_append, ← publishRecords_map, ← bufferRecords_map, ← rename.eventId]
      rfl
  | sleeping => rfl

/-- The records after a return are logged when the emission ends, on both sides at
once. -/
theorem returnRecords_map (returns : List (LogRecord Label Message))
    (progress : Progress (TaskPoint Event (PublishPoint Payload)) (Except Raised Unit)) :
    returnRecords (rename.records returns) (progress.map rename.point) =
      rename.records (returnRecords returns progress) := by
  cases progress with
  | suspended point => rfl
  | finished result => cases result <;> rfl

/-- Stopping logs whether there was a client, and nothing of an event. -/
theorem stopRecords_map (redis : Bool) :
    rename.records (stopRecords redis) = stopRecords redis := by
  cases redis <;> rfl

/-- A crash is logged with its error only where the worker is running, which a
renaming does not change. -/
theorem crashRecords_map (worker : EventWorker Payload Event Label) (error : Str) :
    crashRecords (rename.worker worker) error = rename.records (crashRecords worker error) := by
  cases running : worker.running with
  | false => simp [crashRecords, Renaming.worker, EventWorker.map, running, records]
  | true =>
    simp only [crashRecords, Renaming.worker, EventWorker.map, running, if_true]
    rw [← rename.stopRecords_map]
    rfl

/-- A failure of the loop logs a lost connection, or the crash that follows from it.
-/
theorem consumeRecords_map (worker : EventWorker Payload Event Label) (error : Str)
    (failure : RedisFailure) :
    consumeRecords (rename.worker worker) error failure =
      rename.records (consumeRecords worker error failure) := by
  simp only [consumeRecords]
  split
  · rfl
  · exact rename.crashRecords_map worker error

/-- Going on with a batch logs an entry that cannot be parsed, by the number of the
entry. -/
theorem advanceRecords_map (batch : List (Nat × Payload)) :
    advanceRecords target (mapBatch rename.payload batch) =
      rename.records (advanceRecords source batch) := by
  cases batch with
  | nil => rfl
  | cons first rest =>
    simp only [advanceRecords, mapBatch, List.map_cons, rename.fromJsonStr]
    cases source.fromJsonStr first.2 <;> rfl

/-- A record with the text of an error is renamed in that text and nowhere else. -/
theorem logRaised_map (level : Level) (event : String) (fields : List (String × Field))
    (error : ErrorText Message) :
    logRaised level event fields (error.map rename.message) =
      rename.record (logRaised level event fields error) := by
  cases error <;> rfl

/-- A failed attempt is logged with the identifier of its event, the number of the
attempt and the text of the error; after the last one the worker goes on with the
batch. -/
theorem attemptRecords_map (batch : List (Nat × Payload)) (entry : Nat) (event : Event)
    (attempt : Nat) (error : ErrorText Message) :
    attemptRecords target (mapBatch rename.payload batch) entry (rename.event event) attempt
        (error.map rename.message) =
      rename.records (attemptRecords source batch entry event attempt error) := by
  simp only [attemptRecords, rename.eventId, advanceRecords_map, logRaised_map]
  split <;> rfl

/-- What is logged after a command is logged for its failure or for its success, and
a renaming commutes with the choice. -/
theorem outcomeRecords_map {failure : Option RedisFailure}
    {returned : List (LogRecord Label Message)}
    {raised : RedisFailure → List (LogRecord Label Message)}
    {returnedTo : List (LogRecord Result Report)}
    {raisedTo : RedisFailure → List (LogRecord Result Report)}
    (returns : returnedTo = rename.records returned)
    (raises : ∀ failure, raisedTo failure = rename.records (raised failure)) :
    outcomeRecords failure returnedTo raisedTo =
      rename.records (outcomeRecords failure returned raised) := by
  cases failure with
  | none => exact returns
  | some failure => exact raises failure

/-- The records of a reconnect and of what follows it, with the same outcome on both
sides. -/
theorem reconnectRecords_map {stream : Stream Payload} {reply : RedisReply}
    {returned : List (LogRecord Label Message)}
    {raised : RedisFailure → List (LogRecord Label Message)}
    {returnedTo : List (LogRecord Result Report)}
    {raisedTo : RedisFailure → List (LogRecord Result Report)}
    (returns : returnedTo = rename.records returned)
    (raises : ∀ failure, raisedTo failure = rename.records (raised failure)) :
    connectRecords reply ++ outcomeRecords
        (ensureConsumerGroup (stream.map rename.payload) reply).2 returnedTo raisedTo =
      rename.records (connectRecords reply ++ outcomeRecords
        (ensureConsumerGroup stream reply).2 returned raised) := by
  rw [records_append, connectRecords_map, ensureConsumerGroup_map]
  exact congrArg _ (rename.outcomeRecords_map returns raises)

/-- The records of the worker, one activity each. The cases follow the answer, and a
record with an event's data is renamed with it. -/
theorem workerRecords_map (stream : Stream Payload) (worker : EventWorker Payload Event Label)
    (reply : RedisReply) (error : Str) :
    workerRecords target (stream.map rename.payload) (rename.worker worker) reply error =
      rename.records (workerRecords source stream worker reply error) := by
  obtain ⟨running, redis, activity⟩ := worker
  have lost (activity : Activity Payload Event Label) :
      (if redis then [] else crashRecords (rename.worker ⟨running, redis, activity⟩) []) =
        rename.records (if redis then [] else crashRecords ⟨running, redis, activity⟩ []) := by
    cases redis with
    | true => rfl
    | false => exact rename.crashRecords_map _ _
  cases activity with
  | starting =>
    exact rename.reconnectRecords_map rfl fun _ =>
      rename.crashRecords_map ⟨true, redis, .starting⟩ error
  | connecting =>
    exact rename.reconnectRecords_map (lost .connecting) (rename.consumeRecords_map _ error)
  | regrouping =>
    simp only [workerRecords, Renaming.worker, EventWorker.map, Activity.map, records_append,
      ensureRecords_map, ensureConsumerGroup_map]
    exact congrArg _ (rename.outcomeRecords_map rfl
      (rename.consumeRecords_map ⟨running, redis, .regrouping⟩ error))
  | reading =>
    simp only [workerRecords, Renaming.worker, EventWorker.map, Activity.map, xreadgroup_map]
    cases (xreadgroup stream reply).2 with
    | ok batch => exact rename.advanceRecords_map batch
    | error failure =>
      simp only [Except.map]
      split
      · exact congrArg (List.cons _) (lost .reading)
      · exact rename.consumeRecords_map ⟨running, redis, .reading⟩ error failure
  | sleeping => rfl
  | handling batch work =>
    cases work with
    | classifying entry event => rfl
    | inserting entry event label attempt => rfl
    | pausing entry event label next => rfl
    | acknowledging entry event label attempt point =>
      have attempted (error : Str) :=
        rename.attemptRecords_map batch entry event attempt (.plain error)
      cases point with
      | connecting =>
        refine rename.reconnectRecords_map ?_ fun _ => attempted error
        cases redis with
        | true => rfl
        | false => exact attempted []
      | acking =>
        simp only [workerRecords, Renaming.worker, EventWorker.map, Activity.map, Work.map,
          xack_map, rename.eventId, rename.protocol, advanceRecords_map]
        exact rename.outcomeRecords_map rfl fun _ => attempted error
    | rejecting entry point =>
      cases point with
      | connecting =>
        exact rename.reconnectRecords_map (lost (.handling batch (.rejecting entry .connecting)))
          (rename.consumeRecords_map _ error)
      | acking =>
        simp only [workerRecords, Renaming.worker, EventWorker.map, Activity.map, Work.map,
          xack_map, advanceRecords_map]
        exact rename.outcomeRecords_map rfl (rename.consumeRecords_map
          ⟨running, redis, .handling batch (.rejecting entry .acking)⟩ error)

/-- The text of a database error may quote the event and its classification, and
this text is what the renaming says it becomes. Any other text stays. -/
theorem errorText_map (event : Event) (label : Label) (error : DbError) :
    error.text target (rename.event event) (rename.label label) =
      (error.text source event label).map rename.message := by
  cases error with
  | statement original => exact congrArg _ (rename.statementError event label original)
  | other text => rfl

/-- What a commit logs: the acknowledgement of the event, or the failed attempt.
Whether the key was free is the same on both sides. -/
theorem storeRecords_map (table : List (AttackEventModel Event Label))
    (batch : List (Nat × Payload)) (entry : Nat) (event : Event) (label : Label) (attempt : Nat)
    (reply : DbReply) (error : DbError) :
    storeRecords target (table.map (AttackEventModel.map rename.event rename.label))
        (mapBatch rename.payload batch) entry (rename.event event) (rename.label label) attempt
        reply error =
      rename.records (storeRecords source table batch entry event label attempt reply error) := by
  have committed := commit_map (h := rename.label) rename.eventId table { event, label }
  change commit target.eventId _ ⟨rename.event event, rename.label label⟩ = _ at committed
  have attempted := rename.attemptRecords_map batch entry event attempt
  simp only [storeRecords, committed, errorText_map]
  cases reply with
  | answered =>
    cases commit source.eventId table { event, label } with
    | none => exact attempted _
    | some rows => rfl
  | failed executed => exact attempted _

end Records

/-- A move of the worker's system, with records that are renamed, is made on both
sides or refused on both. -/
theorem backendMoves_map (own : Pipeline Event Payload Label Message) (move : Move Payload Label)
    (log : List (LogRecord Label Message)) :
    target.backendMoves (rename.pipeline own) (move.map rename.payload rename.label)
        (rename.records log) =
      (source.backendMoves own move log).map rename.pipeline := by
  have moved := step_map (h := rename.label) rename.eventId rename.parse own.backend move
  change target.worker.step (rename.pipeline own).backend _ =
    (source.worker.step own.backend move).map _ at moved
  simp only [Handling.backendMoves, moved, Option.map_map]
  congr 1
  funext backend
  simp [Renaming.pipeline, Renaming.backend]

/-- A honeypot that receives something emits the renamed event, logs the renamed
records, and leaves the renamed pipeline. The cases are whether an event comes of
it. -/
theorem receives_map (own : Pipeline Event Payload Label Message)
    (before : List (LogRecord Label Message)) (emitted : Option (Event × LogRecord Label Message)) :
    target.receives (rename.pipeline own) (rename.records before)
        (emitted.map (Prod.map rename.event rename.record)) =
      rename.pipeline (source.receives own before emitted) := by
  cases emitted with
  | none => simp [Handling.receives, Renaming.pipeline]
  | some item =>
    obtain ⟨event, after⟩ := item
    have entered := enter_map rename.toJsonStr own.memory (.emitEvent event)
    change (honeypot (EventQueue.publish target.toJsonStr)).enter (rename.pipeline own).memory
      (.emitEvent (rename.event event)) = _ at entered
    have returned := rename.returnRecords_map [after]
      ((honeypot (EventQueue.publish source.toJsonStr)).enter own.memory (.emitEvent event)).2
    simp only [Handling.receives, Option.map_some, Prod.map, entered]
    simp only [Renaming.pipeline, List.map_append, records_append, ← returned]
    rfl

/-- Entries that are appended one after the other can be renamed before or
afterwards. -/
theorem stream_map (stream : Stream Payload) (payloads : List Payload) :
    (payloads.map rename.payload).foldl Stream.xadd (stream.map rename.payload) =
      (payloads.foldl Stream.xadd stream).map rename.payload := by
  induction payloads generalizing stream with
  | nil => rfl
  | cons payload rest inductionHypothesis =>
    simp only [List.map_cons, List.foldl_cons, Stream.xadd_map]
    exact inductionHypothesis (stream.xadd payload)

/-- The entries that an answer appends are those of the publication or of the flush
that was answered, renamed. -/
theorem taskAppends_map (point : TaskPoint Event (PublishPoint Payload)) (reply : RedisReply) :
    taskAppends (rename.point point) reply = (taskAppends point reply).map rename.payload := by
  have appended (point : PublishPoint Payload) :
      appends (point.map rename.payload) reply = (appends point reply).map rename.payload := by
    cases point with
    | adding attempt payload =>
      cases reply with
      | answered => rfl
      | failed failure executed => cases executed <;> rfl
    | connecting attempt => rfl
    | sleeping attempt => rfl
  cases point with
  | flushing head point => exact appended point
  | publishing point => exact appended point
  | sleeping => rfl

/-- An answer finds the same emission on both sides, appends the renamed entries and
logs the renamed records. The cases are where the emission stands. -/
theorem answers_map (own : Pipeline Event Payload Label Message) (index : Nat) (reply : RedisReply)
    (error : Str) :
    target.answers (rename.pipeline own) index reply error =
      (source.answers own index reply error).map rename.pipeline := by
  have found : (rename.pipeline own).emissions[index]? =
      own.emissions[index]?.map rename.emission := List.getElem?_map ..
  simp only [Handling.answers, found]
  cases own.emissions[index]? with
  | none => rfl
  | some emission =>
    obtain ⟨task, flushed, returns, progress⟩ := emission
    cases progress with
    | finished result => rfl
    | suspended point =>
      have resumed := resume_map rename.toJsonStr own.memory task point reply
      have recorded := rename.emissionRecords_map own.memory task flushed reply error point
      have counted := rename.countFlushed_map own.memory flushed point reply
      have returned := rename.returnRecords_map returns
        ((honeypot (EventQueue.publish source.toJsonStr)).resume own.memory task point reply).2
      have appended := rename.stream_map own.backend.stream (taskAppends point reply)
      change (honeypot (EventQueue.publish target.toJsonStr)).resume (rename.pipeline own).memory
        (task.map rename.event) (rename.point point) reply = _ at resumed
      simp only [Option.map_some, Renaming.emission, Progress.map, resumed, taskAppends_map]
      simp only [Renaming.pipeline, records_append, List.map_set, ← recorded, ← returned, ← counted]
      simp only [Renaming.backend, State.map, ← appended]
      rfl

/-- A cancelled append is the renamed one, if Redis executes it. -/
theorem cancelledAppends_map (point : TaskPoint Event (PublishPoint Payload)) (executed : Bool) :
    cancelledAppends (rename.point point) executed =
      (cancelledAppends point executed).map rename.payload := by
  cases executed with
  | true => exact rename.taskAppends_map point .answered
  | false => rfl

/-- A cancellation takes the same task away, and what Redis executes all the same is
appended on both sides. -/
theorem cancels_map (own : Pipeline Event Payload Label Message) (index : Nat) (executed : Bool) :
    (rename.pipeline own).cancels index executed =
      (own.cancels index executed).map rename.pipeline := by
  have found : (rename.pipeline own).emissions[index]? =
      own.emissions[index]?.map rename.emission := List.getElem?_map ..
  simp only [Pipeline.cancels, found]
  cases own.emissions[index]? with
  | none => rfl
  | some emission =>
    obtain ⟨task, flushed, returns, progress⟩ := emission
    cases progress with
    | finished result => rfl
    | suspended point =>
      have appended := rename.stream_map own.backend.stream (cancelledAppends point executed)
      simp only [Option.map_some, Renaming.emission, Progress.map, cancelledAppends_map]
      simp only [Renaming.pipeline, Renaming.backend, State.map, Renaming.memory, Memory.map,
        EventQueue.map, List.eraseIdx_map, List.map_append, ← appended]

/-- A renamed pipeline has the renamed worker. -/
theorem pipeline_worker (own : Pipeline Event Payload Label Message) :
    (rename.pipeline own).backend.worker = own.backend.worker.map rename.worker := rfl

/-- A classification finds the same worker on both sides, in front of the renamed
event, and leaves the renamed pipeline. -/
theorem classifies_map (own : Pipeline Event Payload Label Message) (now : ℚ)
    (degraded : Option (Str × Bool)) :
    target.classifies (rename.pipeline own) now degraded =
      (source.classifies own now degraded).map rename.pipeline := by
  simp only [Handling.classifies, pipeline_worker]
  cases own.backend.worker with
  | none => rfl
  | some worker =>
    obtain ⟨running, redis, activity⟩ := worker
    cases activity with
    | handling batch work =>
      cases work with
      | classifying entry event =>
        simp only [Option.map_some, Renaming.worker, EventWorker.map, Activity.map, Work.map,
          rename.sourceIp, rename.destinationPort, rename.timeWindow, rename.classify,
          rename.eventId]
        rw [← rename.backendMoves_map, records_append]
        cases degraded with
        | none => rfl
        | some failure => rfl
      | _ => rfl
    | _ => rfl

/-- So does a commit. The table and the records change as on the other side, since
the keys of the rows are the same. -/
theorem stores_map (own : Pipeline Event Payload Label Message) (reply : DbReply)
    (error : DbError) :
    target.stores (rename.pipeline own) reply error =
      (source.stores own reply error).map rename.pipeline := by
  simp only [Handling.stores, pipeline_worker]
  cases own.backend.worker with
  | none => rfl
  | some worker =>
    obtain ⟨running, redis, activity⟩ := worker
    cases activity with
    | handling batch work =>
      cases work with
      | inserting entry event label attempt =>
        have recorded := rename.storeRecords_map own.backend.table batch entry event label attempt
          reply error
        simp only [Option.map_some, Renaming.worker, EventWorker.map, Activity.map, Work.map]
        rw [← rename.backendMoves_map, ← recorded]
        rfl
      | _ => rfl
    | _ => rfl

/-- Every step is renamed. With the run rule for maps, so is every run, and two runs
become the two images of one. -/
theorem step_map (own : Pipeline Event Payload Label Message)
    (happening : Happening Event Payload Label Message) :
    target.pipeline.step (rename.pipeline own) (rename.happening happening) =
      (source.pipeline.step own happening).map rename.pipeline := by
  cases happening with
  | receive before emitted => exact congrArg some (rename.receives_map own before emitted)
  | startFlushLoop =>
    simp [Handling.pipeline, Renaming.happening, Renaming.pipeline, Renaming.emission,
      Honeypot.Task.map, Progress.map, Renaming.point, TaskPoint.map, records]
  | answer index reply error => exact rename.answers_map own index reply error
  | cancel index executed => exact rename.cancels_map own index executed
  | restartHoneypots redis records =>
    simp only [Handling.pipeline, Renaming.happening, Pipeline.restartsHoneypots,
      Renaming.pipeline,
      Option.map_some, records_append]
    rfl
  | elsewhere redis payloads records =>
    have appended := rename.stream_map own.backend.stream payloads
    simp only [Handling.pipeline, Renaming.happening, Renaming.pipeline, Renaming.backend,
      State.map, Option.map_some, records_append, ← appended]
    simp [Renaming.memory, Memory.map, EventQueue.map]
  | loseGroup => exact rename.backendMoves_map own .loseGroup []
  | start => exact rename.backendMoves_map own .start [logInfo "worker.starting" []]
  | stop =>
    have moved := rename.backendMoves_map own .stop
      (stopRecords (own.backend.worker.any fun worker => worker.redis))
    have same : stopRecords ((rename.pipeline own).backend.worker.any fun worker => worker.redis) =
        rename.records (stopRecords (own.backend.worker.any fun worker => worker.redis)) := by
      rw [stopRecords_map, pipeline_worker]
      cases own.backend.worker <;> rfl
    rw [← same] at moved
    exact moved
  | crash => exact rename.backendMoves_map own .crash []
  | reply reply error =>
    have moved := rename.backendMoves_map own (.reply (.redis reply))
      (source.replyRecords own reply error)
    have same : target.replyRecords (rename.pipeline own) reply error =
        rename.records (source.replyRecords own reply error) := by
      simp only [Handling.replyRecords, pipeline_worker]
      cases own.backend.worker with
      | none => rfl
      | some worker => exact rename.workerRecords_map own.backend.stream worker reply error
    rw [← same] at moved
    exact moved
  | classify now degraded => exact rename.classifies_map own now degraded
  | store reply error => exact rename.stores_map own reply error
  | awake => exact rename.backendMoves_map own (.reply .awake) []

/-- So is every run. -/
theorem run_map (redis : Bool) (schedule : List (Happening Event Payload Label Message)) :
    target.pipeline.run (.initial redis) (schedule.map rename.happening) =
      (source.pipeline.run (.initial redis) schedule).map rename.pipeline :=
  source.pipeline.run_map target.pipeline rename.pipeline rename.happening rename.step_map
    (.initial redis) schedule

/-- What is erased of a log is all that a renaming changes. -/
theorem erase_log (own : Pipeline Event Payload Label Message) :
    (rename.pipeline own).log.map LogRecord.erase = own.log.map LogRecord.erase := by
  simp [Renaming.pipeline, records, record]

end Renaming

end Honeywatch.Tasks
