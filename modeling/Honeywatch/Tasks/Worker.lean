import Honeywatch.Collector.Failures
import Honeywatch.Foundation.Transition
import Honeywatch.Redis.Stream

/-!
# The event worker

`EventWorker.start`, `_process_event` and `stop` over `EventQueue.consume` and
`ack`, cut at their awaits, together with the Redis stream, the table
`attack_events` and the process the worker runs in. A batch delivered by one
read lives in the worker's memory only. Every await may be answered or fail; a
failed command may have been executed all the same.

The process ends when an exception leaves the consume loop, when the loop is
left after `stop`, or when it crashes. `stop` closes the client; what still
runs after it may reconnect. A committed row is never removed, and a second row
with the same primary key is refused.
-/

namespace Honeywatch.Tasks

open Collector Redis Text

variable {Payload Event Id Label : Type}

/-- `batch_size` as `run_worker` leaves it. -/
def batchSize : Nat := 10

/-- `self._db_max_retries`. -/
def dbMaxRetries : Nat := 10

/-- The awaits of `EventQueue.ack`: its reconnect, if it needs one, and `XACK`. -/
inductive AckPoint
  | connecting
  | acking
deriving DecidableEq, Repr

/-- Where the worker is with one delivered entry. A pause carries the attempt it
leads to. A malformed entry is only acknowledged. -/
inductive Work (Event Label : Type)
  | classifying (entry : Nat) (event : Event)
  | inserting (entry : Nat) (event : Event) (label : Label) (attempt : Nat)
  | acknowledging (entry : Nat) (event : Event) (label : Label) (attempt : Nat) (point : AckPoint)
  | pausing (entry : Nat) (event : Event) (label : Label) (next : Nat)
  | rejecting (entry : Nat) (point : AckPoint)
deriving DecidableEq, Repr

/-- What the worker awaits: the connection of `start`, the reconnect of the
consume loop, the new group after `NOGROUP`, the next read, the delay after a
lost connection, or something about an entry, with the rest of its batch. -/
inductive Activity (Payload Event Label : Type)
  | starting
  | connecting
  | regrouping
  | reading
  | sleeping
  | handling (batch : List (Nat × Payload)) (work : Work Event Label)
deriving DecidableEq, Repr

/-- A worker's memory: `_running`, whether its queue has a client, and where it
stands. -/
structure EventWorker (Payload Event Label : Type) where
  running : Bool
  redis : Bool
  activity : Activity Payload Event Label
deriving DecidableEq, Repr

/-- A row of `attack_events`: the event and its classification. -/
structure AttackEventModel (Event Label : Type) where
  event : Event
  label : Label
deriving DecidableEq, Repr

/-- Redis, PostgreSQL, and the worker's process if there is one. -/
structure State (Payload Event Label : Type) where
  stream : Stream Payload
  table : List (AttackEventModel Event Label)
  worker : Option (EventWorker Payload Event Label)
deriving DecidableEq

/-- The outcome of a commit; a failure may strike after the commit. -/
inductive DbReply
  | answered
  | failed (executed : Bool)
deriving DecidableEq, Repr

/-- What ends an await of the worker. -/
inductive Reply (Label : Type)
  | redis (reply : RedisReply)
  | classified (label : Label)
  | database (reply : DbReply)
  | awake
deriving DecidableEq, Repr

/-- A honeypot publishes, the group is lost, the process starts, stops or
crashes, or an await of the worker ends. -/
inductive Move (Payload Label : Type)
  | publish (payload : Payload)
  | loseGroup
  | start
  | stop
  | crash
  | reply (reply : Reply Label)
deriving DecidableEq, Repr

/-- Whether a row with this primary key is committed. -/
def committed [DecidableEq Id] (eventId : Event → Id)
    (table : List (AttackEventModel Event Label)) (id : Id) : Bool :=
  table.any fun row => eventId row.event = id

/-- `session.commit` of one new row; none when its primary key is taken. -/
def commit [DecidableEq Id] (eventId : Event → Id) (table : List (AttackEventModel Event Label))
    (row : AttackEventModel Event Label) : Option (List (AttackEventModel Event Label)) :=
  if committed eventId table (eventId row.event) then none else some (table ++ [row])

/-- `_ensure_consumer_group`: the stream after it, and what it raised. -/
def ensureConsumerGroup (stream : Stream Payload) :
    RedisReply → Stream Payload × Option RedisFailure
  | .answered => (stream.xgroupCreate, none)
  | .failed failure executed =>
    (if executed then stream.xgroupCreate else stream,
      if failure.isBusyGroup then none else some failure)

/-- `xack` of one entry. -/
def xack (stream : Stream Payload) (entry : Nat) : RedisReply → Stream Payload × Option RedisFailure
  | .answered => (stream.xack entry, none)
  | .failed failure executed => (if executed then stream.xack entry else stream, some failure)

/-- `xreadgroup` with `>`. A missing group is an error of the server. What a
failed but executed read has delivered reaches nobody. -/
def xreadgroup (stream : Stream Payload) :
    RedisReply → Stream Payload × Except RedisFailure (List (Nat × Payload))
  | .answered =>
    match stream.xreadgroup batchSize with
    | none => (stream, .error (.responseError (literal "NOGROUP")))
    | some (read, batch) => (read, .ok batch)
  | .failed failure executed =>
    match executed, stream.xreadgroup batchSize with
    | true, some (read, _) => (read, .error failure)
    | _, _ => (stream, .error failure)

namespace EventWorker

/-- The head of the consume loop: reconnect without a client, else read. -/
def loopHead (worker : EventWorker Payload Event Label) : EventWorker Payload Event Label :=
  if worker.redis then { worker with activity := .reading }
  else { worker with redis := true, activity := .connecting }

/-- Enter `ack`: with a client it sends `XACK`, else it reconnects first. -/
def enterAck (worker : EventWorker Payload Event Label) (batch : List (Nat × Payload))
    (work : AckPoint → Work Event Label) : EventWorker Payload Event Label :=
  if worker.redis then { worker with activity := .handling batch (work .acking) }
  else { worker with redis := true, activity := .handling batch (work .connecting) }

/-- The next entry of a batch, or the next turn of the loop after the last. A
malformed entry is acknowledged; a stopped worker leaves the loop at the first
well-formed one, and its process ends. -/
def advance (fromJsonStr : Payload → Option Event) (worker : EventWorker Payload Event Label) :
    List (Nat × Payload) → Option (EventWorker Payload Event Label)
  | [] => some worker.loopHead
  | (entry, payload) :: batch =>
    match fromJsonStr payload with
    | none => some (worker.enterAck batch (.rejecting entry))
    | some event =>
      if worker.running then
        some { worker with activity := .handling batch (.classifying entry event) }
      else none

/-- The except clause of the consume loop. Any other exception leaves the loop
and ends the process. -/
def consumeFailed (worker : EventWorker Payload Event Label) (failure : RedisFailure) :
    Option (EventWorker Payload Event Label) :=
  if failure.isConnectionLoss then some { worker with redis := false, activity := .sleeping }
  else none

/-- The except clause of `_process_event`. After the last attempt the worker
goes on to the next entry without an acknowledgement. -/
def attemptFailed (fromJsonStr : Payload → Option Event)
    (worker : EventWorker Payload Event Label) (batch : List (Nat × Payload)) (entry : Nat)
    (event : Event) (label : Label) (attempt : Nat) :
    Option (EventWorker Payload Event Label) :=
  if attempt + 1 < dbMaxRetries then
    some { worker with activity := .handling batch (.pausing entry event label (attempt + 1)) }
  else worker.advance fromJsonStr batch

end EventWorker

/-- The failure, if there is one, by the handler; else the continuation. -/
def outcome (failure : Option RedisFailure)
    (returned : Option (EventWorker Payload Event Label))
    (raised : RedisFailure → Option (EventWorker Payload Event Label)) :
    Option (EventWorker Payload Event Label) :=
  match failure with
  | none => returned
  | some failure => raised failure

variable [DecidableEq Id] (fromJsonStr : Payload → Option Event) (eventId : Event → Id)

/-- The worker between two awaits. Where `stop` has cleared the client during a
reconnect, the assertion after it fails. -/
def answer (state : State Payload Event Label) (worker : EventWorker Payload Event Label) :
    Reply Label → Option (State Payload Event Label)
  | .redis reply =>
    match worker.activity with
    | .starting =>
      let (stream, failure) := ensureConsumerGroup state.stream reply
      some { state with
        stream := stream
        worker := outcome failure (some { worker with running := true }.loopHead) fun _ => none }
    | .connecting =>
      let (stream, failure) := ensureConsumerGroup state.stream reply
      some { state with
        stream := stream
        worker := outcome failure
          (if worker.redis then some { worker with activity := .reading } else none)
          worker.consumeFailed }
    | .regrouping =>
      let (stream, failure) := ensureConsumerGroup state.stream reply
      some { state with
        stream := stream
        worker := outcome failure (some worker.loopHead) worker.consumeFailed }
    | .reading =>
      let (stream, result) := xreadgroup state.stream reply
      some { state with
        stream := stream
        worker :=
          match result with
          | .ok batch => worker.advance fromJsonStr batch
          | .error failure =>
            if failure.isNoGroup then
              if worker.redis then some { worker with activity := .regrouping } else none
            else worker.consumeFailed failure }
    | .handling batch (.acknowledging entry event label attempt .connecting) =>
      let (stream, failure) := ensureConsumerGroup state.stream reply
      some { state with
        stream := stream
        worker := outcome failure
          (if worker.redis then
            some { worker with
              activity := .handling batch (.acknowledging entry event label attempt .acking) }
          else worker.attemptFailed fromJsonStr batch entry event label attempt)
          fun _ => worker.attemptFailed fromJsonStr batch entry event label attempt }
    | .handling batch (.acknowledging entry event label attempt .acking) =>
      let (stream, failure) := xack state.stream entry reply
      some { state with
        stream := stream
        worker := outcome failure (worker.advance fromJsonStr batch)
          fun _ => worker.attemptFailed fromJsonStr batch entry event label attempt }
    | .handling batch (.rejecting entry .connecting) =>
      let (stream, failure) := ensureConsumerGroup state.stream reply
      some { state with
        stream := stream
        worker := outcome failure
          (if worker.redis then
            some { worker with activity := .handling batch (.rejecting entry .acking) }
          else none)
          worker.consumeFailed }
    | .handling batch (.rejecting entry .acking) =>
      let (stream, failure) := xack state.stream entry reply
      some { state with
        stream := stream
        worker := outcome failure (worker.advance fromJsonStr batch) worker.consumeFailed }
    | _ => none
  | .classified label =>
    match worker.activity with
    | .handling batch (.classifying entry event) =>
      some { state with
        worker := some { worker with
          activity := .handling batch (.inserting entry event label 0) } }
    | _ => none
  | .database reply =>
    match worker.activity with
    | .handling batch (.inserting entry event label attempt) =>
      match reply, commit eventId state.table { event, label } with
      | .answered, some table =>
        some { state with
          table := table
          worker := some (worker.enterAck batch (.acknowledging entry event label attempt)) }
      | .failed true, some table =>
        some { state with
          table := table
          worker := worker.attemptFailed fromJsonStr batch entry event label attempt }
      | _, _ =>
        some { state with
          worker := worker.attemptFailed fromJsonStr batch entry event label attempt }
    | _ => none
  | .awake =>
    match worker.activity with
    | .sleeping => some { state with worker := some worker.loopHead }
    | .handling batch (.pausing entry event label attempt) =>
      some { state with
        worker := some { worker with
          activity := .handling batch (.inserting entry event label attempt) } }
    | _ => none

/-- What an answered await leaves, by the await and the answer. -/
inductive Answered (state : State Payload Event Label)
    (worker : EventWorker Payload Event Label) :
    Reply Label → State Payload Event Label → Prop
  | started (reply : RedisReply) (activity : worker.activity = .starting) :
      Answered state worker (.redis reply)
        { state with
          stream := (ensureConsumerGroup state.stream reply).1
          worker := outcome (ensureConsumerGroup state.stream reply).2
            (some { worker with running := true }.loopHead) fun _ => none }
  | connected (reply : RedisReply) (activity : worker.activity = .connecting) :
      Answered state worker (.redis reply)
        { state with
          stream := (ensureConsumerGroup state.stream reply).1
          worker := outcome (ensureConsumerGroup state.stream reply).2
            (if worker.redis then some { worker with activity := .reading } else none)
            worker.consumeFailed }
  | regrouped (reply : RedisReply) (activity : worker.activity = .regrouping) :
      Answered state worker (.redis reply)
        { state with
          stream := (ensureConsumerGroup state.stream reply).1
          worker := outcome (ensureConsumerGroup state.stream reply).2 (some worker.loopHead)
            worker.consumeFailed }
  | read (reply : RedisReply) (activity : worker.activity = .reading) :
      Answered state worker (.redis reply)
        { state with
          stream := (xreadgroup state.stream reply).1
          worker :=
            match (xreadgroup state.stream reply).2 with
            | .ok batch => worker.advance fromJsonStr batch
            | .error failure =>
              if failure.isNoGroup then
                if worker.redis then some { worker with activity := .regrouping } else none
              else worker.consumeFailed failure }
  | reconnected (reply : RedisReply) (batch : List (Nat × Payload)) (entry : Nat) (event : Event)
      (label : Label) (attempt : Nat)
      (activity : worker.activity =
        .handling batch (.acknowledging entry event label attempt .connecting)) :
      Answered state worker (.redis reply)
        { state with
          stream := (ensureConsumerGroup state.stream reply).1
          worker := outcome (ensureConsumerGroup state.stream reply).2
            (if worker.redis then
              some { worker with
                activity := .handling batch (.acknowledging entry event label attempt .acking) }
            else worker.attemptFailed fromJsonStr batch entry event label attempt)
            fun _ => worker.attemptFailed fromJsonStr batch entry event label attempt }
  | acknowledged (reply : RedisReply) (batch : List (Nat × Payload)) (entry : Nat) (event : Event)
      (label : Label) (attempt : Nat)
      (activity : worker.activity =
        .handling batch (.acknowledging entry event label attempt .acking)) :
      Answered state worker (.redis reply)
        { state with
          stream := (xack state.stream entry reply).1
          worker := outcome (xack state.stream entry reply).2 (worker.advance fromJsonStr batch)
            fun _ => worker.attemptFailed fromJsonStr batch entry event label attempt }
  | reconnectedRejecting (reply : RedisReply) (batch : List (Nat × Payload)) (entry : Nat)
      (activity : worker.activity = .handling batch (.rejecting entry .connecting)) :
      Answered state worker (.redis reply)
        { state with
          stream := (ensureConsumerGroup state.stream reply).1
          worker := outcome (ensureConsumerGroup state.stream reply).2
            (if worker.redis then
              some { worker with activity := .handling batch (.rejecting entry .acking) }
            else none)
            worker.consumeFailed }
  | rejected (reply : RedisReply) (batch : List (Nat × Payload)) (entry : Nat)
      (activity : worker.activity = .handling batch (.rejecting entry .acking)) :
      Answered state worker (.redis reply)
        { state with
          stream := (xack state.stream entry reply).1
          worker := outcome (xack state.stream entry reply).2 (worker.advance fromJsonStr batch)
            worker.consumeFailed }
  | classified (batch : List (Nat × Payload)) (entry : Nat) (event : Event) (label : Label)
      (activity : worker.activity = .handling batch (.classifying entry event)) :
      Answered state worker (.classified label)
        { state with
          worker := some { worker with
            activity := .handling batch (.inserting entry event label 0) } }
  | stored (batch : List (Nat × Payload)) (entry : Nat) (event : Event) (label : Label)
      (attempt : Nat) (table : List (AttackEventModel Event Label))
      (activity : worker.activity = .handling batch (.inserting entry event label attempt))
      (inserted : commit eventId state.table { event, label } = some table) :
      Answered state worker (.database .answered)
        { state with
          table := table
          worker := some (worker.enterAck batch (.acknowledging entry event label attempt)) }
  | storedUnseen (batch : List (Nat × Payload)) (entry : Nat) (event : Event) (label : Label)
      (attempt : Nat) (table : List (AttackEventModel Event Label))
      (activity : worker.activity = .handling batch (.inserting entry event label attempt))
      (inserted : commit eventId state.table { event, label } = some table) :
      Answered state worker (.database (.failed true))
        { state with
          table := table
          worker := worker.attemptFailed fromJsonStr batch entry event label attempt }
  | notStored (reply : DbReply) (batch : List (Nat × Payload)) (entry : Nat) (event : Event)
      (label : Label) (attempt : Nat)
      (activity : worker.activity = .handling batch (.inserting entry event label attempt))
      (why : reply = .failed false ∨ commit eventId state.table { event, label } = none) :
      Answered state worker (.database reply)
        { state with
          worker := worker.attemptFailed fromJsonStr batch entry event label attempt }
  | woken (activity : worker.activity = .sleeping) :
      Answered state worker .awake { state with worker := some worker.loopHead }
  | retried (batch : List (Nat × Payload)) (entry : Nat) (event : Event) (label : Label)
      (attempt : Nat)
      (activity : worker.activity = .handling batch (.pausing entry event label attempt)) :
      Answered state worker .awake
        { state with
          worker := some { worker with
            activity := .handling batch (.inserting entry event label attempt) } }

section Cases

variable {fromJsonStr eventId} {state next : State Payload Event Label}
  {worker : EventWorker Payload Event Label}

/-- Redis answers the start, the head of the loop, or an acknowledgement; where the
worker stands says which, and nothing else of it waits for Redis. -/
theorem answered_of_redis {reply : RedisReply}
    (answered : answer fromJsonStr eventId state worker (.redis reply) = some next) :
    Answered fromJsonStr eventId state worker (.redis reply) next := by
  cases activity : worker.activity with
  | starting =>
    simp only [answer, activity, Option.some.injEq] at answered
    exact answered ▸ .started reply activity
  | connecting =>
    simp only [answer, activity, Option.some.injEq] at answered
    exact answered ▸ .connected reply activity
  | regrouping =>
    simp only [answer, activity, Option.some.injEq] at answered
    exact answered ▸ .regrouped reply activity
  | reading =>
    simp only [answer, activity, Option.some.injEq] at answered
    exact answered ▸ .read reply activity
  | sleeping => simp [answer, activity] at answered
  | handling batch work =>
    cases work with
    | acknowledging entry event label attempt point =>
      cases point with
      | connecting =>
        simp only [answer, activity, Option.some.injEq] at answered
        exact answered ▸ .reconnected reply batch entry event label attempt activity
      | acking =>
        simp only [answer, activity, Option.some.injEq] at answered
        exact answered ▸ .acknowledged reply batch entry event label attempt activity
    | rejecting entry point =>
      cases point with
      | connecting =>
        simp only [answer, activity, Option.some.injEq] at answered
        exact answered ▸ .reconnectedRejecting reply batch entry activity
      | acking =>
        simp only [answer, activity, Option.some.injEq] at answered
        exact answered ▸ .rejected reply batch entry activity
    | classifying _ _ | inserting _ _ _ _ | pausing _ _ _ _ =>
      simp [answer, activity] at answered

/-- Only an event that is being classified waits for its classification; in any
other activity there is nothing to answer so. -/
theorem answered_of_classified {label : Label}
    (answered : answer fromJsonStr eventId state worker (.classified label) = some next) :
    Answered fromJsonStr eventId state worker (.classified label) next := by
  cases activity : worker.activity with
  | handling batch work =>
    cases work with
    | classifying entry event =>
      simp only [answer, activity, Option.some.injEq] at answered
      exact answered ▸ .classified batch entry event label activity
    | _ => simp [answer, activity] at answered
  | _ => simp [answer, activity] at answered

/-- Only an insert waits for the database. A row is committed exactly when its key is
free and the answer is no failure from before the commit; the cases are what the key
allows, and then the answer. -/
theorem answered_of_database {reply : DbReply}
    (answered : answer fromJsonStr eventId state worker (.database reply) = some next) :
    Answered fromJsonStr eventId state worker (.database reply) next := by
  cases activity : worker.activity with
  | handling batch work =>
    cases work with
    | inserting entry event label attempt =>
      simp only [answer, activity] at answered
      cases inserted : commit eventId state.table { event, label } with
      | none =>
        simp only [inserted, Option.some.injEq] at answered
        exact answered ▸ .notStored reply batch entry event label attempt activity (.inr inserted)
      | some table =>
        simp only [inserted] at answered
        cases reply with
        | answered =>
          exact Option.some.inj answered ▸
            .stored batch entry event label attempt table activity inserted
        | failed executed =>
          cases executed with
          | true =>
            exact Option.some.inj answered ▸
              .storedUnseen batch entry event label attempt table activity inserted
          | false =>
            exact Option.some.inj answered ▸
              .notStored _ batch entry event label attempt activity (.inl rfl)
    | _ => simp [answer, activity] at answered
  | _ => simp [answer, activity] at answered

/-- A sleep ends the pause of the loop or the one before another attempt, which are
the only two the worker makes. -/
theorem answered_of_awake
    (answered : answer fromJsonStr eventId state worker .awake = some next) :
    Answered fromJsonStr eventId state worker .awake next := by
  cases activity : worker.activity with
  | sleeping =>
    simp only [answer, activity, Option.some.injEq] at answered
    exact answered ▸ .woken activity
  | handling batch work =>
    cases work with
    | pausing entry event label attempt =>
      simp only [answer, activity, Option.some.injEq] at answered
      exact answered ▸ .retried batch entry event label attempt activity
    | _ => simp [answer, activity] at answered
  | _ => simp [answer, activity] at answered

/-- What the worker makes of an answer is one of these. Every invariant of the worker
splits on them, so that none has to unfold the worker again. -/
theorem answered_of_answer {reply : Reply Label}
    (answered : answer fromJsonStr eventId state worker reply = some next) :
    Answered fromJsonStr eventId state worker reply next := by
  cases reply with
  | redis reply => exact answered_of_redis answered
  | classified label => exact answered_of_classified answered
  | database reply => exact answered_of_database answered
  | awake => exact answered_of_awake answered

end Cases

/-- Publishing honeypots, a Redis that may lose its group, and one worker
process at a time. -/
def system : Transition.System (State Payload Event Label) (Move Payload Label) where
  step state move :=
    match move, state.worker with
    | .publish payload, _ => some { state with stream := state.stream.xadd payload }
    | .loseGroup, _ => some { state with stream := state.stream.dropGroup }
    | .start, none =>
      some { state with
        worker := some { running := false, redis := true, activity := .starting } }
    | .stop, some worker =>
      some { state with worker := some { worker with running := false, redis := false } }
    | .crash, some _ => some { state with worker := none }
    | .reply reply, some worker => answer fromJsonStr eventId state worker reply
    | _, _ => none

/-- Nothing published yet and no process. -/
def initial : State Payload Event Label :=
  { stream := .empty, table := [], worker := none }

end Honeywatch.Tasks
