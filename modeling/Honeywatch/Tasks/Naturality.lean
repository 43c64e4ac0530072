import Honeywatch.Tasks.Worker

/-!
# The worker does not look at what it works on

Other events, payloads and classifications in the same places lead the worker,
the stream and the table through the same steps, as long as the parser and the
primary keys agree with the renaming.
-/

namespace Honeywatch.Redis.Stream

universe u v
variable {Payload : Type u} {Target : Type v} (g : Payload → Target)

def map (stream : Stream Payload) : Stream Target :=
  { entries := stream.entries.map g
    group := stream.group
    within := fun current grouped => by
      simpa using stream.within current grouped }

/-- A batch with other payloads. -/
def mapBatch (batch : List (Nat × Payload)) : List (Nat × Target) :=
  batch.map fun item => (item.1, g item.2)

/-- Renaming the payloads does not change which entries come after a position. -/
theorem after_map (position : Nat) (entries : List Payload) :
    after position (entries.map g) = mapBatch g (after position entries) := by
  simp only [after, mapBatch, List.zipIdx_map, ← List.map_drop, List.map_map]
  rfl

/-- A renamed batch has as many entries. -/
@[simp] theorem mapBatch_length (batch : List (Nat × Payload)) :
    (mapBatch g batch).length = batch.length := by
  simp [mapBatch]

/-- Renaming commutes with an append. -/
theorem xadd_map (stream : Stream Payload) (payload : Payload) :
    (stream.map g).xadd (g payload) = (stream.xadd payload).map g := by
  simp [map, xadd]

/-- It commutes with the creation of the group, which concerns positions only. -/
theorem xgroupCreate_map (stream : Stream Payload) :
    (stream.map g).xgroupCreate = stream.xgroupCreate.map g := by
  obtain ⟨entries, group, within⟩ := stream
  cases group <;> rfl

/-- It commutes with an acknowledgement, which names an entry by its number. -/
theorem xack_map (stream : Stream Payload) (entry : Nat) :
    (stream.map g).xack entry = (stream.xack entry).map g := rfl

/-- It commutes with a read: the same entries are delivered, renamed, and the group
remembers the same numbers. The cases are whether there is a group. -/
theorem xreadgroup_map (count : Nat) (stream : Stream Payload) :
    (stream.map g).xreadgroup count =
      (stream.xreadgroup count).map fun read => (read.1.map g, mapBatch g read.2) := by
  obtain ⟨entries, group, within⟩ := stream
  cases group with
  | none => rfl
  | some group =>
    have delivered : (after group.lastDelivered (entries.map g)).take count =
        mapBatch g ((after group.lastDelivered entries).take count) := by
      rw [after_map]
      exact (List.map_take ..).symm
    have ids : (mapBatch g ((after group.lastDelivered entries).take count)).map Prod.fst =
        ((after group.lastDelivered entries).take count).map Prod.fst := by
      simp [mapBatch, Function.comp_def]
    simp only [xreadgroup, map, Option.map_some, delivered, mapBatch_length, ids]

end Honeywatch.Redis.Stream

namespace Honeywatch.Tasks

open Collector Redis Stream

variable {Payload Event Id Label Target Other Result : Type}

def Work.map (f : Event → Other) (h : Label → Result) : Work Event Label → Work Other Result
  | .classifying entry event => .classifying entry (f event)
  | .inserting entry event label attempt => .inserting entry (f event) (h label) attempt
  | .acknowledging entry event label attempt point =>
    .acknowledging entry (f event) (h label) attempt point
  | .pausing entry event label next => .pausing entry (f event) (h label) next
  | .rejecting entry point => .rejecting entry point

def Activity.map (f : Event → Other) (g : Payload → Target) (h : Label → Result) :
    Activity Payload Event Label → Activity Target Other Result
  | .starting => .starting
  | .connecting => .connecting
  | .regrouping => .regrouping
  | .reading => .reading
  | .sleeping => .sleeping
  | .handling batch work => .handling (mapBatch g batch) (work.map f h)

def EventWorker.map (f : Event → Other) (g : Payload → Target) (h : Label → Result)
    (worker : EventWorker Payload Event Label) : EventWorker Target Other Result :=
  { running := worker.running, redis := worker.redis, activity := worker.activity.map f g h }

def AttackEventModel.map (f : Event → Other) (h : Label → Result)
    (row : AttackEventModel Event Label) : AttackEventModel Other Result :=
  { event := f row.event, label := h row.label }

def State.map (f : Event → Other) (g : Payload → Target) (h : Label → Result)
    (state : State Payload Event Label) : State Target Other Result :=
  { stream := state.stream.map g
    table := state.table.map (AttackEventModel.map f h)
    worker := state.worker.map (EventWorker.map f g h) }

def Reply.map (h : Label → Result) : Reply Label → Reply Result
  | .redis reply => .redis reply
  | .classified label => .classified (h label)
  | .database reply => .database reply
  | .awake => .awake

def Move.map (g : Payload → Target) (h : Label → Result) : Move Payload Label → Move Target Result
  | .publish payload => .publish (g payload)
  | .loseGroup => .loseGroup
  | .start => .start
  | .stop => .stop
  | .crash => .crash
  | .reply answered => .reply (answered.map h)

variable {f : Event → Other} {g : Payload → Target} {h : Label → Result}

/-- The worker's command for the group has the same outcome for a renamed stream. -/
theorem ensureConsumerGroup_map (stream : Stream Payload) (reply : RedisReply) :
    ensureConsumerGroup (stream.map g) reply =
      ((ensureConsumerGroup stream reply).1.map g, (ensureConsumerGroup stream reply).2) := by
  cases reply with
  | answered => simp [ensureConsumerGroup, xgroupCreate_map]
  | failed failure executed => cases executed <;> simp [ensureConsumerGroup, xgroupCreate_map]

/-- So has its acknowledgement, executed or not. -/
theorem xack_map (stream : Stream Payload) (entry : Nat) (reply : RedisReply) :
    xack (stream.map g) entry reply =
      ((xack stream entry reply).1.map g, (xack stream entry reply).2) := by
  cases reply with
  | answered => rfl
  | failed failure executed => cases executed <;> rfl

/-- So has its read. What a failed but executed read has delivered is lost on both
sides. -/
theorem xreadgroup_map (stream : Stream Payload) (reply : RedisReply) :
    xreadgroup (stream.map g) reply =
      ((xreadgroup stream reply).1.map g, (xreadgroup stream reply).2.map (mapBatch g)) := by
  cases reply with
  | answered =>
    simp only [xreadgroup, Stream.xreadgroup_map]
    cases stream.xreadgroup batchSize <;> rfl
  | failed failure executed =>
    simp only [xreadgroup, Stream.xreadgroup_map]
    cases executed with
    | false => rfl
    | true => cases stream.xreadgroup batchSize <;> rfl

section Worker

variable (worker : EventWorker Payload Event Label)

/-- At the head of the loop only the client of the worker matters. -/
theorem loopHead_map : (worker.map f g h).loopHead = worker.loopHead.map f g h := by
  cases client : worker.redis <;> simp [EventWorker.loopHead, EventWorker.map, client, Activity.map]

/-- On the way to an acknowledgement likewise. -/
theorem enterAck_map (batch : List (Nat × Payload)) (work : AckPoint → Work Event Label) :
    (worker.map f g h).enterAck (mapBatch g batch) (fun point => (work point).map f h) =
      (worker.enterAck batch work).map f g h := by
  cases client : worker.redis <;> simp [EventWorker.enterAck, EventWorker.map, client, Activity.map]

variable {fromJsonStr : Payload → Option Event} {fromTarget : Target → Option Other}

/-- Going on with a batch parses the next entry. The renaming has to respect
parsing, and then a renamed worker rejects, begins or leaves the loop as the other
one does. -/
theorem advance_map (parsed : ∀ payload, fromTarget (g payload) = (fromJsonStr payload).map f)
    (batch : List (Nat × Payload)) :
    (worker.map f g h).advance fromTarget (mapBatch g batch) =
      (worker.advance fromJsonStr batch).map (EventWorker.map f g h) := by
  cases batch with
  | nil => exact congrArg some (loopHead_map worker)
  | cons first rest =>
    obtain ⟨entry, payload⟩ := first
    simp only [EventWorker.advance, mapBatch, List.map_cons, parsed]
    cases fromJsonStr payload with
    | none => exact congrArg some (enterAck_map worker rest (.rejecting entry))
    | some event =>
      simp only [Option.map_some]
      cases running : worker.running with
      | true => simp only [EventWorker.map, running, if_true]; rfl
      | false => simp [EventWorker.map, running]

/-- What becomes of the loop after a failure depends on the failure only. -/
theorem consumeFailed_map (failure : RedisFailure) :
    (worker.map f g h).consumeFailed failure =
      (worker.consumeFailed failure).map (EventWorker.map f g h) := by
  simp only [EventWorker.consumeFailed]
  split <;> rfl

/-- A failed attempt is followed by another one or by the next entry, by its number
alone. -/
theorem attemptFailed_map
    (parsed : ∀ payload, fromTarget (g payload) = (fromJsonStr payload).map f)
    (batch : List (Nat × Payload)) (entry : Nat) (event : Event) (label : Label) (attempt : Nat) :
    (worker.map f g h).attemptFailed fromTarget (mapBatch g batch) entry (f event) (h label)
        attempt =
      (worker.attemptFailed fromJsonStr batch entry event label attempt).map
        (EventWorker.map f g h) := by
  simp only [EventWorker.attemptFailed]
  split
  · rfl
  · exact advance_map worker parsed batch

/-- The choice between success and failure is made the same way on both sides, and
what follows either of them is renamed. -/
theorem outcome_map {failure : Option RedisFailure}
    {returned : Option (EventWorker Payload Event Label)}
    {raised : RedisFailure → Option (EventWorker Payload Event Label)}
    {returnedTo : Option (EventWorker Target Other Result)}
    {raisedTo : RedisFailure → Option (EventWorker Target Other Result)}
    (returns : returnedTo = returned.map (EventWorker.map f g h))
    (raises : ∀ failure, raisedTo failure = (raised failure).map (EventWorker.map f g h)) :
    outcome failure returnedTo raisedTo =
      (outcome failure returned raised).map (EventWorker.map f g h) := by
  cases failure with
  | none => exact returns
  | some failure => exact raises failure

end Worker

variable [DecidableEq Id] {eventId : Event → Id} {otherId : Other → Id}

/-- A commit asks for the key of its row. A renaming that keeps the keys commutes
with it. -/
theorem commit_map (ids : ∀ event, otherId (f event) = eventId event)
    (table : List (AttackEventModel Event Label)) (row : AttackEventModel Event Label) :
    commit otherId (table.map (AttackEventModel.map f h)) (row.map f h) =
      (commit eventId table row).map (List.map (AttackEventModel.map f h)) := by
  have same :
      committed otherId (table.map (AttackEventModel.map f h)) (otherId (row.map f h).event) =
        committed eventId table (eventId row.event) := by
    simp [committed, AttackEventModel.map, ids, List.any_map, Function.comp_def]
  simp only [commit, same]
  split
  · rfl
  · simp

variable {fromJsonStr : Payload → Option Event} {fromTarget : Target → Option Other}

/-- The state with another stream and another worker, each renamed on its own. -/
theorem map_moved (state : State Payload Event Label) (stream : Stream Payload)
    (next : Option (EventWorker Payload Event Label))
    {nextTo : Option (EventWorker Target Other Result)}
    (renamed : nextTo = next.map (EventWorker.map f g h)) :
    some { state.map f g h with stream := stream.map g, worker := nextTo } =
      (some { state with stream := stream, worker := next }).map (State.map f g h) := by
  rw [renamed]
  rfl

/-- What follows an answered `_ensure_consumer_group` is renamed when it is
renamed in both outcomes. -/
theorem ensured_map (state : State Payload Event Label) (reply : RedisReply)
    {returned : Option (EventWorker Payload Event Label)}
    {raised : RedisFailure → Option (EventWorker Payload Event Label)}
    {returnedTo : Option (EventWorker Target Other Result)}
    {raisedTo : RedisFailure → Option (EventWorker Target Other Result)}
    (returns : returnedTo = returned.map (EventWorker.map f g h))
    (raises : ∀ failure, raisedTo failure = (raised failure).map (EventWorker.map f g h)) :
    some { state.map f g h with
        stream := (ensureConsumerGroup (state.stream.map g) reply).1
        worker := outcome (ensureConsumerGroup (state.stream.map g) reply).2 returnedTo raisedTo } =
      (some { state with
        stream := (ensureConsumerGroup state.stream reply).1
        worker := outcome (ensureConsumerGroup state.stream reply).2 returned raised }).map
          (State.map f g h) := by
  rw [ensureConsumerGroup_map]
  exact map_moved state _ _ (outcome_map returns raises)

/-- The same for an acknowledgement, which looks at the entry's place in the stream
and not at what is in it. -/
theorem acked_map (state : State Payload Event Label) (entry : Nat) (reply : RedisReply)
    {returned : Option (EventWorker Payload Event Label)}
    {raised : RedisFailure → Option (EventWorker Payload Event Label)}
    {returnedTo : Option (EventWorker Target Other Result)}
    {raisedTo : RedisFailure → Option (EventWorker Target Other Result)}
    (returns : returnedTo = returned.map (EventWorker.map f g h))
    (raises : ∀ failure, raisedTo failure = (raised failure).map (EventWorker.map f g h)) :
    some { state.map f g h with
        stream := (xack (state.stream.map g) entry reply).1
        worker := outcome (xack (state.stream.map g) entry reply).2 returnedTo raisedTo } =
      (some { state with
        stream := (xack state.stream entry reply).1
        worker := outcome (xack state.stream entry reply).2 returned raised }).map
          (State.map f g h) := by
  rw [xack_map]
  exact map_moved state _ _ (outcome_map returns raises)

/-- A reply of Redis finds the worker in one of its activities; what it goes on
with is renamed in each. -/
theorem answer_redis_map
    (parsed : ∀ payload, fromTarget (g payload) = (fromJsonStr payload).map f)
    (state : State Payload Event Label) (worker : EventWorker Payload Event Label)
    (reply : RedisReply) :
    answer fromTarget otherId (state.map f g h) (worker.map f g h) (.redis reply) =
      (answer fromJsonStr eventId state worker (.redis reply)).map (State.map f g h) := by
  obtain ⟨running, redis, activity⟩ := worker
  cases activity with
  | starting =>
    exact ensured_map state reply (congrArg some (loopHead_map ⟨true, redis, .starting⟩))
      fun _ => rfl
  | connecting =>
    refine ensured_map state reply ?_ (consumeFailed_map ⟨running, redis, .connecting⟩)
    cases redis <;> rfl
  | regrouping =>
    exact ensured_map state reply (congrArg some (loopHead_map ⟨running, redis, .regrouping⟩))
      (consumeFailed_map ⟨running, redis, .regrouping⟩)
  | reading =>
    simp only [answer, EventWorker.map, Activity.map]
    rw [show (state.map f g h).stream = state.stream.map g from rfl, xreadgroup_map]
    apply map_moved
    cases (xreadgroup state.stream reply).2 with
    | ok batch => exact advance_map ⟨running, redis, .reading⟩ parsed batch
    | error failure =>
      simp only [Except.map]
      split
      · cases redis <;> rfl
      · exact consumeFailed_map ⟨running, redis, .reading⟩ failure
  | sleeping => rfl
  | handling batch work =>
    cases work with
    | classifying entry event => rfl
    | inserting entry event label attempt => rfl
    | pausing entry event label next => rfl
    | acknowledging entry event label attempt point =>
      have failed := attemptFailed_map (h := h)
        ⟨running, redis, .handling batch (.acknowledging entry event label attempt point)⟩ parsed
        batch entry event label attempt
      cases point with
      | connecting =>
        refine ensured_map state reply ?_ fun _ => failed
        cases redis with
        | true => rfl
        | false => exact failed
      | acking =>
        exact acked_map state entry reply (advance_map _ parsed batch) fun _ => failed
    | rejecting entry point =>
      cases point with
      | connecting =>
        refine ensured_map state reply ?_
          (consumeFailed_map ⟨running, redis, .handling batch (.rejecting entry .connecting)⟩)
        cases redis <;> rfl
      | acking =>
        exact acked_map state entry reply (advance_map _ parsed batch)
          (consumeFailed_map ⟨running, redis, .handling batch (.rejecting entry .acking)⟩)

/-- What the worker makes of an answer commutes with a renaming that keeps keys and
respects parsing. The cases are the answers; each follows from the lemma about the
function that it goes on with. -/
theorem answer_map (ids : ∀ event, otherId (f event) = eventId event)
    (parsed : ∀ payload, fromTarget (g payload) = (fromJsonStr payload).map f)
    (state : State Payload Event Label) (worker : EventWorker Payload Event Label)
    (reply : Reply Label) :
    answer fromTarget otherId (state.map f g h) (worker.map f g h) (reply.map h) =
      (answer fromJsonStr eventId state worker reply).map (State.map f g h) := by
  cases reply with
  | redis reply => exact answer_redis_map parsed state worker reply
  | classified label =>
    obtain ⟨running, redis, activity⟩ := worker
    cases activity with
    | handling batch work => cases work <;> rfl
    | _ => rfl
  | awake =>
    obtain ⟨running, redis, activity⟩ := worker
    cases activity with
    | sleeping =>
      exact map_moved state state.stream _
        (congrArg some (loopHead_map ⟨running, redis, .sleeping⟩))
    | handling batch work => cases work <;> rfl
    | _ => rfl
  | database reply =>
    obtain ⟨running, redis, activity⟩ := worker
    cases activity with
    | handling batch work =>
      cases work with
      | inserting entry event label attempt =>
        have committed := commit_map (h := h) ids state.table { event, label }
        have failed := attemptFailed_map (h := h)
          ⟨running, redis, .handling batch (.inserting entry event label attempt)⟩ parsed
          batch entry event label attempt
        have entered := enterAck_map (f := f) (g := g) (h := h)
          ⟨running, redis, .handling batch (.inserting entry event label attempt)⟩ batch
          (.acknowledging entry event label attempt)
        change commit otherId (state.map f g h).table ⟨f event, h label⟩ = _ at committed
        simp only [answer, Reply.map, EventWorker.map, Activity.map, Work.map, committed]
        simp only [EventWorker.map, Activity.map, Work.map] at failed entered
        cases commit eventId state.table { event, label } with
        | none =>
          cases reply <;> simp only [Option.map_none, failed] <;> rfl
        | some table =>
          cases reply with
          | answered =>
            simp only [Option.map_some, entered]
            rfl
          | failed executed =>
            cases executed <;> simp only [Option.map_some, failed] <;> rfl
      | _ => rfl
    | _ => rfl

/-- Every move of the worker's world commutes with such a renaming, so two runs that
differ by it go through the same stations. -/
theorem step_map (ids : ∀ event, otherId (f event) = eventId event)
    (parsed : ∀ payload, fromTarget (g payload) = (fromJsonStr payload).map f)
    (state : State Payload Event Label) (move : Move Payload Label) :
    (system fromTarget otherId).step (state.map f g h) (move.map g h) =
      ((system fromJsonStr eventId).step state move).map (State.map f g h) := by
  obtain ⟨stream, table, worker⟩ := state
  cases move with
  | publish payload =>
    simp only [system, Move.map, State.map, xadd_map]
    rfl
  | loseGroup => rfl
  | start => cases worker <;> rfl
  | stop => cases worker <;> rfl
  | crash => cases worker <;> rfl
  | reply answered =>
    cases worker with
    | none => rfl
    | some worker => exact answer_map ids parsed ⟨stream, table, some worker⟩ worker answered

end Honeywatch.Tasks
