import Honeywatch.Tasks.Worker

/-!
# Persistence of what was published

An event is within reach when its row is committed, when an entry that carries
it is still undelivered, or when the running worker holds it in memory. The
consume loop reads new entries only, so a delivered entry that the worker lets
go of is never read again. As long as every such entry has its row already,
everything published stays within reach, and a worker whose calls are answered
from then on stores all of it. Letting go of an entry without a row loses the
event for good.
-/

namespace Honeywatch.Tasks

open Collector Redis Transition

variable {Payload Event Id Label : Type}

/-- The event an entry is about; a malformed entry has none. -/
def Work.events : Work Event Label → List Event
  | .classifying _ event => [event]
  | .inserting _ event _ _ => [event]
  | .acknowledging _ event _ _ _ => [event]
  | .pausing _ event _ _ => [event]
  | .rejecting _ _ => []

variable (fromJsonStr : Payload → Option Event)

/-- The well-formed events among delivered entries. -/
def wellFormed (entries : List (Nat × Payload)) : List Event :=
  entries.filterMap fun entry => fromJsonStr entry.2

/-- The events a running worker holds and will go on with. A stopped worker's
process ends. -/
def EventWorker.holds (worker : EventWorker Payload Event Label) : List Event :=
  if worker.running then
    match worker.activity with
    | .handling batch work => work.events ++ wellFormed fromJsonStr batch
    | _ => []
  else []

/-- The events in the memory of the process. -/
def hand : Option (EventWorker Payload Event Label) → List Event
  | none => []
  | some worker => worker.holds fromJsonStr

/-- What the next read delivers. -/
def nextBatch (stream : Stream Payload) : List Event :=
  match stream.xreadgroup batchSize with
  | none => []
  | some (_, batch) => wellFormed fromJsonStr batch

/-- The delivered events that a move makes the worker let go of: all it holds
when it stops or crashes, what a failed but executed read or a stopped worker's
read has delivered, the event of the last attempt when its insert fails, and
the rest of a batch when the acknowledgement of a malformed entry fails. -/
def letsGo (state : State Payload Event Label) : Move Payload Label → List Event
  | .stop => hand fromJsonStr state.worker
  | .crash => hand fromJsonStr state.worker
  | .reply reply =>
    match state.worker with
    | none => []
    | some worker =>
      match worker.activity, reply with
      | .reading, .redis .answered =>
        if worker.running then [] else nextBatch fromJsonStr state.stream
      | .reading, .redis (.failed _ executed) =>
        if executed then nextBatch fromJsonStr state.stream else []
      | .handling _ (.inserting _ event _ attempt), .database (.failed false) =>
        if worker.running ∧ ¬ attempt + 1 < dbMaxRetries then [event] else []
      | .handling batch (.rejecting _ _), .redis (.failed _ _) =>
        if worker.running then wellFormed fromJsonStr batch else []
      | _, _ => []
  | _ => []

variable [DecidableEq Id] (eventId : Event → Id)

/-- Every event the move lets go of is committed. -/
def letsGoOfCommitted (state : State Payload Event Label) (move : Move Payload Label) : Bool :=
  (letsGo fromJsonStr state move).all fun event => committed eventId state.table (eventId event)

/-- The row is committed, or an event with this key is undelivered or held. -/
def Reaches (state : State Payload Event Label) (id : Id) : Prop :=
  committed eventId state.table id = true ∨
    ∃ event ∈ wellFormed fromJsonStr state.stream.undelivered ++ hand fromJsonStr state.worker,
      eventId event = id

/-- Between start and stop the worker has a client, except while it sleeps after
a lost connection; so it acknowledges without a reconnect, and only what it has
committed. -/
def Orderly (table : List (AttackEventModel Event Label)) :
    Option (EventWorker Payload Event Label) → Prop
  | none => True
  | some worker =>
    worker.running = true →
      match worker.activity with
      | .sleeping => True
      | .handling _ (.acknowledging _ event _ _ point) =>
        worker.redis = true ∧ point = .acking ∧ committed eventId table (eventId event) = true
      | .handling _ (.rejecting _ point) => worker.redis = true ∧ point = .acking
      | _ => worker.redis = true

/-- Everything published is within reach, and the worker is in order. -/
structure Sound (state : State Payload Event Label) : Prop where
  reaches : ∀ payload ∈ state.stream.entries, ∀ event, fromJsonStr payload = some event →
    Reaches fromJsonStr eventId state (eventId event)
  orderly : Orderly eventId state.table state.worker

section Worker

variable {fromJsonStr eventId} (worker : EventWorker Payload Event Label)
  (table : List (AttackEventModel Event Label)) (batch : List (Nat × Payload))

omit [DecidableEq Id] in
/-- At the head of the loop nothing is in hand. -/
@[simp] theorem hand_loopHead : hand fromJsonStr (some worker.loopHead) = [] := by
  cases client : worker.redis <;>
    simp [EventWorker.loopHead, client, hand, EventWorker.holds]

omit [DecidableEq Id] in
/-- A failure of the loop drops what was in hand. -/
@[simp] theorem hand_consumeFailed (failure : RedisFailure) :
    hand fromJsonStr (worker.consumeFailed failure) = [] := by
  unfold EventWorker.consumeFailed
  split <;> simp [hand, EventWorker.holds]

/-- Going on with a batch holds the batch: a running worker takes up its next
well-formed entry and has the others before it. -/
theorem hand_advance (running : worker.running = true) :
    hand fromJsonStr (worker.advance fromJsonStr batch) = wellFormed fromJsonStr batch := by
  cases batch with
  | nil => simp [EventWorker.advance, wellFormed]
  | cons first rest =>
    obtain ⟨entry, payload⟩ := first
    cases parsed : fromJsonStr payload with
    | none =>
      simp only [EventWorker.advance, parsed, EventWorker.enterAck]
      split <;> simp [hand, EventWorker.holds, running, Work.events, wellFormed, parsed]
    | some event =>
      simp [EventWorker.advance, parsed, running, hand, EventWorker.holds, Work.events, wellFormed]

/-- A failed attempt holds the batch, and the event too unless it was the last,
after which the event is given up. -/
theorem hand_attemptFailed (entry : Nat) (event : Event) (label : Label) (attempt : Nat)
    (running : worker.running = true) :
    hand fromJsonStr (worker.attemptFailed fromJsonStr batch entry event label attempt) =
      (if attempt + 1 < dbMaxRetries then [event] else []) ++ wellFormed fromJsonStr batch := by
  unfold EventWorker.attemptFailed
  split
  · simp [hand, EventWorker.holds, running, Work.events]
  · simp [hand_advance, running]

/-- On the way to an acknowledgement the event stays in hand, before the rest of its
batch. -/
theorem hand_enterAck (work : AckPoint → Work Event Label) (running : worker.running = true)
    (client : worker.redis = true) :
    hand fromJsonStr (some (worker.enterAck batch work)) =
      (work .acking).events ++ wellFormed fromJsonStr batch := by
  simp [EventWorker.enterAck, client, hand, EventWorker.holds, running]

/-- At the head of the loop there is nothing to be orderly about. -/
theorem orderly_loopHead : Orderly eventId table (some worker.loopHead) := by
  cases client : worker.redis <;> simp [EventWorker.loopHead, client, Orderly]

/-- Nor is there after a failure of the loop. -/
theorem orderly_consumeFailed (failure : RedisFailure) :
    Orderly eventId table (worker.consumeFailed failure) := by
  unfold EventWorker.consumeFailed
  split <;> simp [Orderly]

/-- The next entry of a batch is begun with a client, or it is rejected. A running
worker has a client here, which is what being orderly asks for. -/
theorem orderly_advance (client : worker.running = true → worker.redis = true) :
    Orderly eventId table (worker.advance fromJsonStr batch) := by
  cases batch with
  | nil => exact orderly_loopHead worker table
  | cons first rest =>
    obtain ⟨entry, payload⟩ := first
    cases parsed : fromJsonStr payload with
    | none =>
      simp only [EventWorker.advance, parsed, EventWorker.enterAck]
      split
      · simp_all [Orderly]
      · next cleared =>
        intro running
        exact absurd (client running) cleared
    | some event =>
      simp only [EventWorker.advance, parsed]
      split <;> simp_all [Orderly]

variable (fromJsonStr eventId) in
/-- Another attempt keeps the event and the client; otherwise the batch goes on. -/
theorem orderly_attemptFailed (entry : Nat) (event : Event) (label : Label) (attempt : Nat)
    (client : worker.running = true → worker.redis = true) :
    Orderly eventId table (worker.attemptFailed fromJsonStr batch entry event label attempt) := by
  unfold EventWorker.attemptFailed
  split
  · exact client
  · exact orderly_advance worker table batch client

end Worker

section Stream

variable (stream : Stream Payload) (reply : RedisReply)

/-- Making sure of the group leaves the entries of the stream as they are, -/
@[simp] theorem ensureConsumerGroup_entries :
    (ensureConsumerGroup stream reply).1.entries = stream.entries := by
  cases reply with
  | answered => simp [ensureConsumerGroup]
  | failed failure executed => cases executed <;> simp [ensureConsumerGroup]

/-- and delivers none of them: a group that was there keeps its position. -/
@[simp] theorem ensureConsumerGroup_undelivered :
    (ensureConsumerGroup stream reply).1.undelivered = stream.undelivered := by
  cases reply with
  | answered => simp [ensureConsumerGroup]
  | failed failure executed => cases executed <;> simp [ensureConsumerGroup]

/-- An acknowledgement, executed or not, removes no entry, -/
@[simp] theorem xack_reply_entries (entry : Nat) :
    (xack stream entry reply).1.entries = stream.entries := by
  cases reply with
  | answered => simp [xack]
  | failed failure executed => cases executed <;> simp [xack]

/-- and delivers none. -/
@[simp] theorem xack_reply_undelivered (entry : Nat) :
    (xack stream entry reply).1.undelivered = stream.undelivered := by
  cases reply with
  | answered => simp [xack]
  | failed failure executed => cases executed <;> simp [xack]

/-- A read leaves the rest undelivered. What it has delivered it returns, or it
failed after it was executed. -/
theorem xreadgroup_reply :
    (xreadgroup stream reply).1.entries = stream.entries ∧
    ((∃ batch, (xreadgroup stream reply).2 = .ok batch ∧ reply = .answered ∧
        wellFormed fromJsonStr batch = nextBatch fromJsonStr stream ∧
        stream.undelivered = batch ++ (xreadgroup stream reply).1.undelivered) ∨
      (∃ failure, (xreadgroup stream reply).2 = .error failure ∧
        ((xreadgroup stream reply).1 = stream ∨
          (∃ lost, reply = .failed lost true) ∧
            wellFormed fromJsonStr stream.undelivered = nextBatch fromJsonStr stream ++
              wellFormed fromJsonStr (xreadgroup stream reply).1.undelivered))) := by
  cases read : stream.xreadgroup batchSize with
  | none =>
    cases reply with
    | answered => simp [xreadgroup, read]
    | failed failure executed => cases executed <;> simp [xreadgroup, read]
  | some result =>
    obtain ⟨after, batch⟩ := result
    obtain ⟨split, same, _⟩ := stream.xreadgroup_undelivered _ _ _ read
    cases reply with
    | answered => simp [xreadgroup, read, same, nextBatch, split]
    | failed failure executed =>
      cases executed with
      | false => simp [xreadgroup]
      | true => simp [xreadgroup, read, same, nextBatch, split, wellFormed]

end Stream

section Table

variable {eventId} (table grown : List (AttackEventModel Event Label))
  (row : AttackEventModel Event Label)

/-- A commit that succeeds adds the row's key and keeps the others, so what is
committed stays committed. -/
theorem commit_some (succeeded : commit eventId table row = some grown) (id : Id) :
    committed eventId grown id =
      (committed eventId table id || decide (eventId row.event = id)) := by
  unfold commit at succeeded
  split at succeeded
  · simp at succeeded
  · simp [← Option.some.inj succeeded, committed]

/-- A commit is refused only for a key that is taken. -/
theorem commit_none (refused : commit eventId table row = none) :
    committed eventId table (eventId row.event) = true := by
  unfold commit at refused
  split at refused
  · assumption
  · simp at refused

end Table

/-- From one state to the next the entries stay, no row is lost, every event
within reach stays undelivered or held, or is committed, or is among those let
go of, and the worker stays in order. -/
structure Carries (gone : List Event) (state next : State Payload Event Label) : Prop where
  entries : next.stream.entries = state.stream.entries
  rows : ∀ id, committed eventId state.table id = true → committed eventId next.table id = true
  events : ∀ event ∈ wellFormed fromJsonStr state.stream.undelivered ++
      hand fromJsonStr state.worker,
    event ∈ wellFormed fromJsonStr next.stream.undelivered ++ hand fromJsonStr next.worker ∨
      committed eventId next.table (eventId event) = true ∨ event ∈ gone
  orderly : Orderly eventId next.table next.worker

section Answer

variable {fromJsonStr eventId} {state next : State Payload Event Label}
  {worker : EventWorker Payload Event Label}

/-- Where neither the table nor the undelivered entries change, only the events
in memory have to be followed. -/
theorem carries_of_hand {gone : List Event} {stream : Stream Payload}
    {after : Option (EventWorker Payload Event Label)}
    (entries : stream.entries = state.stream.entries)
    (undelivered : stream.undelivered = state.stream.undelivered)
    (held : ∀ event ∈ hand fromJsonStr state.worker, event ∈ hand fromJsonStr after ∨
      committed eventId state.table (eventId event) = true ∨ event ∈ gone)
    (orderly : Orderly eventId state.table after) :
    Carries fromJsonStr eventId gone state
      { state with stream := stream, worker := after } := by
  refine ⟨entries, fun _ => id, ?_, orderly⟩
  intro event member
  rcases List.mem_append.mp member with waiting | inHand
  · exact .inl (List.mem_append_left _ (undelivered ▸ waiting))
  · exact (held event inHand).imp_left (List.mem_append_right _)

omit [DecidableEq Id] in
/-- A worker without an entry holds nothing; one with an entry holds that and
the batch while it runs. -/
theorem hand_handling (batch : List (Nat × Payload)) (work : Work Event Label)
    (activity : worker.activity = .handling batch work) (event : Event)
    (member : event ∈ hand fromJsonStr (some worker)) :
    worker.running = true ∧ event ∈ work.events ++ wellFormed fromJsonStr batch := by
  simp only [hand, EventWorker.holds, activity] at member
  split at member
  · exact ⟨‹_›, member⟩
  · simp at member

/-- Work that goes on with the same events holds what it held, so a step within the
processing of one event carries it on. -/
theorem carries_reworked {gone : List Event} (batch : List (Nat × Payload))
    {work later : Work Event Label} (present : state.worker = some worker)
    (activity : worker.activity = .handling batch work) (same : later.events = work.events)
    (orderly : Orderly eventId state.table
      (some { worker with activity := .handling batch later })) :
    Carries fromJsonStr eventId gone state
      { state with worker := some { worker with activity := .handling batch later } } := by
  refine carries_of_hand rfl rfl ?_ orderly
  intro event member
  rw [present] at member
  obtain ⟨running, held⟩ := hand_handling batch work activity event member
  rw [← same] at held
  exact .inl (by simpa [hand, EventWorker.holds, running] using held)

/-- The answer to a reconnect or a new group leaves the entries alone; nothing
is held during it, or the worker is stopped. -/
theorem carries_ensure {gone : List Event} {after : Option (EventWorker Payload Event Label)}
    (reply : RedisReply) (empty : hand fromJsonStr state.worker = [])
    (orderly : Orderly eventId state.table after) :
    Carries fromJsonStr eventId gone state
      { state with stream := (ensureConsumerGroup state.stream reply).1, worker := after } :=
  carries_of_hand (ensureConsumerGroup_entries _ _) (ensureConsumerGroup_undelivered _ _)
    (by simp [empty]) orderly

/-- A read hands a batch to a running worker. What reaches nobody is let go: the
answer is lost, or the worker has been stopped. -/
theorem carries_reading (reply : RedisReply) (present : state.worker = some worker)
    (activity : worker.activity = .reading)
    (orderly : Orderly eventId state.table (some worker)) :
    Carries fromJsonStr eventId (letsGo fromJsonStr state (.reply (.redis reply))) state
      { state with
        stream := (xreadgroup state.stream reply).1
        worker :=
          match (xreadgroup state.stream reply).2 with
          | .ok batch => worker.advance fromJsonStr batch
          | .error failure =>
            if failure.isNoGroup then
              if worker.redis then some { worker with activity := .regrouping } else none
            else worker.consumeFailed failure } := by
  have client : worker.running = true → worker.redis = true := by
    simpa [Orderly, activity] using orderly
  have empty : hand fromJsonStr state.worker = [] := by
    simp [present, hand, EventWorker.holds, activity]
  obtain ⟨entries, outcome⟩ := xreadgroup_reply fromJsonStr state.stream reply
  rcases outcome with ⟨batch, result, rfl, delivered, split⟩ | ⟨failure, result, outcome⟩
  · refine ⟨entries, fun _ => id, ?_, ?_⟩
    · simp only [empty, List.append_nil, split, result]
      intro event member
      simp only [wellFormed, List.filterMap_append, List.mem_append] at member ⊢
      rcases member with fresh | waiting
      · cases running : worker.running with
        | true =>
          rw [hand_advance worker batch running]
          exact .inl (.inr fresh)
        | false =>
          refine .inr (.inr ?_)
          simp only [letsGo, present, activity, running, ← delivered]
          exact fresh
      · exact .inl (.inl waiting)
    · simp only [result]
      exact orderly_advance worker state.table batch client
  · refine ⟨entries, fun _ => id, ?_, ?_⟩
    · simp only [empty, List.append_nil]
      intro event member
      rcases outcome with same | ⟨⟨lost, rfl⟩, split⟩
      · exact .inl (List.mem_append_left _ (by rw [same]; exact member))
      · rw [split] at member
        rcases List.mem_append.mp member with fresh | waiting
        · exact .inr (.inr (by simpa [letsGo, present, activity] using fresh))
        · exact .inl (List.mem_append_left _ waiting)
    · simp only [result]
      split
      · split
        · simp_all [Orderly]
        · exact trivial
      · exact orderly_consumeFailed worker state.table failure

/-- After a failed attempt the worker holds the event still, or it is committed
or let go of. -/
theorem carries_attemptFailed {gone : List Event} (batch : List (Nat × Payload)) (entry : Nat)
    (event : Event) (label : Label) (attempt : Nat) (present : state.worker = some worker)
    (activity : worker.activity = .handling batch (.inserting entry event label attempt))
    (orderly : Orderly eventId state.table (some worker))
    (table : List (AttackEventModel Event Label))
    (rows : ∀ id, committed eventId state.table id = true → committed eventId table id = true)
    (last : worker.running = true → ¬ attempt + 1 < dbMaxRetries →
      committed eventId table (eventId event) = true ∨ event ∈ gone) :
    Carries fromJsonStr eventId gone state
      { state with
        table := table
        worker := worker.attemptFailed fromJsonStr batch entry event label attempt } := by
  have client : worker.running = true → worker.redis = true := by
    simpa [Orderly, activity] using orderly
  refine ⟨rfl, rows, ?_, orderly_attemptFailed fromJsonStr eventId worker table batch
    entry event label attempt client⟩
  intro other member
  rcases List.mem_append.mp member with waiting | inHand
  · exact .inl (List.mem_append_left _ waiting)
  · rw [present] at inHand
    obtain ⟨running, held⟩ := hand_handling batch _ activity other inHand
    rw [hand_attemptFailed worker batch entry event label attempt running]
    rcases List.mem_append.mp held with own | later
    · have same : other = event := List.mem_singleton.mp own
      by_cases again : attempt + 1 < dbMaxRetries
      · exact .inl (List.mem_append_right _ (by simp [again, same]))
      · exact .inr (same ▸ last running again)
    · exact .inl (List.mem_append_right _ (List.mem_append_right _ later))

/-- A committed event is acknowledged next. It needs no holder any more, and what is
behind it in the batch keeps the worker. -/
theorem carries_stored {gone : List Event} (batch : List (Nat × Payload)) (entry : Nat)
    (event : Event) (label : Label) (attempt : Nat) (present : state.worker = some worker)
    (activity : worker.activity = .handling batch (.inserting entry event label attempt))
    (orderly : Orderly eventId state.table (some worker))
    (table : List (AttackEventModel Event Label))
    (rows : ∀ id, committed eventId state.table id = true → committed eventId table id = true)
    (row : committed eventId table (eventId event) = true) :
    Carries fromJsonStr eventId gone state
      { state with
        table := table
        worker := some (worker.enterAck batch (.acknowledging entry event label attempt)) } := by
  have client : worker.running = true → worker.redis = true := by
    simpa [Orderly, activity] using orderly
  refine ⟨rfl, rows, ?_, ?_⟩
  · intro other member
    rcases List.mem_append.mp member with waiting | inHand
    · exact .inl (List.mem_append_left _ waiting)
    · rw [present] at inHand
      obtain ⟨running, held⟩ := hand_handling batch _ activity other inHand
      rw [hand_enterAck worker batch _ running (client running)]
      exact .inl (List.mem_append_right _ held)
  · cases connected : worker.redis with
    | true =>
      intro _
      simp [EventWorker.enterAck, connected, row]
    | false =>
      intro running
      simp only [EventWorker.enterAck, connected] at running
      simp [client running] at connected

/-- The event of an entry that was acknowledged or given up is committed; what
remains to be carried are the other events of the batch. -/
theorem carries_acknowledging {gone : List Event} {stream : Stream Payload}
    {after : Option (EventWorker Payload Event Label)} (batch : List (Nat × Payload)) (entry : Nat)
    (event : Event) (label : Label) (attempt : Nat) (point : AckPoint)
    (present : state.worker = some worker)
    (activity : worker.activity = .handling batch (.acknowledging entry event label attempt point))
    (orderly : Orderly eventId state.table (some worker))
    (entries : stream.entries = state.stream.entries)
    (undelivered : stream.undelivered = state.stream.undelivered)
    (kept : worker.running = true → ∀ other ∈ wellFormed fromJsonStr batch,
      other ∈ hand fromJsonStr after)
    (order : Orderly eventId state.table after) :
    Carries fromJsonStr eventId gone state { state with stream := stream, worker := after } := by
  refine carries_of_hand entries undelivered ?_ order
  intro other member
  rw [present] at member
  obtain ⟨running, held⟩ := hand_handling batch _ activity other member
  simp only [Orderly, activity] at orderly
  rcases List.mem_append.mp held with own | later
  · exact .inr (.inl (List.mem_singleton.mp own ▸ (orderly running).2.2))
  · exact .inl (kept running other later)

/-- A worker that is stopped holds nothing and is in order. -/
theorem orderly_stopped (table : List (AttackEventModel Event Label))
    (stopped : worker.running = false) : Orderly eventId table (some worker) := by
  simp [Orderly, stopped]

/-- A worker that runs does not reconnect in the middle of an acknowledgement: its
client is cleared only by a stop, or by a loss that restarts the loop. -/
theorem stopped_of_connecting {work : AckPoint → Work Event Label} (batch : List (Nat × Payload))
    (activity : worker.activity = .handling batch (work .connecting))
    (acknowledges : (∃ entry, work = .rejecting entry) ∨
      ∃ entry event label attempt, work = .acknowledging entry event label attempt)
    (orderly : Orderly eventId state.table (some worker)) : worker.running = false := by
  cases running : worker.running with
  | false => rfl
  | true =>
    rcases acknowledges with ⟨entry, rfl⟩ | ⟨entry, event, label, attempt, rfl⟩
    · simp [Orderly, activity, running] at orderly
    · simp [Orderly, activity, running] at orderly

/-- A malformed entry was acknowledged, or its acknowledgement failed and the
rest of the batch goes with it. -/
theorem carries_rejecting (reply : RedisReply) (batch : List (Nat × Payload)) (entry : Nat)
    (present : state.worker = some worker)
    (activity : worker.activity = .handling batch (.rejecting entry .acking))
    (orderly : Orderly eventId state.table (some worker)) :
    Carries fromJsonStr eventId (letsGo fromJsonStr state (.reply (.redis reply))) state
      { state with
        stream := (xack state.stream entry reply).1
        worker := outcome (xack state.stream entry reply).2 (worker.advance fromJsonStr batch)
          worker.consumeFailed } := by
  have client : worker.running = true → worker.redis = true := by
    simpa [Orderly, activity] using orderly
  apply carries_of_hand (xack_reply_entries _ _ _) (xack_reply_undelivered _ _ _)
  · intro other member
    rw [present] at member
    obtain ⟨running, held⟩ := hand_handling batch _ activity other member
    cases reply with
    | answered =>
      simp only [xack, outcome]
      rw [hand_advance worker batch running]
      exact .inl held
    | failed failure executed =>
      have rest : other ∈ wellFormed fromJsonStr batch := held
      exact .inr (.inr (by simpa [letsGo, present, activity, running] using rest))
  · cases (xack state.stream entry reply).2 with
    | some failure => exact orderly_consumeFailed worker state.table failure
    | none => exact orderly_advance worker state.table batch client

/-- The acknowledgement of a committed event was sent; after a failure the
attempts go on. -/
theorem carries_ack {gone : List Event} (reply : RedisReply) (batch : List (Nat × Payload))
    (entry : Nat) (event : Event) (label : Label) (attempt : Nat)
    (present : state.worker = some worker)
    (activity : worker.activity =
      .handling batch (.acknowledging entry event label attempt .acking))
    (orderly : Orderly eventId state.table (some worker)) :
    Carries fromJsonStr eventId gone state
      { state with
        stream := (xack state.stream entry reply).1
        worker := outcome (xack state.stream entry reply).2 (worker.advance fromJsonStr batch)
          fun _ => worker.attemptFailed fromJsonStr batch entry event label attempt } := by
  have client : worker.running = true → worker.redis = true := by
    intro running
    simp only [Orderly, activity] at orderly
    exact (orderly running).1
  refine carries_acknowledging batch entry event label attempt .acking present activity orderly
    (xack_reply_entries _ _ _) (xack_reply_undelivered _ _ _) ?_ ?_
  · intro running other member
    cases (xack state.stream entry reply).2 with
    | some failure =>
      simp only [outcome]
      rw [hand_attemptFailed worker batch entry event label attempt running]
      exact List.mem_append_right _ member
    | none =>
      simp only [outcome]
      rw [hand_advance worker batch running]
      exact member
  · cases (xack state.stream entry reply).2 with
    | some failure =>
      exact orderly_attemptFailed fromJsonStr eventId worker state.table batch
        entry event label attempt client
    | none => exact orderly_advance worker state.table batch client

/-- Whatever ends an await, the worker carries every event on, or it is
committed, or the worker lets go of it. -/
theorem answer_carries (reply : Reply Label) (present : state.worker = some worker)
    (orderly : Orderly eventId state.table (some worker))
    (answered : answer fromJsonStr eventId state worker reply = some next) :
    Carries fromJsonStr eventId (letsGo fromJsonStr state (.reply reply)) state next := by
  cases answered_of_answer answered with
  | started reply activity =>
    apply carries_ensure reply (by simp [present, hand, EventWorker.holds, activity])
    cases (ensureConsumerGroup state.stream reply).2 with
    | some failure => exact trivial
    | none => exact orderly_loopHead _ state.table
  | connected reply activity =>
    apply carries_ensure reply (by simp [present, hand, EventWorker.holds, activity])
    cases (ensureConsumerGroup state.stream reply).2 with
    | some failure => exact orderly_consumeFailed worker state.table failure
    | none =>
      simp only [outcome]
      split
      · next client => exact fun _ => client
      · exact trivial
  | regrouped reply activity =>
    apply carries_ensure reply (by simp [present, hand, EventWorker.holds, activity])
    cases (ensureConsumerGroup state.stream reply).2 with
    | some failure => exact orderly_consumeFailed worker state.table failure
    | none => exact orderly_loopHead worker state.table
  | read reply activity => exact carries_reading reply present activity orderly
  | reconnected reply batch entry event label attempt activity =>
    have stopped := stopped_of_connecting batch activity (.inr ⟨_, _, _, _, rfl⟩) orderly
    have inOrder := orderly_attemptFailed fromJsonStr eventId worker state.table batch
      entry event label attempt (by simp [stopped])
    apply carries_ensure reply (by simp [present, hand, EventWorker.holds, stopped])
    cases (ensureConsumerGroup state.stream reply).2 with
    | some failure => exact inOrder
    | none =>
      simp only [outcome]
      split
      · exact orderly_stopped _ stopped
      · exact inOrder
  | acknowledged reply batch entry event label attempt activity =>
    exact carries_ack reply batch entry event label attempt present activity orderly
  | reconnectedRejecting reply batch entry activity =>
    have stopped := stopped_of_connecting batch activity (.inl ⟨_, rfl⟩) orderly
    apply carries_ensure reply (by simp [present, hand, EventWorker.holds, stopped])
    cases (ensureConsumerGroup state.stream reply).2 with
    | some failure => exact orderly_consumeFailed worker state.table failure
    | none =>
      simp only [outcome]
      split
      · exact orderly_stopped _ stopped
      · exact trivial
  | rejected reply batch entry activity =>
    exact carries_rejecting reply batch entry present activity orderly
  | classified batch entry event label activity =>
    exact carries_reworked batch present activity rfl (by simpa [Orderly, activity] using orderly)
  | stored batch entry event label attempt table activity inserted =>
    have grown := commit_some state.table table _ inserted
    exact carries_stored batch entry event label attempt present activity orderly table
      (fun id earlier => by simp [grown, earlier]) (by simp [grown])
  | storedUnseen batch entry event label attempt table activity inserted =>
    have grown := commit_some state.table table _ inserted
    exact carries_attemptFailed batch entry event label attempt present activity orderly table
      (fun id earlier => by simp [grown, earlier]) fun _ _ => .inl (by simp [grown])
  | notStored reply batch entry event label attempt activity why =>
    refine carries_attemptFailed batch entry event label attempt present activity orderly
      state.table (fun _ => id) fun running last => ?_
    rcases why with rfl | refused
    · exact .inr (by simp [letsGo, present, activity, running, last])
    · exact .inl (commit_none state.table _ refused)
  | woken activity =>
    refine carries_of_hand rfl rfl ?_ (orderly_loopHead worker state.table)
    simp [present, hand, EventWorker.holds, activity]
  | retried batch entry event label attempt activity =>
    exact carries_reworked batch present activity rfl (by simpa [Orderly, activity] using orderly)

end Answer

section Run

variable {fromJsonStr eventId} {state next : State Payload Event Label}

/-- What is carried on, or let go of with its row committed, stays in reach; the
rule by which each move is judged. -/
theorem sound_of_carries {gone : List Event} (sound : Sound fromJsonStr eventId state)
    (safe : ∀ event ∈ gone, committed eventId state.table (eventId event) = true)
    (carries : Carries fromJsonStr eventId gone state next) : Sound fromJsonStr eventId next := by
  refine ⟨?_, carries.orderly⟩
  intro payload member event parsed
  rcases sound.reaches payload (carries.entries ▸ member) event parsed with
    stored | ⟨copy, copied, same⟩
  · exact .inl (carries.rows _ stored)
  · rcases carries.events copy copied with still | stored | given_up
    · exact .inr ⟨copy, still, same⟩
    · exact .inl (same ▸ stored)
    · exact .inl (carries.rows _ (same ▸ safe copy given_up))

/-- A published event is undelivered, and what the worker holds is as before. -/
theorem sound_publish (payload : Payload) (sound : Sound fromJsonStr eventId state) :
    Sound fromJsonStr eventId { state with stream := state.stream.xadd payload } := by
  refine ⟨?_, sound.orderly⟩
  intro added member event parsed
  have grown : wellFormed fromJsonStr (state.stream.xadd payload).undelivered =
      wellFormed fromJsonStr state.stream.undelivered ++
        wellFormed fromJsonStr [(state.stream.entries.length, payload)] := by
    simp [Stream.xadd_undelivered, wellFormed]
  simp only [Reaches, grown]
  rcases List.mem_append.mp member with earlier | new
  · rcases sound.reaches added earlier event parsed with stored | ⟨copy, copied, same⟩
    · exact .inl stored
    · refine .inr ⟨copy, ?_, same⟩
      simp only [List.mem_append] at copied ⊢
      tauto
  · have same : added = payload := List.mem_singleton.mp new
    subst same
    refine .inr ⟨event, ?_, rfl⟩
    simp [wellFormed, parsed]

/-- A lost group makes everything undelivered again, which puts nothing out of
reach. -/
theorem sound_loseGroup (sound : Sound fromJsonStr eventId state) :
    Sound fromJsonStr eventId { state with stream := state.stream.dropGroup } := by
  refine ⟨?_, sound.orderly⟩
  intro payload member event parsed
  have again : payload ∈ state.stream.dropGroup.undelivered.map Prod.snd :=
    Stream.dropGroup_undelivered state.stream ▸ member
  obtain ⟨entry, delivered, same⟩ := List.mem_map.mp again
  refine .inr ⟨event, List.mem_append_left _ ?_, rfl⟩
  exact List.mem_filterMap.mpr ⟨entry, delivered, same ▸ parsed⟩

/-- A move that lets go of committed events only keeps everything in reach. The
cases are the moves, and an answer is judged by the activity that it ends. -/
theorem sound_step (state next : State Payload Event Label) (move : Move Payload Label)
    (sound : Sound fromJsonStr eventId state)
    (safe : letsGoOfCommitted fromJsonStr eventId state move = true)
    (taken : (system fromJsonStr eventId).step state move = some next) :
    Sound fromJsonStr eventId next := by
  have covered : ∀ event ∈ letsGo fromJsonStr state move,
      committed eventId state.table (eventId event) = true := by
    simpa [letsGoOfCommitted] using safe
  cases present : state.worker with
  | none =>
    cases move with
    | publish payload =>
      simp only [system, Option.some.injEq] at taken
      exact taken ▸ sound_publish payload sound
    | loseGroup =>
      simp only [system, Option.some.injEq] at taken
      exact taken ▸ sound_loseGroup sound
    | start =>
      simp only [system, present, Option.some.injEq] at taken
      subst taken
      exact sound_of_carries sound covered
        (carries_of_hand rfl rfl (by simp [present, hand]) (orderly_stopped _ rfl))
    | stop => simp [system, present] at taken
    | crash => simp [system, present] at taken
    | reply reply => simp [system, present] at taken
  | some worker =>
    cases move with
    | publish payload =>
      simp only [system, Option.some.injEq] at taken
      exact taken ▸ sound_publish payload sound
    | loseGroup =>
      simp only [system, Option.some.injEq] at taken
      exact taken ▸ sound_loseGroup sound
    | start => simp [system, present] at taken
    | stop =>
      simp only [system, present, Option.some.injEq] at taken
      subst taken
      exact sound_of_carries sound covered
        (carries_of_hand rfl rfl (fun event member => .inr (.inr member)) (orderly_stopped _ rfl))
    | crash =>
      simp only [system, present, Option.some.injEq] at taken
      subst taken
      exact sound_of_carries sound covered
        (carries_of_hand rfl rfl (fun event member => .inr (.inr member)) trivial)
    | reply reply =>
      simp only [system, present] at taken
      exact sound_of_carries sound covered
        (answer_carries reply present (present ▸ sound.orderly) taken)

end Run

end Honeywatch.Tasks
