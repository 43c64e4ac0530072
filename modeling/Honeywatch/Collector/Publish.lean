import Honeywatch.Foundation.Coroutine
import Honeywatch.Collector.Failures

/-!
# Publishing to the shared event queue

`EventQueue.publish` with `connect` and `_ensure_consumer_group`, cut at its
awaits: the group creation of a reconnect, the append to the stream, and the
pause before a further attempt. Between two awaits the code runs without
interruption, so a publish reads and writes the shared client exactly in the
segments below. The queue also records, for use in statements only, every call
into the client and the serializer with its outcome.

One queue is shared by all honeypots. A lost connection clears the client for
every publish in flight; a publish suspended in its reconnect finds the client
gone when the reconnect succeeds, and its assertion fails.
-/

namespace Honeywatch.Collector

open Cooperative Transition

variable {Event Payload : Type}

/-- A call into a library, with its outcome. -/
inductive LibraryCall
  | xgroupCreate (reply : RedisReply)
  | toJsonStr (succeeded : Bool)
  | xadd (reply : RedisReply)
deriving DecidableEq, Repr

/-- The queue as its publishers share it: whether `_redis` holds a client, the
entries of the stream, oldest first, and the record of library calls. -/
structure EventQueue (Payload : Type) where
  redis : Bool
  entries : List Payload
  record : List LibraryCall
deriving DecidableEq, Repr

/-- `self._max_retries`. -/
def maxRetries : Nat := 5

/-- The awaits of a publish, each with the attempt it belongs to. -/
inductive PublishPoint (Payload : Type)
  | connecting (attempt : Nat)
  | adding (attempt : Nat) (payload : Payload)
  | sleeping (attempt : Nat)
deriving DecidableEq, Repr

/-- What a publish has come to: an await, or a returned entry id or exception. -/
abbrev PublishProgress (Payload : Type) := Progress (PublishPoint Payload) (Except Raised Nat)

namespace EventQueue

/-- Record a library call. -/
def log (queue : EventQueue Payload) (call : LibraryCall) : EventQueue Payload :=
  { queue with record := queue.record ++ [call] }

/-- The server appends an entry. -/
def append (queue : EventQueue Payload) (payload : Payload) : EventQueue Payload :=
  { queue with entries := queue.entries ++ [payload] }

/-- Logging a call leaves the client, -/
@[simp] theorem log_redis (queue : EventQueue Payload) (call : LibraryCall) :
    (queue.log call).redis = queue.redis := rfl

/-- and the stream. -/
@[simp] theorem log_entries (queue : EventQueue Payload) (call : LibraryCall) :
    (queue.log call).entries = queue.entries := rfl

/-- An append leaves the client. -/
@[simp] theorem append_redis (queue : EventQueue Payload) (payload : Payload) :
    (queue.append payload).redis = queue.redis := rfl

variable (toJsonStr : Event → Option Payload)

/-- From the assertion on the client to the await of `xadd`. The event is
serialized on the way, and a serializer error is in no except clause. -/
def send (event : Event) (attempt : Nat) (queue : EventQueue Payload) :
    EventQueue Payload × PublishProgress Payload :=
  if queue.redis then
    match toJsonStr event with
    | none => (queue.log (.toJsonStr false), .finished (.error .serializationError))
    | some payload => (queue.log (.toJsonStr true), .suspended (.adding attempt payload))
  else (queue, .finished (.error .assertionError))

/-- The head of the retry loop. `connect` stores the new client before it
awaits the group creation. After the last attempt the loop falls through. -/
def attemptPublish (event : Event) (attempt : Nat) (queue : EventQueue Payload) :
    EventQueue Payload × PublishProgress Payload :=
  if attempt < maxRetries then
    if queue.redis then queue.send toJsonStr event attempt
    else ({ queue with redis := true }, .suspended (.connecting attempt))
  else (queue, .finished (.error .connectionError))

/-- The except clause of the retry loop: a lost connection drops the client and
either pauses or gives up; any other failure leaves `publish`. -/
def publishFailed (attempt : Nat) (failure : RedisFailure) (queue : EventQueue Payload) :
    EventQueue Payload × PublishProgress Payload :=
  if failure.isConnectionLoss then
    ({ queue with redis := false },
      if attempt < maxRetries - 1 then .suspended (.sleeping attempt)
      else .finished (.error .connectionError))
  else (queue, .finished (.error (.redis failure)))

/-- `EventQueue.publish`. The entry id is the position in the stream. -/
def publish :
    Coroutine (EventQueue Payload) Event (PublishPoint Payload) RedisReply (Except Raised Nat) where
  enter queue event := queue.attemptPublish toJsonStr event 0
  resume queue event point reply :=
    match point, reply with
    | .connecting attempt, .answered =>
      (queue.log (.xgroupCreate reply)).send toJsonStr event attempt
    | .connecting attempt, .failed failure _ =>
      if failure.isBusyGroup then (queue.log (.xgroupCreate reply)).send toJsonStr event attempt
      else (queue.log (.xgroupCreate reply)).publishFailed attempt failure
    | .adding _ payload, .answered =>
      ((queue.log (.xadd reply)).append payload, .finished (.ok queue.entries.length))
    | .adding attempt payload, .failed failure executed =>
      let logged := queue.log (.xadd reply)
      (if executed then logged.append payload else logged).publishFailed attempt failure
    | .sleeping attempt, _ => queue.attemptPublish toJsonStr event (attempt + 1)

/-- Handling a failed command drops the client exactly when the connection was
lost, and ends in a pause, a builtin `ConnectionError` or the failure itself. -/
theorem publishFailed_cases (attempt : Nat) (failure : RedisFailure) (queue : EventQueue Payload) :
    (failure.isConnectionLoss = true ∧
      (queue.publishFailed attempt failure).1 = { queue with redis := false } ∧
      ((attempt < maxRetries - 1 ∧
          (queue.publishFailed attempt failure).2 = .suspended (.sleeping attempt)) ∨
        (queue.publishFailed attempt failure).2 = .finished (.error .connectionError))) ∨
    (failure.isConnectionLoss = false ∧
      queue.publishFailed attempt failure = (queue, .finished (.error (.redis failure)))) := by
  unfold publishFailed
  cases lost : failure.isConnectionLoss with
  | false => simp
  | true =>
    by_cases again : attempt < maxRetries - 1
    · simp [again]
    · simp [again]

/-- How often a publish at this await can still be answered: three times in
each attempt it has left. -/
def weight : PublishProgress Payload → Nat
  | .finished _ => 0
  | .suspended (.connecting attempt) => 3 * (maxRetries - attempt) + 3
  | .suspended (.adding attempt _) => 3 * (maxRetries - attempt) + 2
  | .suspended (.sleeping attempt) => 3 * (maxRetries - attempt) + 1

/-- The weight counts the awaits that are left: three for each further attempt, and
fewer within one. Sending leaves fewer than a whole attempt. -/
theorem send_weight (event : Event) (attempt : Nat) (queue : EventQueue Payload) :
    weight (queue.send toJsonStr event attempt).2 < 3 * (maxRetries - attempt) + 3 := by
  unfold send
  repeat' split
  all_goals simp [weight]

/-- A whole attempt has at most three, for it may have to connect first, and a pause
may follow it. -/
theorem attempt_weight (event : Event) (attempt : Nat) (queue : EventQueue Payload) :
    weight (queue.attemptPublish toJsonStr event attempt).2 ≤ 3 * (maxRetries - attempt) + 3 := by
  unfold attemptPublish
  split
  · split
    · exact Nat.le_of_lt (send_weight toJsonStr event attempt queue)
    · exact Nat.le_refl _
  · simp [weight]

/-- After a failure there is one attempt less, so every answer lowers the weight.
This is why a publication ends. -/
theorem failed_weight (attempt : Nat) (failure : RedisFailure) (queue : EventQueue Payload) :
    weight (queue.publishFailed attempt failure).2 < 3 * (maxRetries - attempt) + 2 := by
  rcases publishFailed_cases attempt failure queue with ⟨_, _, ⟨_, paused⟩ | raised⟩ | ⟨_, left⟩
  · simp [paused, weight]
  · simp [raised, weight]
  · simp [left, weight]

/-- Every segment of a publish brings it closer to its end: an attempt goes
from its reconnect to its append to its pause, and a pause to a later attempt. -/
theorem publish_decreases (event : Event) (queue : EventQueue Payload)
    (point : PublishPoint Payload) (reply : RedisReply) :
    weight ((publish toJsonStr).resume queue event point reply).2 < weight (.suspended point) := by
  cases point with
  | connecting attempt =>
    cases reply with
    | answered => exact send_weight toJsonStr event attempt _
    | failed failure executed =>
      cases busy : failure.isBusyGroup with
      | true =>
        simp only [publish, busy]
        exact send_weight toJsonStr event attempt _
      | false =>
        simp only [publish, busy]
        exact Nat.lt_succ_of_lt (failed_weight attempt failure _)
  | adding attempt payload =>
    cases reply with
    | answered => simp [publish, weight]
    | failed failure executed => exact failed_weight attempt failure _
  | sleeping attempt =>
    by_cases attempts : attempt + 1 < maxRetries
    · have bounded := attempt_weight toJsonStr event (attempt + 1) queue
      show weight (queue.attemptPublish toJsonStr event (attempt + 1)).2 <
        3 * (maxRetries - attempt) + 1
      omega
    · simp [publish, attemptPublish, attempts, weight]

end EventQueue

end Honeywatch.Collector
