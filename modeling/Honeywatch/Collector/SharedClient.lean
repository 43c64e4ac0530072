import Honeywatch.Collector.Publish

/-!
# Any number of publishers on one client

The pool of `publish` calls interleaves them at their awaits. The client is
kept for every reconnect in flight as long as no lost connection is handled
while another call is suspended in its reconnect. Under that order every call
that ends has returned an entry id or raised the builtin `ConnectionError`; a
schedule that breaks the order reaches the failing assertion with one answer.
-/

namespace Honeywatch.Collector.SharedClient

open Cooperative Transition EventQueue

variable {Event Payload : Type}

/-- A pool of publishers over one queue. -/
abbrev Publishers (Event Payload : Type) :=
  Pool (EventQueue Payload) Event (PublishPoint Payload) (Except Raised Nat)

/-- Suspended in `connect`, awaiting the group creation. -/
def isConnecting (call : Call Event (PublishPoint Payload) (Except Raised Nat)) : Bool :=
  match call.progress with
  | .suspended (.connecting _) => true
  | _ => false

/-- The answer loses the connection of the call that awaits it. -/
def losesConnection : PublishPoint Payload → RedisReply → Bool
  | .sleeping _, _ => false
  | _, .answered => false
  | _, .failed failure _ => failure.isConnectionLoss

/-- Redis answers, or the connection is lost, or a reconnect learns that the
group exists: the answers of a Redis that fails by its connection only. -/
def isConnectionPattern : PublishPoint Payload → RedisReply → Bool
  | .sleeping _, _ => true
  | _, .answered => true
  | .connecting _, .failed failure _ => failure.isConnectionLoss || failure.isBusyGroup
  | .adding _ _, .failed failure _ => failure.isConnectionLoss

/-- What an ending publish promises its caller. -/
def Promised (result : Except Raised Nat) : Prop :=
  (∃ entryId, result = .ok entryId) ∨ result = .error .connectionError

/-- Every event serializes and Redis fails by its connection only. -/
def failsByConnection (toJsonStr : Event → Option Payload) (state : Publishers Event Payload) :
    Move Event RedisReply → Bool
  | .call event => (toJsonStr event).isSome
  | .reply index reply =>
    match state.calls[index]? with
    | some ⟨_, .suspended point⟩ => isConnectionPattern point reply
    | _ => true

/-- No lost connection is handled while another publish is in its reconnect. -/
def sparesReconnects (state : Publishers Event Payload) : Move Event RedisReply → Bool
  | .call _ => true
  | .reply index reply =>
    match state.calls[index]? with
    | some ⟨_, .suspended point⟩ =>
      !losesConnection point reply || (state.calls.eraseIdx index).all (!isConnecting ·)
    | _ => true

/-- The order under which the shared client is safe. -/
def orderly (toJsonStr : Event → Option Payload) (state : Publishers Event Payload)
    (move : Move Event RedisReply) : Bool :=
  failsByConnection toJsonStr state move && sparesReconnects state move

variable (toJsonStr : Event → Option Payload)

/-- With a client in place, a serializable event is sent, and the publish awaits the
answer with its payload at hand. -/
theorem send_suspends (event : Event) (attempt : Nat) (queue : EventQueue Payload)
    (serializes : (toJsonStr event).isSome) (client : queue.redis = true) :
    ∃ payload, toJsonStr event = some payload ∧
      queue.send toJsonStr event attempt =
        (queue.log (.toJsonStr true), .suspended (.adding attempt payload)) := by
  obtain ⟨payload, serialized⟩ := Option.isSome_iff_exists.mp serializes
  exact ⟨payload, serialized, by simp [send, client, serialized]⟩

/-- An attempt keeps a client it finds, stores one before it reconnects, and
ends only when the attempts are used up. -/
theorem attempt_kept (event : Event) (attempt : Nat) (queue : EventQueue Payload)
    (serializes : (toJsonStr event).isSome) :
    (queue.redis = true → (queue.attemptPublish toJsonStr event attempt).1.redis = true) ∧
    (isConnecting ⟨event, (queue.attemptPublish toJsonStr event attempt).2⟩ = true →
      (queue.attemptPublish toJsonStr event attempt).1.redis = true) ∧
    (∀ result, (queue.attemptPublish toJsonStr event attempt).2 = .finished result →
      Promised result) := by
  unfold attemptPublish
  by_cases remaining : attempt < maxRetries
  · cases client : queue.redis with
    | false => simp [remaining]
    | true =>
      obtain ⟨payload, _, sent⟩ := send_suspends toJsonStr event attempt queue serializes client
      simp [remaining, client, sent, isConnecting]
  · simp only [remaining, if_false]
    refine ⟨id, by simp [isConnecting], ?_⟩
    rintro result ended
    cases ended
    exact .inr rfl

/-- A handled failure suspends nobody in a reconnect; when the connection was
lost the call pauses or raises what it promises. -/
theorem failed_kept (event : Event) (attempt : Nat) (failure : RedisFailure)
    (queue : EventQueue Payload) (lost : failure.isConnectionLoss = true) :
    isConnecting ⟨event, (queue.publishFailed attempt failure).2⟩ = false ∧
    (∀ result, (queue.publishFailed attempt failure).2 = .finished result → Promised result) := by
  rcases publishFailed_cases attempt failure queue with ⟨_, _, ⟨_, paused⟩ | raised⟩ | ⟨kept, _⟩
  · simp [paused, isConnecting]
  · simp only [raised, isConnecting, Progress.finished.injEq, true_and]
    rintro result rfl
    exact .inr rfl
  · simp [lost] at kept

/-- One segment of one call. Its own reconnect finds the client by hypothesis;
the client is dropped only by a lost connection. -/
theorem resume_kept (event : Event) (queue : EventQueue Payload) (point : PublishPoint Payload)
    (reply : RedisReply) (serializes : (toJsonStr event).isSome)
    (pattern : isConnectionPattern point reply = true)
    (client : isConnecting (⟨event, .suspended point⟩ :
      Call Event (PublishPoint Payload) (Except Raised Nat)) = true → queue.redis = true) :
    let resumed := (publish toJsonStr).resume queue event point reply
    (queue.redis = true → losesConnection point reply = false → resumed.1.redis = true) ∧
    (isConnecting ⟨event, resumed.2⟩ = true → resumed.1.redis = true) ∧
    (∀ result, resumed.2 = .finished result → Promised result) := by
  intro resumed
  cases point with
  | connecting attempt =>
    have present : queue.redis = true := client rfl
    cases reply with
    | answered =>
      obtain ⟨payload, _, sent⟩ := send_suspends toJsonStr event attempt
        (queue.log (.xgroupCreate .answered)) serializes present
      simp [resumed, publish, sent, isConnecting, present]
    | failed failure executed =>
      cases busy : failure.isBusyGroup with
      | true =>
        obtain ⟨payload, _, sent⟩ := send_suspends toJsonStr event attempt
          (queue.log (.xgroupCreate (.failed failure executed))) serializes present
        simp [resumed, publish, busy, sent, isConnecting, present]
      | false =>
        have lost : failure.isConnectionLoss = true := by
          simpa [isConnectionPattern, busy] using pattern
        obtain ⟨elsewhere, promised⟩ := failed_kept event attempt failure
          (queue.log (.xgroupCreate (.failed failure executed))) lost
        simp only [resumed, publish, busy]
        exact ⟨by simp [losesConnection, lost], by simp [elsewhere], promised⟩
  | adding attempt payload =>
    cases reply with
    | answered =>
      refine ⟨fun present _ => present, by simp [resumed, publish, isConnecting], ?_⟩
      intro result ended
      simp only [resumed, publish, Progress.finished.injEq] at ended
      exact .inl ⟨_, ended.symm⟩
    | failed failure executed =>
      have lost : failure.isConnectionLoss = true := by
        simpa [isConnectionPattern] using pattern
      simp only [resumed, publish]
      obtain ⟨elsewhere, promised⟩ := failed_kept event attempt failure
        (if executed then (queue.log (.xadd (.failed failure executed))).append payload
          else queue.log (.xadd (.failed failure executed))) lost
      exact ⟨by simp [losesConnection, lost], by simp [elsewhere], promised⟩
  | sleeping attempt =>
    obtain ⟨kept, stored, promised⟩ := attempt_kept toJsonStr event (attempt + 1) queue serializes
    exact ⟨fun present _ => kept present, stored, promised⟩

/-- The client is present whenever some call is in its reconnect, every event
in the pool serializes, and every ended call has kept its promise. -/
structure ClientKept (state : Publishers Event Payload) : Prop where
  client : ∀ call ∈ state.calls, isConnecting call = true → state.shared.redis = true
  serializes : ∀ call ∈ state.calls, (toJsonStr call.argument).isSome
  promised : ∀ call ∈ state.calls, ∀ result, call.progress = .finished result → Promised result

/-- An orderly step keeps the client for every reconnect in flight. For the
call that moves this is its own segment; for the others the client is dropped
only when none of them is in its reconnect. -/
theorem orderly_step (state next : Publishers Event Payload) (move : Move Event RedisReply)
    (kept : ClientKept toJsonStr state) (order : orderly toJsonStr state move = true)
    (taken : (publish toJsonStr).pool.step state move = some next) :
    ClientKept toJsonStr next := by
  obtain ⟨pattern, spared⟩ := Bool.and_eq_true_iff.mp order
  cases move with
  | call event =>
    rw [Coroutine.pool_call] at taken
    subst taken
    obtain ⟨still, stored, promised⟩ :=
      attempt_kept toJsonStr event 0 state.shared pattern
    refine ⟨?_, ?_, ?_⟩
    · intro call member connecting
      rcases List.mem_append.mp member with earlier | new
      · exact still (kept.client call earlier connecting)
      · rw [List.mem_singleton.mp new] at connecting
        exact stored connecting
    · intro call member
      rcases List.mem_append.mp member with earlier | new
      · exact kept.serializes call earlier
      · exact (List.mem_singleton.mp new) ▸ pattern
    · intro call member result ended
      rcases List.mem_append.mp member with earlier | new
      · exact kept.promised call earlier result ended
      · rw [List.mem_singleton.mp new] at ended
        exact promised result ended
  | reply index reply =>
    obtain ⟨before, after, event, point, rfl, split, rfl⟩ :=
      Coroutine.pool_reply _ state next index reply taken
    obtain ⟨found, others⟩ := Coroutine.at_split split
    simp only [failsByConnection, found] at pattern
    simp only [sparesReconnects, found, others] at spared
    have current : (⟨event, .suspended point⟩ : Call Event (PublishPoint Payload) _) ∈
        state.calls := by simp [split]
    have elsewhere : ∀ call ∈ before ++ after, call ∈ state.calls := by
      intro call member
      rw [split]
      rcases List.mem_append.mp member with earlier | later
      · exact List.mem_append_left _ earlier
      · exact List.mem_append_right _ (List.mem_cons_of_mem _ later)
    obtain ⟨still, stored, promised⟩ := resume_kept toJsonStr event state.shared point reply
      (kept.serializes _ current) pattern (kept.client _ current)
    have cases_of_member : ∀ call ∈ before ++
        (⟨event, ((publish toJsonStr).resume state.shared event point reply).2⟩ :
          Call Event (PublishPoint Payload) _) :: after,
        call = ⟨event, ((publish toJsonStr).resume state.shared event point reply).2⟩ ∨
          call ∈ before ++ after := by
      intro call member
      simp only [List.mem_append, List.mem_cons] at member ⊢
      tauto
    refine ⟨?_, ?_, ?_⟩
    · intro call member connecting
      rcases cases_of_member call member with rfl | other
      · exact stored connecting
      · have present := kept.client call (elsewhere call other) connecting
        cases lost : losesConnection point reply with
        | false => exact still present lost
        | true =>
          have none_connecting : (before ++ after).all (!isConnecting ·) = true := by
            simpa [lost] using spared
          have absent := List.all_eq_true.mp none_connecting call other
          simp [connecting] at absent
    · intro call member
      rcases cases_of_member call member with rfl | other
      · exact kept.serializes ⟨event, .suspended point⟩ current
      · exact kept.serializes call (elsewhere call other)
    · intro call member result ended
      rcases cases_of_member call member with rfl | other
      · exact promised result ended
      · exact kept.promised call (elsewhere call other) result ended

/-- Publishers that have not been called yet. -/
def idle (redis : Bool) (entries : List Payload) : Publishers Event Payload :=
  { shared := { redis := redis, entries := entries, record := [] }, calls := [] }

/-- In every orderly run, whatever the number of publishers and their
interleaving, every publish that has ended returned an entry id or raised the
builtin `ConnectionError`, and every publish ends after at most eighteen answers. -/
theorem orderly_publish_promises (redis : Bool) (entries : List Payload)
    (schedule : List (Move Event RedisReply)) (final : Publishers Event Payload)
    (order : (publish toJsonStr).pool.Admitted
      (fun state move => orderly toJsonStr state move = true) (idle redis entries) schedule)
    (reached : (publish toJsonStr).pool.run (idle redis entries) schedule = some final) :
    (∀ call ∈ final.calls, ∀ result, call.progress = .finished result →
      (∃ entryId, result = .ok entryId) ∨ result = .error .connectionError) ∧
    (∀ index, schedule.countP (Move.answers index) ≤ 18) := by
  have initially : ClientKept toJsonStr (idle redis entries) :=
    ⟨by simp [idle], by simp [idle], by simp [idle]⟩
  constructor
  · exact ((publish toJsonStr).pool.admitted_invariant _ (ClientKept toJsonStr)
      (fun state move next kept order taken =>
        orderly_step toJsonStr state next move kept order taken)
      _ final schedule initially order reached).promised
  · intro index
    have bounded := (publish toJsonStr).pool_answers weight 18
      (fun queue event => attempt_weight toJsonStr event 0 queue)
      (fun queue event point reply => publish_decreases toJsonStr event queue point reply)
      index _ final schedule reached
    have initial : Coroutine.remaining weight 18
      (idle redis entries : Publishers Event Payload) index = 18 := rfl
    omega

/-- Two publishers, the second of which loses its connection and reconnects
after the first has returned. -/
theorem orderly_publish_promises_reconnect :
    ∃ final : Publishers Nat Nat, ∀ call ∈ final.calls, ∀ result,
      call.progress = .finished result →
        (∃ entryId, result = .ok entryId) ∨ result = .error .connectionError :=
  ⟨_, (orderly_publish_promises some true []
    [.call 1, .call 2, .reply 0 .answered, .reply 1 (.failed .connectionError false),
      .reply 1 .answered, .reply 1 .answered, .reply 1 .answered] _
    ((System.admits_iff _ (orderly some) _ _).mp (by decide)) rfl).1⟩

/-- Two publishers on one client, one of them retrying: the first loses the
connection, wakes and reconnects; the second loses its connection on the old
client and clears the new one; the first learns that the group exists and its
assertion fails. Redis only ever failed by its connection. -/
theorem reconnect_asserts :
    ∃ (schedule : List (Move Nat RedisReply)) (final : Publishers Nat Nat),
      (publish some).pool.Admitted (fun state move => failsByConnection some state move = true)
        (idle true []) schedule ∧
      (publish some).pool.run (idle true []) schedule = some final ∧
      ∃ call ∈ final.calls, call.progress = .finished (.error .assertionError) := by
  refine ⟨[.call 1, .call 2, .reply 0 (.failed .connectionError false), .reply 0 .answered,
    .reply 1 (.failed .connectionError false),
    .reply 0 (.failed (.responseError (Text.literal "BUSYGROUP")) false)], _, ?_, rfl, ?_⟩
  · rw [← System.admits_iff]
    decide
  · exact ⟨⟨1, .finished (.error .assertionError)⟩, by decide, rfl⟩

/-- A lost connection clears the client, at whichever of its awaits the publish
hears of it, so that the next attempt of any task reconnects. -/
theorem loss_clears (event : Event) (queue : EventQueue Payload) (point : PublishPoint Payload)
    (reply : RedisReply) (lost : losesConnection point reply = true) :
    ((publish toJsonStr).resume queue event point reply).1.redis = false := by
  have cleared (attempt : Nat) (failure : RedisFailure) (at_failure : EventQueue Payload)
      (loss : failure.isConnectionLoss = true) :
      (at_failure.publishFailed attempt failure).1.redis = false := by
    simp [publishFailed, loss]
  cases point with
  | connecting attempt =>
    cases reply with
    | answered => simp [losesConnection] at lost
    | failed failure executed =>
      have loss : failure.isConnectionLoss = true := lost
      simp only [publish, loss_not_busy failure loss]
      exact cleared attempt failure _ loss
  | adding attempt payload =>
    cases reply with
    | answered => simp [losesConnection] at lost
    | failed failure executed =>
      simp only [publish]
      exact cleared attempt failure _ lost
  | sleeping attempt => simp [losesConnection] at lost

/-- Without a client, the answer that completes a reconnect fails the assertion. -/
theorem cleared_asserts (event : Event) (queue : EventQueue Payload) (attempt : Nat)
    (cleared : queue.redis = false) :
    ((publish toJsonStr).resume queue event (.connecting attempt) .answered).2 =
      .finished (.error .assertionError) := by
  simp [publish, send, cleared]

/-- The order is needed: once a lost connection is handled while another call
is in its reconnect, the answer that completes that reconnect fails the
assertion. -/
theorem disorder_asserts (state next : Publishers Event Payload) (index : Nat)
    (reply : RedisReply) (disorder : sparesReconnects state (.reply index reply) = false)
    (taken : (publish toJsonStr).pool.step state (.reply index reply) = some next) :
    ∃ other failed, ∃ call ∈ failed.calls,
      (publish toJsonStr).pool.step next (.reply other .answered) = some failed ∧
      call.progress = .finished (.error .assertionError) := by
  obtain ⟨before, after, event, point, rfl, split, rfl⟩ :=
    Coroutine.pool_reply _ state next index reply taken
  obtain ⟨found, others⟩ := Coroutine.at_split split
  simp only [sparesReconnects, found, others, Bool.or_eq_false_iff, Bool.not_eq_false',
    List.all_eq_false] at disorder
  obtain ⟨lost, ⟨waiting, progress⟩, member, connecting⟩ := disorder
  have cleared := loss_clears toJsonStr event state.shared point reply lost
  obtain ⟨attempt, rfl⟩ : ∃ attempt, progress = .suspended (.connecting attempt) := by
    cases progress with
    | finished result => simp [isConnecting] at connecting
    | suspended at_point =>
      cases at_point with
      | connecting attempt => exact ⟨attempt, rfl⟩
      | adding attempt payload => simp [isConnecting] at connecting
      | sleeping attempt => simp [isConnecting] at connecting
  have present : (⟨waiting, .suspended (.connecting attempt)⟩ :
      Call Event (PublishPoint Payload) (Except Raised Nat)) ∈
        before ++ ⟨event, ((publish toJsonStr).resume state.shared event point reply).2⟩ ::
          after := by
    simp only [List.mem_append, List.mem_cons] at member ⊢
    tauto
  obtain ⟨other, position⟩ := List.mem_iff_getElem?.mp present
  obtain ⟨left, right, _, _, replaced⟩ := Coroutine.split_at _ other _ position
  refine ⟨other, _, ⟨waiting, .finished (.error .assertionError)⟩, ?_,
    by simp only [Coroutine.pool, position]; rfl, rfl⟩
  simp only [replaced, cleared_asserts toJsonStr waiting _ attempt cleared]
  exact List.mem_append_right _ List.mem_cons_self

end Honeywatch.Collector.SharedClient
