import Honeywatch.Collector.Publish

/-!
# A publish that runs alone

Without other publishers the client a publish has checked is the client it
uses. It then returns with its entry in the stream, raises the builtin
`ConnectionError`, or lets out the one failure that no except clause names; the
record of its library calls tells which. When in addition no append is executed
that Redis then reports as failed, it keeps the contract under which the
honeypot's buffer is analysed: one entry and a return, or no entry and
`ConnectionError`.
-/

namespace Honeywatch.Collector

open Cooperative

variable {Event Payload : Type}

/-- The outcome of a library call that `publish` deals with itself. -/
def LibraryCall.handled : LibraryCall → Bool
  | .xgroupCreate .answered => true
  | .xgroupCreate (.failed failure _) => failure.isBusyGroup || failure.isConnectionLoss
  | .toJsonStr succeeded => succeeded
  | .xadd .answered => true
  | .xadd (.failed failure _) => failure.isConnectionLoss

/-- The call is no append that was executed and then reported as failed. -/
def LibraryCall.clean : LibraryCall → Bool
  | .xadd (.failed _ executed) => !executed
  | _ => true

namespace EventQueue

/-- All recorded calls were handled. -/
def Handled (queue : EventQueue Payload) : Prop :=
  ∀ call ∈ queue.record, call.handled = true

/-- No recorded append was executed and reported as failed. -/
def Clean (queue : EventQueue Payload) : Prop :=
  ∀ call ∈ queue.record, call.clean = true

/-- Every failure was one that `publish` handles, up to and including the latest
call. -/
@[simp] theorem handled_log (queue : EventQueue Payload) (call : LibraryCall) :
    (queue.log call).Handled ↔ queue.Handled ∧ call.handled = true := by
  simp only [Handled, log, List.forall_mem_append, List.forall_mem_singleton]

/-- Every call was answered, up to and including the latest one. -/
@[simp] theorem clean_log (queue : EventQueue Payload) (call : LibraryCall) :
    (queue.log call).Clean ↔ queue.Clean ∧ call.clean = true := by
  simp only [Clean, log, List.forall_mem_append, List.forall_mem_singleton]

/-- An append says nothing about failures, -/
@[simp] theorem handled_append (queue : EventQueue Payload) (payload : Payload) :
    (queue.append payload).Handled ↔ queue.Handled := Iff.rfl

/-- in either sense. -/
@[simp] theorem clean_append (queue : EventQueue Payload) (payload : Payload) :
    (queue.append payload).Clean ↔ queue.Clean := Iff.rfl

/-- It adds one entry at the end. -/
@[simp] theorem append_entries (queue : EventQueue Payload) (payload : Payload) :
    (queue.append payload).entries = queue.entries ++ [payload] := rfl

variable (toJsonStr : Event → Option Payload)

/-- What a publish running alone has done when it stands here. `entries` is the
stream at its start. -/
def Alone (event : Event) (entries : List Payload) (queue : EventQueue Payload) :
    PublishProgress Payload → Prop
  | .suspended (.connecting _) =>
    queue.Handled ∧ queue.redis = true ∧ (queue.Clean → queue.entries = entries)
  | .suspended (.adding _ payload) =>
    queue.Handled ∧ toJsonStr event = some payload ∧ (queue.Clean → queue.entries = entries)
  | .suspended (.sleeping _) => queue.Handled ∧ (queue.Clean → queue.entries = entries)
  | .finished (.ok _) =>
    queue.Handled ∧ ∃ payload, toJsonStr event = some payload ∧ payload ∈ queue.entries ∧
      (queue.Clean → queue.entries = entries ++ [payload])
  | .finished (.error raised) =>
    (raised = .connectionError ∧ queue.Handled ∧ (queue.Clean → queue.entries = entries)) ∨
      (raised.isOSError = false ∧ ¬ queue.Handled)

variable {toJsonStr} {event : Event} {entries : List Payload} {queue : EventQueue Payload}

/-- With a client, a send awaits the append unless the serializer fails, and nothing
has been appended yet in either case. -/
theorem send_alone (attempt : Nat) (client : queue.redis = true) (handled : queue.Handled)
    (unchanged : queue.Clean → queue.entries = entries) :
    Alone toJsonStr event entries (queue.send toJsonStr event attempt).1
      (queue.send toJsonStr event attempt).2 := by
  simp only [send, client, if_true]
  split
  · exact .inr ⟨rfl, by simp [LibraryCall.handled]⟩
  · next payload serialized =>
    exact ⟨by simp [handled, LibraryCall.handled], serialized, by simpa [LibraryCall.clean]⟩

/-- An attempt sends, reconnects, or gives up, according to whether the queue has a
client and to whether an attempt is left. -/
theorem attempt_alone (attempt : Nat) (handled : queue.Handled)
    (unchanged : queue.Clean → queue.entries = entries) :
    Alone toJsonStr event entries (queue.attemptPublish toJsonStr event attempt).1
      (queue.attemptPublish toJsonStr event attempt).2 := by
  unfold attemptPublish
  split
  · split
    · next client => exact send_alone attempt client handled unchanged
    · exact ⟨handled, rfl, unchanged⟩
  · exact .inl ⟨rfl, handled, unchanged⟩

/-- A lost connection is handled; any other failure leaves the publish. In the first
case the next attempt follows after its delay, in the second nothing has been
appended. -/
theorem failed_alone (attempt : Nat) (failure : RedisFailure)
    (handled : failure.isConnectionLoss = true → queue.Handled)
    (unhandled : failure.isConnectionLoss = false → ¬ queue.Handled)
    (unchanged : queue.Clean → queue.entries = entries) :
    Alone toJsonStr event entries (queue.publishFailed attempt failure).1
      (queue.publishFailed attempt failure).2 := by
  rcases publishFailed_cases attempt failure queue with
    ⟨lost, dropped, ⟨_, paused⟩ | raised⟩ | ⟨kept, left⟩
  · rw [dropped, paused]
    exact ⟨handled lost, unchanged⟩
  · rw [dropped, raised]
    exact .inl ⟨rfl, handled lost, unchanged⟩
  · rw [left]
    refine .inr ⟨?_, unhandled kept⟩
    cases failure <;> simp_all [Raised.isOSError, RedisFailure.isConnectionLoss]

/-- Every segment of a publish running alone. Between two segments nobody else uses
the queue, so what one left is what the next one finds. -/
theorem resume_alone (point : PublishPoint Payload) (reply : RedisReply)
    (alone : Alone toJsonStr event entries queue (.suspended point)) :
    Alone toJsonStr event entries ((publish toJsonStr).resume queue event point reply).1
      ((publish toJsonStr).resume queue event point reply).2 := by
  cases point with
  | connecting attempt =>
    obtain ⟨handled, client, unchanged⟩ := alone
    cases reply with
    | answered =>
      exact send_alone attempt client (by simp [handled, LibraryCall.handled])
        (by simpa [LibraryCall.clean])
    | failed failure executed =>
      cases busy : failure.isBusyGroup with
      | true =>
        simp only [publish, busy, if_true]
        exact send_alone attempt client (by simp [handled, LibraryCall.handled, busy])
          (by simpa [LibraryCall.clean])
      | false =>
        simp only [publish, busy]
        exact failed_alone attempt failure
          (fun lost => by simp [handled, LibraryCall.handled, lost])
          (fun kept => by simp [LibraryCall.handled, busy, kept]) (by simpa [LibraryCall.clean])
  | adding attempt payload =>
    obtain ⟨handled, serialized, unchanged⟩ := alone
    cases reply with
    | answered =>
      simp only [publish, Alone, handled_append, handled_log, clean_append, clean_log,
        append_entries, log_entries]
      refine ⟨⟨handled, rfl⟩, payload, serialized, by simp, ?_⟩
      rintro ⟨clean, _⟩
      rw [unchanged clean]
    | failed failure executed =>
      cases executed with
      | true =>
        exact failed_alone attempt failure
          (fun lost => by simp [handled, LibraryCall.handled, lost])
          (fun kept => by simp [LibraryCall.handled, kept])
          (fun clean => by simp [LibraryCall.clean] at clean)
      | false =>
        exact failed_alone attempt failure
          (fun lost => by simp [handled, LibraryCall.handled, lost])
          (fun kept => by simp [LibraryCall.handled, kept]) (by simpa [LibraryCall.clean])
  | sleeping attempt => exact attempt_alone (attempt + 1) alone.1 alone.2

/-- The contract of the queue, for a publish that runs alone and whatever its
awaits are answered: with every call handled and no append both executed and
reported as failed, one entry is appended and the publish returns, or none is
and it raises the builtin `ConnectionError`. -/
theorem publish_contract (event : Event) (redis : Bool) (entries : List Payload)
    (answers : List RedisReply) (final : EventQueue Payload) (result : Except Raised Nat)
    (driven : (publish toJsonStr).complete { redis, entries, record := [] } event answers =
      some (final, result))
    (handled : final.Handled) (clean : final.Clean) :
    (∃ entryId payload, result = .ok entryId ∧ toJsonStr event = some payload ∧
      final.entries = entries ++ [payload]) ∨
    (result = .error .connectionError ∧ final.entries = entries) := by
  have alone := (publish toJsonStr).drive_invariant event
    (Alone toJsonStr event entries) (fun queue point reply => resume_alone point reply)
    _ final _ result answers
    (attempt_alone 0 (fun _ member => absurd member List.not_mem_nil) fun _ => rfl) driven
  cases result with
  | ok entryId =>
    obtain ⟨_, payload, serialized, _, appended⟩ := alone
    exact .inl ⟨entryId, payload, rfl, serialized, appended clean⟩
  | error raised =>
    rcases alone with ⟨rfl, _, unchanged⟩ | ⟨_, unhandled⟩
    · exact .inr ⟨rfl, unchanged clean⟩
    · exact absurd handled unhandled

end EventQueue

end Honeywatch.Collector
