import Honeywatch.Collector.SharedClient
import Honeywatch.Honeypot.EmitTotal

/-!
# What one answer does to a task

An answer to a task of a honeypot adds to the stream, if anything. The buffer it
leaves alone, unless a flush pops after its publish returned or an emit buffers
its event after its publish gave up. An emit that returns leaves its event in
the stream or in the buffer; it raises only after an answer that the queue does
not handle, a reconnect that finds the shared client gone, or a pop from an
empty buffer. Nothing is assumed about the other tasks of the honeypot.
-/

namespace Honeywatch.Honeypot

open Cooperative Collector EventQueue SharedClient

variable {Event Payload : Type} (toJsonStr : Event → Option Payload)

/-- The publish has the serialization of its event at hand, or can obtain it. -/
def Sends (event : Event) : PublishPoint Payload → Prop
  | .connecting _ => (toJsonStr event).isSome
  | .adding _ payload => toJsonStr event = some payload
  | .sleeping _ => (toJsonStr event).isSome

/-- The answer is one that the queue handles, and a reconnect that goes on finds
the client it has stored. -/
def handles (queue : EventQueue Payload) : PublishPoint Payload → RedisReply → Bool
  | .connecting attempt, reply =>
    isConnectionPattern (.connecting attempt : PublishPoint Payload) reply &&
      (losesConnection (.connecting attempt : PublishPoint Payload) reply || queue.redis)
  | point, reply => isConnectionPattern point reply

/-- The answer uses up the attempts of the publish. -/
def givesUp : PublishPoint Payload → RedisReply → Bool
  | .connecting attempt, reply =>
    losesConnection (.connecting attempt : PublishPoint Payload) reply &&
      decide (maxRetries ≤ attempt + 1)
  | .adding attempt payload, reply =>
    losesConnection (.adding attempt payload) reply && decide (maxRetries ≤ attempt + 1)
  | .sleeping attempt, _ => decide (maxRetries ≤ attempt + 1)

/-- What an answered append leaves in the stream. -/
def appends : PublishPoint Payload → RedisReply → List Payload
  | .adding _ payload, .answered => [payload]
  | .adding _ payload, .failed _ executed => if executed then [payload] else []
  | _, _ => []

/-- A publish after one answer. -/
structure PublishAnswered (event : Event) (queue : EventQueue Payload)
    (point : PublishPoint Payload) (reply : RedisReply) (after : EventQueue Payload)
    (progress : PublishProgress Payload) : Prop where
  entries : after.entries = queue.entries ++ appends point reply
  sends : ∀ next, progress = .suspended next → Sends toJsonStr event next
  returned : ∀ entryId, progress = .finished (.ok entryId) →
    ∃ attempt payload, point = .adding attempt payload ∧ reply = .answered
  raised : ∀ raised, progress = .finished (.error raised) →
    if raised.isOSError then givesUp point reply = true else handles queue point reply = false

variable {toJsonStr}

/-- A publication that is under way is one of an event that can be serialized. -/
theorem Sends.serializes {event : Event} {point : PublishPoint Payload}
    (sends : Sends toJsonStr event point) : (toJsonStr event).isSome := by
  cases point with
  | connecting attempt => exact sends
  | adding attempt payload => exact Option.isSome_iff_exists.mpr ⟨payload, sends⟩
  | sleeping attempt => exact sends

/-- An attempt that is left suspends without an entry, in a reconnect or with its
command sent. -/
theorem attempt_suspends {event : Event} (attempt : Nat) (queue : EventQueue Payload)
    (serializes : (toJsonStr event).isSome) (remaining : attempt < maxRetries) :
    (queue.attemptPublish toJsonStr event attempt).1.entries = queue.entries ∧
      ∃ point, (queue.attemptPublish toJsonStr event attempt).2 = .suspended point ∧
        Sends toJsonStr event point := by
  cases client : queue.redis with
  | false => exact ⟨by simp [attemptPublish, remaining, client],
      .connecting attempt, by simp [attemptPublish, remaining, client], serializes⟩
  | true =>
    obtain ⟨payload, serialized, sent⟩ := send_suspends toJsonStr event attempt queue serializes
      client
    simp only [attemptPublish, remaining, client, if_true, sent]
    exact ⟨rfl, _, rfl, serialized⟩

/-- The segment that serializes and sends. It ends at the await of the command, so
the stream is as it was. -/
theorem send_answered {event : Event} (attempt : Nat) (queue : EventQueue Payload)
    (call : LibraryCall) (reply : RedisReply) (serializes : (toJsonStr event).isSome)
    (goesOn : losesConnection (.connecting attempt : PublishPoint Payload) reply = false) :
    PublishAnswered toJsonStr event queue (.connecting attempt) reply
      ((queue.log call).send toJsonStr event attempt).1
      ((queue.log call).send toJsonStr event attempt).2 := by
  cases client : queue.redis with
  | false =>
    have asserts : (queue.log call).send toJsonStr event attempt =
        (queue.log call, .finished (.error .assertionError)) := by
      simp [send, client]
    rw [asserts]
    refine ⟨(List.append_nil _).symm, by simp, by simp, ?_⟩
    rintro _ ⟨rfl⟩
    simp [Raised.isOSError, handles, goesOn, client]
  | true =>
    obtain ⟨payload, serialized, sent⟩ := send_suspends toJsonStr event attempt (queue.log call)
      serializes client
    rw [sent]
    refine ⟨(List.append_nil _).symm, ?_, by simp, by simp⟩
    rintro _ ⟨rfl⟩
    exact serialized

/-- The segment that handles a failed command. A lost connection is retried or, with
the last attempt, raised as an `OSError`; any other failure leaves at once. -/
theorem failed_answered {event : Event} (attempt : Nat) (failure : RedisFailure)
    (queue logged : EventQueue Payload) (point : PublishPoint Payload) (reply : RedisReply)
    (serializes : (toJsonStr event).isSome)
    (kept : logged.entries = queue.entries ++ appends point reply)
    (lost : losesConnection point reply = failure.isConnectionLoss)
    (given : givesUp point reply = (failure.isConnectionLoss && decide (maxRetries ≤ attempt + 1)))
    (pattern : failure.isConnectionLoss = false → handles queue point reply = false) :
    PublishAnswered toJsonStr event queue point reply (logged.publishFailed attempt failure).1
      (logged.publishFailed attempt failure).2 := by
  unfold publishFailed
  cases loss : failure.isConnectionLoss with
  | false =>
    refine ⟨kept, by simp, by simp, ?_⟩
    rintro _ ⟨rfl⟩
    have other : (Raised.redis failure).isOSError = false := by
      cases failure <;> simp_all [Raised.isOSError, RedisFailure.isConnectionLoss]
    simpa [other] using pattern loss
  | true =>
    by_cases again : attempt < maxRetries - 1
    · simp only [if_true, again]
      refine ⟨kept, ?_, by simp, by simp⟩
      rintro _ ⟨rfl⟩
      exact serializes
    · simp only [if_true, again, if_false]
      refine ⟨kept, by simp, by simp, ?_⟩
      rintro _ ⟨rfl⟩
      simp only [Raised.isOSError, if_true, given, loss, Bool.true_and, decide_eq_true_eq]
      omega

/-- Every segment of a publish of an event that can be serialized. The cases are the
awaits at which it can stand, and each has its lemma above. -/
theorem publish_answered {event : Event} (queue : EventQueue Payload)
    (point : PublishPoint Payload) (reply : RedisReply) (sends : Sends toJsonStr event point) :
    PublishAnswered toJsonStr event queue point reply
      ((publish toJsonStr).resume queue event point reply).1
      ((publish toJsonStr).resume queue event point reply).2 := by
  have serializes := sends.serializes
  cases point with
  | connecting attempt =>
    cases reply with
    | answered => exact send_answered attempt queue _ .answered serializes rfl
    | failed failure executed =>
      cases busy : failure.isBusyGroup with
      | true =>
        have kept : failure.isConnectionLoss = false := by
          by_contra lost
          simp [loss_not_busy failure (by simpa using lost)] at busy
        simp only [publish, busy, if_true]
        exact send_answered attempt queue _ _ serializes kept
      | false =>
        simp only [publish, busy, Bool.false_eq_true, if_false]
        apply failed_answered attempt failure queue _ _ _ serializes ?_ rfl rfl
        · intro other
          simp [handles, isConnectionPattern, other, busy]
        · exact (List.append_nil _).symm
  | adding attempt payload =>
    cases reply with
    | answered =>
      refine ⟨rfl, by simp [publish], ?_, by simp [publish]⟩
      intro entryId _
      exact ⟨attempt, payload, rfl, rfl⟩
    | failed failure executed =>
      apply failed_answered attempt failure queue _ _ _ serializes ?_ rfl rfl
      · intro other
        simp [handles, isConnectionPattern, other]
      · cases executed with
        | false => exact (List.append_nil _).symm
        | true => rfl
  | sleeping attempt =>
    by_cases remaining : attempt + 1 < maxRetries
    · obtain ⟨kept, next, suspended, again⟩ := attempt_suspends (attempt + 1) queue serializes
        remaining
      simp only [publish, suspended]
      refine ⟨kept.trans (List.append_nil _).symm, ?_, by simp, by simp⟩
      rintro _ ⟨rfl⟩
      exact again
    · simp only [publish, attemptPublish, remaining, if_false]
      refine ⟨(List.append_nil _).symm, by simp, by simp, ?_⟩
      rintro _ ⟨rfl⟩
      simpa [Raised.isOSError, givesUp] using remaining

variable (toJsonStr)

/-- What a task awaits belongs to it, and its publish sends what it should. -/
def Awaits (task : Task Event) : TaskPoint Event (PublishPoint Payload) → Prop
  | .flushing head point => Sends toJsonStr head point
  | .publishing point => ∃ event, task = .emitEvent event ∧ Sends toJsonStr event point
  | .sleeping => task = .periodicFlush

/-- The answer is one that the task handles: the queue does, and a flush whose
publish returns finds something to pop. -/
def unharmed (memory : Queued Event Payload) :
    TaskPoint Event (PublishPoint Payload) → RedisReply → Bool
  | .flushing _ (.adding attempt payload), .answered =>
    handles memory.queue (.adding attempt payload) .answered && !memory.buffer.items.isEmpty
  | .flushing _ point, reply => handles memory.queue point reply
  | .publishing point, reply => handles memory.queue point reply
  | .sleeping, _ => true

/-- What the answer leaves in the stream. -/
def taskAppends : TaskPoint Event (PublishPoint Payload) → RedisReply → List Payload
  | .flushing _ point, reply => appends point reply
  | .publishing point, reply => appends point reply
  | .sleeping, _ => []

/-- What the answer does to the buffer. -/
inductive Rebuffers (memory : Queued Event Payload) (task : Task Event) :
    TaskPoint Event (PublishPoint Payload) → RedisReply → Queued Event Payload → Prop
  | kept (point : TaskPoint Event (PublishPoint Payload)) (reply : RedisReply)
      (after : Queued Event Payload) (same : after.buffer = memory.buffer) :
      Rebuffers memory task point reply after
  | popped (head oldest : Event) (attempt : Nat) (payload : Payload) (after : Queued Event Payload)
      (items : memory.buffer.items = oldest :: after.buffer.items) :
      Rebuffers memory task (.flushing head (.adding attempt payload)) .answered after
  | buffered (event : Event) (point : PublishPoint Payload) (reply : RedisReply)
      (after : Queued Event Payload) (own : task = .emitEvent event)
      (gaveUp : givesUp point reply = true)
      (appended : after.buffer = memory.buffer.append event) :
      Rebuffers memory task (.publishing point) reply after

/-- A task after one answer. -/
structure Answered (memory : Queued Event Payload) (task : Task Event)
    (point : TaskPoint Event (PublishPoint Payload)) (reply : RedisReply)
    (after : Queued Event Payload)
    (progress : Progress (TaskPoint Event (PublishPoint Payload)) (Except Raised Unit)) :
    Prop where
  entries : after.queue.entries = memory.queue.entries ++ taskAppends point reply
  buffer : Rebuffers memory task point reply after
  awaits : ∀ next, progress = .suspended next → Awaits toJsonStr task next
  returned : ∀ event, task = .emitEvent event → progress = .finished (.ok ()) →
    Recorded toJsonStr event after
  raised : ∀ raised, progress = .finished (.error raised) → unharmed memory point reply = false

variable {toJsonStr}

/-- What happens to the buffer is told by the buffer afterwards; the queue beside it
may differ. -/
theorem Rebuffers.congr {memory after other : Queued Event Payload} {task : Task Event}
    {point : TaskPoint Event (PublishPoint Payload)} {reply : RedisReply}
    (rebuffers : Rebuffers memory task point reply after) (buffer : other.buffer = after.buffer) :
    Rebuffers memory task point reply other := by
  cases rebuffers with
  | kept _ _ _ same => exact .kept _ _ _ (buffer.trans same)
  | popped head oldest attempt payload _ items =>
    exact .popped head oldest attempt payload _ (buffer ▸ items)
  | buffered event point reply _ own gaveUp appended =>
    exact .buffered event point reply _ own gaveUp (buffer.trans appended)

/-- A buffered event was buffered before or is the task's own, since only an emit
that gives up appends, and it appends its event. -/
theorem Rebuffers.buffered_before {memory after : Queued Event Payload} {task : Task Event}
    {point : TaskPoint Event (PublishPoint Payload)} {reply : RedisReply}
    (rebuffers : Rebuffers memory task point reply after) (event : Event)
    (member : event ∈ after.buffer.items) :
    event ∈ memory.buffer.items ∨ task = .emitEvent event := by
  cases rebuffers with
  | kept _ _ _ same => exact .inl (same ▸ member)
  | popped head oldest attempt payload _ items =>
    exact .inl (items ▸ List.mem_cons_of_mem _ member)
  | buffered own point reply _ isOwn gaveUp appended =>
    have among : event ∈ memory.buffer.items ++ [own] := by
      rw [← memory.buffer.discarded_append own, ← appended]
      exact List.mem_append_right _ member
    rcases List.mem_append.mp among with before | itself
    · exact .inl before
    · exact .inr (List.mem_singleton.mp itself ▸ isOwn)

/-- What may leave the buffer with this answer: the head that a flush pops when
its publish returns, or the oldest event of a full buffer. -/
def displaced (memory : Queued Event Payload) :
    TaskPoint Event (PublishPoint Payload) → RedisReply → Option Event
  | .flushing _ (.adding _ _), .answered => memory.buffer.items.head?
  | .publishing point, reply =>
    if givesUp point reply && decide (memory.buffer.items.length = maxBufferSize) then
      memory.buffer.items.head?
    else none
  | _, _ => none

/-- A buffered event stays unless it is displaced, and at most one event is
displaced by an answer. -/
theorem Rebuffers.remains {memory after : Queued Event Payload} {task : Task Event}
    {point : TaskPoint Event (PublishPoint Payload)} {reply : RedisReply}
    (rebuffers : Rebuffers memory task point reply after) (event : Event)
    (member : event ∈ memory.buffer.items) :
    event ∈ after.buffer.items ∨ displaced memory point reply = some event := by
  cases rebuffers with
  | kept _ _ _ same => exact .inl (same ▸ member)
  | popped head oldest attempt payload _ items =>
    rw [items] at member
    rcases List.mem_cons.mp member with rfl | later
    · exact .inr (by simp [displaced, items])
    · exact .inl later
  | buffered own point reply _ isOwn gaveUp appended =>
    rcases Nat.lt_or_eq_of_le memory.buffer.bounded with room | full
    · left
      rw [appended, (memory.buffer.append_room own room).1]
      exact List.mem_append_left _ member
    · obtain ⟨oldest, rest, items, left, _⟩ := memory.buffer.append_full own (by decide) full
      rw [items] at member
      rcases List.mem_cons.mp member with rfl | later
      · right
        rw [displaced, full, gaveUp, items]
        simp
      · left
        rw [appended, left]
        exact List.mem_append_left _ later

/-- The loop of the flush leaves stream and buffer alone up to its next await: it
looks at the head and enters its publish. -/
theorem flushItems_awaits (memory : Queued Event Payload) (items : List Event)
    (bounded : items.length ≤ maxBufferSize)
    (serialize : ∀ event ∈ items, (toJsonStr event).isSome) :
    (flushItems (publish toJsonStr) memory items bounded).1.queue.entries =
        memory.queue.entries ∧
      (flushItems (publish toJsonStr) memory items bounded).1.buffer.items = items ∧
      ((flushItems (publish toJsonStr) memory items bounded).2 = .ended ∨
        ∃ head point, (flushItems (publish toJsonStr) memory items bounded).2 =
          .awaiting head point ∧ Sends toJsonStr head point) := by
  cases items with
  | nil => exact ⟨rfl, rfl, .inl rfl⟩
  | cons head rest =>
    obtain ⟨kept, point, suspended, sends⟩ := attempt_suspends 0 memory.queue
      (serialize head (by simp)) (by decide)
    rw [flushItems]
    simp only [publish]
    cases attempted : memory.queue.attemptPublish toJsonStr head 0 with
    | mk queue progress =>
      rw [attempted] at kept suspended
      simp only at suspended
      subst suspended
      exact ⟨kept, rfl, .inr ⟨head, point, rfl, sends⟩⟩

/-- A flush begins with the publication of the head of the buffer, or it ends at
once. It takes nothing from the buffer before that is answered. -/
theorem flushIfBuffered_awaits (memory : Queued Event Payload)
    (serialize : ∀ event ∈ memory.buffer.items, (toJsonStr event).isSome) :
    (flushIfBuffered (publish toJsonStr) memory).1.queue.entries = memory.queue.entries ∧
      (flushIfBuffered (publish toJsonStr) memory).1.buffer = memory.buffer ∧
      ((flushIfBuffered (publish toJsonStr) memory).2 = .ended ∨
        ∃ head point, (flushIfBuffered (publish toJsonStr) memory).2 =
          .awaiting head point ∧ Sends toJsonStr head point) := by
  unfold flushIfBuffered
  split
  · exact ⟨rfl, rfl, .inl rfl⟩
  · obtain ⟨kept, items, flush⟩ := flushItems_awaits memory _ memory.buffer.bounded serialize
    exact ⟨kept, Deque.ext items, flush⟩

/-- After its flush an emit of an event that can be serialized is suspended
again, with stream and buffer as the flush left them. -/
theorem emitFlushed_awaits (event : Event)
    (flushed : Queued Event Payload × Flush Event (PublishPoint Payload))
    (serializes : (toJsonStr event).isSome)
    (flush : flushed.2 = .ended ∨
      ∃ head point, flushed.2 = .awaiting head point ∧ Sends toJsonStr head point) :
    (emitFlushed (publish toJsonStr) event flushed).1.queue.entries = flushed.1.queue.entries ∧
      (emitFlushed (publish toJsonStr) event flushed).1.buffer = flushed.1.buffer ∧
      ∃ next, (emitFlushed (publish toJsonStr) event flushed).2 = .suspended next ∧
        Awaits toJsonStr (.emitEvent event) next := by
  obtain ⟨memory, _⟩ := flushed
  rcases flush with rfl | ⟨head, point, rfl, sends⟩
  · obtain ⟨kept, point, suspended, sends⟩ := attempt_suspends 0 memory.queue serializes (by decide)
    simp only [emitFlushed, publish, suspended, publishResumed]
    exact ⟨kept, trivial, _, rfl, event, rfl, sends⟩
  · exact ⟨rfl, rfl, _, rfl, sends⟩

/-- After its flush the periodic flush is suspended again, at its pause or in a
publish; it never ends by itself. -/
theorem periodicFlushed_awaits
    (flushed : Queued Event Payload × Flush Event (PublishPoint Payload))
    (flush : flushed.2 = .ended ∨
      ∃ head point, flushed.2 = .awaiting head point ∧ Sends toJsonStr head point) :
    (periodicFlushed flushed).1 = flushed.1 ∧
      ∃ next, (periodicFlushed flushed).2 = .suspended next ∧
        Awaits toJsonStr .periodicFlush next := by
  obtain ⟨memory, _⟩ := flushed
  rcases flush with rfl | ⟨head, point, rfl, sends⟩
  · exact ⟨rfl, _, rfl, rfl⟩
  · exact ⟨rfl, _, rfl, sends⟩

/-- An answer that the queue does not handle harms the flush, whether there is
something to pop or not. -/
theorem unharmed_flushing (memory : Queued Event Payload) (head : Event)
    (point : PublishPoint Payload) (reply : RedisReply)
    (unhandled : handles memory.queue point reply = false) :
    unharmed memory (.flushing head point) reply = false := by
  cases point with
  | connecting attempt => exact unhandled
  | adding attempt payload =>
    cases reply with
    | answered => simp [unharmed, unhandled]
    | failed failure executed => exact unhandled
  | sleeping attempt => exact unhandled

/-- A flush after one answer: it goes on, it has ended, or an answer that the
task does not handle leaves it. -/
theorem flushResumed_answered (memory : Queued Event Payload) (task : Task Event) (head : Event)
    (point : PublishPoint Payload) (reply : RedisReply)
    (serialize : ∀ event ∈ memory.buffer.items, (toJsonStr event).isSome)
    (sends : Sends toJsonStr head point) :
    let resumed := (publish toJsonStr).resume memory.queue head point reply
    let flushed := flushResumed (publish toJsonStr) { memory with queue := resumed.1 } head
      resumed.2
    flushed.1.queue.entries = memory.queue.entries ++ appends point reply ∧
      Rebuffers memory task (.flushing head point) reply flushed.1 ∧
      ((flushed.2 = .ended ∨
          ∃ head point, flushed.2 = .awaiting head point ∧ Sends toJsonStr head point) ∨
        (∃ raised, flushed.2 = .raised raised) ∧
          unharmed memory (.flushing head point) reply = false) := by
  intro resumed flushed
  have answered := publish_answered memory.queue point reply sends
  change PublishAnswered toJsonStr head memory.queue point reply resumed.1 resumed.2 at answered
  obtain ⟨queue, progress⟩ := resumed
  cases progress with
  | suspended next =>
    exact ⟨answered.entries, .kept _ _ _ rfl, .inl (.inr ⟨head, next, rfl, answered.sends _ rfl⟩)⟩
  | finished result =>
    cases result with
    | error raised =>
      refine ⟨answered.entries, .kept _ _ _ rfl, ?_⟩
      have unhandled := answered.raised raised rfl
      cases builtin : raised.isOSError with
      | true => exact .inl (.inl (by simp [flushed, flushResumed, builtin]))
      | false =>
        simp only [builtin, Bool.false_eq_true, if_false] at unhandled
        exact .inr ⟨⟨raised, by simp [flushed, flushResumed, builtin]⟩,
          unharmed_flushing memory head point reply unhandled⟩
    | ok entryId =>
      obtain ⟨attempt, payload, rfl, rfl⟩ := answered.returned entryId rfl
      cases held : memory.buffer.items with
      | nil =>
        have nothing := memory.buffer.popleft_nil held
        simp only [flushed, flushResumed, nothing]
        exact ⟨answered.entries, .kept _ _ _ rfl, .inr ⟨⟨_, rfl⟩, by simp [unharmed, held]⟩⟩
      | cons oldest rest =>
        obtain ⟨shorter, popped, remaining⟩ := memory.buffer.popleft_cons oldest rest held
        have later : ∀ event ∈ shorter.items, (toJsonStr event).isSome := by
          intro event member
          exact serialize event (held ▸ List.mem_cons_of_mem _ (remaining ▸ member))
        obtain ⟨kept, items, flush⟩ := flushItems_awaits
          { memory with queue := queue, buffer := shorter } shorter.items shorter.bounded later
        simp only [flushed, flushResumed, popped]
        refine ⟨?_, ?_, .inl flush⟩
        · exact kept.trans answered.entries
        · exact .popped head oldest attempt payload _ (by rw [held, flushBuffer, items, remaining])

/-- The publish of its own event is answered. It goes on, or the emit ends with the
event in the stream, or the event is buffered. -/
theorem publishResumed_answered (memory : Queued Event Payload) (event : Event)
    (point : PublishPoint Payload) (reply : RedisReply) (sends : Sends toJsonStr event point) :
    let resumed := (publish toJsonStr).resume memory.queue event point reply
    let emitted := publishResumed { memory with queue := resumed.1 } event resumed.2
    Answered toJsonStr memory (.emitEvent event) (.publishing point) reply emitted.1 emitted.2 := by
  intro resumed emitted
  have answered := publish_answered memory.queue point reply sends
  change PublishAnswered toJsonStr event memory.queue point reply resumed.1 resumed.2 at answered
  obtain ⟨queue, progress⟩ := resumed
  cases progress with
  | suspended next =>
    refine ⟨answered.entries, .kept _ _ _ rfl, ?_, by simp [emitted, publishResumed],
      by simp [emitted, publishResumed]⟩
    rintro _ ⟨rfl⟩
    exact ⟨event, rfl, answered.sends next rfl⟩
  | finished result =>
    cases result with
    | ok entryId =>
      obtain ⟨attempt, payload, rfl, rfl⟩ := answered.returned entryId rfl
      refine ⟨answered.entries, .kept _ _ _ rfl, by simp [emitted, publishResumed], ?_,
        by simp [emitted, publishResumed]⟩
      rintro _ ⟨rfl⟩ _
      exact .inl ⟨payload, sends, answered.entries ▸ List.mem_append_right _ (.head _)⟩
    | error raised =>
      have gaveUp := answered.raised raised rfl
      cases builtin : raised.isOSError with
      | true =>
        simp only [builtin, if_true] at gaveUp
        simp only [emitted, publishResumed, builtin, if_true]
        refine ⟨answered.entries, .buffered event point reply _ rfl gaveUp rfl, by simp, ?_,
          by simp⟩
        rintro _ ⟨rfl⟩ _
        exact .inr (memory.buffer.mem_append_self event (by decide))
      | false =>
        simp only [builtin, Bool.false_eq_true, if_false] at gaveUp
        simp only [emitted, publishResumed, builtin, Bool.false_eq_true, if_false]
        exact ⟨answered.entries, .kept _ _ _ rfl, by simp, by simp, fun _ _ => gaveUp⟩

/-- Every segment of every task whose event, and whose buffered events, can be
serialized. -/
theorem resume_answered (memory : Queued Event Payload) (task : Task Event)
    (point : TaskPoint Event (PublishPoint Payload)) (reply : RedisReply)
    (serialize : ∀ event ∈ memory.buffer.items, (toJsonStr event).isSome)
    (own : ∀ event, task = .emitEvent event → (toJsonStr event).isSome)
    (awaits : Awaits toJsonStr task point) :
    Answered toJsonStr memory task point reply
      ((honeypot (publish toJsonStr)).resume memory task point reply).1
      ((honeypot (publish toJsonStr)).resume memory task point reply).2 := by
  cases point with
  | flushing head point =>
    obtain ⟨entries, buffer, flush⟩ :=
      flushResumed_answered memory task head point reply serialize awaits
    cases task with
    | emitEvent event =>
      simp only [honeypot]
      generalize flushResumed (publish toJsonStr)
        { memory with queue := ((publish toJsonStr).resume memory.queue head point reply).1 } head
        ((publish toJsonStr).resume memory.queue head point reply).2 = flushed at *
      rcases flush with suspends | ⟨⟨raised, left⟩, harmed⟩
      · obtain ⟨kept, same, next, suspended, after⟩ :=
          emitFlushed_awaits event flushed (own event rfl) suspends
        rw [suspended]
        refine ⟨kept.trans entries, buffer.congr same, ?_, by simp, by simp⟩
        rintro _ ⟨rfl⟩
        exact after
      · obtain ⟨after, _⟩ := flushed
        obtain rfl : _ = Flush.raised raised := left
        exact ⟨entries, buffer, by simp [emitFlushed], by simp [emitFlushed], fun _ _ => harmed⟩
    | periodicFlush =>
      simp only [honeypot]
      generalize flushResumed (publish toJsonStr)
        { memory with queue := ((publish toJsonStr).resume memory.queue head point reply).1 } head
        ((publish toJsonStr).resume memory.queue head point reply).2 = flushed at *
      rcases flush with suspends | ⟨⟨raised, left⟩, harmed⟩
      · obtain ⟨same, next, suspended, after⟩ := periodicFlushed_awaits flushed suspends
        rw [suspended, same]
        refine ⟨entries, buffer, ?_, by simp, by simp⟩
        rintro _ ⟨rfl⟩
        exact after
      · obtain ⟨after, _⟩ := flushed
        obtain rfl : _ = Flush.raised raised := left
        exact ⟨entries, buffer, by simp [periodicFlushed], by simp [periodicFlushed],
          fun _ _ => harmed⟩
  | publishing point =>
    obtain ⟨event, rfl, sends⟩ := awaits
    exact publishResumed_answered memory event point reply sends
  | sleeping =>
    obtain rfl : task = .periodicFlush := awaits
    obtain ⟨kept, same, suspends⟩ := flushIfBuffered_awaits memory serialize
    obtain ⟨unchanged, next, suspended, after⟩ := periodicFlushed_awaits _ suspends
    simp only [honeypot, suspended, unchanged]
    refine ⟨kept.trans (List.append_nil _).symm, .kept _ _ _ same, ?_, by simp, by simp⟩
    rintro _ ⟨rfl⟩
    exact after

/-- How often an emit can still be answered, whatever the other tasks have done
to the buffer in the meantime. -/
def sharedWeight (memory : Queued Event Payload) : TaskPoint Event (PublishPoint Payload) → Nat
  | .flushing head point => emitWeight memory (.flushing head point) + 19
  | point => emitWeight memory point

/-- What is left of an emit after an uninterrupted stretch of its flush. -/
def sharedFlushWeight : Queued Event Payload × Flush Event (PublishPoint Payload) → Nat
  | (memory, .awaiting head point) => sharedWeight memory (.flushing head point)
  | flushed => flushWeight flushed

/-- The publication of the own event costs no more than a fixed number of awaits on
top of the flush. -/
theorem sharedFlushWeight_le
    (flushed : Queued Event Payload × Flush Event (PublishPoint Payload)) :
    sharedFlushWeight flushed ≤ flushWeight flushed + 19 := by
  obtain ⟨memory, flush⟩ := flushed
  cases flush with
  | awaiting head point => exact Nat.le_refl _
  | ended => exact Nat.le_add_right _ _
  | raised raised => exact Nat.le_add_right _ _

/-- The flush gets shorter with every answer, also when it finds the buffer
emptied by others. -/
theorem flushResumed_shared (memory : Queued Event Payload) (head : Event)
    (progress : PublishProgress Payload) :
    sharedFlushWeight (flushResumed (publish toJsonStr) memory head progress) ≤
      19 * memory.buffer.items.length + weight progress + 19 := by
  cases progress with
  | suspended point => exact Nat.le_refl _
  | finished result =>
    cases result with
    | error raised =>
      simp only [flushResumed]
      split <;> simp only [sharedFlushWeight, flushWeight] <;> omega
    | ok entryId =>
      cases held : memory.buffer.items with
      | nil => simp [flushResumed, memory.buffer.popleft_nil held, sharedFlushWeight, flushWeight]
      | cons oldest rest =>
        obtain ⟨shorter, popped, remaining⟩ := memory.buffer.popleft_cons oldest rest held
        simp only [flushResumed, popped, flushBuffer]
        apply Nat.le_trans (sharedFlushWeight_le _)
        apply Nat.le_trans (Nat.add_le_add_right (flushItems_weight _ _ _) _)
        simp only [remaining, List.length_cons]
        omega

/-- Its own publish, when it is suspended, is all that is left of the emit; the
buffer has no part in it. -/
theorem publishResumed_shared (memory : Queued Event Payload) (event : Event)
    (progress : PublishProgress Payload) (next : TaskPoint Event (PublishPoint Payload))
    (suspended : (publishResumed memory event progress).2 = .suspended next) :
    sharedWeight (publishResumed memory event progress).1 next = weight progress := by
  obtain ⟨point, rfl, rfl, same⟩ := publishResumed_suspended suspended
  rw [same]
  rfl

/-- After its flush an emission has at most the awaits of its own publication left,
so the weight does not rise where one passes into the other. -/
theorem emitFlushed_shared (event : Event)
    (flushed : Queued Event Payload × Flush Event (PublishPoint Payload))
    (next : TaskPoint Event (PublishPoint Payload))
    (suspended : (emitFlushed (publish toJsonStr) event flushed).2 = .suspended next) :
    sharedWeight (emitFlushed (publish toJsonStr) event flushed).1 next ≤
      sharedFlushWeight flushed := by
  obtain ⟨memory, flush⟩ := flushed
  cases flush with
  | awaiting head point =>
    simp only [emitFlushed, Progress.suspended.injEq] at suspended
    exact suspended ▸ Nat.le_refl _
  | raised raised => simp [emitFlushed] at suspended
  | ended =>
    have own := publishResumed_shared _ event _ next suspended
    exact Nat.le_trans (Nat.le_of_eq own) (attempt_weight toJsonStr event 0 memory.queue)

/-- Every answer brings an emit closer to its end, also where other tasks have
changed the buffer between: the flush goes on to a shorter one or to the publish. -/
theorem resume_decreases (event : Event) (memory : Queued Event Payload)
    (point next : TaskPoint Event (PublishPoint Payload)) (reply : RedisReply)
    (awaits : Awaits toJsonStr (.emitEvent event) point)
    (suspended : ((honeypot (publish toJsonStr)).resume memory (.emitEvent event) point reply).2 =
      .suspended next) :
    sharedWeight ((honeypot (publish toJsonStr)).resume memory (.emitEvent event) point reply).1
      next < sharedWeight memory point := by
  cases point with
  | flushing head point =>
    have resumed := publish_decreases toJsonStr head memory.queue point reply
    have emitted := emitFlushed_shared event _ next suspended
    have flushed := Nat.le_trans emitted (flushResumed_shared _ head _)
    simp only [sharedWeight, emitWeight]
    exact Nat.lt_of_le_of_lt flushed
      (Nat.add_lt_add_right (Nat.add_lt_add_left resumed _) _)
  | publishing point =>
    have resumed := publish_decreases toJsonStr event memory.queue point reply
    have own := publishResumed_shared _ event _ next suspended
    exact Nat.lt_of_le_of_lt (Nat.le_of_eq own) resumed
  | sleeping => cases awaits

variable (toJsonStr) in
/-- An emit among events that can be serialized, as far as it has come. -/
structure Emitting (event : Event) (memory : Queued Event Payload)
    (progress : Progress (TaskPoint Event (PublishPoint Payload)) (Except Raised Unit)) : Prop where
  serialize : ∀ other ∈ memory.buffer.items, (toJsonStr other).isSome
  own : (toJsonStr event).isSome
  awaits : ∀ point, progress = .suspended point → Awaits toJsonStr (.emitEvent event) point
  returned : progress = .finished (.ok ()) → Recorded toJsonStr event memory

/-- A task that begins leaves stream and buffer alone and is suspended. Nothing is
published before the first await, as even a present client has to be asked. -/
theorem enter_awaits (memory : Queued Event Payload) (task : Task Event)
    (serialize : ∀ event ∈ memory.buffer.items, (toJsonStr event).isSome)
    (own : ∀ event, task = .emitEvent event → (toJsonStr event).isSome) :
    ((honeypot (publish toJsonStr)).enter memory task).1.queue.entries = memory.queue.entries ∧
      ((honeypot (publish toJsonStr)).enter memory task).1.buffer = memory.buffer ∧
      ∃ next, ((honeypot (publish toJsonStr)).enter memory task).2 = .suspended next ∧
        Awaits toJsonStr task next := by
  cases task with
  | periodicFlush => exact ⟨rfl, rfl, .sleeping, rfl, rfl⟩
  | emitEvent event =>
    obtain ⟨kept, same, flush⟩ := flushIfBuffered_awaits memory serialize
    obtain ⟨keptOn, sameOn, suspends⟩ := emitFlushed_awaits event _ (own event rfl) flush
    exact ⟨keptOn.trans kept, sameOn.trans same, suspends⟩

/-- An emission begins with an await of its own event or of the head of the buffer.
-/
theorem enter_emitting (event : Event) (memory : Queued Event Payload)
    (serialize : ∀ other ∈ memory.buffer.items, (toJsonStr other).isSome)
    (own : (toJsonStr event).isSome) :
    Emitting toJsonStr event
      ((honeypot (publish toJsonStr)).enter memory (.emitEvent event)).1
      ((honeypot (publish toJsonStr)).enter memory (.emitEvent event)).2 := by
  obtain ⟨_, same, next, suspended, awaits⟩ := enter_awaits memory (.emitEvent event) serialize
    (by rintro _ ⟨rfl⟩; exact own)
  rw [suspended]
  refine ⟨same ▸ serialize, own, ?_, by simp⟩
  rintro _ ⟨rfl⟩
  exact awaits

/-- After every answer it still does, or it has ended with its event recorded. The
proof follows the task from await to await. -/
theorem resume_emitting (event : Event) (memory : Queued Event Payload)
    (point : TaskPoint Event (PublishPoint Payload)) (reply : RedisReply)
    (emitting : Emitting toJsonStr event memory (.suspended point)) :
    Emitting toJsonStr event
      ((honeypot (publish toJsonStr)).resume memory (.emitEvent event) point reply).1
      ((honeypot (publish toJsonStr)).resume memory (.emitEvent event) point reply).2 := by
  have own : ∀ other, Task.emitEvent event = .emitEvent other → (toJsonStr other).isSome := by
    rintro _ ⟨rfl⟩
    exact emitting.own
  have answered := resume_answered memory (.emitEvent event) point reply emitting.serialize own
    (emitting.awaits point rfl)
  refine ⟨?_, emitting.own, answered.awaits, answered.returned event rfl⟩
  intro other member
  rcases answered.buffer.buffered_before other member with before | itself
  · exact emitting.serialize other before
  · exact own other itself

/-- An emit that alone is answered from now on ends, whatever the answers; if it
returns, its event is in the stream or in the buffer. -/
theorem emitting_ends (event : Event) (memory : Queued Event Payload)
    (progress : Progress (TaskPoint Event (PublishPoint Payload)) (Except Raised Unit))
    (answers : Nat → RedisReply)
    (emitting : Emitting toJsonStr event memory progress) :
    ∃ used final result,
      (honeypot (publish toJsonStr)).drive (.emitEvent event) memory progress
        ((List.range used).map answers) = some (final, result) ∧
      (result = .ok () → Recorded toJsonStr event final) := by
  obtain ⟨used, final, result, driven⟩ := (honeypot (publish toJsonStr)).drive_ends
    (.emitEvent event) (Emitting toJsonStr event) sharedWeight
    (resume_emitting event)
    (fun memory point reply next emitting =>
      resume_decreases event memory point next reply (emitting.awaits point rfl))
    answers memory progress emitting
  refine ⟨used, final, result, driven, fun returned => ?_⟩
  have ended := (honeypot (publish toJsonStr)).drive_invariant (.emitEvent event)
    (Emitting toJsonStr event) (resume_emitting event) _ final _ result _ emitting
    driven
  exact ended.returned (by rw [returned])

end Honeywatch.Honeypot
