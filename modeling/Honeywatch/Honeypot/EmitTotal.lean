import Honeywatch.Collector.Sequential
import Honeywatch.Honeypot.Base

/-!
# One emit and every outcome of its Redis calls

An emit first flushes what is buffered and then publishes its own event. Both
catch the builtin `ConnectionError` and `OSError`, which is what a publish
raises when the connection stays lost. A `TimeoutError` or `ResponseError` of
the client library is caught neither by the publish nor by the emit, whether it
strikes the flush, the reconnect or the append: the emit then raises, and its
event is neither in the stream nor in the buffer.
-/

namespace Honeywatch.Honeypot

open Cooperative Collector EventQueue

variable {Event Payload : Type} (toJsonStr : Event → Option Payload)

/-- A honeypot's memory over the real queue. -/
abbrev Queued (Event Payload : Type) := Memory Event (EventQueue Payload)

/-- The event is in the stream or in the buffer. -/
def Recorded (event : Event) (memory : Queued Event Payload) : Prop :=
  (∃ payload, toJsonStr event = some payload ∧ payload ∈ memory.queue.entries) ∨
    event ∈ memory.buffer.items

/-- A flush running alone awaits the publish of the head it is going to pop, or
has ended with every call handled, or lets out an unhandled failure. -/
def FlushAlone : Queued Event Payload × Flush Event (PublishPoint Payload) → Prop
  | (memory, .awaiting head point) =>
    memory.buffer.items.head? = some head ∧
      ∃ entries, Alone toJsonStr head entries memory.queue (.suspended point)
  | (memory, .ended) => memory.queue.Handled
  | (memory, .raised _) => ¬ memory.queue.Handled

/-- An emit running alone is in its flush, in its own publish, or has ended:
normally with its event recorded and every call handled, or by an exception
after an unhandled failure. -/
def EmitAlone (event : Event) (memory : Queued Event Payload) :
    Progress (TaskPoint Event (PublishPoint Payload)) (Except Raised Unit) → Prop
  | .suspended (.flushing head point) => FlushAlone toJsonStr (memory, .awaiting head point)
  | .suspended (.publishing point) =>
    ∃ entries, Alone toJsonStr event entries memory.queue (.suspended point)
  | .suspended .sleeping => False
  | .finished (.ok _) => Recorded toJsonStr event memory ∧ memory.queue.Handled
  | .finished (.error _) => ¬ memory.queue.Handled

variable {toJsonStr}

/-- The loop of the flush awaits the head of what it is given, or ends, where
nothing is given or the publish cannot begin. -/
theorem flushItems_alone (memory : Queued Event Payload) (items : List Event)
    (bounded : items.length ≤ maxBufferSize) (handled : memory.queue.Handled) :
    FlushAlone toJsonStr (flushItems (publish toJsonStr) memory items bounded) := by
  induction items generalizing memory with
  | nil => exact handled
  | cons head rest inductionHypothesis =>
    have entered : Alone toJsonStr head memory.queue.entries
        (memory.queue.attemptPublish toJsonStr head 0).1
        (memory.queue.attemptPublish toJsonStr head 0).2 := attempt_alone 0 handled fun _ => rfl
    rw [flushItems]
    simp only [publish]
    cases attempted : memory.queue.attemptPublish toJsonStr head 0 with
    | mk queue progress =>
      rw [attempted] at entered
      cases progress with
      | suspended point => exact ⟨rfl, _, entered⟩
      | finished result =>
        cases result with
        | ok entryId => exact inductionHypothesis _ _ entered.1
        | error raised =>
          rcases entered with ⟨rfl, kept, _⟩ | ⟨other, unhandled⟩
          · exact kept
          · simp only [other]
            exact unhandled

/-- A flush begins with handled failures only, if there were no others before. -/
theorem flushIfBuffered_alone (memory : Queued Event Payload) (handled : memory.queue.Handled) :
    FlushAlone toJsonStr (flushIfBuffered (publish toJsonStr) memory) := by
  unfold flushIfBuffered
  split
  · exact handled
  · exact flushItems_alone memory _ _ handled

/-- When the publish of the head returns alone, the head is popped and the loop
goes on. -/
theorem flushResumed_alone (memory : Queued Event Payload) (head : Event) (entries : List Payload)
    (progress : PublishProgress Payload) (first : memory.buffer.items.head? = some head)
    (alone : Alone toJsonStr head entries memory.queue progress) :
    FlushAlone toJsonStr (flushResumed (publish toJsonStr) memory head progress) := by
  cases progress with
  | suspended point => exact ⟨first, entries, alone⟩
  | finished result =>
    cases result with
    | ok entryId =>
      obtain ⟨rest, held⟩ := List.head?_eq_some_iff.mp first
      obtain ⟨shorter, popped, _⟩ := memory.buffer.popleft_cons head rest held
      simp only [flushResumed, popped]
      exact flushItems_alone _ _ _ alone.1
    | error raised =>
      rcases alone with ⟨rfl, kept, _⟩ | ⟨other, unhandled⟩
      · exact kept
      · simp only [flushResumed, other]
        exact unhandled

/-- When its own publish makes progress alone, the emit has its event recorded
at its end or lets out an unhandled failure. -/
theorem publishResumed_alone (memory : Queued Event Payload) (event : Event)
    (entries : List Payload) (progress : PublishProgress Payload)
    (alone : Alone toJsonStr event entries memory.queue progress) :
    EmitAlone toJsonStr event (publishResumed memory event progress).1
      (publishResumed memory event progress).2 := by
  cases progress with
  | suspended point => exact ⟨entries, alone⟩
  | finished result =>
    cases result with
    | ok entryId =>
      obtain ⟨handled, payload, serialized, appended, _⟩ := alone
      exact ⟨.inl ⟨payload, serialized, appended⟩, handled⟩
    | error raised =>
      rcases alone with ⟨rfl, kept, _⟩ | ⟨other, unhandled⟩
      · exact ⟨.inr (memory.buffer.mem_append_self event (by decide)), kept⟩
      · simp only [publishResumed, other]
        exact unhandled

/-- After its flush the emit enters its own publish, whether the flush has emptied
the buffer or was given up. -/
theorem emitFlushed_alone (event : Event)
    (flushed : Queued Event Payload × Flush Event (PublishPoint Payload))
    (alone : FlushAlone toJsonStr flushed) :
    EmitAlone toJsonStr event (emitFlushed (publish toJsonStr) event flushed).1
      (emitFlushed (publish toJsonStr) event flushed).2 := by
  obtain ⟨memory, flush⟩ := flushed
  cases flush with
  | awaiting head point => exact alone
  | raised raised => exact alone
  | ended =>
    exact publishResumed_alone _ event memory.queue.entries _ (attempt_alone 0 alone fun _ => rfl)

/-- Every segment of an emit running alone. What the flush awaits is the head of the
buffer, and no other task takes it away. -/
theorem emit_alone (event : Event) (memory : Queued Event Payload)
    (point : TaskPoint Event (PublishPoint Payload)) (reply : RedisReply)
    (alone : EmitAlone toJsonStr event memory (.suspended point)) :
    EmitAlone toJsonStr event
      ((honeypot (publish toJsonStr)).resume memory (.emitEvent event) point reply).1
      ((honeypot (publish toJsonStr)).resume memory (.emitEvent event) point reply).2 := by
  cases point with
  | flushing head point =>
    obtain ⟨first, entries, publishing⟩ := alone
    exact emitFlushed_alone event _
      (flushResumed_alone _ head entries _ first (resume_alone point reply publishing))
  | publishing point =>
    obtain ⟨entries, publishing⟩ := alone
    exact publishResumed_alone _ event entries _ (resume_alone point reply publishing)
  | sleeping => exact absurd alone id

/-- How often a flush or an emit can still be answered: each buffered event and
the emit's own may take a whole publish. -/
def emitWeight (memory : Queued Event Payload) : TaskPoint Event (PublishPoint Payload) → Nat
  | .flushing _ point => 19 * memory.buffer.items.length + weight (.suspended point)
  | .publishing point => weight (.suspended point)
  | .sleeping => 0

/-- What is left of an emit after an uninterrupted stretch of its flush; its own
publish takes eighteen answers at most. -/
def flushWeight : Queued Event Payload × Flush Event (PublishPoint Payload) → Nat
  | (memory, .awaiting head point) => emitWeight memory (.flushing head point)
  | (_, .ended) => 18
  | (_, .raised _) => 0

/-- The loop of the flush costs at most what it has been given: a fixed number of
awaits for each event. -/
theorem flushItems_weight (memory : Queued Event Payload) (items : List Event)
    (bounded : items.length ≤ maxBufferSize) :
    flushWeight (flushItems (publish toJsonStr) memory items bounded) ≤ 19 * items.length + 18 := by
  induction items generalizing memory with
  | nil => exact Nat.le_refl _
  | cons first rest inductionHypothesis =>
    have entered := attempt_weight toJsonStr first 0 memory.queue
    rw [flushItems]
    simp only [publish]
    cases attempted : memory.queue.attemptPublish toJsonStr first 0 with
    | mk queue progress =>
      rw [attempted] at entered
      cases progress with
      | suspended point => exact Nat.add_le_add_left entered _
      | finished result =>
        cases result with
        | ok entryId =>
          apply Nat.le_trans (inductionHypothesis _ _)
          simp only [List.length_cons]
          omega
        | error raised =>
          simp only
          split <;> simp [flushWeight]

variable (toJsonStr) in
/-- The flush gets shorter with every answer to the publish of its head, by the
answer itself or by the event that is popped. -/
theorem flushResumed_weight (memory : Queued Event Payload) (head : Event)
    (progress : PublishProgress Payload) (first : memory.buffer.items.head? = some head) :
    flushWeight (flushResumed (publish toJsonStr) memory head progress) ≤
      19 * memory.buffer.items.length + weight progress := by
  obtain ⟨rest, held⟩ := List.head?_eq_some_iff.mp first
  cases progress with
  | suspended point => exact Nat.le_refl _
  | finished result =>
    cases result with
    | ok entryId =>
      obtain ⟨shorter, popped, remaining⟩ := memory.buffer.popleft_cons head rest held
      simp only [flushResumed, popped]
      apply Nat.le_trans (flushItems_weight _ _ _)
      simp only [remaining, held, List.length_cons]
      omega
    | error raised =>
      simp only [flushResumed, held, List.length_cons]
      split <;> simp only [flushWeight] <;> omega

/-- Inside the publication of its own event an emission has as many awaits left as
the publication. -/
theorem publishResumed_weight (memory : Queued Event Payload) (event : Event)
    (progress : PublishProgress Payload) (next : TaskPoint Event (PublishPoint Payload))
    (suspended : (publishResumed memory event progress).2 = .suspended next) :
    emitWeight (publishResumed memory event progress).1 next = weight progress := by
  obtain ⟨point, rfl, rfl, same⟩ := publishResumed_suspended suspended
  rw [same]
  rfl

/-- Where the flush passes into the publication, the awaits that are left do not
become more. Together with the weight of a publication this bounds the whole
emission. -/
theorem emitFlushed_weight (event : Event)
    (flushed : Queued Event Payload × Flush Event (PublishPoint Payload))
    (next : TaskPoint Event (PublishPoint Payload))
    (suspended : (emitFlushed (publish toJsonStr) event flushed).2 = .suspended next) :
    emitWeight (emitFlushed (publish toJsonStr) event flushed).1 next ≤ flushWeight flushed := by
  obtain ⟨memory, flush⟩ := flushed
  cases flush with
  | awaiting head point =>
    simp only [emitFlushed, Progress.suspended.injEq] at suspended
    exact suspended ▸ Nat.le_refl _
  | raised raised => simp [emitFlushed] at suspended
  | ended =>
    have own := publishResumed_weight _ event _ next suspended
    exact Nat.le_trans (Nat.le_of_eq own) (attempt_weight toJsonStr event 0 memory.queue)

/-- Every answer brings the emit closer to its end, which is the measure of its
termination: the events to flush first, then the own publish. -/
theorem emit_decreases (event : Event) (memory : Queued Event Payload)
    (point next : TaskPoint Event (PublishPoint Payload)) (reply : RedisReply)
    (alone : EmitAlone toJsonStr event memory (.suspended point))
    (suspended : ((honeypot (publish toJsonStr)).resume memory (.emitEvent event) point reply).2 =
      .suspended next) :
    emitWeight ((honeypot (publish toJsonStr)).resume memory (.emitEvent event) point reply).1
      next < emitWeight memory point := by
  cases point with
  | flushing head point =>
    have resumed := publish_decreases toJsonStr head memory.queue point reply
    have flushed := flushResumed_weight toJsonStr
      { memory with queue := ((publish toJsonStr).resume memory.queue head point reply).1 } head
      ((publish toJsonStr).resume memory.queue head point reply).2 alone.1
    have emitted := emitFlushed_weight event _ next suspended
    exact Nat.lt_of_le_of_lt (Nat.le_trans emitted flushed) (Nat.add_lt_add_left resumed _)
  | publishing point =>
    have resumed := publish_decreases toJsonStr event memory.queue point reply
    have own := publishResumed_weight _ event _ next suspended
    exact Nat.lt_of_le_of_lt (Nat.le_of_eq own) resumed
  | sleeping => exact absurd alone id

variable (toJsonStr)

/-- For every event, buffer and stream, and whatever the awaits of the emit are
answered, the emit ends; it returns normally with its event in the stream or in
the buffer exactly when every library call it made was handled. -/
theorem emit_total_iff_handled (event : Event) (buffer : Deque Event maxBufferSize)
    (evicted : List Event) (redis : Bool) (entries : List Payload)
    (answers : Nat → RedisReply) :
    ∃ used final result,
      (honeypot (publish toJsonStr)).complete
        { buffer, queue := { redis, entries, record := [] }, evicted } (.emitEvent event)
        ((List.range used).map answers) = some (final, result) ∧
      ((result = .ok () ∧
          ((∃ payload, toJsonStr event = some payload ∧ payload ∈ final.queue.entries) ∨
            event ∈ final.buffer.items)) ↔
        ∀ call ∈ final.queue.record, call.handled = true) := by
  have flushed : FlushAlone toJsonStr (flushIfBuffered (publish toJsonStr)
      { buffer, queue := { redis, entries, record := [] }, evicted }) :=
    flushIfBuffered_alone _ fun _ member => absurd member List.not_mem_nil
  have entered := emitFlushed_alone event _ flushed
  obtain ⟨used, final, result, driven⟩ := (honeypot (publish toJsonStr)).drive_ends
    (.emitEvent event) (EmitAlone toJsonStr event) emitWeight (emit_alone event)
    (fun memory point reply next => emit_decreases event memory point next reply)
    answers _ _ entered
  refine ⟨used, final, result, driven, ?_⟩
  have alone := (honeypot (publish toJsonStr)).drive_invariant (.emitEvent event)
    (EmitAlone toJsonStr event) (emit_alone event) _ final _ result _ entered driven
  cases result with
  | ok returned => exact ⟨fun _ => alone.2, fun _ => ⟨rfl, alone.1⟩⟩
  | error raised => exact ⟨fun normal => (nomatch normal.1), fun handled => absurd handled alone⟩

/-- An event that cannot be serialized leaves the emit as an exception before
any await, and is neither in the stream nor in the buffer. -/
theorem unserializable_raises (event : Event) (unserializable : toJsonStr event = none)
    (entries : List Payload) :
    ∃ final : Queued Event Payload,
      (honeypot (publish toJsonStr)).complete
        { buffer := .empty, queue := { redis := true, entries, record := [] }, evicted := [] }
        (.emitEvent event) [] = some (final, .error .serializationError) ∧
      final.queue.entries = entries ∧ final.buffer.items = [] := by
  refine ⟨{ buffer := .empty
            queue := { redis := true, entries, record := [.toJsonStr false] }
            evicted := [] }, ?_, rfl, rfl⟩
  simp only [Coroutine.complete, honeypot, flushIfBuffered, Deque.empty_items, if_true,
    emitFlushed, publish, attemptPublish, maxRetries, send, unserializable, log, publishResumed,
    Raised.isOSError, Nat.zero_lt_succ, List.nil_append, Bool.false_eq_true, if_false,
    Coroutine.drive]

/-- The append times out: the emit raises the client library's `TimeoutError`
and its event is neither in the stream nor in the buffer. -/
theorem timeout_loses_event :
    ∃ final : Queued Nat Nat,
      (honeypot (publish some)).complete
        { buffer := .empty, queue := { redis := true, entries := [], record := [] }, evicted := [] }
        (.emitEvent 7) [.failed .timeoutError false] =
        some (final, .error (.redis .timeoutError)) ∧
      final.queue.entries = [] ∧ final.buffer.items = [] :=
  ⟨_, rfl, by decide⟩

end Honeywatch.Honeypot
