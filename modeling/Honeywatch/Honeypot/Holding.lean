import Honeywatch.Honeypot.Answers

/-!
# What a honeypot holds was emitted

Whatever was said of every event passed to `emit_event` holds of all that the
honeypot has in hand: of the events in its buffer, of the event an emit awaits to
publish, and of the head that a flush has read. What an answer appends to the
stream is one of them, written out. No event is made up on the way, also not one
that cannot be written.
-/

namespace Honeywatch.Honeypot

open Cooperative Collector EventQueue

variable {Event Payload : Type} (toJsonStr : Event → Option Payload) (emitted : Event → Prop)

/-- A publish that is about to append has written its event. -/
def Writes (event : Event) : PublishPoint Payload → Prop
  | .adding _ payload => toJsonStr event = some payload
  | _ => True

/-- A task awaits the publish of an emitted event. -/
def HoldsAt (task : Task Event) : TaskPoint Event (PublishPoint Payload) → Prop
  | .flushing head point => emitted head ∧ Writes toJsonStr head point
  | .publishing point => ∃ event, task = .emitEvent event ∧ emitted event ∧
    Writes toJsonStr event point
  | .sleeping => True

/-- The buffer holds emitted events, and so does the task. -/
structure Holding (memory : Queued Event Payload) (task : Task Event)
    (progress : Progress (TaskPoint Event (PublishPoint Payload)) (Except Raised Unit)) :
    Prop where
  buffered : ∀ event ∈ memory.buffer.items, emitted event
  awaits : ∀ point, progress = .suspended point → HoldsAt toJsonStr emitted task point

/-- The buffer holds emitted events, and so does the flush. -/
structure FlushHolding (flushed : Queued Event Payload × Flush Event (PublishPoint Payload)) :
    Prop where
  buffered : ∀ event ∈ flushed.1.buffer.items, emitted event
  awaits : ∀ head point, flushed.2 = .awaiting head point →
    emitted head ∧ Writes toJsonStr head point

variable {toJsonStr emitted}

section Publish

variable (event : Event) (attempt : Nat) (queue : EventQueue Payload) {point : PublishPoint Payload}

/-- What is sent is the serialization of the event of the publication, -/
theorem send_writes (suspended : (queue.send toJsonStr event attempt).2 = .suspended point) :
    Writes toJsonStr event point := by
  unfold send at suspended
  split at suspended
  · cases written : toJsonStr event with
    | none => simp [written] at suspended
    | some payload =>
      simp only [written, Progress.suspended.injEq] at suspended
      exact suspended ▸ written
  · simp at suspended

/-- also where the attempt connects first, -/
theorem attemptPublish_writes
    (suspended : (queue.attemptPublish toJsonStr event attempt).2 = .suspended point) :
    Writes toJsonStr event point := by
  unfold attemptPublish at suspended
  split at suspended
  · split at suspended
    · exact send_writes event attempt queue suspended
    · simp only [Progress.suspended.injEq] at suspended
      exact suspended ▸ trivial
  · simp at suspended

/-- and after a failure, where the same event is tried again. -/
theorem publishFailed_writes (failure : RedisFailure)
    (suspended : (queue.publishFailed attempt failure).2 = .suspended point) :
    Writes toJsonStr event point := by
  rcases publishFailed_cases attempt failure queue with ⟨_, _, ⟨_, paused⟩ | raised⟩ | ⟨_, left⟩
  · rw [paused, Progress.suspended.injEq] at suspended
    exact suspended ▸ trivial
  · simp [raised] at suspended
  · simp [left] at suspended

/-- A publish that goes on after an answer still writes its event. The payload was
made of the event at its first attempt, or is made anew. -/
theorem publish_writes (awaited : PublishPoint Payload) (reply : RedisReply)
    (suspended : ((publish toJsonStr).resume queue event awaited reply).2 = .suspended point) :
    Writes toJsonStr event point := by
  cases awaited with
  | connecting attempt =>
    cases reply with
    | answered => exact send_writes event attempt _ suspended
    | failed failure executed =>
      simp only [publish] at suspended
      split at suspended
      · exact send_writes event attempt _ suspended
      · exact publishFailed_writes event attempt _ failure suspended
  | adding attempt payload =>
    cases reply with
    | answered => simp [publish] at suspended
    | failed failure executed => exact publishFailed_writes event attempt _ failure suspended
  | sleeping attempt => exact attemptPublish_writes event (attempt + 1) queue suspended

end Publish

section Flush

variable (memory : Queued Event Payload)

/-- The loop of the flush reads its heads from the buffer, so what it publishes has
been emitted. -/
theorem flushItems_holding (items : List Event) (bounded : items.length ≤ maxBufferSize)
    (buffered : ∀ event ∈ items, emitted event) :
    FlushHolding toJsonStr emitted (flushItems (publish toJsonStr) memory items bounded) := by
  induction items generalizing memory with
  | nil => exact ⟨buffered, fun _ _ awaiting => by simp [flushItems] at awaiting⟩
  | cons head rest inductionHypothesis =>
    have entered (point : PublishPoint Payload) (queue : EventQueue Payload)
        (suspended : (publish toJsonStr).enter memory.queue head = (queue, .suspended point)) :
        Writes toJsonStr head point :=
      attemptPublish_writes head 0 memory.queue (congrArg Prod.snd suspended)
    rw [flushItems]
    split
    · next queue point suspended =>
      refine ⟨buffered, fun _ _ awaiting => ?_⟩
      obtain ⟨rfl, rfl⟩ := Flush.awaiting.inj awaiting
      exact ⟨buffered head List.mem_cons_self, entered point queue suspended⟩
    · exact inductionHypothesis _ _ fun event member =>
        buffered event (List.mem_cons_of_mem _ member)
    · refine ⟨buffered, fun _ _ awaiting => ?_⟩
      split at awaiting <;> simp at awaiting

/-- A flush publishes what is in the buffer, and that was emitted before. -/
theorem flushIfBuffered_holding (buffered : ∀ event ∈ memory.buffer.items, emitted event) :
    FlushHolding toJsonStr emitted (flushIfBuffered (publish toJsonStr) memory) := by
  unfold flushIfBuffered
  split
  · exact ⟨buffered, fun _ _ awaiting => by simp at awaiting⟩
  · exact flushItems_holding memory _ _ buffered

/-- A flush after one answer. What it pops leaves the others as they were, and the
next head comes from what is left. -/
theorem flushResumed_holding (head : Event) (awaited : PublishPoint Payload) (reply : RedisReply)
    (buffered : ∀ event ∈ memory.buffer.items, emitted event) (held : emitted head) :
    let resumed := (publish toJsonStr).resume memory.queue head awaited reply
    FlushHolding toJsonStr emitted
      (flushResumed (publish toJsonStr) { memory with queue := resumed.1 } head resumed.2) := by
  intro resumed
  have goesOn (point : PublishPoint Payload) (suspended : resumed.2 = .suspended point) :=
    publish_writes head memory.queue awaited reply suspended
  obtain ⟨queue, progress⟩ := resumed
  cases progress with
  | suspended point =>
    refine ⟨buffered, fun _ _ awaiting => ?_⟩
    obtain ⟨rfl, rfl⟩ := Flush.awaiting.inj awaiting
    exact ⟨held, goesOn point rfl⟩
  | finished result =>
    cases result with
    | error raised =>
      refine ⟨buffered, fun _ _ awaiting => ?_⟩
      simp only [flushResumed] at awaiting
      split at awaiting <;> simp at awaiting
    | ok entryId =>
      simp only [flushResumed]
      split
      · exact ⟨buffered, fun _ _ awaiting => by simp at awaiting⟩
      · next popped taken =>
        refine flushItems_holding _ _ _ fun event member => buffered event ?_
        obtain ⟨oldest, items⟩ := Deque.popleft_some taken
        exact items ▸ List.mem_cons_of_mem _ member

end Flush

section Task

variable (memory : Queued Event Payload)

/-- Buffering an emitted event, whatever a full buffer discards, leaves emitted
events in the buffer. -/
theorem buffered_emitted (event : Event) (buffered : ∀ event ∈ memory.buffer.items, emitted event)
    (held : emitted event) : ∀ other ∈ (memory.buffered event).buffer.items, emitted other := by
  intro other member
  have among : other ∈ memory.buffer.items ++ [event] := by
    rw [← memory.buffer.discarded_append event]
    exact List.mem_append_right _ member
  rcases List.mem_append.mp among with before | itself
  · exact buffered other before
  · exact List.mem_singleton.mp itself ▸ held

/-- An emit whose own publish has made progress. If it gives up, its event joins the
buffer, which holds emitted events only. -/
theorem publishResumed_holding (event : Event) (progress : PublishProgress Payload)
    (buffered : ∀ event ∈ memory.buffer.items, emitted event) (held : emitted event)
    (writes : ∀ point, progress = .suspended point → Writes toJsonStr event point) :
    Holding toJsonStr emitted (publishResumed memory event progress).1 (.emitEvent event)
      (publishResumed memory event progress).2 := by
  constructor
  · cases progress with
    | suspended point => exact buffered
    | finished result =>
      cases result with
      | ok entryId => exact buffered
      | error raised =>
        simp only [publishResumed]
        split
        · exact buffered_emitted memory event buffered held
        · exact buffered
  · intro next suspended
    obtain ⟨point, awaited, rfl, -⟩ := publishResumed_suspended suspended
    exact ⟨event, rfl, held, writes point awaited⟩

/-- After its flush an emission publishes or buffers its own event and nothing else.
-/
theorem emitFlushed_holding (event : Event)
    (flushed : Queued Event Payload × Flush Event (PublishPoint Payload)) (held : emitted event)
    (flush : FlushHolding toJsonStr emitted flushed) :
    Holding toJsonStr emitted (emitFlushed (publish toJsonStr) event flushed).1 (.emitEvent event)
      (emitFlushed (publish toJsonStr) event flushed).2 := by
  obtain ⟨memory, result⟩ := flushed
  cases result with
  | awaiting head point =>
    refine ⟨flush.buffered, fun next suspended => ?_⟩
    obtain rfl := Progress.suspended.inj suspended
    exact flush.awaits head point rfl
  | raised raised =>
    exact ⟨flush.buffered, fun next suspended => Progress.noConfusion rfl rfl (heq_of_eq suspended)⟩
  | ended =>
    exact publishResumed_holding _ event _ flush.buffered held fun point suspended =>
      attemptPublish_writes event 0 memory.queue suspended

/-- The loop that flushes has no event of its own, so all that it publishes is from
the buffer. -/
theorem periodicFlushed_holding
    (flushed : Queued Event Payload × Flush Event (PublishPoint Payload))
    (flush : FlushHolding toJsonStr emitted flushed) :
    Holding toJsonStr emitted (periodicFlushed flushed).1 .periodicFlush
      (periodicFlushed flushed).2 := by
  obtain ⟨memory, result⟩ := flushed
  refine ⟨by cases result <;> exact flush.buffered, fun next suspended => ?_⟩
  cases result with
  | awaiting head point =>
    obtain rfl := Progress.suspended.inj suspended
    exact flush.awaits head point rfl
  | raised raised => simp [periodicFlushed] at suspended
  | ended =>
    obtain rfl := Progress.suspended.inj suspended
    trivial

/-- A task that begins, with an emitted event if it is an emit; the flush it begins
with reads the buffer. -/
theorem enter_holding (task : Task Event)
    (buffered : ∀ event ∈ memory.buffer.items, emitted event)
    (own : ∀ event, task = .emitEvent event → emitted event) :
    Holding toJsonStr emitted ((honeypot (publish toJsonStr)).enter memory task).1 task
      ((honeypot (publish toJsonStr)).enter memory task).2 := by
  cases task with
  | emitEvent event =>
    exact emitFlushed_holding event _ (own event rfl) (flushIfBuffered_holding memory buffered)
  | periodicFlush =>
    refine ⟨buffered, fun next suspended => ?_⟩
    obtain rfl := Progress.suspended.inj suspended
    trivial

/-- A task that goes on after an answer. The cases are its awaits: the flush, its
own publish, the pause of the timer. -/
theorem resume_holding (task : Task Event) (point : TaskPoint Event (PublishPoint Payload))
    (reply : RedisReply) (buffered : ∀ event ∈ memory.buffer.items, emitted event)
    (own : ∀ event, task = .emitEvent event → emitted event)
    (holds : HoldsAt toJsonStr emitted task point) :
    Holding toJsonStr emitted
      ((honeypot (publish toJsonStr)).resume memory task point reply).1 task
      ((honeypot (publish toJsonStr)).resume memory task point reply).2 := by
  cases task with
  | emitEvent event =>
    cases point with
    | flushing head awaited =>
      exact emitFlushed_holding event _ (own event rfl)
        (flushResumed_holding memory head awaited reply buffered holds.1)
    | publishing awaited =>
      exact publishResumed_holding _ event _ buffered (own event rfl) fun next suspended =>
        publish_writes event memory.queue awaited reply suspended
    | sleeping =>
      refine ⟨buffered, fun next suspended => ?_⟩
      obtain rfl := Progress.suspended.inj suspended
      trivial
  | periodicFlush =>
    cases point with
    | flushing head awaited =>
      exact periodicFlushed_holding _
        (flushResumed_holding memory head awaited reply buffered holds.1)
    | publishing awaited =>
      obtain ⟨event, other, -⟩ := holds
      simp at other
    | sleeping => exact periodicFlushed_holding _ (flushIfBuffered_holding memory buffered)

/-- What an answer appends to the stream is an emitted event, written out; this is
where the provenance of entries comes from. -/
theorem appended_emitted {task : Task Event} {point : TaskPoint Event (PublishPoint Payload)}
    (reply : RedisReply) (holds : HoldsAt toJsonStr emitted task point) (payload : Payload)
    (member : payload ∈ taskAppends point reply) :
    ∃ event, emitted event ∧ toJsonStr event = some payload := by
  have written {event : Event} {awaited : PublishPoint Payload}
      (writes : Writes toJsonStr event awaited) (among : payload ∈ appends awaited reply) :
      toJsonStr event = some payload := by
    cases awaited with
    | adding attempt other =>
      have same : payload = other := by
        cases reply with
        | answered => simpa [appends] using among
        | failed failure executed => cases executed <;> simp_all [appends]
      exact same ▸ writes
    | _ => simp [appends] at among
  cases point with
  | flushing head awaited => exact ⟨head, holds.1, written holds.2 member⟩
  | publishing awaited =>
    obtain ⟨event, -, held, writes⟩ := holds
    exact ⟨event, held, written writes member⟩
  | sleeping => simp [taskAppends] at member

end Task

end Honeywatch.Honeypot
