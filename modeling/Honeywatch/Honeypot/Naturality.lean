import Honeywatch.Collector.Naturality
import Honeywatch.Honeypot.EmitTotal

/-!
# Emitting does not look at what it emits

The tasks of a honeypot do the same in the same places with other events and
other payloads.
-/

namespace Honeywatch.Honeypot

open Cooperative Collector EventQueue

variable {Event Payload Other Target : Type}

def Memory.map (f : Event → Other) (g : Payload → Target) (memory : Queued Event Payload) :
    Queued Other Target :=
  { buffer := memory.buffer.map f
    queue := memory.queue.map g
    evicted := memory.evicted.map f }

def Task.map (f : Event → Other) : Task Event → Task Other
  | .emitEvent event => .emitEvent (f event)
  | .periodicFlush => .periodicFlush

def TaskPoint.map (f : Event → Other) (g : Payload → Target) :
    TaskPoint Event (PublishPoint Payload) → TaskPoint Other (PublishPoint Target)
  | .flushing head point => .flushing (f head) (point.map g)
  | .publishing point => .publishing (point.map g)
  | .sleeping => .sleeping

def Flush.map (f : Event → Other) (g : Payload → Target) :
    Flush Event (PublishPoint Payload) → Flush Other (PublishPoint Target)
  | .awaiting head point => .awaiting (f head) (point.map g)
  | .ended => .ended
  | .raised failure => .raised failure

/-- An uninterrupted stretch of a flush, renamed. -/
def mapFlush (f : Event → Other) (g : Payload → Target)
    (flushed : Queued Event Payload × Flush Event (PublishPoint Payload)) :
    Queued Other Target × Flush Other (PublishPoint Target) :=
  (flushed.1.map f g, flushed.2.map f g)

/-- A segment of a task, renamed. -/
def mapSegment (f : Event → Other) (g : Payload → Target)
    (segment : Queued Event Payload ×
      Progress (TaskPoint Event (PublishPoint Payload)) (Except Raised Unit)) :
    Queued Other Target ×
      Progress (TaskPoint Other (PublishPoint Target)) (Except Raised Unit) :=
  (segment.1.map f g, segment.2.map (TaskPoint.map f g))

variable {toJsonStr : Event → Option Payload} {toTarget : Other → Option Target} {f : Event → Other}
  {g : Payload → Target}

/-- Buffering commutes with a renaming, together with what it displaces. -/
@[simp] theorem map_buffered (memory : Queued Event Payload) (event : Event) :
    (memory.buffered event).map f g = (memory.map f g).buffered (f event) := by
  simp [Memory.map, Memory.buffered, Deque.map_append, Deque.map_discarded]

/-- A renaming acts on the queue and on the buffer apart from each other. -/
@[simp] theorem map_queue (memory : Queued Event Payload) (queue : EventQueue Payload) :
    { memory.map f g with queue := queue.map g } = { memory with queue := queue }.map f g := rfl

/-- A flush goes over the buffer from its head, and a renamed one does the same with
the renamed events. The renaming has to respect how events are serialized. By
induction over the items. -/
theorem flushItems_map (serialized : ∀ event, toTarget (f event) = (toJsonStr event).map g)
    (memory : Queued Event Payload) (items : List Event) (bounded : items.length ≤ maxBufferSize)
    (renamed : (items.map f).length ≤ maxBufferSize) :
    flushItems (publish toTarget) (memory.map f g) (items.map f) renamed =
      mapFlush f g (flushItems (publish toJsonStr) memory items bounded) := by
  induction items generalizing memory with
  | nil => rfl
  | cons head rest inductionHypothesis =>
    have entered := publish_enter_map serialized head memory.queue
    simp only [List.map_cons, flushItems]
    cases segment : (publish toJsonStr).enter memory.queue head with
    | mk queue progress =>
      rw [segment] at entered
      simp only [Memory.map] at entered ⊢
      rw [entered]
      cases progress with
      | suspended point => rfl
      | finished result =>
        cases result with
        | ok entryId => exact inductionHypothesis { memory with queue := queue } _ _
        | error raised =>
          simp only [mapPublish, Progress.map, mapFlush]
          split <;> rfl

/-- Without buffered events there is no flush, on both sides, as the map changes no
number of events. -/
theorem flushIfBuffered_map (serialized : ∀ event, toTarget (f event) = (toJsonStr event).map g)
    (memory : Queued Event Payload) :
    flushIfBuffered (publish toTarget) (memory.map f g) =
      mapFlush f g (flushIfBuffered (publish toJsonStr) memory) := by
  unfold flushIfBuffered
  by_cases nothing : memory.buffer.items = []
  · simp [nothing, Memory.map, mapFlush, Flush.map]
  · have something : (memory.map f g).buffer.items ≠ [] := by simpa [Memory.map] using nothing
    rw [if_neg nothing, if_neg something]
    exact flushItems_map serialized memory _ _ _

/-- A flush that was interrupted goes on after its head, or stops, by the result
alone. -/
theorem flushResumed_map (serialized : ∀ event, toTarget (f event) = (toJsonStr event).map g)
    (memory : Queued Event Payload) (head : Event) (progress : PublishProgress Payload) :
    flushResumed (publish toTarget) (memory.map f g) (f head) (progress.map (PublishPoint.map g)) =
      mapFlush f g (flushResumed (publish toJsonStr) memory head progress) := by
  cases progress with
  | suspended point => rfl
  | finished result =>
    cases result with
    | error raised =>
      simp only [flushResumed, Progress.map, mapFlush]
      split <;> rfl
    | ok entryId =>
      have popped : (memory.map f g).buffer.popleft = memory.buffer.popleft.map (Deque.map f) :=
        Deque.map_popleft f memory.buffer
      simp only [flushResumed, Progress.map, popped]
      cases memory.buffer.popleft with
      | none => rfl
      | some shorter => exact flushItems_map serialized { memory with buffer := shorter } _ _ _

/-- A publication that has failed buffers its event, whatever the event is; which
exception it was does not depend on it. -/
theorem publishResumed_map (memory : Queued Event Payload) (event : Event)
    (progress : PublishProgress Payload) :
    publishResumed (memory.map f g) (f event) (progress.map (PublishPoint.map g)) =
      mapSegment f g (publishResumed memory event progress) := by
  cases progress with
  | suspended point => rfl
  | finished result =>
    cases result with
    | ok entryId => rfl
    | error raised =>
      simp only [publishResumed, Progress.map]
      split
      · rw [← map_buffered]
        rfl
      · rfl

/-- After the flush an emission publishes its own event, on both sides or on
neither. -/
theorem emitFlushed_map (serialized : ∀ event, toTarget (f event) = (toJsonStr event).map g)
    (event : Event) (flushed : Queued Event Payload × Flush Event (PublishPoint Payload)) :
    emitFlushed (publish toTarget) (f event) (mapFlush f g flushed) =
      mapSegment f g (emitFlushed (publish toJsonStr) event flushed) := by
  obtain ⟨memory, flush⟩ := flushed
  cases flush with
  | awaiting head point => rfl
  | raised raised => rfl
  | ended =>
    have entered := publish_enter_map serialized event memory.queue
    simp only [mapFlush, Flush.map, emitFlushed]
    rw [← publishResumed_map]
    exact congrArg (fun result : EventQueue Target × PublishProgress Target =>
      publishResumed { memory.map f g with queue := result.1 } (f event) result.2) entered

/-- The loop that flushes every now and then looks at no event. -/
theorem periodicFlushed_map
    (flushed : Queued Event Payload × Flush Event (PublishPoint Payload)) :
    periodicFlushed (mapFlush f g flushed) = mapSegment f g (periodicFlushed flushed) := by
  obtain ⟨memory, flush⟩ := flushed
  cases flush <;> rfl

/-- A task begins with the same await on both sides, and the memory is the renamed
one. -/
theorem enter_map (serialized : ∀ event, toTarget (f event) = (toJsonStr event).map g)
    (memory : Queued Event Payload) (task : Task Event) :
    (honeypot (publish toTarget)).enter (memory.map f g) (task.map f) =
      mapSegment f g ((honeypot (publish toJsonStr)).enter memory task) := by
  cases task with
  | periodicFlush => rfl
  | emitEvent event =>
    simp only [honeypot, Task.map]
    rw [flushIfBuffered_map serialized, emitFlushed_map serialized]

/-- The publish of the head is answered, and the flush goes on, with the pop of the
same place on both sides. -/
theorem flushAnswered_map (serialized : ∀ event, toTarget (f event) = (toJsonStr event).map g)
    (memory : Queued Event Payload) (head : Event) (point : PublishPoint Payload)
    (reply : RedisReply) :
    flushResumed (publish toTarget)
        { memory.map f g with
          queue := ((publish toTarget).resume (memory.map f g).queue (f head) (point.map g)
            reply).1 }
        (f head) ((publish toTarget).resume (memory.map f g).queue (f head) (point.map g) reply).2 =
      mapFlush f g (flushResumed (publish toJsonStr)
        { memory with queue := ((publish toJsonStr).resume memory.queue head point reply).1 } head
        ((publish toJsonStr).resume memory.queue head point reply).2) := by
  have resumed := publish_resume_map serialized head memory.queue point reply
  rw [← flushResumed_map serialized]
  exact congrArg (fun result : EventQueue Target × PublishProgress Target =>
    flushResumed (publish toTarget) { memory.map f g with queue := result.1 } (f head) result.2)
    resumed

/-- A task goes on in the same way after an answer. The cases are the awaits; each
is one of the lemmas above. So two honeypots that differ by a renaming cannot be
told apart by their awaits. -/
theorem resume_map (serialized : ∀ event, toTarget (f event) = (toJsonStr event).map g)
    (memory : Queued Event Payload) (task : Task Event)
    (point : TaskPoint Event (PublishPoint Payload)) (reply : RedisReply) :
    (honeypot (publish toTarget)).resume (memory.map f g) (task.map f) (point.map f g) reply =
      mapSegment f g ((honeypot (publish toJsonStr)).resume memory task point reply) := by
  cases point with
  | flushing head point =>
    have flushed := flushAnswered_map serialized memory head point reply
    cases task with
    | emitEvent event =>
      simp only [honeypot, Task.map, TaskPoint.map]
      rw [flushed, emitFlushed_map serialized]
    | periodicFlush =>
      simp only [honeypot, Task.map, TaskPoint.map]
      rw [flushed, periodicFlushed_map]
  | publishing point =>
    cases task with
    | periodicFlush => rfl
    | emitEvent event =>
      have resumed := publish_resume_map serialized event memory.queue point reply
      simp only [honeypot, Task.map, TaskPoint.map]
      rw [← publishResumed_map]
      exact congrArg (fun result : EventQueue Target × PublishProgress Target =>
        publishResumed { memory.map f g with queue := result.1 } (f event) result.2) resumed
  | sleeping =>
    cases task with
    | emitEvent event => rfl
    | periodicFlush =>
      simp only [honeypot, Task.map, TaskPoint.map]
      rw [flushIfBuffered_map serialized, periodicFlushed_map]

end Honeywatch.Honeypot
