import Honeywatch.Foundation.Coroutine
import Honeywatch.Foundation.Deque
import Honeywatch.Collector.Failures

/-!
# Emitting events through a memory buffer

`BaseHoneypot.emit_event`, `_flush_buffer` and `_periodic_flush` as coroutines
over the honeypot's buffer, on top of any coroutine that publishes one event.
The only awaits of an emit are those of the publishes it makes, of the buffered
events first and of its own event last; the periodic flush also awaits its
timer. `_flush_buffer` reads the head of the buffer before it awaits the
publish of that event and pops whatever is the head when the publish returns.

The events that a full buffer discards are recorded for use in statements.
-/

namespace Honeywatch.Honeypot

open Cooperative Collector

/-- `MAX_BUFFER_SIZE`. -/
def maxBufferSize : Nat := 10000

variable {Event Queue Point Reply EntryId : Type}

/-- A honeypot's memory: its buffer, the queue behind it, and the record of
events that a full buffer discarded. -/
structure Memory (Event Queue : Type) where
  buffer : Deque Event maxBufferSize
  queue : Queue
  evicted : List Event

/-- The coroutines that run on one honeypot. -/
inductive Task (Event : Type)
  | emitEvent (event : Event)
  | periodicFlush
deriving DecidableEq, Repr

/-- Their awaits: the publish of the buffer's head, the publish of the emitted
event, and the timer of the periodic flush. -/
inductive TaskPoint (Event Point : Type)
  | flushing (head : Event) (point : Point)
  | publishing (point : Point)
  | sleeping
deriving DecidableEq, Repr

/-- What an uninterrupted stretch of `_flush_buffer` comes to. -/
inductive Flush (Event Point : Type)
  | awaiting (head : Event) (point : Point)
  | ended
  | raised (raised : Raised)

/-- `self._buffer.append(event)`. -/
def Memory.buffered (memory : Memory Event Queue) (event : Event) : Memory Event Queue :=
  { memory with
    buffer := memory.buffer.append event
    evicted := memory.evicted ++ memory.buffer.discarded event }

variable (publish : Coroutine Queue Event Point Reply (Except Raised EntryId))

/-- The loop of `_flush_buffer` from its test on. A publish that returns without
an await pops the head it has just read. -/
def flushItems (memory : Memory Event Queue) :
    (items : List Event) → items.length ≤ maxBufferSize →
      Memory Event Queue × Flush Event Point
  | [], bounded => ({ memory with buffer := ⟨[], bounded⟩ }, .ended)
  | head :: rest, bounded =>
    match publish.enter memory.queue head with
    | (queue, .suspended point) =>
      ({ memory with buffer := ⟨head :: rest, bounded⟩, queue := queue }, .awaiting head point)
    | (queue, .finished (.ok _)) =>
      flushItems { memory with queue := queue } rest (Nat.le_of_succ_le bounded)
    | (queue, .finished (.error raised)) =>
      ({ memory with buffer := ⟨head :: rest, bounded⟩, queue := queue },
        if raised.isOSError then .ended else .raised raised)

/-- `_flush_buffer` from its start. -/
def flushBuffer (memory : Memory Event Queue) : Memory Event Queue × Flush Event Point :=
  flushItems publish memory memory.buffer.items memory.buffer.bounded

/-- `_flush_buffer` after the publish of the head made progress. On return it
pops the head of the buffer as it is now. -/
def flushResumed (memory : Memory Event Queue) (head : Event) :
    Progress Point (Except Raised EntryId) → Memory Event Queue × Flush Event Point
  | .suspended point => (memory, .awaiting head point)
  | .finished (.ok _) =>
    match memory.buffer.popleft with
    | none => (memory, .raised .indexError)
    | some popped => flushBuffer publish { memory with buffer := popped }
  | .finished (.error raised) =>
    (memory, if raised.isOSError then .ended else .raised raised)

/-- `emit_event` after the publish of its own event made progress. -/
def publishResumed (memory : Memory Event Queue) (event : Event) :
    Progress Point (Except Raised EntryId) →
      Memory Event Queue × Progress (TaskPoint Event Point) (Except Raised Unit)
  | .suspended point => (memory, .suspended (.publishing point))
  | .finished (.ok _) => (memory, .finished (.ok ()))
  | .finished (.error raised) =>
    if raised.isOSError then (memory.buffered event, .finished (.ok ()))
    else (memory, .finished (.error raised))

/-- An emit that goes on after its own publish made progress awaits the publish,
with nothing changed but the queue. -/
theorem publishResumed_suspended {memory : Memory Event Queue} {event : Event}
    {progress : Progress Point (Except Raised EntryId)} {next : TaskPoint Event Point}
    (suspended : (publishResumed memory event progress).2 = .suspended next) :
    ∃ point, progress = .suspended point ∧ next = .publishing point ∧
      (publishResumed memory event progress).1 = memory := by
  cases progress with
  | suspended point =>
    simp only [publishResumed, Progress.suspended.injEq] at suspended
    exact ⟨point, rfl, suspended.symm, rfl⟩
  | finished result =>
    cases result with
    | ok entryId => simp [publishResumed] at suspended
    | error raised =>
      simp only [publishResumed] at suspended
      split at suspended <;> simp at suspended

/-- `emit_event` after its flush, or after it found the buffer empty. -/
def emitFlushed (event : Event) :
    Memory Event Queue × Flush Event Point →
      Memory Event Queue × Progress (TaskPoint Event Point) (Except Raised Unit)
  | (memory, .awaiting head point) => (memory, .suspended (.flushing head point))
  | (memory, .raised raised) => (memory, .finished (.error raised))
  | (memory, .ended) =>
    let entered := publish.enter memory.queue event
    publishResumed { memory with queue := entered.1 } event entered.2

/-- `_periodic_flush` after its flush, or after it found the buffer empty. -/
def periodicFlushed :
    Memory Event Queue × Flush Event Point →
      Memory Event Queue × Progress (TaskPoint Event Point) (Except Raised Unit)
  | (memory, .awaiting head point) => (memory, .suspended (.flushing head point))
  | (memory, .raised raised) => (memory, .finished (.error raised))
  | (memory, .ended) => (memory, .suspended .sleeping)

/-- `if self._buffer: await self._flush_buffer()`. -/
def flushIfBuffered (memory : Memory Event Queue) : Memory Event Queue × Flush Event Point :=
  if memory.buffer.items = [] then (memory, .ended) else flushBuffer publish memory

/-- The tasks of a honeypot. An emit never sleeps and the periodic flush has no
event of its own, so the last two resumptions do not occur. -/
def honeypot : Coroutine (Memory Event Queue) (Task Event) (TaskPoint Event Point) Reply
    (Except Raised Unit) where
  enter memory task :=
    match task with
    | .emitEvent event => emitFlushed publish event (flushIfBuffered publish memory)
    | .periodicFlush => (memory, .suspended .sleeping)
  resume memory task point reply :=
    match task, point with
    | .emitEvent event, .flushing head point =>
      let resumed := publish.resume memory.queue head point reply
      emitFlushed publish event
        (flushResumed publish { memory with queue := resumed.1 } head resumed.2)
    | .emitEvent event, .publishing point =>
      let resumed := publish.resume memory.queue event point reply
      publishResumed { memory with queue := resumed.1 } event resumed.2
    | .periodicFlush, .sleeping => periodicFlushed (flushIfBuffered publish memory)
    | .periodicFlush, .flushing head point =>
      let resumed := publish.resume memory.queue head point reply
      periodicFlushed (flushResumed publish { memory with queue := resumed.1 } head resumed.2)
    | .emitEvent _, .sleeping => (memory, .suspended .sleeping)
    | .periodicFlush, .publishing point => (memory, .suspended (.publishing point))

end Honeywatch.Honeypot
