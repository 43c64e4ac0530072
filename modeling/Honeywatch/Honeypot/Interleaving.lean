import Honeywatch.Honeypot.Base

/-!
# Interleaved emits and flushes over a publish that keeps its word

The publish assumed here either appends exactly one entry for its event and
returns, or appends nothing and raises `ConnectionError`. It is suspended until
Redis has answered and again until its caller is resumed, so other tasks may run
between the append and the return.

`Segment` lists everything one resumed task can do. Every invariant of the
interleavings is derived from it and from the two ways a task enters.
-/

namespace Honeywatch.Honeypot

open Cooperative Collector Transition

variable {Event : Type}

/-- Redis has not answered yet, or has appended the entry. -/
inductive Stage
  | pending
  | accepted
deriving DecidableEq, Repr

/-- A publish that appends one entry and returns, or refuses and raises. -/
def assumedPublish : Coroutine (List Event) Event Stage Bool (Except Raised Unit) where
  enter stream _ := (stream, .suspended .pending)
  resume stream event stage reply :=
    match stage, reply with
    | .pending, true => (stream ++ [event], .suspended .accepted)
    | .pending, false => (stream, .finished (.error .connectionError))
    | .accepted, _ => (stream, .finished (.ok ()))

/-- A honeypot's memory over the stream. -/
abbrev Streamed (Event : Type) := Memory Event (List Event)

/-- A call of one of the honeypot's coroutines, and what it has come to. -/
abbrev Running (Event : Type) := Call (Task Event) (TaskPoint Event Stage) (Except Raised Unit)

abbrev Advance (Event : Type) := Progress (TaskPoint Event Stage) (Except Raised Unit)

/-- Any number of emits and periodic flushes on one honeypot. -/
abbrev Emitters (Event : Type) :=
  Pool (Streamed Event) (Task Event) (TaskPoint Event Stage) (Except Raised Unit)

/-- The coroutines of one honeypot over the assumed publish. -/
abbrev emitter : Coroutine (Streamed Event) (Task Event) (TaskPoint Event Stage) Bool
    (Except Raised Unit) := honeypot assumedPublish

/-- The honeypot before its first event. -/
def silent : Emitters Event :=
  { shared := { buffer := .empty, queue := [], evicted := [] }, calls := [] }

/-- What a task awaits once its flush is over: an emit the publish of its own
event, the periodic flush its timer. -/
def afterFlush : Task Event → Advance Event
  | .emitEvent _ => .suspended (.publishing .pending)
  | .periodicFlush => .suspended .sleeping

/-- What a task awaits after the test of the flush loop. -/
def readHead (task : Task Event) : List Event → Advance Event
  | [] => afterFlush task
  | head :: _ => .suspended (.flushing head .pending)

/-- What a task awaits when it has entered. -/
def entered (task : Task Event) (items : List Event) : Advance Event :=
  match task with
  | .emitEvent _ => readHead task items
  | .periodicFlush => .suspended .sleeping

/-- Everything a resumed task can do to the memory and to itself. -/
inductive Segment (memory : Streamed Event) :
    Task Event → TaskPoint Event Stage → Bool → Streamed Event → Advance Event → Prop
  | accepted (task : Task Event) (head : Event) :
      Segment memory task (.flushing head .pending) true
        { memory with queue := memory.queue ++ [head] } (.suspended (.flushing head .accepted))
  | refused (task : Task Event) (head : Event) :
      Segment memory task (.flushing head .pending) false memory (afterFlush task)
  | popped (task : Task Event) (head oldest : Event) (rest : List Event) (reply : Bool)
      (shorter : Deque Event maxBufferSize)
      (held : memory.buffer.items = oldest :: rest) (remaining : shorter.items = rest) :
      Segment memory task (.flushing head .accepted) reply
        { memory with buffer := shorter } (readHead task rest)
  | exhausted (task : Task Event) (head : Event) (reply : Bool)
      (held : memory.buffer.items = []) :
      Segment memory task (.flushing head .accepted) reply memory
        (.finished (.error .indexError))
  | ownAccepted (event : Event) :
      Segment memory (.emitEvent event) (.publishing .pending) true
        { memory with queue := memory.queue ++ [event] } (.suspended (.publishing .accepted))
  | ownRefused (event : Event) :
      Segment memory (.emitEvent event) (.publishing .pending) false
        (memory.buffered event) (.finished (.ok ()))
  | ownReturned (event : Event) (reply : Bool) :
      Segment memory (.emitEvent event) (.publishing .accepted) reply memory (.finished (.ok ()))
  | tick (reply : Bool) :
      Segment memory .periodicFlush .sleeping reply memory
        (readHead .periodicFlush memory.buffer.items)
  | emitAsleep (event : Event) (reply : Bool) :
      Segment memory (.emitEvent event) .sleeping reply memory (.suspended .sleeping)
  | timerPublishing (stage : Stage) (reply : Bool) :
      Segment memory .periodicFlush (.publishing stage) reply memory
        (.suspended (.publishing stage))

/-- Where the flush loop stands after its test. -/
def flushHead : List Event → Flush Event Stage
  | [] => .ended
  | head :: _ => .awaiting head .pending

/-- The flush loop reads the head of what the buffer holds and suspends. -/
theorem flushItems_assumed (memory : Streamed Event) (items : List Event)
    (bounded : items.length ≤ maxBufferSize) :
    flushItems assumedPublish memory items bounded =
      ({ memory with buffer := ⟨items, bounded⟩ }, flushHead items) := by
  cases items <;> rfl

/-- A flush leaves the memory as it is and awaits the head, if there is one. -/
theorem flushBuffer_assumed (memory : Streamed Event) :
    flushBuffer assumedPublish memory = (memory, flushHead memory.buffer.items) := by
  rw [flushBuffer, flushItems_assumed]

/-- With a queue that is only assumed to answer, a flush of an empty buffer is no
different from none. -/
theorem flushIfBuffered_assumed (memory : Streamed Event) :
    flushIfBuffered assumedPublish memory = flushBuffer assumedPublish memory := by
  unfold flushIfBuffered
  split
  · next none_held =>
    rw [flushBuffer_assumed, none_held, flushHead]
  · rfl

/-- After a flush that has read the buffer, each task is where `readHead` says. -/
theorem emitFlushed_assumed (event : Event) (memory : Streamed Event) :
    emitFlushed assumedPublish event (flushBuffer assumedPublish memory) =
      (memory, readHead (.emitEvent event) memory.buffer.items) := by
  rw [flushBuffer_assumed]
  cases memory.buffer.items <;> rfl

/-- The loop that flushes reads the head of the buffer and then awaits the answer
for it. -/
theorem periodicFlushed_assumed (memory : Streamed Event) :
    periodicFlushed (flushBuffer assumedPublish memory) =
      ((memory, readHead .periodicFlush memory.buffer.items) :
        Streamed Event × Advance Event) := by
  rw [flushBuffer_assumed]
  cases memory.buffer.items <;> rfl

/-- A task enters without touching the memory. -/
theorem enter_assumed (memory : Streamed Event) (task : Task Event) :
    emitter.enter memory task = (memory, entered task memory.buffer.items) := by
  cases task with
  | emitEvent event =>
    simp only [emitter, honeypot, flushIfBuffered_assumed, emitFlushed_assumed, entered]
  | periodicFlush => rfl

/-- A resumed task does one of the listed things. The cases are the point at which
it stands and the answer, and in each the constructor says what changes. -/
theorem segment_of_resume (memory : Streamed Event) (task : Task Event)
    (point : TaskPoint Event Stage) (reply : Bool) :
    Segment memory task point reply (emitter.resume memory task point reply).1
      (emitter.resume memory task point reply).2 := by
  cases point with
  | flushing head stage =>
    cases stage with
    | pending =>
      cases reply with
      | true => cases task <;> exact .accepted _ head
      | false => cases task <;> exact .refused _ head
    | accepted =>
      cases held : memory.buffer.items with
      | nil =>
        have none_left := memory.buffer.popleft_nil held
        cases task with
        | emitEvent event =>
          simp only [emitter, honeypot, assumedPublish, flushResumed, none_left, emitFlushed]
          exact .exhausted _ head reply held
        | periodicFlush =>
          simp only [emitter, honeypot, assumedPublish, flushResumed, none_left, periodicFlushed]
          exact .exhausted _ head reply held
      | cons oldest rest =>
        obtain ⟨shorter, popped, remaining⟩ := memory.buffer.popleft_cons oldest rest held
        cases task with
        | emitEvent event =>
          simp only [emitter, honeypot, assumedPublish, flushResumed, popped]
          have advanced := emitFlushed_assumed event { memory with buffer := shorter }
          simp only [assumedPublish] at advanced
          rw [advanced, remaining]
          exact .popped _ head oldest rest reply shorter held remaining
        | periodicFlush =>
          simp only [emitter, honeypot, assumedPublish, flushResumed, popped]
          have advanced := periodicFlushed_assumed { memory with buffer := shorter }
          simp only [assumedPublish] at advanced
          rw [advanced, remaining]
          exact .popped _ head oldest rest reply shorter held remaining
  | publishing stage =>
    cases task with
    | emitEvent event =>
      cases stage with
      | pending =>
        cases reply with
        | true => exact .ownAccepted event
        | false => exact .ownRefused event
      | accepted => exact .ownReturned event reply
    | periodicFlush => exact .timerPublishing stage reply
  | sleeping =>
    cases task with
    | emitEvent event => exact .emitAsleep event reply
    | periodicFlush =>
      simp only [emitter, honeypot, flushIfBuffered_assumed, periodicFlushed_assumed]
      exact .tick reply

end Honeywatch.Honeypot
