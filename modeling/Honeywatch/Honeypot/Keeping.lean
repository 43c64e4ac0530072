import Honeywatch.Honeypot.Base

/-!
# What the tasks of a honeypot keep

A publish keeps its word when it takes nothing out of the stream and returns
only with its own event in it, whatever others do to the shared queue between
its awaits. Over such a publish every task keeps what is in the stream, in the
buffer or among the discarded, with one exception: a flush whose publish has
returned pops whatever heads the buffer by then.
-/

namespace Honeywatch.Honeypot

open Cooperative Collector

variable {Event Queue Point Reply EntryId : Type}

/-- The publish keeps its word. What it needs to know while it is suspended is
kept for each of its awaits. -/
structure KeepsWord (publish : Coroutine Queue Event Point Reply (Except Raised EntryId))
    (published : Queue → Event → Prop) (sends : Event → Point → Prop) : Prop where
  entered : ∀ queue own event, published queue event →
    published (publish.enter queue own).1 event
  resumed : ∀ queue own point reply event, sends own point → published queue event →
    published (publish.resume queue own point reply).1 event
  sendsFirst : ∀ queue own point, (publish.enter queue own).2 = .suspended point → sends own point
  sendsNext : ∀ queue own point reply next, sends own point →
    (publish.resume queue own point reply).2 = .suspended next → sends own next
  returnsAtOnce : ∀ queue own entryId, (publish.enter queue own).2 = .finished (.ok entryId) →
    published (publish.enter queue own).1 own
  returns : ∀ queue own point reply entryId, sends own point →
    (publish.resume queue own point reply).2 = .finished (.ok entryId) →
    published (publish.resume queue own point reply).1 own

/-- The event is in the stream, in the buffer or among the discarded. -/
def Safe (published : Queue → Event → Prop) (memory : Memory Event Queue) (event : Event) : Prop :=
  published memory.queue event ∨ event ∈ memory.buffer.items ∨ event ∈ memory.evicted

/-- Every safe event stays safe, except for the one that is popped. -/
structure Retains (published : Queue → Event → Prop) (popped : Option Event)
    (memory after : Memory Event Queue) : Prop where
  stream : ∀ event, published memory.queue event → published after.queue event
  evicted : ∀ event ∈ memory.evicted, event ∈ after.evicted
  buffer : ∀ event ∈ memory.buffer.items, Safe published after event ∨ popped = some event

namespace Retains

variable {published : Queue → Event → Prop} {memory middle after : Memory Event Queue}

/-- A memory keeps its own events. -/
theorem refl (memory : Memory Event Queue) : Retains published none memory memory where
  stream _ held := held
  evicted _ held := held
  buffer _ held := .inl (.inr (.inl held))

/-- What is not popped stays safe: in the stream, in the buffer or noted as
discarded. -/
theorem safe {popped : Option Event} (retains : Retains published popped memory after)
    {event : Event} (held : Safe published memory event) (kept : popped ≠ some event) :
    Safe published after event := by
  rcases held with streamed | buffered | discarded
  · exact .inl (retains.stream event streamed)
  · exact (retains.buffer event buffered).resolve_right kept
  · exact .inr (.inr (retains.evicted event discarded))

/-- What was kept up to a moment and from then on was kept throughout, with one pop
at most. -/
theorem trans {popped : Option Event} (first : Retains published popped memory middle)
    (second : Retains published none middle after) : Retains published popped memory after where
  stream event held := second.stream event (first.stream event held)
  evicted event held := second.evicted event (first.evicted event held)
  buffer event held := by
    rcases first.buffer event held with safe | gone
    · exact .inl (second.safe safe (by simp))
    · exact .inr gone

/-- A change of the queue alone. -/
theorem requeued (queue : Queue)
    (grows : ∀ event, published memory.queue event → published queue event) :
    Retains published none memory { memory with queue := queue } where
  stream := grows
  evicted _ held := held
  buffer _ held := .inl (.inr (.inl held))

/-- A full buffer discards its oldest event, and nothing is lost: it is noted as
discarded. -/
theorem buffered (memory : Memory Event Queue) (event : Event) :
    Retains published none memory (memory.buffered event) where
  stream _ held := held
  evicted _ held := List.mem_append_left _ held
  buffer other held := by
    have among : other ∈ memory.buffer.discarded event ++ (memory.buffer.append event).items := by
      rw [memory.buffer.discarded_append event]
      exact List.mem_append_left _ held
    left
    rcases List.mem_append.mp among with discarded | kept
    · exact .inr (.inr (List.mem_append_right _ discarded))
    · exact .inr (.inl kept)

/-- The head of the buffer is popped, and all behind it stays. That the head was
published is for the flush to show. -/
theorem popped (oldest : Event) (rest : List Event) (shorter : Deque Event maxBufferSize)
    (items : memory.buffer.items = oldest :: rest) (remaining : shorter.items = rest) :
    Retains published (some oldest) memory { memory with buffer := shorter } where
  stream _ held := held
  evicted _ held := held
  buffer event held := by
    rw [items] at held
    rcases List.mem_cons.mp held with rfl | later
    · exact .inr rfl
    · exact .inl (.inr (.inl (remaining ▸ later)))

end Retains

/-- What the await of a task has to do with its event. -/
def Awaiting (sends : Event → Point → Prop) (task : Task Event) : TaskPoint Event Point → Prop
  | .flushing head point => sends head point
  | .publishing point => ∀ event, task = .emitEvent event → sends event point
  | .sleeping => True

/-- An uninterrupted stretch of `_flush_buffer`. -/
structure Flushed (published : Queue → Event → Prop) (sends : Event → Point → Prop)
    (popped : Option Event) (memory : Memory Event Queue)
    (flushed : Memory Event Queue × Flush Event Point) : Prop where
  retains : Retains published popped memory flushed.1
  awaits : ∀ head point, flushed.2 = .awaiting head point → sends head point

/-- A task after one segment. With its emit returned, its event is safe. -/
structure Advanced (published : Queue → Event → Prop) (sends : Event → Point → Prop)
    (popped : Option Event) (memory : Memory Event Queue) (task : Task Event)
    (advanced : Memory Event Queue × Progress (TaskPoint Event Point) (Except Raised Unit)) :
    Prop where
  retains : Retains published popped memory advanced.1
  awaits : ∀ point, advanced.2 = .suspended point → Awaiting sends task point
  returned : ∀ event, task = .emitEvent event → advanced.2 = .finished (.ok ()) →
    Safe published advanced.1 event

section Segments

variable {publish : Coroutine Queue Event Point Reply (Except Raised EntryId)}
  {published : Queue → Event → Prop} {sends : Event → Point → Prop}

/-- The loop of the flush drops only heads that it has published. The induction is
on what it is given, and stops at the first publish that awaits. -/
theorem flushItems_flushed (keeps : KeepsWord publish published sends)
    (memory : Memory Event Queue) (items : List Event) (bounded : items.length ≤ maxBufferSize)
    (held : memory.buffer.items = items) :
    Flushed published sends none memory (flushItems publish memory items bounded) := by
  suffices loop : ∀ (items : List Event) (bounded : items.length ≤ maxBufferSize)
      (memory : Memory Event Queue),
      (∀ event, published memory.queue event →
        published (flushItems publish memory items bounded).1.queue event) ∧
      (flushItems publish memory items bounded).1.evicted = memory.evicted ∧
      (∀ event ∈ items, published (flushItems publish memory items bounded).1.queue event ∨
        event ∈ (flushItems publish memory items bounded).1.buffer.items) ∧
      ∀ head point, (flushItems publish memory items bounded).2 = .awaiting head point →
        sends head point by
    obtain ⟨stream, evicted, buffer, awaits⟩ := loop items bounded memory
    refine ⟨⟨stream, fun event discarded => evicted ▸ discarded, ?_⟩, awaits⟩
    intro event buffered
    rcases buffer event (held ▸ buffered) with streamed | kept
    · exact .inl (.inl streamed)
    · exact .inl (.inr (.inl kept))
  intro items
  induction items with
  | nil =>
    intro bounded memory
    exact ⟨fun _ streamed => streamed, rfl, by simp, by simp [flushItems]⟩
  | cons head rest inductionHypothesis =>
    intro bounded memory
    have grows := keeps.entered memory.queue head
    have awaited := keeps.sendsFirst memory.queue head
    have sent := keeps.returnsAtOnce memory.queue head
    rw [flushItems]
    generalize publish.enter memory.queue head = entered at grows awaited sent
    obtain ⟨queue, progress⟩ := entered
    cases progress with
    | suspended point =>
      refine ⟨grows, rfl, fun _ member => .inr member, ?_⟩
      rintro _ _ ⟨rfl⟩
      exact awaited point rfl
    | finished result =>
      cases result with
      | ok entryId =>
        obtain ⟨stream, evicted, buffer, awaits⟩ :=
          inductionHypothesis (Nat.le_of_succ_le bounded) { memory with queue := queue }
        refine ⟨fun event streamed => stream event (grows event streamed), evicted, ?_, awaits⟩
        intro event member
        rcases List.mem_cons.mp member with rfl | later
        · exact .inl (stream event (sent entryId rfl))
        · exact buffer event later
      | error raised =>
        refine ⟨grows, rfl, fun _ member => .inr member, ?_⟩
        intro head' point awaiting
        simp only at awaiting
        split at awaiting <;> cases awaiting

/-- A flush goes over the whole buffer from its head. -/
theorem flushBuffer_flushed (keeps : KeepsWord publish published sends)
    (memory : Memory Event Queue) :
    Flushed published sends none memory (flushBuffer publish memory) :=
  flushItems_flushed keeps memory _ _ rfl

/-- With an empty buffer there is nothing to lose, and otherwise the flush begins.
-/
theorem flushIfBuffered_flushed (keeps : KeepsWord publish published sends)
    (memory : Memory Event Queue) :
    Flushed published sends none memory (flushIfBuffered publish memory) := by
  unfold flushIfBuffered
  split
  · exact ⟨.refl memory, by simp⟩
  · exact flushBuffer_flushed keeps memory

variable (publish) in
/-- What a flush pops when its publish returns: the head of the buffer as it is now. -/
def popped (memory : Memory Event Queue) : TaskPoint Event Point → Reply → Option Event
  | .flushing head point, reply =>
    match (publish.resume memory.queue head point reply).2 with
    | .finished (.ok _) => memory.buffer.items.head?
    | _ => none
  | _, _ => none

/-- A flush after one answer. The publish of its head returned, and the head goes,
or it raised or awaits, and the buffer stays. -/
theorem flushResumed_flushed (keeps : KeepsWord publish published sends)
    (memory : Memory Event Queue) (head : Event) (point : Point) (reply : Reply)
    (sent : sends head point) :
    Flushed published sends (popped publish memory (.flushing head point) reply) memory
      (flushResumed publish
        { memory with queue := (publish.resume memory.queue head point reply).1 } head
        (publish.resume memory.queue head point reply).2) := by
  have grows := fun event => keeps.resumed memory.queue head point reply event sent
  have awaited := keeps.sendsNext memory.queue head point reply
  simp only [popped]
  generalize publish.resume memory.queue head point reply = resumed at grows awaited
  obtain ⟨queue, progress⟩ := resumed
  have requeued : Retains published none memory { memory with queue := queue } :=
    .requeued queue grows
  cases progress with
  | suspended next =>
    refine ⟨requeued, ?_⟩
    rintro _ _ ⟨rfl⟩
    exact awaited next sent rfl
  | finished result =>
    cases result with
    | error raised =>
      refine ⟨requeued, ?_⟩
      intro head' next awaiting
      simp only [flushResumed] at awaiting
      split at awaiting <;> cases awaiting
    | ok entryId =>
      cases held : memory.buffer.items with
      | nil =>
        have nothing := memory.buffer.popleft_nil held
        simp only [flushResumed, nothing]
        exact ⟨requeued, by simp⟩
      | cons oldest rest =>
        obtain ⟨shorter, popping, remaining⟩ := memory.buffer.popleft_cons oldest rest held
        obtain ⟨retains, awaits⟩ :=
          flushBuffer_flushed keeps { memory with queue := queue, buffer := shorter }
        simp only [flushResumed, popping]
        refine ⟨?_, awaits⟩
        have pops : Retains published (some oldest) memory
            { memory with queue := queue, buffer := shorter } :=
          (Retains.popped oldest rest shorter held remaining).trans (.requeued queue grows)
        exact pops.trans retains

/-- The publish of its own event has made progress. Where it returned, the event is
published; where it gave up, it is buffered. -/
theorem publishResumed_advanced (memory : Memory Event Queue) (event : Event)
    (progress : Progress Point (Except Raised EntryId))
    (awaited : ∀ point, progress = .suspended point → sends event point)
    (sent : ∀ entryId, progress = .finished (.ok entryId) → published memory.queue event) :
    Advanced published sends none memory (.emitEvent event)
      (publishResumed memory event progress) := by
  cases progress with
  | suspended point =>
    refine ⟨.refl memory, ?_, by simp [publishResumed]⟩
    rintro _ ⟨rfl⟩ _ ⟨rfl⟩
    exact awaited point rfl
  | finished result =>
    cases result with
    | ok entryId =>
      refine ⟨.refl memory, by simp [publishResumed], ?_⟩
      rintro _ ⟨rfl⟩ _
      exact .inl (sent entryId rfl)
    | error raised =>
      simp only [publishResumed]
      split
      · refine ⟨.buffered memory event, by simp, ?_⟩
        rintro _ ⟨rfl⟩ _
        exact .inr (.inl (memory.buffer.mem_append_self event (by decide)))
      · exact ⟨.refl memory, by simp, by simp⟩

/-- An emit after its flush goes on with its own publish, on what the flush has left
of the buffer. -/
theorem emitFlushed_advanced (keeps : KeepsWord publish published sends) {before : Option Event}
    {memory : Memory Event Queue} (event : Event)
    {flushed : Memory Event Queue × Flush Event Point}
    (done : Flushed published sends before memory flushed) :
    Advanced published sends before memory (.emitEvent event)
      (emitFlushed publish event flushed) := by
  obtain ⟨after, flush⟩ := flushed
  obtain ⟨retains, awaits⟩ := done
  cases flush with
  | awaiting head point =>
    refine ⟨retains, ?_, by simp [emitFlushed]⟩
    rintro _ ⟨rfl⟩
    exact awaits head point rfl
  | raised raised => exact ⟨retains, by simp [emitFlushed], by simp [emitFlushed]⟩
  | ended =>
    have own := publishResumed_advanced
      { after with queue := (publish.enter after.queue event).1 } event
      (publish.enter after.queue event).2 (keeps.sendsFirst after.queue event)
      (keeps.returnsAtOnce after.queue event)
    have requeued : Retains published none after
        { after with queue := (publish.enter after.queue event).1 } :=
      .requeued _ (keeps.entered after.queue event)
    exact ⟨(retains.trans requeued).trans own.retains, own.awaits, own.returned⟩

/-- The periodic flush after its flush goes to its pause, or awaits with it. -/
theorem periodicFlushed_advanced {before : Option Event} {memory : Memory Event Queue}
    {flushed : Memory Event Queue × Flush Event Point}
    (done : Flushed published sends before memory flushed) :
    Advanced published sends before memory .periodicFlush (periodicFlushed flushed) := by
  obtain ⟨after, flush⟩ := flushed
  obtain ⟨retains, awaits⟩ := done
  cases flush with
  | awaiting head point =>
    refine ⟨retains, ?_, by simp⟩
    rintro _ ⟨rfl⟩
    exact awaits head point rfl
  | raised raised => exact ⟨retains, by simp [periodicFlushed], by simp⟩
  | ended =>
    refine ⟨retains, ?_, by simp⟩
    rintro _ ⟨rfl⟩
    trivial

/-- A task that begins: an emit with its flush, the timer with its pause. Nothing is
popped before an answer. -/
theorem enter_advanced (keeps : KeepsWord publish published sends) (memory : Memory Event Queue)
    (task : Task Event) :
    Advanced published sends none memory task ((honeypot publish).enter memory task) := by
  cases task with
  | emitEvent event =>
    exact emitFlushed_advanced keeps event (flushIfBuffered_flushed keeps memory)
  | periodicFlush =>
    refine ⟨.refl memory, ?_, by simp⟩
    rintro _ ⟨rfl⟩
    trivial

/-- A task that is answered. The cases are its awaits, and what it pops is said by
the answer and the point. -/
theorem resume_advanced (keeps : KeepsWord publish published sends) (memory : Memory Event Queue)
    (task : Task Event) (point : TaskPoint Event Point) (reply : Reply)
    (awaiting : Awaiting sends task point) :
    Advanced published sends (popped publish memory point reply) memory task
      ((honeypot publish).resume memory task point reply) := by
  cases point with
  | flushing head point =>
    have flushed := flushResumed_flushed keeps memory head point reply awaiting
    cases task with
    | emitEvent event => exact emitFlushed_advanced keeps event flushed
    | periodicFlush => exact periodicFlushed_advanced flushed
  | publishing point =>
    cases task with
    | emitEvent event =>
      have sent := awaiting event rfl
      have own := publishResumed_advanced
        { memory with queue := (publish.resume memory.queue event point reply).1 } event
        (publish.resume memory.queue event point reply).2
        (fun next => keeps.sendsNext memory.queue event point reply next sent)
        (fun entryId => keeps.returns memory.queue event point reply entryId sent)
      have requeued : Retains published none memory
          { memory with queue := (publish.resume memory.queue event point reply).1 } :=
        .requeued _ fun other => keeps.resumed memory.queue event point reply other sent
      exact ⟨requeued.trans own.retains, own.awaits, own.returned⟩
    | periodicFlush =>
      refine ⟨.refl memory, ?_, by simp⟩
      rintro _ ⟨rfl⟩
      simp [Awaiting]
  | sleeping =>
    cases task with
    | emitEvent event =>
      refine ⟨.refl memory, ?_, by simp [honeypot]⟩
      rintro _ ⟨rfl⟩
      trivial
    | periodicFlush => exact periodicFlushed_advanced (flushIfBuffered_flushed keeps memory)

end Segments

end Honeywatch.Honeypot
