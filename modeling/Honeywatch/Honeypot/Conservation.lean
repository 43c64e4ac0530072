import Mathlib.Algebra.GroupWithZero.Nat
import Honeywatch.Honeypot.Interleaving

/-!
# Every emitted event is accounted for

The books of a honeypot count, for one event, how often it was passed to
`emit_event` and where its copies are: in the stream, in the buffer, among the
discarded, or still held by the emit that was given it. A flush whose publish
was accepted but which has not popped yet holds the one copy that is both in
the stream and in the buffer.

The books balance as long as every pop finds the event at the head that its
flush has published. Two flushes on one head, or an overflow under a flush,
move the head in between; the pop then takes an unpublished event, or finds
the buffer empty and raises `IndexError` out of the emit.
-/

namespace Honeywatch.Honeypot

open Cooperative Collector Transition

variable {Event : Type} [DecidableEq Event]

/-- The emit was given this event. -/
def passedBy (event : Event) (call : Running Event) : Nat :=
  if call.argument = .emitEvent event then 1 else 0

/-- The emit still holds its event: its own publish was not accepted yet. -/
def holds (event : Event) (call : Running Event) : Nat :=
  match call.argument, call.progress with
  | .emitEvent own, .suspended (.flushing _ _) => if own = event then 1 else 0
  | .emitEvent own, .suspended (.publishing .pending) => if own = event then 1 else 0
  | _, _ => 0

/-- The flush has published this event and not yet popped the buffer. -/
def awaitsPop (event : Event) (call : Running Event) : Nat :=
  match call.progress with
  | .suspended (.flushing head .accepted) => if head = event then 1 else 0
  | _ => 0

/-- A weight summed over the calls of a pool. -/
def total (weight : Running Event → Nat) (calls : List (Running Event)) : Nat :=
  (calls.map weight).sum

omit [DecidableEq Event] in
/-- Weights of tasks are added up, so they can be counted in parts, -/
@[simp] theorem total_append (weight : Running Event → Nat) (left right : List (Running Event)) :
    total weight (left ++ right) = total weight left + total weight right := by
  simp [total]

omit [DecidableEq Event] in
/-- task by task, -/
@[simp] theorem total_cons (weight : Running Event → Nat) (call : Running Event)
    (rest : List (Running Event)) :
    total weight (call :: rest) = weight call + total weight rest := by
  simp [total]

omit [DecidableEq Event] in
/-- and no tasks weigh nothing. -/
@[simp] theorem total_nil (weight : Running Event → Nat) : total weight [] = 0 := rfl

/-- The copies of an event outside the running emits. -/
def stored (memory : Streamed Event) (event : Event) : Nat :=
  memory.queue.count event + memory.buffer.items.count event + memory.evicted.count event

/-- Buffering an event stores it once more, whatever the full buffer discards, for
the discarded ones are counted, too. -/
theorem stored_buffered (memory : Streamed Event) (item event : Event) :
    stored (memory.buffered item) event =
      stored memory event + if item = event then 1 else 0 := by
  have kept := memory.buffer.count_append item event
  simp only [List.count_singleton, beq_iff_eq] at kept
  simp only [stored, Memory.buffered, List.count_append]
  generalize (memory.buffer.append item).items.count event = appended at kept ⊢
  generalize (memory.buffer.discarded item).count event = discarded at kept ⊢
  omega

/-- When a flush's publish returns, the head of the buffer is the event it
published: no other task has popped it and no overflow has discarded it. -/
def headUnmoved (state : Emitters Event) : Move (Task Event) Bool → Bool
  | .call _ => true
  | .reply index _ =>
    match state.calls[index]? with
    | some ⟨_, .suspended (.flushing head .accepted)⟩ =>
      decide (state.shared.buffer.items.head? = some head)
    | _ => true

/-- Every copy passed in is in one of the places, and the copy of a pending pop
is in two of them. -/
def Balanced (state : Emitters Event) : Prop :=
  ∀ event, total (passedBy event) state.calls + total (awaitsPop event) state.calls =
    stored state.shared event + total (holds event) state.calls

/-- What an event leaving the buffer has behind it: it is in the stream, or it
was the head of a full buffer. -/
def LeavesPublished (state next : Emitters Event) : Prop :=
  ∀ event, next.shared.buffer.items.count event < state.shared.buffer.items.count event →
    event ∈ state.shared.queue ∨
      (state.shared.buffer.items.length = maxBufferSize ∧
        state.shared.buffer.items.head? = some event)

/-- Reading the head neither takes the emit's event nor pops. -/
theorem readHead_holds (event : Event) (task : Task Event) (items : List Event) :
    holds event ⟨task, readHead task items⟩ = passedBy event ⟨task, readHead task items⟩ ∧
      awaitsPop event ⟨task, readHead task items⟩ = 0 := by
  cases items <;> cases task <;> simp [readHead, afterFlush, holds, passedBy, awaitsPop]

/-- A task that has entered holds its event and awaits no pop. -/
theorem entered_holds (event : Event) (task : Task Event) (items : List Event) :
    holds event ⟨task, entered task items⟩ = passedBy event ⟨task, entered task items⟩ ∧
      awaitsPop event ⟨task, entered task items⟩ = 0 := by
  cases task with
  | emitEvent own => exact readHead_holds event _ items
  | periodicFlush => simp [entered, holds, passedBy, awaitsPop]

/-- A task in its flush holds its own event, if it has one. -/
theorem flushing_holds (event head : Event) (task : Task Event) (stage : Stage)
    (progress : Advance Event) :
    holds event ⟨task, .suspended (.flushing head stage)⟩ = passedBy event ⟨task, progress⟩ := by
  cases task <;> simp [holds, passedBy]

/-- One segment moves a copy from one place to another: from the hands of an emit to
the stream or the buffer, or from the buffer to the stream. The two sides count the
places before and after. -/
theorem segment_balance (event : Event) {memory after : Streamed Event} {task : Task Event}
    {point : TaskPoint Event Stage} {reply : Bool} {progress : Advance Event}
    (segment : Segment memory task point reply after progress)
    (unmoved : ∀ head, point = .flushing head .accepted →
      memory.buffer.items.head? = some head) :
    awaitsPop event ⟨task, progress⟩ + stored memory event +
        holds event ⟨task, .suspended point⟩ =
      awaitsPop event ⟨task, .suspended point⟩ + stored after event +
        holds event ⟨task, progress⟩ := by
  cases segment with
  | accepted _ head =>
    have same := flushing_holds event head task .pending (.suspended (.flushing head .accepted))
    have again := flushing_holds event head task .accepted (.suspended (.flushing head .accepted))
    simp only [stored, awaitsPop, List.count_append, List.count_singleton, beq_iff_eq, same, again]
    omega
  | refused _ head =>
    cases task <;> simp [afterFlush, holds, awaitsPop]
  | popped _ head oldest rest _ shorter held remaining =>
    have at_head : oldest = head := by
      simpa [held] using unmoved head rfl
    obtain ⟨still, none_pending⟩ := readHead_holds event task rest
    have before := flushing_holds event head task .accepted (readHead task rest)
    rw [still, none_pending, before]
    simp only [stored, held, remaining, at_head, awaitsPop, List.count_cons, beq_iff_eq]
    omega
  | exhausted _ head _ held =>
    have found := unmoved head rfl
    simp [held] at found
  | ownAccepted event' =>
    simp only [stored, holds, awaitsPop, List.count_append, List.count_singleton, beq_iff_eq]
    omega
  | ownRefused event' =>
    simp only [stored_buffered, holds, awaitsPop]
    omega
  | ownReturned event' => simp [holds, awaitsPop]
  | tick =>
    obtain ⟨still, none_pending⟩ := readHead_holds event .periodicFlush memory.buffer.items
    rw [still, none_pending]
    simp [holds, awaitsPop, passedBy]
  | emitAsleep event' => rfl
  | timerPublishing stage => rfl

/-- A flush waits for its pop only with its head in the stream. -/
def PublishedFirst (memory : Streamed Event) (call : Running Event) : Prop :=
  ∀ head, call.progress = .suspended (.flushing head .accepted) → head ∈ memory.queue

/-- An ended call returned normally. -/
def ReturnsNormally (call : Running Event) : Prop :=
  ∀ result, call.progress = .finished result → result = .ok ()

omit [DecidableEq Event] in
/-- A flush that has just read the head of the buffer has published nothing yet, and
nothing has raised. -/
theorem readHead_started (memory : Streamed Event) (task : Task Event) (items : List Event) :
    PublishedFirst memory ⟨task, readHead task items⟩ ∧
      ReturnsNormally (⟨task, readHead task items⟩ : Running Event) := by
  cases items <;> cases task <;> simp [PublishedFirst, ReturnsNormally, readHead, afterFlush]

omit [DecidableEq Event] in
/-- The same holds of a task that has just begun, which reads the head of the buffer
or sleeps first. -/
theorem entered_started (memory : Streamed Event) (task : Task Event) (items : List Event) :
    PublishedFirst memory ⟨task, entered task items⟩ ∧
      ReturnsNormally (⟨task, entered task items⟩ : Running Event) := by
  cases task with
  | emitEvent own => exact readHead_started memory _ items
  | periodicFlush => simp [PublishedFirst, ReturnsNormally, entered]

omit [DecidableEq Event] in
/-- The stream only grows. -/
theorem segment_stream {memory after : Streamed Event} {task : Task Event}
    {point : TaskPoint Event Stage} {reply : Bool} {progress : Advance Event}
    (segment : Segment memory task point reply after progress) : memory.queue ⊆ after.queue := by
  cases segment <;> simp [Memory.buffered]

omit [DecidableEq Event] in
/-- After a segment that found its head in place, the task has published what
it is about to pop and has not raised. -/
theorem segment_sound {memory after : Streamed Event} {task : Task Event}
    {point : TaskPoint Event Stage} {reply : Bool} {progress : Advance Event}
    (segment : Segment memory task point reply after progress)
    (unmoved : ∀ head, point = .flushing head .accepted →
      memory.buffer.items.head? = some head) :
    PublishedFirst after ⟨task, progress⟩ ∧ ReturnsNormally (⟨task, progress⟩ : Running Event) := by
  cases segment with
  | accepted _ head => simp [PublishedFirst, ReturnsNormally]
  | refused _ head => exact readHead_started _ _ []
  | popped _ head oldest rest _ shorter held remaining => exact readHead_started _ _ _
  | exhausted _ head _ held =>
    have found := unmoved head rfl
    simp [held] at found
  | ownAccepted event => simp [PublishedFirst, ReturnsNormally]
  | ownRefused event => simp [PublishedFirst, ReturnsNormally]
  | ownReturned event => simp [PublishedFirst, ReturnsNormally]
  | tick => exact readHead_started _ _ _
  | emitAsleep event => simp [PublishedFirst, ReturnsNormally]
  | timerPublishing stage => simp [PublishedFirst, ReturnsNormally]

/-- The invariant of the runs in which the head never moves under a flush. -/
structure Accounted (state : Emitters Event) : Prop where
  balanced : Balanced state
  published : ∀ call ∈ state.calls, PublishedFirst state.shared call
  returned : ∀ call ∈ state.calls, ReturnsNormally call

/-- The condition on the pool is the condition on the segment, at the task that is
answered. -/
theorem unmoved_at {state : Emitters Event} {before after : List (Running Event)}
    {task : Task Event} {point : TaskPoint Event Stage} {reply : Bool}
    (split : state.calls = before ++ ⟨task, .suspended point⟩ :: after)
    (unmoved : headUnmoved state (.reply before.length reply) = true) :
    ∀ head, point = .flushing head .accepted → state.shared.buffer.items.head? = some head := by
  rintro head rfl
  simpa [headUnmoved, split] using unmoved

/-- A step that finds the head in place keeps the accounts. Where another flush has
taken the head, the pop would take an event that was never accepted. -/
theorem accounted_step (state next : Emitters Event) (move : Move (Task Event) Bool)
    (accounted : Accounted state) (unmoved : headUnmoved state move = true)
    (taken : emitter.pool.step state move = some next) : Accounted next := by
  cases move with
  | call task =>
    rw [Coroutine.pool_call, enter_assumed] at taken
    subst taken
    obtain ⟨published, returned⟩ := entered_started state.shared task state.shared.buffer.items
    refine ⟨?_, ?_, ?_⟩
    · intro event
      have balanced := accounted.balanced event
      obtain ⟨held, none_pending⟩ :=
        entered_holds event task state.shared.buffer.items
      simp only [total_append, total_cons, total_nil, held, none_pending]
      omega
    · intro call member
      rcases List.mem_append.mp member with earlier | new
      · exact accounted.published call earlier
      · exact (List.mem_singleton.mp new) ▸ published
    · intro call member
      rcases List.mem_append.mp member with earlier | new
      · exact accounted.returned call earlier
      · exact (List.mem_singleton.mp new) ▸ returned
  | reply index reply =>
    obtain ⟨before, after, task, point, rfl, split, rfl⟩ :=
      Coroutine.pool_reply _ state next index reply taken
    have segment := segment_of_resume state.shared task point reply
    have in_place := unmoved_at split unmoved
    obtain ⟨published, returned⟩ := segment_sound segment in_place
    have elsewhere : ∀ call ∈ before ++ after, call ∈ state.calls := by
      intro call member
      rw [split]
      simp only [List.mem_append, List.mem_cons] at member ⊢
      tauto
    have members : ∀ call ∈ before ++
        (⟨task, (emitter.resume state.shared task point reply).2⟩ : Running Event) :: after,
        call = ⟨task, (emitter.resume state.shared task point reply).2⟩ ∨
          call ∈ before ++ after := by
      intro call member
      simp only [List.mem_append, List.mem_cons] at member ⊢
      tauto
    refine ⟨?_, ?_, ?_⟩
    · intro event
      have balanced := accounted.balanced event
      have moved := segment_balance event segment in_place
      simp only [split, total_append, total_cons] at balanced ⊢
      have same_event : passedBy event ⟨task, (emitter.resume state.shared task point reply).2⟩ =
          passedBy event ⟨task, .suspended point⟩ := rfl
      omega
    · intro call member
      rcases members call member with rfl | other
      · exact published
      · intro head waiting
        exact segment_stream segment (accounted.published call (elsewhere call other) head waiting)
    · intro call member
      rcases members call member with rfl | other
      · exact returned
      · exact accounted.returned call (elsewhere call other)

/-- What leaves the buffer in one step is published or is discarded by an
append to a full buffer. -/
theorem accounted_leaves (state next : Emitters Event) (move : Move (Task Event) Bool)
    (accounted : Accounted state) (unmoved : headUnmoved state move = true)
    (taken : emitter.pool.step state move = some next) : LeavesPublished state next := by
  intro event fewer
  cases move with
  | call task =>
    rw [Coroutine.pool_call, enter_assumed] at taken
    subst taken
    exact absurd fewer (Nat.lt_irrefl _)
  | reply index reply =>
    obtain ⟨before, after, task, point, rfl, split, rfl⟩ :=
      Coroutine.pool_reply _ state next index reply taken
    have in_place := unmoved_at split unmoved
    have current : (⟨task, .suspended point⟩ : Running Event) ∈ state.calls := by simp [split]
    have published := accounted.published _ current
    have segment := segment_of_resume state.shared task point reply
    generalize (emitter.resume state.shared task point reply) = resumed at segment fewer
    obtain ⟨memory, progress⟩ := resumed
    cases segment with
    | popped _ head oldest rest _ shorter held remaining =>
      have at_head : oldest = head := by
        simpa [held] using in_place head rfl
      have same : event = head := by
        by_contra other
        have distinct : ¬ oldest = event := fun equal => other (equal.symm.trans at_head)
        simp [remaining, held, distinct] at fewer
      exact .inl (same ▸ published head rfl)
    | ownRefused own =>
      rcases Nat.lt_or_eq_of_le state.shared.buffer.bounded with room | full
      · have grown := (state.shared.buffer.append_room own room).1
        simp only [grown, List.count_append] at fewer
        omega
      · obtain ⟨oldest, rest, held, kept, _⟩ :=
          state.shared.buffer.append_full own (by decide) full
        have same : event = oldest := by
          by_contra other
          have distinct : ¬ oldest = event := fun equal => other equal.symm
          simp only [kept, held, List.count_append, List.count_cons_of_ne distinct] at fewer
          omega
        exact .inr ⟨full, by simp [held, same]⟩
    | accepted _ head => exact absurd fewer (Nat.lt_irrefl _)
    | refused _ head => exact absurd fewer (Nat.lt_irrefl _)
    | exhausted _ head _ held => exact absurd fewer (Nat.lt_irrefl _)
    | ownAccepted own => exact absurd fewer (Nat.lt_irrefl _)
    | ownReturned own => exact absurd fewer (Nat.lt_irrefl _)
    | tick => exact absurd fewer (Nat.lt_irrefl _)
    | emitAsleep own => exact absurd fewer (Nat.lt_irrefl _)
    | timerPublishing stage => exact absurd fewer (Nat.lt_irrefl _)

/-- The accounts hold in every state of a run in which the head never moves
under a flush. -/
theorem accounted_run (schedule : List (Move (Task Event) Bool)) (final : Emitters Event)
    (unmoved : emitter.pool.Admitted (fun state move => headUnmoved state move = true)
      silent schedule)
    (reached : emitter.pool.run silent schedule = some final) : Accounted final := by
  have initially : Accounted (silent : Emitters Event) :=
    ⟨fun event => by simp [silent, stored, Deque.empty], by simp [silent], by simp [silent]⟩
  exact emitter.pool.admitted_invariant _ Accounted
    (fun state move next kept at_head taken => accounted_step state next move kept at_head taken)
    _ final schedule initially unmoved reached

/-- In every run in which each returning flush finds its event at the head of
the buffer: every passing of an event to `emit_event` is matched by a copy in
the stream, in the buffer, among the discarded, or with an emit that still
holds it; the next step takes out of the buffer only what is published or what
a full buffer discards; and no call has ended with an exception. -/
theorem unmoved_heads_lose_nothing (schedule : List (Move (Task Event) Bool))
    (final : Emitters Event)
    (unmoved : emitter.pool.Admitted (fun state move => headUnmoved state move = true)
      silent schedule)
    (reached : emitter.pool.run silent schedule = some final) :
    (∀ event, total (passedBy event) final.calls ≤
      final.shared.queue.count event + final.shared.buffer.items.count event +
        final.shared.evicted.count event + total (holds event) final.calls) ∧
    (∀ move next, headUnmoved final move = true →
      emitter.pool.step final move = some next → LeavesPublished final next) ∧
    (∀ call ∈ final.calls, ∀ result, call.progress = .finished result → result = .ok ()) := by
  have accounted := accounted_run schedule final unmoved reached
  refine ⟨?_, ?_, ?_⟩
  · intro event
    have balanced := accounted.balanced event
    simp only [stored] at balanced
    omega
  · intro move next at_head taken
    exact accounted_leaves final next move accounted at_head taken
  · exact accounted.returned

/-- The first event is refused and buffered; the second emit flushes it and
publishes its own. -/
theorem unmoved_heads_lose_nothing_flush :
    ∃ final : Emitters Nat,
      (∀ event, total (passedBy event) final.calls ≤
        final.shared.queue.count event + final.shared.buffer.items.count event +
          final.shared.evicted.count event + total (holds event) final.calls) ∧
      final.shared.queue = [0, 1] :=
  ⟨_, (unmoved_heads_lose_nothing
    [.call (.emitEvent 0), .reply 0 false, .call (.emitEvent 1), .reply 1 true, .reply 1 true,
      .reply 1 true, .reply 1 true] _
    ((System.admits_iff _ headUnmoved _ _).mp (by decide)) rfl).1, by decide⟩

/-- Two emits flush the same head. Both publish event 0; the second pop takes
event 1, which nobody has published, and the flush that had read event 1 is
refused. Event 1 was emitted once and is nowhere. -/
theorem overlapping_flushes_lose :
    ∃ (schedule : List (Move (Task Nat) Bool)) (final : Emitters Nat),
      emitter.pool.run silent schedule = some final ∧
      total (passedBy 1) final.calls = 1 ∧
      1 ∉ final.shared.queue ∧ 1 ∉ final.shared.buffer.items ∧ 1 ∉ final.shared.evicted ∧
      total (holds 1) final.calls = 0 := by
  exact ⟨[.call (.emitEvent 0), .reply 0 false,
    .call (.emitEvent 1), .reply 1 false, .reply 1 false,
    .call (.emitEvent 2), .call (.emitEvent 3), .reply 2 true, .reply 3 true,
    .reply 2 true, .reply 3 true, .reply 2 false], _, rfl, by decide⟩

end Honeywatch.Honeypot
