import Honeywatch.Honeypot.Conservation

/-!
# At most one entry for an event

An event passed to `emit_event` once is published either by its own emit or by
the flushes that find it at the head of the buffer, never by both: it enters
the buffer only when its own publish was refused. Two flushes that read the
same head publish it twice. The stream holds one entry for the event as long as
Redis accepts a flush's publish only while the event is still buffered and no
other flush of it, accepted before, awaits its pop.
-/

namespace Honeywatch.Honeypot

open Cooperative Collector Transition

variable {Event : Type} [DecidableEq Event]

/-- The flush has read this event at the head and awaits Redis. -/
def reads (event : Event) (call : Running Event) : Nat :=
  match call.progress with
  | .suspended (.flushing head .pending) => if head = event then 1 else 0
  | _ => 0

/-- When Redis accepts the publish of a flush, the event is still buffered, and
no other flush that published it awaits its pop. -/
def acceptedFirst (state : Emitters Event) : Move (Task Event) Bool → Bool
  | .call _ => true
  | .reply index reply =>
    match state.calls[index]? with
    | some ⟨_, .suspended (.flushing head .pending)⟩ =>
      !reply || (decide (head ∈ state.shared.buffer.items) &&
        decide (total (awaitsPop head) state.calls = 0))
    | _ => true

/-- The whereabouts of one event, given how often it was passed, how many emits
hold it, how many flushes have read it and how many of these await their pop. -/
structure Once (event : Event) (memory : Streamed Event) (passed held read awaiting : Nat) :
    Prop where
  kept : held + memory.buffer.items.count event ≤ passed
  fresh : passed = 0 ∨ 0 < held →
    memory.queue.count event = 0 ∧ read = 0 ∧ awaiting = 0
  single : memory.queue.count event ≤ 1
  unpopped : 0 < memory.buffer.items.count event → memory.queue.count event ≤ awaiting
  first : 0 < memory.buffer.items.count event → 0 < read + awaiting →
    memory.buffer.items.head? = some event

/-- The test of the flush loop reads the event if it is at the head. -/
theorem readHead_reads (event : Event) (task : Task Event) (items : List Event) :
    reads event ⟨task, readHead task items⟩ = if items.head? = some event then 1 else 0 := by
  cases items <;> cases task <;> simp [readHead, afterFlush, reads]

/-- One more flush reads the head, and nothing else changes. If it reads the event,
this stands at the head of the buffer, as the account says of every reader. -/
theorem once_readHead {event : Event} {memory : Streamed Event} {passed held read awaiting : Nat}
    (task : Task Event) (single : passed ≤ 1)
    (once : Once event memory passed held read awaiting) :
    Once event memory passed held
      (read + reads event ⟨task, readHead task memory.buffer.items⟩) awaiting := by
  rw [readHead_reads]
  by_cases found : memory.buffer.items.head? = some event
  · have buffered : 0 < memory.buffer.items.count event :=
      List.count_pos_iff.mpr (List.mem_of_head? found)
    have kept := once.kept
    refine ⟨once.kept, ?_, once.single, once.unpopped, fun _ _ => found⟩
    intro unused
    omega
  · simpa [found] using once

/-- A flush pops the head it has published; the others still await theirs only
if the event is no longer buffered. -/
theorem once_pop {event : Event} {memory : Streamed Event} {passed held read awaiting : Nat}
    (head oldest : Event) (rest : List Event) (shorter : Deque Event maxBufferSize)
    (single : passed ≤ 1) (items : memory.buffer.items = oldest :: rest)
    (remaining : shorter.items = rest)
    (once : Once event memory passed held read (awaiting + if head = event then 1 else 0)) :
    Once event { memory with buffer := shorter } passed held read awaiting := by
  have kept := once.kept
  have first := once.first
  have unpopped := once.unpopped
  have fresh := once.fresh
  simp only [items, List.count_cons, beq_iff_eq] at kept unpopped first
  simp only [List.head?_cons, Option.some.injEq] at first
  have gone : 0 < rest.count event → ¬ 0 < read + (awaiting + if head = event then 1 else 0) := by
    intro buffered flushed
    have popped := first (by omega) flushed
    simp only [popped, if_true] at kept
    omega
  refine ⟨?_, ?_, once.single, ?_, ?_⟩
  · simp only [remaining]
    omega
  · intro unused
    have none_yet := fresh unused
    exact ⟨none_yet.1, none_yet.2.1, by omega⟩
  · simp only [remaining]
    intro buffered
    have others := gone buffered
    have published := unpopped (by omega)
    omega
  · simp only [remaining]
    intro buffered flushed
    exact absurd (by omega) (gone buffered)

/-- A refused emit buffers its event behind the others; a full buffer discards
its head. -/
theorem once_buffered {event own : Event} {memory : Streamed Event}
    {passed held read awaiting : Nat} (single : passed ≤ 1)
    (once : Once event memory passed (held + if own = event then 1 else 0) read awaiting) :
    Once event (memory.buffered own) passed held read awaiting := by
  have kept := once.kept
  have fresh := once.fresh
  have appended := memory.buffer.count_append own event
  simp only [List.count_singleton, beq_iff_eq] at appended
  refine ⟨?_, ?_, once.single, ?_, ?_⟩
  · simp only [Memory.buffered]
    omega
  · intro unused
    exact fresh (by omega)
  · simp only [Memory.buffered]
    intro buffered
    by_cases same : own = event
    · have none_yet := fresh (.inr (by simp [same]))
      omega
    · simp only [same, if_false] at appended
      exact once.unpopped (by omega)
  · simp only [Memory.buffered]
    intro buffered flushed
    by_cases same : own = event
    · have none_yet := fresh (.inr (by simp [same]))
      omega
    · simp only [same, if_false] at appended
      have at_head := once.first (by omega) flushed
      rcases Nat.lt_or_eq_of_le memory.buffer.bounded with room | full
      · rw [(memory.buffer.append_room own room).1]
        simp [at_head]
      · obtain ⟨oldest, rest, items, left, _⟩ :=
          memory.buffer.append_full own (by decide) full
        have discarded : oldest = event := by simpa [items] using at_head
        simp only [items, List.count_cons, beq_iff_eq, discarded, if_true] at kept
        rw [left, List.count_append, List.count_cons_of_ne same, List.count_nil] at buffered
        omega

/-- Redis accepts the publish of a flush: the flush awaits its pop. Of the event
itself this is the first, and it is still buffered. -/
theorem once_accepted {event : Event} {memory : Streamed Event} {passed held read awaiting : Nat}
    (head : Event) (single : passed ≤ 1)
    (condition : head = event → event ∈ memory.buffer.items ∧ awaiting = 0)
    (once : Once event memory passed held (read + if head = event then 1 else 0) awaiting) :
    Once event { memory with queue := memory.queue ++ [head] } passed held read
      (awaiting + if head = event then 1 else 0) := by
  by_cases same : head = event
  · subst same
    obtain ⟨buffered, alone⟩ := condition rfl
    have positive : 0 < memory.buffer.items.count head := List.count_pos_iff.mpr buffered
    have unpublished := once.unpopped positive
    have kept := once.kept
    simp only [if_true] at once ⊢
    refine ⟨once.kept, ?_, ?_, ?_, ?_⟩
    · intro unused
      omega
    · simp only [List.count_append, List.count_singleton_self]
      omega
    · simp only [List.count_append, List.count_singleton_self]
      omega
    · intro _ _
      exact once.first positive (by omega)
  · simp only [same, if_false] at once ⊢
    exact ⟨once.kept, by simpa [same] using once.fresh, by simpa [same] using once.single,
      by simpa [same] using once.unpopped, once.first⟩

/-- Redis accepts the event of an emit, which lets go of it. It was in the hands of
this emit alone, so it was in the stream not at all. -/
theorem once_published {event own : Event} {memory : Streamed Event}
    {passed held read awaiting : Nat} (single : passed ≤ 1)
    (once : Once event memory passed (held + if own = event then 1 else 0) read awaiting) :
    Once event { memory with queue := memory.queue ++ [own] } passed held read awaiting := by
  by_cases same : own = event
  · have none_yet := once.fresh (by simp [same])
    have kept := once.kept
    simp only [same, if_true] at kept
    refine ⟨by simp only; omega, ?_, ?_, ?_, ?_⟩
    · intro unused
      omega
    · simp [same, none_yet.1]
    · simp only
      intro buffered
      omega
    · simp only
      intro buffered
      omega
  · simp only [same, if_false] at once ⊢
    exact ⟨once.kept, by simpa [same] using once.fresh, by simpa [same] using once.single,
      by simpa [same] using once.unpopped, once.first⟩

/-- Everything a resumed task does keeps the event's whereabouts in order, when
Redis accepts the publish of a flush only under the condition. -/
theorem segment_once (event : Event) {memory after : Streamed Event} {task : Task Event}
    {point : TaskPoint Event Stage} {reply : Bool} {progress : Advance Event}
    {passed held read awaiting : Nat} (single : passed ≤ 1)
    (segment : Segment memory task point reply after progress)
    (condition : point = .flushing event .pending → reply = true →
      event ∈ memory.buffer.items ∧ awaiting = 0)
    (once : Once event memory passed (held + holds event ⟨task, .suspended point⟩)
      (read + reads event ⟨task, .suspended point⟩)
      (awaiting + awaitsPop event ⟨task, .suspended point⟩)) :
    Once event after passed (held + holds event ⟨task, progress⟩)
      (read + reads event ⟨task, progress⟩) (awaiting + awaitsPop event ⟨task, progress⟩) := by
  cases segment with
  | accepted _ head =>
    have same_held := flushing_holds event head task .pending
      (.suspended (.flushing head .accepted))
    have still_held := flushing_holds event head task .accepted
      (.suspended (.flushing head .accepted))
    rw [same_held] at once
    rw [still_held]
    refine once_accepted head single (fun same => ?_) once
    exact condition (by rw [same]) rfl
  | refused _ head =>
    have same_held : holds event ⟨task, afterFlush task⟩ =
        holds event ⟨task, .suspended (.flushing head .pending)⟩ := by
      cases task <;> simp [afterFlush, holds]
    have none_read : reads event ⟨task, afterFlush task⟩ = 0 ∧
        awaitsPop event ⟨task, afterFlush task⟩ = 0 := by
      cases task <;> simp [afterFlush, reads, awaitsPop]
    rw [same_held, none_read.1, none_read.2]
    have fresh := once.fresh
    refine ⟨once.kept, ?_, once.single, once.unpopped, ?_⟩
    · intro unused
      have none_yet := fresh unused
      exact ⟨none_yet.1, by omega, none_yet.2.2⟩
    · intro buffered flushed
      exact once.first buffered (by omega)
  | popped _ head oldest rest _ shorter items remaining =>
    have popped := once_pop head oldest rest shorter single items remaining once
    have read_on := once_readHead task single popped
    rw [remaining] at read_on
    obtain ⟨still_held, none_awaited⟩ := readHead_holds event task rest
    rw [flushing_holds event head task .accepted (readHead task rest)] at read_on
    rw [still_held, none_awaited]
    exact read_on
  | exhausted _ head _ items =>
    have kept := once.kept
    have fresh := once.fresh
    refine ⟨?_, ?_, once.single, ?_, ?_⟩
    · simp only [items, List.count_nil, holds] at kept ⊢
      omega
    · intro unused
      have none_yet := fresh (by simp only [holds] at unused; omega)
      simp only [reads, awaitsPop] at none_yet ⊢
      omega
    · simp [items]
    · simp [items]
  | ownAccepted own => exact once_published single once
  | ownRefused own =>
    exact once_buffered single once
  | ownReturned own => exact once
  | tick =>
    have read_on := once_readHead .periodicFlush single once
    obtain ⟨_, none_awaited⟩ := readHead_holds event .periodicFlush memory.buffer.items
    rw [none_awaited]
    exact read_on
  | emitAsleep own => exact once
  | timerPublishing stage => exact once

/-- The whereabouts are in order for an event passed at most once. -/
def Whereabouts (event : Event) (state : Emitters Event) : Prop :=
  total (passedBy event) state.calls ≤ 1 →
    Once event state.shared (total (passedBy event) state.calls)
      (total (holds event) state.calls) (total (reads event) state.calls)
      (total (awaitsPop event) state.calls)

/-- A task that enters takes hold of its event and may read the head. An event
that it is given for the first time is nowhere yet. -/
theorem entered_once (event : Event) (task : Task Event) {memory : Streamed Event}
    {passed held read awaiting : Nat}
    (single : passed + passedBy event ⟨task, entered task memory.buffer.items⟩ ≤ 1)
    (once : Once event memory passed held read awaiting) :
    Once event memory (passed + passedBy event ⟨task, entered task memory.buffer.items⟩)
      (held + holds event ⟨task, entered task memory.buffer.items⟩)
      (read + reads event ⟨task, entered task memory.buffer.items⟩)
      (awaiting + awaitsPop event ⟨task, entered task memory.buffer.items⟩) := by
  obtain ⟨held_own, none_awaited⟩ := entered_holds event task memory.buffer.items
  rw [held_own, none_awaited]
  cases task with
  | periodicFlush => simpa [entered, passedBy, reads] using once
  | emitEvent own =>
    have read_on := once_readHead (.emitEvent own) (by omega) once
    have kept := read_on.kept
    have fresh := read_on.fresh
    simp only [entered, passedBy, Nat.add_zero] at single read_on ⊢
    refine ⟨by omega, ?_, read_on.single, read_on.unpopped, read_on.first⟩
    intro unused
    by_cases same : Task.emitEvent own = .emitEvent event
    · simp only [same, if_true] at single
      exact fresh (.inl (by omega))
    · simp only [same, if_false, Nat.add_zero] at unused
      exact fresh unused

/-- A step under the condition keeps the whereabouts of every event. A call adds a
task and an answer moves one; the lemmas above say what each of them does to the
counts. -/
theorem whereabouts_step (event : Event) (state next : Emitters Event)
    (move : Move (Task Event) Bool) (known : Whereabouts event state)
    (condition : acceptedFirst state move = true)
    (taken : emitter.pool.step state move = some next) : Whereabouts event next := by
  cases move with
  | call task =>
    rw [Coroutine.pool_call, enter_assumed] at taken
    subst taken
    intro single
    simp only [total_append, total_cons, total_nil, Nat.add_zero] at single ⊢
    exact entered_once event task single (known (by omega))
  | reply index reply =>
    obtain ⟨before, after, task, point, rfl, split, rfl⟩ :=
      Coroutine.pool_reply _ state next index reply taken
    have segment := segment_of_resume state.shared task point reply
    intro single
    have total_split (weight : Running Event → Nat) (call : Running Event) :
        total weight (before ++ call :: after) = total weight (before ++ after) + weight call := by
      simp only [total_append, total_cons]
      omega
    simp only [Whereabouts, split, total_split] at known single ⊢
    refine segment_once event single segment ?_ (known single)
    rintro rfl rfl
    have accepted : event ∈ state.shared.buffer.items ∧
        total (awaitsPop event) state.calls = 0 := by
      simpa [acceptedFirst, split] using condition
    rw [split, total_split] at accepted
    exact ⟨accepted.1, by omega⟩

/-- In every run in which Redis accepts a flush's publish only while the event
is still buffered and no other accepted flush of it awaits its pop, an event
passed at most once to `emit_event` is at most once in the stream. -/
theorem first_acceptances_publish_once (schedule : List (Move (Task Event) Bool))
    (final : Emitters Event)
    (condition : emitter.pool.Admitted (fun state move => acceptedFirst state move = true)
      silent schedule)
    (reached : emitter.pool.run silent schedule = some final)
    (event : Event) (passed : total (passedBy event) final.calls ≤ 1) :
    final.shared.queue.count event ≤ 1 := by
  have initially : Whereabouts event (silent : Emitters Event) := by
    intro _
    constructor <;> simp [silent, Deque.empty]
  exact (emitter.pool.admitted_invariant _ (Whereabouts event)
    (fun state move next => whereabouts_step event state next move)
    _ final schedule initially condition reached passed).single

/-- Two emits overlap on one head; the second flush is refused. -/
theorem first_acceptances_publish_once_overlap :
    ∃ final : Emitters Nat, final.shared.queue.count 0 ≤ 1 ∧ 0 ∈ final.shared.queue :=
  ⟨_, first_acceptances_publish_once
    [.call (.emitEvent 0), .reply 0 false, .call (.emitEvent 1), .call (.emitEvent 2),
      .reply 1 true, .reply 2 false] _
    ((System.admits_iff _ acceptedFirst _ _).mp (by decide)) rfl 0 (by decide), by decide⟩

/-- Two emits flush the same head and Redis accepts both publishes: event 0 is
emitted once and appended twice. -/
theorem overlapping_flushes_duplicate :
    ∃ (schedule : List (Move (Task Nat) Bool)) (final : Emitters Nat),
      emitter.pool.run silent schedule = some final ∧
      total (passedBy 0) final.calls = 1 ∧ final.shared.queue.count 0 = 2 :=
  ⟨[.call (.emitEvent 0), .reply 0 false, .call (.emitEvent 1), .call (.emitEvent 2),
    .reply 1 true, .reply 2 true], _, rfl, by decide⟩

end Honeywatch.Honeypot
