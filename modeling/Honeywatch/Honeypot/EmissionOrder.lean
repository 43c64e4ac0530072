import Honeywatch.Honeypot.Interleaving

/-!
# The order of the stream

Emits and flushes that do not overlap. An emit first flushes the buffer and then
publishes its own event, whether or not the flush got through. While every flush
that leaves something behind is followed by a refusal, stream and buffer together
are what was emitted, in that order. A flush that is refused before an own
publish that succeeds lets the event overtake the buffered ones.
-/

namespace Honeywatch.Honeypot

open Cooperative Collector Transition

variable {Event : Type}

/-- The call is over, or a flush loop that waits for its timer. -/
def resting (call : Running Event) : Bool :=
  match call.progress with
  | .finished _ => true
  | .suspended .sleeping => true
  | .suspended _ => false

/-- A call is made, or a flush loop wakes up, while every other call rests. -/
def separate (state : Emitters Event) : Move (Task Event) Bool → Bool
  | .call _ => state.calls.all resting
  | .reply index _ =>
    match state.calls[index]? with
    | some ⟨_, .suspended .sleeping⟩ => state.calls.all resting
    | _ => true

/-- An emit publishes its own event only when its flush has emptied the buffer. -/
def flushedFirst (state : Emitters Event) : Move (Task Event) Bool → Bool
  | .reply index true =>
    match state.calls[index]? with
    | some ⟨.emitEvent _, .suspended (.publishing .pending)⟩ => state.shared.buffer.items.isEmpty
    | _ => true
  | _ => true

/-- The event that a task was given. -/
def emittedBy : Task Event → Option Event
  | .emitEvent event => some event
  | .periodicFlush => none

/-- The events passed to `emit_event`, in their order. -/
def passed (calls : List (Running Event)) : List Event :=
  calls.filterMap fun call => emittedBy call.argument

/-- The stream is the beginning of what was passed: the entries are in the order of
the emits, and none is before an earlier event that waits elsewhere. -/
def InOrder (state : Emitters Event) : Prop := state.shared.queue <+: passed state.calls

/-- The event that a call has still to publish or to buffer. -/
def inHand (call : Running Event) : List Event :=
  match call.argument, call.progress with
  | .emitEvent event, .suspended (.flushing _ _) => [event]
  | .emitEvent event, .suspended (.publishing .pending) => [event]
  | _, _ => []

/-- What of the buffer is not in the stream: all of it, or all but the head that the
call has published and not yet popped. -/
def unpublished (call : Running Event) (items : List Event) : List Event :=
  match call.progress with
  | .suspended (.flushing _ .accepted) => items.tail
  | _ => items

/-- The stream, the rest of the buffer, and what the call has in hand. -/
def ledger (memory : Streamed Event) (call : Running Event) : List Event :=
  memory.queue ++ unpublished call memory.buffer.items ++ inHand call

/-- A flush awaits the publish of the buffer's head. -/
def AtHead (memory : Streamed Event) (call : Running Event) : Prop :=
  ∀ head stage, call.progress = .suspended (.flushing head stage) →
    memory.buffer.items.head? = some head

/-- While a task rests, nothing is on its way between the buffer and the stream, so
both together are the ledger. -/
theorem ledger_resting (memory : Streamed Event) {call : Running Event}
    (rests : resting call = true) : ledger memory call = memory.queue ++ memory.buffer.items := by
  obtain ⟨task, progress⟩ := call
  cases progress with
  | finished result => simp [ledger, unpublished, inHand]
  | suspended point =>
    cases point with
    | sleeping => cases task <;> simp [ledger, unpublished, inHand]
    | flushing head stage => simp [resting] at rests
    | publishing stage => simp [resting] at rests

/-- One call at a time is under way. While nothing was discarded, stream, buffer and
what that call has in hand are what was passed. -/
structure Orderly (state : Emitters Event) : Prop where
  alone : (state.calls.countP fun call => !resting call) ≤ 1
  idle : (∀ call ∈ state.calls, resting call = true) → state.shared.evicted = [] →
    state.shared.queue ++ state.shared.buffer.items = passed state.calls
  busy : ∀ call ∈ state.calls, resting call = false →
    AtHead state.shared call ∧
      (state.shared.evicted = [] → ledger state.shared call = passed state.calls)

/-- Around a call that is under way all others rest, as at most one is under way. -/
theorem Orderly.others {state : Emitters Event} (orderly : Orderly state)
    {before after : List (Running Event)} {call : Running Event}
    (split : state.calls = before ++ call :: after) (busy : resting call = false) :
    ∀ other ∈ before ++ after, resting other = true := by
  have alone := orderly.alone
  rw [split, List.countP_append, List.countP_cons, busy] at alone
  simp only [Bool.not_false, if_true] at alone
  have earlier : (before.countP fun call => !resting call) = 0 := by omega
  have later : (after.countP fun call => !resting call) = 0 := by omega
  rw [List.countP_eq_zero] at earlier later
  intro other member
  rcases List.mem_append.mp member with first | last
  · simpa using earlier other first
  · simpa using later other last

/-- One call among resting ones keeps the order by itself: it is the only one whose
hands have to be looked into. -/
theorem orderly_of_call {memory : Streamed Event} {before after : List (Running Event)}
    {call : Running Event} (others : ∀ other ∈ before ++ after, resting other = true)
    (atHead : AtHead memory call)
    (ordered : memory.evicted = [] → ledger memory call = passed (before ++ call :: after)) :
    Orderly { shared := memory, calls := before ++ call :: after } where
  alone := by
    have earlier : (before.countP fun call => !resting call) = 0 :=
      List.countP_eq_zero.mpr fun other member => by simp [others other (by simp [member])]
    have later : (after.countP fun call => !resting call) = 0 :=
      List.countP_eq_zero.mpr fun other member => by simp [others other (by simp [member])]
    rw [List.countP_append, List.countP_cons, earlier, later]
    split <;> omega
  idle all kept := (ledger_resting memory (all call (by simp))).symm.trans (ordered kept)
  busy other member under := by
    rcases List.mem_append.mp member with earlier | here
    · simp [others other (by simp [earlier])] at under
    · rcases List.mem_cons.mp here with rfl | later
      · exact ⟨atHead, ordered⟩
      · simp [others other (by simp [later])] at under

/-- A flush that reads the buffer awaits its head, or there is none to await. -/
theorem readHead_atHead (memory : Streamed Event) (task : Task Event) :
    AtHead memory ⟨task, readHead task memory.buffer.items⟩ := by
  intro head stage suspended
  cases held : memory.buffer.items with
  | nil => cases task <;> simp [readHead, afterFlush, held] at suspended
  | cons oldest rest =>
    simp only [readHead, held, Progress.suspended.injEq, TaskPoint.flushing.injEq] at suspended
    simp [suspended.1]

/-- Reading the buffer publishes nothing; an emit has its event in hand, behind what
is buffered. -/
theorem readHead_ledger (memory : Streamed Event) (task : Task Event) :
    ledger memory ⟨task, readHead task memory.buffer.items⟩ =
      memory.queue ++ memory.buffer.items ++ (emittedBy task).toList := by
  cases held : memory.buffer.items with
  | nil => cases task <;> simp [ledger, readHead, afterFlush, unpublished, inHand, emittedBy, held]
  | cons oldest rest =>
    cases task <;> simp [ledger, readHead, unpublished, inHand, emittedBy, held]

/-- A segment moves events within the ledger, unless an own publish is accepted
before the buffer is empty. -/
theorem segment_ledger {memory after : Streamed Event} {task : Task Event}
    {point : TaskPoint Event Stage} {reply : Bool} {progress : Advance Event}
    (segment : Segment memory task point reply after progress)
    (atHead : AtHead memory ⟨task, .suspended point⟩)
    (flushed : ∀ event, task = .emitEvent event → point = .publishing .pending → reply = true →
      memory.buffer.items = []) :
    AtHead after ⟨task, progress⟩ ∧
      (after.evicted = [] → memory.evicted = [] ∧
        ledger after ⟨task, progress⟩ = ledger memory ⟨task, .suspended point⟩) := by
  cases segment with
  | accepted _ head =>
    have first := atHead head .pending rfl
    refine ⟨fun other stage suspended => ?_, fun kept => ⟨kept, ?_⟩⟩
    · simp only [Progress.suspended.injEq, TaskPoint.flushing.injEq] at suspended
      exact suspended.1 ▸ first
    · obtain ⟨rest, held⟩ := List.head?_eq_some_iff.mp first
      cases task <;> simp [ledger, unpublished, inHand, held]
  | refused _ head =>
    refine ⟨fun other stage suspended => ?_, fun kept => ⟨kept, ?_⟩⟩
    · cases task <;> simp [afterFlush] at suspended
    · cases task <;> simp [ledger, unpublished, inHand, afterFlush]
  | popped _ head oldest rest _ shorter held remaining =>
    subst remaining
    refine ⟨readHead_atHead { memory with buffer := shorter } task, fun kept => ⟨kept, ?_⟩⟩
    rw [readHead_ledger { memory with buffer := shorter } task]
    cases task <;> simp [ledger, unpublished, inHand, emittedBy, held]
  | exhausted _ head _ held =>
    have first := atHead head .accepted rfl
    simp [held] at first
  | ownAccepted event =>
    have empty := flushed event rfl rfl rfl
    refine ⟨fun other stage suspended => ?_, fun kept => ⟨kept, ?_⟩⟩
    · simp at suspended
    · simp [ledger, unpublished, inHand, empty]
  | ownRefused event =>
    refine ⟨fun other stage suspended => ?_, fun kept => ?_⟩
    · simp at suspended
    · obtain ⟨before, none_now⟩ := List.append_eq_nil_iff.mp kept
      have appended := memory.buffer.discarded_append event
      rw [none_now, List.nil_append] at appended
      refine ⟨before, ?_⟩
      simp [ledger, unpublished, inHand, Memory.buffered, appended]
  | ownReturned event =>
    refine ⟨fun other stage suspended => ?_, fun kept => ⟨kept, ?_⟩⟩
    · simp at suspended
    · simp [ledger, unpublished, inHand]
  | tick =>
    refine ⟨readHead_atHead memory .periodicFlush, fun kept => ⟨kept, ?_⟩⟩
    rw [readHead_ledger]
    simp [ledger, unpublished, inHand, emittedBy]
  | emitAsleep event => exact ⟨atHead, fun kept => ⟨kept, rfl⟩⟩
  | timerPublishing stage => exact ⟨atHead, fun kept => ⟨kept, rfl⟩⟩

/-- What has passed is counted call by call. -/
theorem passed_append (calls later : List (Running Event)) :
    passed (calls ++ later) = passed calls ++ passed later :=
  List.filterMap_append

/-- What was passed does not depend on what the calls have come to. -/
theorem passed_around (before after : List (Running Event)) (task : Task Event)
    (progress other : Advance Event) :
    passed (before ++ ⟨task, progress⟩ :: after) = passed (before ++ ⟨task, other⟩ :: after) := by
  simp only [passed, List.filterMap_append, List.filterMap_cons]

/-- One step of calls that do not overlap, with the buffer empty at an own publish.
The event then goes behind all that was passed before it. -/
theorem orderly_move (state next : Emitters Event) (move : Move (Task Event) Bool)
    (orderly : Orderly state) (apart : separate state move = true)
    (flushed : flushedFirst state move = true) (taken : emitter.pool.step state move = some next) :
    Orderly next := by
  cases move with
  | call task =>
    rw [Coroutine.pool_call, enter_assumed] at taken
    subst taken
    have rest : ∀ call ∈ state.calls, resting call = true := List.all_eq_true.mp apart
    have settled := orderly.idle rest
    have others : ∀ call ∈ state.calls ++ [], resting call = true := by simpa using rest
    refine orderly_of_call others ?_ fun kept => ?_
    · cases task with
      | emitEvent event => exact readHead_atHead state.shared _
      | periodicFlush =>
        intro head stage suspended
        simp [entered] at suspended
    · rw [passed_append, ← settled kept]
      cases task with
      | emitEvent event => exact readHead_ledger state.shared (.emitEvent event)
      | periodicFlush => simp [ledger, entered, unpublished, inHand, passed, emittedBy]
  | reply index reply =>
    obtain ⟨before, after, task, point, rfl, split, rfl⟩ :=
      Coroutine.pool_reply _ state next index reply taken
    have found := (Coroutine.at_split split).1
    have current : (⟨task, .suspended point⟩ : Running Event) ∈ state.calls := by simp [split]
    -- a sleeping call may go on only while every other one rests
    have here : (∀ other ∈ before ++ after, resting other = true) ∧
        AtHead state.shared ⟨task, .suspended point⟩ ∧
        (state.shared.evicted = [] →
          ledger state.shared ⟨task, .suspended point⟩ = passed state.calls) := by
      by_cases busy : resting (⟨task, .suspended point⟩ : Running Event) = false
      · exact ⟨orderly.others split busy, orderly.busy _ current busy⟩
      · rw [Bool.not_eq_false] at busy
        cases point with
        | flushing head stage => simp [resting] at busy
        | publishing stage => simp [resting] at busy
        | sleeping =>
          simp only [separate, found] at apart
          have rest : ∀ call ∈ state.calls, resting call = true := List.all_eq_true.mp apart
          refine ⟨fun other member => rest other ?_, ?_, fun kept => ?_⟩
          · rw [split]
            simp only [List.mem_append, List.mem_cons] at member ⊢
            tauto
          · intro head stage suspended
            simp at suspended
          · rw [ledger_resting state.shared busy, orderly.idle rest kept]
    obtain ⟨others, atHead, ordered⟩ := here
    have segment := segment_of_resume state.shared task point reply
    obtain ⟨still, moved⟩ := segment_ledger segment atHead (by
      rintro event rfl rfl rfl
      simpa only [flushedFirst, found, List.isEmpty_iff] using flushed)
    refine orderly_of_call others still fun kept => ?_
    obtain ⟨earlier, same⟩ := moved kept
    rw [same, ordered earlier, split]
    exact passed_around before after task _ _

/-- The ledger begins with the stream, so what is in the stream is in the order of
what was passed. -/
theorem Orderly.inOrder {state : Emitters Event} (orderly : Orderly state)
    (kept : state.shared.evicted = []) : InOrder state := by
  by_cases rest : ∀ call ∈ state.calls, resting call = true
  · exact ⟨_, orderly.idle rest kept⟩
  · obtain ⟨call, other⟩ := not_forall.mp rest
    obtain ⟨member, busy⟩ := Classical.not_imp.mp other
    obtain ⟨_, ordered⟩ := orderly.busy call member (Bool.not_eq_true _ |>.mp busy)
    refine ⟨unpublished call state.shared.buffer.items ++ inHand call, ?_⟩
    rw [← List.append_assoc]
    exact ordered kept

/-- Before the first emission everything is in order. -/
theorem orderly_silent : Orderly (silent : Emitters Event) where
  alone := Nat.zero_le _
  idle _ _ := rfl
  busy call member := by simp [silent] at member

/-- Nothing that was passed is taken back, and nothing that was discarded, so the
two lists at the end bound those on the way. -/
theorem step_grows (state next : Emitters Event) (move : Move (Task Event) Bool)
    (taken : emitter.pool.step state move = some next) :
    passed state.calls <+: passed next.calls ∧ state.shared.evicted <+: next.shared.evicted := by
  cases move with
  | call task =>
    rw [Coroutine.pool_call, enter_assumed] at taken
    subst taken
    rw [passed_append]
    exact ⟨List.prefix_append _ _, List.prefix_rfl⟩
  | reply index reply =>
    obtain ⟨before, after, task, point, rfl, split, rfl⟩ :=
      Coroutine.pool_reply _ state next index reply taken
    have segment := segment_of_resume state.shared task point reply
    refine ⟨?_, ?_⟩
    · rw [split, passed_around before after task (.suspended point)]
    · generalize (emitter.resume state.shared task point reply) = resumed at segment
      obtain ⟨memory, progress⟩ := resumed
      cases segment with
      | ownRefused event => exact List.prefix_append _ _
      | accepted | refused | popped | exhausted | ownAccepted | ownReturned | tick | emitAsleep
        | timerPublishing => exact List.prefix_rfl

/-- What has been emitted stays in its order, and what was pushed out stays out.
Along a run both lists only grow at their ends. -/
theorem run_grows (state final : Emitters Event) (schedule : List (Move (Task Event) Bool))
    (reached : emitter.pool.run state schedule = some final) :
    passed state.calls <+: passed final.calls ∧ state.shared.evicted <+: final.shared.evicted :=
  emitter.pool.run_invariant
    (fun later => passed state.calls <+: passed later.calls ∧
      state.shared.evicted <+: later.shared.evicted)
    (fun middle move next kept taken =>
      ⟨kept.1.trans (step_grows middle next move taken).1,
        kept.2.trans (step_grows middle next move taken).2⟩)
    state final schedule ⟨List.prefix_rfl, List.prefix_rfl⟩ reached

/-- An own publish that is accepted over a buffer with events breaks the order of
distinct events. -/
theorem overtaken {state next : Emitters Event} {index : Nat} {event : Event}
    (orderly : Orderly state) (kept : state.shared.evicted = [])
    (found : state.calls[index]? = some ⟨.emitEvent event, .suspended (.publishing .pending)⟩)
    (taken : emitter.pool.step state (.reply index true) = some next)
    (distinct : (passed state.calls).Nodup) (inOrder : InOrder next) :
    state.shared.buffer.items = [] := by
  obtain ⟨before, after, task, point, rfl, split, rfl⟩ :=
    Coroutine.pool_reply _ state next index true taken
  rw [split, List.getElem?_append_right (Nat.le_refl _), Nat.sub_self,
    List.getElem?_cons_zero, Option.some.injEq, Call.mk.injEq, Progress.suspended.injEq] at found
  obtain ⟨rfl, rfl⟩ := found
  have current : (⟨.emitEvent event, .suspended (.publishing .pending)⟩ : Running Event) ∈
      state.calls := by simp [split]
  have ordered := (orderly.busy _ current rfl).2 kept
  simp only [ledger, unpublished, inHand] at ordered
  cases held : state.shared.buffer.items with
  | nil => rfl
  | cons oldest rest =>
    -- the entry behind the stream would have to be the oldest event of the buffer
    have entries : state.shared.queue ++ [event] <+: passed state.calls := by
      have later := inOrder
      unfold InOrder at later
      rw [split, passed_around before after (.emitEvent event) _ _]
      exact later
    rw [← ordered, held, List.append_assoc] at entries
    have second := (List.prefix_append_right_inj _).mp entries
    rw [List.cons_append, List.cons_prefix_cons] at second
    rw [← ordered, held, second.1] at distinct
    simp [List.nodup_append] at distinct

/-- The order is kept over a whole run, by an induction on its schedule with the
step above. -/
theorem orderly_run (schedule : List (Move (Task Event) Bool)) (state final : Emitters Event)
    (orderly : Orderly state)
    (apart : emitter.pool.Admitted (fun state move => separate state move = true) state schedule)
    (flushed : emitter.pool.Admitted (fun state move => flushedFirst state move = true) state
      schedule)
    (reached : emitter.pool.run state schedule = some final) : Orderly final := by
  induction schedule generalizing state with
  | nil =>
    have same : state = final := Option.some.inj reached
    exact same ▸ orderly
  | cons move rest inductionHypothesis =>
    obtain ⟨next, taken, remaining⟩ := (System.run_cons_iff _ state final move rest).mp reached
    exact inductionHypothesis next
      (orderly_move state next move orderly apart.1 flushed.1 taken) (apart.2 next taken)
      (flushed.2 next taken) remaining

/-- A run of distinct events that is in order all the way has no such publish: with
something left in the buffer, the own event would overtake it. -/
theorem flushed_of_inOrder (schedule : List (Move (Task Event) Bool))
    (state final : Emitters Event) (orderly : Orderly state)
    (apart : emitter.pool.Admitted (fun state move => separate state move = true) state schedule)
    (reached : emitter.pool.run state schedule = some final) (kept : final.shared.evicted = [])
    (distinct : (passed final.calls).Nodup)
    (inOrder : ∀ before after middle, schedule = before ++ after →
      emitter.pool.run state before = some middle → InOrder middle) :
    emitter.pool.Admitted (fun state move => flushedFirst state move = true) state schedule := by
  induction schedule generalizing state with
  | nil => trivial
  | cons move rest inductionHypothesis =>
    obtain ⟨grown, more⟩ := run_grows state final (move :: rest) reached
    obtain ⟨next, taken, remaining⟩ := (System.run_cons_iff _ state final move rest).mp reached
    have one : emitter.pool.run state [move] = some next :=
      (System.run_cons_iff _ state next move []).mpr ⟨next, taken, rfl⟩
    have none_before : state.shared.evicted = [] := List.prefix_nil.mp (kept ▸ more)
    have here : flushedFirst state move = true := by
      unfold flushedFirst
      split
      · split
        · rename_i found
          exact List.isEmpty_iff.mpr <|
            overtaken orderly none_before found taken (distinct.sublist grown.sublist)
            (inOrder [_] rest next rfl one)
        · trivial
      · trivial
    refine ⟨here, fun other takenAgain => ?_⟩
    obtain rfl : next = other := Option.some.inj (taken.symm.trans takenAgain)
    refine inductionHypothesis next (orderly_move state next move orderly apart.1 here taken)
      (apart.2 next taken) remaining fun before after middle split passedOn => ?_
    exact inOrder (move :: before) after middle (by rw [split, List.cons_append])
      ((System.run_cons_iff _ state middle move before).mpr ⟨next, taken, passedOn⟩)

/-- For every run of emits and periodic flushes that do not overlap, with any
pattern of publishes that succeed or raise `ConnectionError` and without an
overflow: when every own publish that succeeds finds the buffer empty, the stream
is in every state the beginning of what was passed to `emit_event`. For distinct
events this is the only way to keep the order. -/
theorem stream_in_order_iff (schedule : List (Move (Task Event) Bool)) (final : Emitters Event)
    (apart : emitter.pool.Admitted (fun state move => separate state move = true) silent schedule)
    (reached : emitter.pool.run silent schedule = some final)
    (kept : final.shared.evicted = []) :
    (emitter.pool.Admitted (fun state move => flushedFirst state move = true) silent schedule →
      ∀ before after middle, schedule = before ++ after →
        emitter.pool.run silent before = some middle → InOrder middle) ∧
    ((passed final.calls).Nodup →
      (∀ before after middle, schedule = before ++ after →
        emitter.pool.run silent before = some middle → InOrder middle) →
      emitter.pool.Admitted (fun state move => flushedFirst state move = true) silent
        schedule) := by
  refine ⟨fun flushed before after middle split passedOn => ?_, fun distinct inOrder => ?_⟩
  · subst split
    rw [System.run_append _ _ _ _ _ passedOn] at reached
    have none_yet : middle.shared.evicted = [] :=
      List.prefix_nil.mp (kept ▸ (run_grows middle final after reached).2)
    exact (orderly_run before silent middle orderly_silent apart.first flushed.first
      passedOn).inOrder none_yet
  · exact flushed_of_inOrder schedule silent final orderly_silent apart reached kept distinct
      inOrder

/-- The first event is refused and buffered; the second emit flushes it and then
publishes its own. -/
def refusedThenFlushed : List (Move (Task Nat) Bool) :=
  [.call (.emitEvent 0), .reply 0 false, .call (.emitEvent 1), .reply 1 true, .reply 1 true,
    .reply 1 true, .reply 1 true]

/-- A run in which the refused event is flushed before the next one is published. -/
theorem stream_in_order_iff_flushed :
    emitter.pool.Always InOrder silent refusedThenFlushed :=
  (stream_in_order_iff refusedThenFlushed _
    ((System.admits_iff _ separate _ _).mp (by decide)) rfl rfl).1
    ((System.admits_iff _ flushedFirst _ _).mp (by decide))

/-- The flush of the second emit is refused, its own publish is not. The periodic
flush publishes the first event later. -/
theorem later_event_overtakes :
    ∃ (schedule : List (Move (Task Nat) Bool)) (final : Emitters Nat),
      emitter.pool.Admitted (fun state move => separate state move = true) silent schedule ∧
      emitter.pool.run silent schedule = some final ∧ final.shared.evicted = [] ∧
      passed final.calls = [0, 1] ∧ final.shared.queue = [1, 0] := by
  exact ⟨[.call .periodicFlush, .call (.emitEvent 0), .reply 1 false,
    .call (.emitEvent 1), .reply 2 false, .reply 2 true, .reply 2 true,
    .reply 0 true, .reply 0 true, .reply 0 true], _,
    (System.admits_iff _ separate _ _).mp (by decide), rfl, by decide⟩

end Honeywatch.Honeypot
