import Honeywatch.Tasks.Provenance

/-!
# The order of the rows

The worker reads the stream forwards and handles one entry after the other, so the
events come into the table in the order in which they were published, whatever fails,
stops or crashes on the way. Some may be missing; none is ahead of an earlier one. Only a
lost group makes the worker go back.
-/

namespace Honeywatch.Tasks

open Collector Redis Transition

variable {Payload Event Id Label : Type} [DecidableEq Id]

section Due

variable (fromJsonStr : Payload → Option Event) (eventId : Event → Id)
  (table : List (AttackEventModel Event Label))

/-- The event in hand, unless it has its row. -/
def Work.due (work : Work Event Label) : List Event :=
  work.events.filter fun event => !committed eventId table (eventId event)

/-- The events in the memory of the process that may still get a row, in their order. -/
def due : Option (EventWorker Payload Event Label) → List Event
  | none => []
  | some worker =>
    match worker.activity with
    | .handling batch work => work.due eventId table ++ wellFormed fromJsonStr batch
    | _ => []

/-- The events that have a row or may get one, in the order of the rows. -/
def State.sequence (state : State Payload Event Label) : List Event :=
  state.table.map AttackEventModel.event ++
    (due fromJsonStr eventId state.table state.worker ++
      wellFormed fromJsonStr state.stream.undelivered)

variable (worker : EventWorker Payload Event Label) (batch : List (Nat × Payload))

/-- At the head of the loop nothing is due. -/
theorem due_loopHead : due fromJsonStr eventId table (some worker.loopHead) = [] := by
  cases client : worker.redis <;> simp [EventWorker.loopHead, client, due]

/-- After a failure of the loop nothing is: what was in hand waits in the stream for
a process that asks for it. -/
theorem due_consumeFailed (failure : RedisFailure) :
    due fromJsonStr eventId table (worker.consumeFailed failure) = [] := by
  unfold EventWorker.consumeFailed
  split <;> simp [due]

/-- On the way to an acknowledgement the event in hand is due unless it has its row,
and the rest of the batch comes after it. -/
theorem due_enterAck (work : AckPoint → Work Event Label) {events : List Event}
    (about : ∀ point, (work point).events = events) :
    due fromJsonStr eventId table (some (worker.enterAck batch work)) =
      events.filter (fun event => !committed eventId table (eventId event)) ++
        wellFormed fromJsonStr batch := by
  unfold EventWorker.enterAck
  split <;> simp [due, Work.due, about]

/-- Going on with a batch brings in nothing else than its entries, and in their
order. -/
theorem due_advance :
    (due fromJsonStr eventId table (worker.advance fromJsonStr batch)).Sublist
      (wellFormed fromJsonStr batch) := by
  cases batch with
  | nil =>
    rw [EventWorker.advance, due_loopHead]
    exact List.nil_sublist _
  | cons first rest =>
    obtain ⟨entry, payload⟩ := first
    cases parsed : fromJsonStr payload with
    | none =>
      have rejected := due_enterAck fromJsonStr eventId table worker rest (.rejecting entry)
        (fun _ => rfl)
      simp only [EventWorker.advance, parsed, rejected]
      simp [wellFormed, parsed]
    | some event =>
      have split : wellFormed fromJsonStr ((entry, payload) :: rest) =
          [event] ++ wellFormed fromJsonStr rest := by
        simp [wellFormed, parsed]
      simp only [EventWorker.advance, parsed, split]
      split
      · exact List.filter_sublist.append_right _
      · exact List.nil_sublist _

/-- So does another attempt, which begins with the event in hand, or goes on without
it. -/
theorem due_attemptFailed (entry : Nat) (event : Event) (label : Label) (attempt : Nat) :
    (due fromJsonStr eventId table
        (worker.attemptFailed fromJsonStr batch entry event label attempt)).Sublist
      ([event].filter (fun event => !committed eventId table (eventId event)) ++
        wellFormed fromJsonStr batch) := by
  unfold EventWorker.attemptFailed
  split
  · exact List.Sublist.refl _
  · exact (due_advance fromJsonStr eventId table worker batch).trans (List.sublist_append_right _ _)

/-- What is due after a command is in order if it is after either outcome, so each
of them is looked at on its own. -/
theorem due_outcome {events : List Event} (failure : Option RedisFailure)
    (returned : Option (EventWorker Payload Event Label))
    (raised : RedisFailure → Option (EventWorker Payload Event Label))
    (normally : (due fromJsonStr eventId table returned).Sublist events)
    (failing : ∀ failure, (due fromJsonStr eventId table (raised failure)).Sublist events) :
    (due fromJsonStr eventId table (outcome failure returned raised)).Sublist events := by
  cases failure with
  | none => exact normally
  | some failure => exact failing failure

end Due

section Run

variable {fromJsonStr : Payload → Option Event} {eventId : Event → Id}
  {state next : State Payload Event Label} {worker : EventWorker Payload Event Label}

/-- Where the table and the undelivered entries stay, what may get a row stays in
order as soon as what is due does. -/
theorem sequence_of_due {stream : Stream Payload}
    {after : Option (EventWorker Payload Event Label)}
    (undelivered : stream.undelivered = state.stream.undelivered)
    (kept : (due fromJsonStr eventId state.table after).Sublist
      (due fromJsonStr eventId state.table state.worker)) :
    (State.sequence fromJsonStr eventId { state with stream, worker := after }).Sublist
      (state.sequence fromJsonStr eventId) := by
  simp only [State.sequence, undelivered]
  exact (kept.append_right _).append_left _

/-- A failed attempt goes on with the event in hand and the batch, as before, or
with the batch alone. -/
theorem due_retry {batch : List (Nat × Payload)} {work : Work Event Label} {entry : Nat}
    {event : Event} {label : Label} {attempt : Nat} (present : state.worker = some worker)
    (activity : worker.activity = .handling batch work) (about : work.events = [event]) :
    (due fromJsonStr eventId state.table
        (worker.attemptFailed fromJsonStr batch entry event label attempt)).Sublist
      (due fromJsonStr eventId state.table state.worker) := by
  rw [present]
  simp only [due, activity, Work.due, about]
  exact due_attemptFailed fromJsonStr eventId state.table worker batch entry event label attempt

/-- The worker is done with an entry, and what is due is the rest of its batch. -/
theorem due_onward {batch : List (Nat × Payload)} {work : Work Event Label}
    (present : state.worker = some worker) (activity : worker.activity = .handling batch work) :
    (due fromJsonStr eventId state.table (worker.advance fromJsonStr batch)).Sublist
      (due fromJsonStr eventId state.table state.worker) := by
  rw [present]
  simp only [due, activity]
  exact (due_advance fromJsonStr eventId state.table worker batch).trans
    (List.sublist_append_right _ _)

/-- A failure of the loop leaves nothing that could be out of order. -/
theorem due_failed {events : List Event} (failure : RedisFailure) :
    (due fromJsonStr eventId state.table (worker.consumeFailed failure)).Sublist events := by
  rw [due_consumeFailed]
  exact List.nil_sublist _

/-- The event in hand gets its row before the events to come. The row moves from the
due ones to the stored ones, and the sequence is the same. -/
theorem sequence_added {batch : List (Nat × Payload)} {entry : Nat} {event : Event}
    {label : Label} {attempt : Nat} {table : List (AttackEventModel Event Label)}
    {after : Option (EventWorker Payload Event Label)} (present : state.worker = some worker)
    (activity : worker.activity = .handling batch (.inserting entry event label attempt))
    (inserted : commit eventId state.table { event, label } = some table)
    (kept : (due fromJsonStr eventId table after).Sublist
      ([event].filter (fun event => !committed eventId table (eventId event)) ++
        wellFormed fromJsonStr batch)) :
    (State.sequence fromJsonStr eventId { state with table, worker := after }).Sublist
      (state.sequence fromJsonStr eventId) := by
  have fresh : committed eventId state.table (eventId event) = false := by
    by_contra taken
    simp [commit, taken] at inserted
  have stored : committed eventId table (eventId event) = true := by
    rw [commit_some _ _ _ inserted]
    simp
  have later : (due fromJsonStr eventId table after).Sublist (wellFormed fromJsonStr batch) := by
    simpa [stored] using kept
  have before : due fromJsonStr eventId state.table state.worker =
      event :: wellFormed fromJsonStr batch := by
    simp [present, due, activity, Work.due, Work.events, fresh]
  have rows : table.map AttackEventModel.event =
      state.table.map AttackEventModel.event ++ [event] := by
    rw [commit_appends inserted, List.map_append]
    rfl
  simp only [State.sequence, before, rows, List.append_assoc, List.cons_append, List.nil_append]
  exact ((later.append_right _).cons_cons event).append_left _

/-- While an event is in hand, another await of it changes nothing in what is to
come: the event, unless it is committed, and the batch. -/
theorem due_in_hand {batch : List (Nat × Payload)} {work later : Work Event Label}
    (present : state.worker = some worker) (activity : worker.activity = .handling batch work)
    (same : later.events = work.events) :
    (due fromJsonStr eventId state.table
        (some { worker with activity := .handling batch later })).Sublist
      (due fromJsonStr eventId state.table state.worker) := by
  rw [present]
  simp only [due, activity, Work.due, same]
  exact List.Sublist.refl _

/-- Making sure of the group delivers nothing. So it keeps what is to come in order if
both of its outcomes do. -/
theorem ensure_sequence (reply : RedisReply)
    {returned : Option (EventWorker Payload Event Label)}
    {raised : RedisFailure → Option (EventWorker Payload Event Label)}
    (normally : (due fromJsonStr eventId state.table returned).Sublist
      (due fromJsonStr eventId state.table state.worker))
    (failing : ∀ failure, (due fromJsonStr eventId state.table (raised failure)).Sublist
      (due fromJsonStr eventId state.table state.worker)) :
    (State.sequence fromJsonStr eventId
        { state with
          stream := (ensureConsumerGroup state.stream reply).1
          worker := outcome (ensureConsumerGroup state.stream reply).2 returned raised }).Sublist
      (state.sequence fromJsonStr eventId) :=
  sequence_of_due (ensureConsumerGroup_undelivered _ _)
    (due_outcome fromJsonStr eventId state.table _ _ _ normally failing)

/-- An acknowledgement delivers nothing either, so all that matters is what is due
behind it. -/
theorem xack_sequence (entry : Nat) (reply : RedisReply)
    {returned : Option (EventWorker Payload Event Label)}
    {raised : RedisFailure → Option (EventWorker Payload Event Label)}
    (normally : (due fromJsonStr eventId state.table returned).Sublist
      (due fromJsonStr eventId state.table state.worker))
    (failing : ∀ failure, (due fromJsonStr eventId state.table (raised failure)).Sublist
      (due fromJsonStr eventId state.table state.worker)) :
    (State.sequence fromJsonStr eventId
        { state with
          stream := (xack state.stream entry reply).1
          worker := outcome (xack state.stream entry reply).2 returned raised }).Sublist
      (state.sequence fromJsonStr eventId) :=
  sequence_of_due (xack_reply_undelivered _ _ _)
    (due_outcome fromJsonStr eventId state.table _ _ _ normally failing)

/-- A read moves the front of the undelivered entries into the batch in hand, which was
empty. Where it fails after it was executed, that front is in nobody's hands: its events
are missing from then on, and the others stay in order. -/
theorem read_sequence (reply : RedisReply) (present : state.worker = some worker)
    (activity : worker.activity = .reading) :
    (State.sequence fromJsonStr eventId
        { state with
          stream := (xreadgroup state.stream reply).1
          worker :=
            match (xreadgroup state.stream reply).2 with
            | .ok batch => worker.advance fromJsonStr batch
            | .error failure =>
              if failure.isNoGroup then
                if worker.redis then some { worker with activity := .regrouping } else none
              else worker.consumeFailed failure }).Sublist
      (state.sequence fromJsonStr eventId) := by
  have nothing : due fromJsonStr eventId state.table state.worker = [] := by
    simp [present, due, activity]
  simp only [State.sequence, nothing, List.nil_append]
  refine List.Sublist.append_left ?_ _
  obtain ⟨-, ⟨batch, result, -, -, undelivered⟩ | ⟨failure, result, same⟩⟩ :=
    xreadgroup_reply fromJsonStr state.stream reply
  · simp only [result]
    have split : wellFormed fromJsonStr state.stream.undelivered =
        wellFormed fromJsonStr batch ++
          wellFormed fromJsonStr (xreadgroup state.stream reply).1.undelivered := by
      rw [undelivered]
      exact List.filterMap_append
    rw [split]
    exact (due_advance fromJsonStr eventId state.table worker batch).append_right _
  · simp only [result]
    have gone : (wellFormed fromJsonStr (xreadgroup state.stream reply).1.undelivered).Sublist
        (wellFormed fromJsonStr state.stream.undelivered) := by
      rcases same with same | ⟨-, split⟩
      · rw [same]
      · rw [split]
        exact List.sublist_append_right _ _
    split
    · split <;> exact gone
    · rw [due_consumeFailed]
      exact gone

/-- What an answer leaves comes in the same order. Before an entry is in hand nothing is
due; in hand its event stays due until it has its row or is given up. -/
theorem answer_sequence {reply : Reply Label} (present : state.worker = some worker)
    (answered : answer fromJsonStr eventId state worker reply = some next) :
    (next.sequence fromJsonStr eventId).Sublist (state.sequence fromJsonStr eventId) := by
  have idle : (due fromJsonStr eventId state.table (some worker.loopHead)).Sublist
      (due fromJsonStr eventId state.table state.worker) := by
    rw [due_loopHead]
    exact List.nil_sublist _
  cases answered_of_answer answered with
  | started reply activity =>
    refine ensure_sequence reply ?_ fun _ => List.nil_sublist _
    rw [due_loopHead]
    exact List.nil_sublist _
  | connected reply activity =>
    refine ensure_sequence reply ?_ due_failed
    split <;> exact List.nil_sublist _
  | regrouped reply activity => exact ensure_sequence reply idle due_failed
  | read reply activity => exact read_sequence reply present activity
  | reconnected reply batch entry event label attempt activity =>
    refine ensure_sequence reply ?_ fun _ => due_retry present activity rfl
    split
    · exact due_in_hand present activity rfl
    · exact due_retry present activity rfl
  | acknowledged reply batch entry event label attempt activity =>
    exact xack_sequence entry reply (due_onward present activity)
      fun _ => due_retry present activity rfl
  | reconnectedRejecting reply batch entry activity =>
    refine ensure_sequence reply ?_ due_failed
    split
    · exact due_in_hand present activity rfl
    · exact List.nil_sublist _
  | rejected reply batch entry activity =>
    exact xack_sequence entry reply (due_onward present activity) due_failed
  | classified batch entry event label activity =>
    exact sequence_of_due rfl (due_in_hand present activity rfl)
  | stored batch entry event label attempt table activity inserted =>
    have listed := due_enterAck fromJsonStr eventId table worker batch
      (.acknowledging entry event label attempt) fun _ => rfl
    exact sequence_added present activity inserted (listed ▸ List.Sublist.refl _)
  | storedUnseen batch entry event label attempt table activity inserted =>
    exact sequence_added present activity inserted
      (due_attemptFailed fromJsonStr eventId table worker batch entry event label attempt)
  | notStored reply batch entry event label attempt activity why =>
    exact sequence_of_due rfl (due_retry present activity rfl)
  | woken activity => exact sequence_of_due rfl idle
  | retried batch entry event label attempt activity =>
    exact sequence_of_due rfl (due_in_hand present activity rfl)

/-- What a move brings in comes after everything else: a publish adds at the end of
the stream, and every other move takes away or leaves. -/
theorem step_sequence {move : Move Payload Label} (kept : move ≠ .loseGroup)
    (taken : (system fromJsonStr eventId).step state move = some next) :
    (next.sequence fromJsonStr eventId).Sublist
      (state.sequence fromJsonStr eventId ++ move.added.filterMap fromJsonStr) := by
  cases move with
  | publish payload =>
    simp only [system, Option.some.injEq] at taken
    have later : wellFormed fromJsonStr (state.stream.xadd payload).undelivered =
        wellFormed fromJsonStr state.stream.undelivered ++ [payload].filterMap fromJsonStr := by
      rw [Stream.xadd_undelivered]
      simp [wellFormed, List.filterMap_cons]
    rw [← taken]
    simp only [State.sequence, later, Move.added, List.append_assoc]
    exact List.Sublist.refl _
  | loseGroup => exact absurd rfl kept
  | start =>
    cases present : state.worker with
    | some worker => simp [system, present] at taken
    | none =>
      simp only [system, present, Option.some.injEq] at taken
      simp only [Move.added, List.filterMap_nil, List.append_nil, ← taken]
      exact sequence_of_due rfl (List.nil_sublist _)
  | stop =>
    cases present : state.worker with
    | none => simp [system, present] at taken
    | some worker =>
      simp only [system, present, Option.some.injEq] at taken
      simp only [Move.added, List.filterMap_nil, List.append_nil, ← taken]
      refine sequence_of_due rfl ?_
      rw [present]
      exact List.Sublist.refl _
  | crash =>
    cases present : state.worker with
    | none => simp [system, present] at taken
    | some worker =>
      simp only [system, present, Option.some.injEq] at taken
      simp only [Move.added, List.filterMap_nil, List.append_nil, ← taken]
      exact sequence_of_due rfl (List.nil_sublist _)
  | reply reply =>
    cases present : state.worker with
    | none => simp [system, present] at taken
    | some worker =>
      simp only [system, present] at taken
      simp only [Move.added, List.filterMap_nil, List.append_nil]
      exact answer_sequence present taken

/-- In every run that starts with nothing published and in which the group is not lost,
whatever fails, stops, crashes and is started again: the rows are in the order in which
their events were published. -/
theorem rows_in_stream_order (fromJsonStr : Payload → Option Event) (eventId : Event → Id)
    (schedule : List (Move Payload Label)) (state : State Payload Event Label)
    (kept : ∀ move ∈ schedule, move ≠ .loseGroup)
    (reached : (system fromJsonStr eventId).run initial schedule = some state) :
    (state.table.map AttackEventModel.event).Sublist
      (state.stream.entries.filterMap fromJsonStr) := by
  have admitted := (system fromJsonStr eventId).admitted_of_moves (fun move => move ≠ .loseGroup)
    initial schedule kept
  have ordered := (system fromJsonStr eventId).admitted_invariant _
    (fun state => (state.sequence fromJsonStr eventId).Sublist
      (state.stream.entries.filterMap fromJsonStr))
    (fun state move next ordered kept taken => by
      rw [step_entries taken, List.filterMap_append]
      exact (step_sequence kept taken).trans (ordered.append_right _))
    initial state schedule (List.nil_sublist _) admitted reached
  exact (List.sublist_append_left _ _).trans ordered

end Run

/-- Three events are published, the first is stored, the worker crashes with the others in
its memory, and a fourth one is published after the next start. -/
def crashed : List (Move Nat Bool) :=
  [.publish 1, .publish 2, .publish 3, .start, .reply (.redis .answered),
    .reply (.redis .answered), .reply (.classified true), .reply (.database .answered), .crash,
    .start, .reply (.redis .answered), .publish 4, .reply (.redis .answered),
    .reply (.classified true), .reply (.database .answered)]

/-- The first and the last of four events have rows: a crash between them has lost
what was in the hands of the process. -/
theorem rows_in_stream_order_crashed : ∃ state : State Nat Nat Bool,
    (system some id).run initial crashed = some state ∧
      state.table.map AttackEventModel.event = [1, 4] ∧
      (state.table.map AttackEventModel.event).Sublist (state.stream.entries.filterMap some) :=
  ⟨_, rfl, rfl, rows_in_stream_order some id crashed _ (by decide) rfl⟩

end Honeywatch.Tasks
