import Honeywatch.Tasks.Acknowledged
import Honeywatch.Tasks.RunWorker

/-!
# What a stopped worker still stores

`stop` clears `_running`, and the worker looks at it between two events only. So
between the call of `stop` and the end of the process the worker may still commit
the event it has in hand, after as many attempts as it has left, but it begins no
other: the table grows by one row at most.
-/

namespace Honeywatch.Tasks

open Collector Redis Transition

variable {Payload Event Id Label Error : Type} [DecidableEq Id]
  {fromJsonStr : Payload → Option Event} {eventId : Event → Id}

variable (eventId) in
/-- How many rows the worker may still commit for the event in hand. -/
def uncommitted (table : List (AttackEventModel Event Label)) :
    Option (EventWorker Payload Event Label) → Nat
  | some ⟨_, _, .handling _ work⟩ =>
    (work.events.filter fun event => !committed eventId table (eventId event)).length
  | _ => 0

/-- The worker was stopped and is past its start. -/
def Stopped : Option (EventWorker Payload Event Label) → Prop
  | none => True
  | some worker => worker.running = false ∧ worker.activity ≠ .starting

section Worker

variable {worker : EventWorker Payload Event Label}
  (table : List (AttackEventModel Event Label)) (batch : List (Nat × Payload))

/-- What is left when the worker goes on: it stays stopped, with no more to commit. -/
structure Winds (bound : Nat) (table : List (AttackEventModel Event Label))
    (eventId : Event → Id) (after : Option (EventWorker Payload Event Label)) : Prop where
  stopped : Stopped after
  bounded : uncommitted eventId table after ≤ bound

/-- At the head of the loop no event is in hand. -/
theorem winds_loopHead (bound : Nat) (off : worker.running = false) :
    Winds bound table eventId (some worker.loopHead) := by
  unfold EventWorker.loopHead
  split
  · exact ⟨⟨off, by simp⟩, by simp [uncommitted]⟩
  · exact ⟨⟨off, by simp⟩, by simp [uncommitted]⟩

/-- After a failure of the loop none is, and the process may be gone. -/
theorem winds_consumeFailed (bound : Nat) (off : worker.running = false)
    (failure : RedisFailure) : Winds bound table eventId (worker.consumeFailed failure) := by
  unfold EventWorker.consumeFailed
  split
  · exact ⟨⟨off, by simp⟩, by simp [uncommitted]⟩
  · exact ⟨trivial, by simp [uncommitted]⟩

/-- On the way to an acknowledgement the event in hand has its row already, or there
is none to come for it. -/
theorem winds_enterAck (bound : Nat) (work : AckPoint → Work Event Label)
    (off : worker.running = false)
    (within : ∀ point, ((work point).events.filter fun event =>
      !committed eventId table (eventId event)).length ≤ bound) :
    Winds bound table eventId (some (worker.enterAck batch work)) := by
  unfold EventWorker.enterAck
  split
  · exact ⟨⟨off, by simp⟩, within _⟩
  · exact ⟨⟨off, by simp⟩, within _⟩

/-- A stopped worker begins no event of its batch: the test of the flag comes before
the next one is classified. -/
theorem winds_advance (bound : Nat) (off : worker.running = false) :
    Winds bound table eventId (worker.advance fromJsonStr batch) := by
  cases batch with
  | nil => exact winds_loopHead table bound off
  | cons first rest =>
    obtain ⟨entry, payload⟩ := first
    simp only [EventWorker.advance]
    split
    · exact winds_enterAck table rest bound _ off fun _ => by simp [Work.events]
    · simp only [off, Bool.false_eq_true, if_false]
      exact ⟨trivial, Nat.zero_le bound⟩

/-- A failed attempt leaves the event in hand, or goes on, which a stopped worker
does not. -/
theorem winds_attemptFailed (bound : Nat) (entry : Nat) (event : Event) (label : Label)
    (attempt : Nat) (off : worker.running = false)
    (within : ([event].filter fun event => !committed eventId table (eventId event)).length ≤
      bound) :
    Winds bound table eventId
      (worker.attemptFailed fromJsonStr batch entry event label attempt) := by
  unfold EventWorker.attemptFailed
  split
  · exact ⟨⟨off, by simp⟩, within⟩
  · exact winds_advance table batch bound off

/-- Either outcome of a command may be followed on its own; neither sets the flag
again. -/
theorem winds_outcome (bound : Nat) (failure : Option RedisFailure)
    {returned : Option (EventWorker Payload Event Label)}
    {raised : RedisFailure → Option (EventWorker Payload Event Label)}
    (normally : Winds bound table eventId returned)
    (failing : ∀ failure, Winds bound table eventId (raised failure)) :
    Winds bound table eventId (outcome failure returned raised) := by
  cases failure with
  | none => exact normally
  | some failure => exact failing failure

/-- What may still be committed is the event in hand, unless it has its row; the
rest of the batch is not begun. -/
theorem uncommitted_handling {work : Work Event Label}
    (activity : worker.activity = .handling batch work) :
    uncommitted eventId table (some worker) =
      (work.events.filter fun event => !committed eventId table (eventId event)).length := by
  obtain ⟨running, redis, _⟩ := worker
  obtain rfl := activity
  rfl

/-- A process that has ended commits nothing. -/
theorem winds_none (bound : Nat) :
    Winds bound table eventId (none : Option (EventWorker Payload Event Label)) :=
  ⟨trivial, Nat.zero_le bound⟩

end Worker

section Answer

variable {state next : State Payload Event Label} {worker : EventWorker Payload Event Label}

/-- The rows that there are, and those still to come. -/
def rowsWithin (eventId : Event → Id) (state : State Payload Event Label) : Nat :=
  state.table.length + uncommitted eventId state.table state.worker

/-- An event whose row was just committed has no row to come, and the table is
longer by one. -/
theorem stored_within {table grown : List (AttackEventModel Event Label)} {event : Event}
    {label : Label} (inserted : commit eventId table { event, label } = some grown) :
    grown.length = table.length + 1 ∧
      ([event].filter fun event => !committed eventId table (eventId event)).length = 1 ∧
      ([event].filter fun event => !committed eventId grown (eventId event)).length = 0 := by
  have added := commit_some table grown _ inserted (eventId event)
  have fresh : committed eventId table (eventId event) = false := by
    unfold commit at inserted
    split at inserted
    · simp at inserted
    · next absent => simpa using absent
  refine ⟨by simp [commit_appends inserted], by simp [fresh], by simp [added]⟩

/-- Where the table stays, only the worker has to be followed to see what may still
be stored. -/
theorem winds_follow {stream : Stream Payload} {after : Option (EventWorker Payload Event Label)}
    (present : state.worker = some worker)
    (winds : Winds (uncommitted eventId state.table (some worker)) state.table eventId after) :
    Stopped after ∧
      rowsWithin eventId { stream, table := state.table, worker := after } ≤
        rowsWithin eventId state := by
  refine ⟨winds.stopped, ?_⟩
  simp only [rowsWithin, present]
  exact Nat.add_le_add_left winds.bounded _

/-- A commit uses up the one row that was to come, so the worker must have none left
behind it. -/
theorem winds_spent {batch : List (Nat × Payload)} {entry : Nat} {event : Event} {label : Label}
    {attempt : Nat} {table : List (AttackEventModel Event Label)}
    {after : Option (EventWorker Payload Event Label)} (present : state.worker = some worker)
    (activity : worker.activity = .handling batch (.inserting entry event label attempt))
    (inserted : commit eventId state.table { event, label } = some table)
    (winds : ([event].filter fun event => !committed eventId table (eventId event)).length ≤ 0 →
      Winds 0 table eventId after) :
    Stopped after ∧
      rowsWithin eventId { stream := state.stream, table, worker := after } ≤
        rowsWithin eventId state := by
  obtain ⟨longer, before, spent⟩ := stored_within inserted
  have wound := winds (Nat.le_of_eq spent)
  refine ⟨wound.stopped, ?_⟩
  have none_left := wound.bounded
  have one : uncommitted eventId state.table (some worker) = 1 :=
    (uncommitted_handling _ _ activity).trans before
  simp only [rowsWithin, present, one, longer]
  omega

/-- What a stopped worker reads it does not begin; a failed read ends its loop or is
followed by another turn of it. -/
theorem winds_read (bound : Nat) (table : List (AttackEventModel Event Label))
    (off : worker.running = false) (result : Except RedisFailure (List (Nat × Payload))) :
    Winds bound table eventId
      (match result with
        | .ok batch => worker.advance fromJsonStr batch
        | .error failure =>
          if failure.isNoGroup then
            if worker.redis then some { worker with activity := .regrouping } else none
          else worker.consumeFailed failure) := by
  cases result with
  | ok batch => exact winds_advance _ _ _ off
  | error failure =>
    dsimp only
    split
    · split
      · exact ⟨⟨off, by simp⟩, Nat.zero_le _⟩
      · exact winds_none _ _
    · exact winds_consumeFailed _ _ off _

/-- With a client it goes on as before, without one its process ends. -/
theorem winds_client (bound : Nat) (table : List (AttackEventModel Event Label))
    {activity : Activity Payload Event Label} (off : worker.running = false)
    (begun : activity ≠ .starting)
    (within : uncommitted eventId table (some { worker with activity }) ≤ bound) :
    Winds bound table eventId (if worker.redis then some { worker with activity } else none) := by
  split
  · exact ⟨⟨off, begun⟩, within⟩
  · exact winds_none _ _

/-- No answer gives a stopped worker a further event. What it may still commit is the
event in hand, once. -/
theorem answer_winds {reply : Reply Label} (present : state.worker = some worker)
    (stopped : Stopped state.worker)
    (answered : answer fromJsonStr eventId state worker reply = some next) :
    Stopped next.worker ∧ rowsWithin eventId next ≤ rowsWithin eventId state := by
  rw [present] at stopped
  obtain ⟨off, begun⟩ := stopped
  -- the event in hand is the one whose row may still come
  have in_hand {batch : List (Nat × Payload)} {work : Work Event Label} {events : List Event}
      (activity : worker.activity = .handling batch work) (about : work.events = events) :
      (events.filter fun event => !committed eventId state.table (eventId event)).length ≤
        uncommitted eventId state.table (some worker) :=
    about ▸ Nat.le_of_eq (uncommitted_handling _ _ activity).symm
  cases answered_of_answer answered with
  | started reply activity => exact absurd activity begun
  | connected reply activity =>
    exact winds_follow present (winds_outcome _ _ _
      (winds_client _ _ off (by simp) (Nat.zero_le _)) (winds_consumeFailed _ _ off))
  | regrouped reply activity =>
    exact winds_follow present (winds_outcome _ _ _ (winds_loopHead _ _ off)
      (winds_consumeFailed _ _ off))
  | read reply activity => exact winds_follow present (winds_read _ _ off _)
  | reconnected reply batch entry event label attempt activity =>
    have retry : Winds _ state.table eventId
        (worker.attemptFailed fromJsonStr batch entry event label attempt) :=
      winds_attemptFailed _ _ _ _ _ _ _ off (in_hand activity rfl)
    refine winds_follow present (winds_outcome _ _ _ ?_ fun _ => retry)
    split
    · exact ⟨⟨off, by simp⟩, in_hand activity rfl⟩
    · exact retry
  | acknowledged reply batch entry event label attempt activity =>
    exact winds_follow present (winds_outcome _ _ _ (winds_advance _ _ _ off) fun _ =>
      winds_attemptFailed _ _ _ _ _ _ _ off (in_hand activity rfl))
  | reconnectedRejecting reply batch entry activity =>
    exact winds_follow present (winds_outcome _ _ _
      (winds_client _ _ off (by simp) (Nat.zero_le _)) (winds_consumeFailed _ _ off))
  | rejected reply batch entry activity =>
    exact winds_follow present (winds_outcome _ _ _ (winds_advance _ _ _ off)
      (winds_consumeFailed _ _ off))
  | classified batch entry event label activity =>
    exact winds_follow present ⟨⟨off, by simp⟩, in_hand activity rfl⟩
  | stored batch entry event label attempt table activity inserted =>
    exact winds_spent present activity inserted fun none_left =>
      winds_enterAck table batch 0 _ off fun _ => none_left
  | storedUnseen batch entry event label attempt table activity inserted =>
    exact winds_spent present activity inserted fun none_left =>
      winds_attemptFailed table batch 0 entry event label attempt off none_left
  | notStored reply batch entry event label attempt activity why =>
    exact winds_follow present (winds_attemptFailed _ _ _ _ _ _ _ off (in_hand activity rfl))
  | woken activity => exact winds_follow present (winds_loopHead _ _ off)
  | retried batch entry event label attempt activity =>
    exact winds_follow present ⟨⟨off, by simp⟩, in_hand activity rfl⟩

end Answer

section Run

variable {process next : Process Payload Event Label Error}

/-- The worker is stopped, and no more rows than these will be there. -/
structure Finishing (eventId : Event → Id) (bound : Nat)
    (process : Process Payload Event Label Error) : Prop where
  stopped : Stopped process.backend.worker
  rows : rowsWithin eventId process.backend ≤ bound

/-- A worker that is gone has no rows to come. -/
theorem Finishing.exits {bound : Nat} (finishing : Finishing eventId bound process)
    (result : Except Error Unit) : Finishing eventId bound (process.exits result) :=
  ⟨trivial, Nat.le_trans (Nat.le_add_right _ _) finishing.rows⟩

/-- Neither flag of a worker's memory has a part in what it may still commit; what
counts is the event in its hand. -/
theorem Finishing.flags {bound : Nat} (finishing : Finishing eventId bound process)
    (change : EventWorker Payload Event Label → EventWorker Payload Event Label)
    (activity : ∀ worker, (change worker).activity = worker.activity)
    (off : ∀ worker, worker.running = false → (change worker).running = false) :
    Finishing eventId bound
      { process with
        backend := { process.backend with worker := process.backend.worker.map change } } := by
  obtain ⟨stopped, rows⟩ := finishing
  cases present : process.backend.worker with
  | none => exact ⟨by simp [Stopped], by simpa [rowsWithin, present, uncommitted] using rows⟩
  | some worker =>
    rw [present] at stopped
    refine ⟨⟨off worker stopped.1, by rw [activity]; exact stopped.2⟩, ?_⟩
    have same (memory : EventWorker Payload Event Label)
        (alike : memory.activity = worker.activity) :
        uncommitted eventId process.backend.table (some memory) =
          uncommitted eventId process.backend.table (some worker) := by
      obtain ⟨_, _, own⟩ := memory
      obtain ⟨_, _, other⟩ := worker
      obtain rfl : own = other := alike
      cases own <;> rfl
    simp only [rowsWithin, present] at rows
    simpa only [rowsWithin, Option.map_some, same _ (activity worker)] using rows

/-- A close of `stop` ends, and the worker has at most lost its client by it. -/
theorem Finishing.closes {bound : Nat} (finishing : Finishing eventId bound process)
    (current : Closing) (after : AfterStop Error) (outcome : Except Error Unit) :
    Finishing eventId bound (process.closes current after outcome) := by
  cases outcome with
  | error error => exact ⟨trivial, (finishing.exits (.error error)).rows⟩
  | ok value =>
    cases current with
    | eventQueue =>
      have cleared := finishing.flags (fun worker => { worker with redis := false })
        (fun _ => rfl) fun _ off => off
      exact ⟨cleared.stopped, cleared.rows⟩
    | ipContextStore => exact ⟨finishing.stopped, finishing.rows⟩
    | database =>
      cases after with
      | raise error => exact ⟨trivial, (finishing.exits (.error error)).rows⟩
      | done => exact ⟨trivial, (finishing.exits (.ok ())).rows⟩
      | cancel => exact ⟨finishing.stopped, finishing.rows⟩

/-- Until the next start no move lets a stopped worker begin an event. The cases are
the moves; an answer is settled by the activity that it ends. -/
theorem finishing_step {move : RunMove Payload Label Error} {bound : Nat}
    (kept : move.starts = false) (finishing : Finishing eventId bound process)
    (taken : (runWorker fromJsonStr eventId).step process move = some next) :
    Finishing eventId bound next := by
  cases move with
  | publish payload | loseGroup =>
    obtain rfl := Option.some.inj taken
    exact ⟨finishing.stopped, finishing.rows⟩
  | start opened => simp [RunMove.starts] at kept
  | signal =>
    cases standing : process.point <;>
      simp only [runWorker, standing, Option.some.injEq, reduceCtorEq] at taken <;>
      exact taken ▸ ⟨finishing.stopped, finishing.rows⟩
  | reply reply error =>
    simp only [runWorker, Process.replies] at taken
    split at taken
    case h_2 => simp at taken
    case h_1 worker on present =>
      obtain ⟨after, answered, rfl⟩ := Option.map_eq_some_iff.mp taken
      obtain ⟨stopped, fewer⟩ := answer_winds present finishing.stopped answered
      exact ⟨stopped, Nat.le_trans fewer finishing.rows⟩
  | failStart reply stored error =>
    obtain ⟨-, -, stream, rfl⟩ := failsStart_cases taken
    exact ⟨trivial, (finishing.exits (.error error)).rows⟩
  | wake =>
    cases standing : process.point with
    | waiting =>
      simp only [runWorker, standing] at taken
      obtain ⟨after, rfl⟩ := wakes_stops taken
      have stopped := finishing.flags (fun worker => { worker with running := false })
        (fun _ => rfl) fun _ _ => rfl
      exact ⟨stopped.stopped, stopped.rows⟩
    | _ => simp [runWorker, standing] at taken
  | closed outcome =>
    cases standing : process.point with
    | stopping current after =>
      simp only [runWorker, standing, Option.some.injEq] at taken
      exact taken ▸ finishing.closes current after outcome
    | _ => simp [runWorker, standing] at taken
  | join =>
    cases standing : process.point with
    | joining =>
      simp only [runWorker, standing, Option.some.injEq] at taken
      exact taken ▸ finishing.exits _
    | _ => simp [runWorker, standing] at taken

/-- From the call of `stop` on a worker that has come past its start, whatever is
answered or fails and however long the process takes to end, at most one row is
committed until the process is started again. -/
theorem stop_stores_at_most_one (stopping final : Process Payload Event Label Error)
    (begun : ∀ worker, process.backend.worker = some worker → worker.activity ≠ .starting)
    (called : (runWorker fromJsonStr eventId).step process .wake = some stopping)
    (later : List (RunMove Payload Label Error)) (same : ∀ move ∈ later, move.starts = false)
    (reached : (runWorker fromJsonStr eventId).run stopping later = some final) :
    final.backend.table.length ≤ process.backend.table.length + 1 := by
  have single (worker : Option (EventWorker Payload Event Label)) :
      uncommitted eventId process.backend.table worker ≤ 1 := by
    unfold uncommitted
    split
    · next work =>
      refine Nat.le_trans (List.length_filter_le _ _) ?_
      cases work <;> simp [Work.events]
    · exact Nat.zero_le 1
  have initially : Finishing eventId (process.backend.table.length + 1) stopping := by
    cases standing : process.point with
    | waiting =>
      simp only [runWorker, standing] at called
      obtain ⟨after, rfl⟩ := wakes_stops called
      refine ⟨?_, Nat.add_le_add_left (single _) _⟩
      cases present : process.backend.worker with
      | none => simp [Process.beginStop, present, Stopped]
      | some worker => simpa [Process.beginStop, present, Stopped] using begun worker present
    | _ => simp [runWorker, standing] at called
  have finishing := (runWorker fromJsonStr eventId).admitted_invariant
    (fun _ move => move.starts = false) (Finishing eventId (process.backend.table.length + 1))
    (fun process move next finishing kept taken => finishing_step kept finishing taken) stopping
    final later initially
    ((runWorker fromJsonStr eventId).admitted_of_moves (fun move => move.starts = false) stopping
      later same) reached
  exact Nat.le_trans (Nat.le_add_right _ _) finishing.rows

end Run

/-- A batch of two events is delivered and the first is classified when the signal is
received. -/
def signalled : List (RunMove Nat Unit Nat) :=
  [.publish 3, .publish 4, .reply (.redis .answered) 0, .reply (.redis .answered) 0,
    .reply (.classified ()) 0, .signal]

/-- The event in hand is stored and acknowledged while `stop` closes the queue; the worker
leaves its loop at the other. -/
def windingDown : List (RunMove Nat Unit Nat) :=
  [.reply (.database .answered) 0, .reply (.redis .answered) 0, .closed (.ok ()), .closed (.ok ()),
    .closed (.ok ()), .join]

/-- A stop in the middle of a batch of two: the event in hand is stored, and the
other one is left to the next process. -/
theorem stop_stores_at_most_one_batch :
    ∃ process stopping final : Process Nat Nat Unit Nat,
      (runWorker some id).run (.started .empty [] (.ok ())) signalled = some process ∧
      (runWorker some id).step process .wake = some stopping ∧
      (runWorker some id).run stopping windingDown = some final ∧
      final.backend.table.length = 1 ∧
      final.backend.table.length ≤ process.backend.table.length + 1 := by
  obtain ⟨process, reached, activity⟩ : ∃ process : Process Nat Nat Unit Nat,
      (runWorker some id).run (.started .empty [] (.ok ())) signalled = some process ∧
      process.backend.worker.map EventWorker.activity =
        some (.handling [(1, 4)] (.inserting 0 3 () 0)) := ⟨_, rfl, rfl⟩
  obtain ⟨stopping, final, called, ended, rows⟩ : ∃ stopping final,
      (runWorker some id).step process .wake = some stopping ∧
      (runWorker some id).run stopping windingDown = some final ∧
      final.backend.table.length = 1 := by
    obtain rfl := Option.some.inj reached
    exact ⟨_, _, rfl, rfl, rfl⟩
  refine ⟨process, stopping, final, reached, called, ended, rows,
    stop_stores_at_most_one stopping final ?_ called windingDown (by decide) ended⟩
  intro worker present starting
  rw [present, Option.map_some, Option.some.injEq, starting] at activity
  simp at activity

end Honeywatch.Tasks
