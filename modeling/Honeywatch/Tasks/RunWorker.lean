import Honeywatch.Tasks.Delivery

/-!
# The process of the worker

`run_worker` waits for a signal or for the end of the worker's task, whichever is
first, calls `stop`, and ends: with the exception of a worker that has crashed, or
after it has cancelled the worker and awaited its task. `stop` clears `_running`
at once and then closes the queue, the context store and the database one after
the other, the first two only where `start` has made them, while the worker may go
on between two of these awaits. When `run_worker` has ended, nothing of the process
is left; the container starts it again.

The first turn of the worker's task, up to its first await, comes before
`run_worker` can wake. So a start of the process tells whether `init_db` and the
event queue were made in it.
-/

namespace Honeywatch.Tasks

open Collector Redis Text Transition

variable {Payload Event Id Label Error : Type}

/-- What `stop` closes, in its order. -/
inductive Closing
  | eventQueue
  | ipContextStore
  | database
deriving DecidableEq, Repr

/-- What follows when `stop` has returned: a worker that has crashed raises again, one
that has returned is done with, and one that has not ended is cancelled. -/
inductive AfterStop (Error : Type)
  | raise (error : Error)
  | done
  | cancel
deriving DecidableEq, Repr

/-- The awaits of `run_worker`: of the first of the two tasks, of a close in `stop`, and
of the worker's task after its cancellation; or how it has ended. -/
inductive RunPoint (Error : Type)
  | waiting
  | stopping (current : Closing) (after : AfterStop Error)
  | joining
  | ended (result : Except Error Unit)

/-- Redis and PostgreSQL with the worker's memory, how the worker's task has ended if it
has, whether a signal was received, whether `_event_queue` and `_ip_context_store` are
set, and where `run_worker` stands. For use in statements, what `stop` has found to close
when it was called is recorded, and the closes with their outcomes. -/
structure Process (Payload Event Label Error : Type) where
  backend : State Payload Event Label
  result : Option (Except Error Unit)
  signalled : Bool
  eventQueue : Bool
  ipContextStore : Bool
  point : RunPoint Error
  found : List Closing
  closed : List (Closing × Except Error Unit)

/-- A publish, the loss of the group, or a start of the process, in whose first turn the
event queue is made or an exception is raised; a signal; an await of the worker that ends,
with the error it raises if it does; an error of what `start` does between the connection
of the queue and its loop, before or after the context store is made; and the awaits of
`run_worker`. -/
inductive RunMove (Payload Label Error : Type)
  | publish (payload : Payload)
  | loseGroup
  | start (opened : Except Error Unit)
  | signal
  | reply (reply : Reply Label) (error : Error)
  | failStart (reply : RedisReply) (stored : Bool) (error : Error)
  | wake
  | closed (outcome : Except Error Unit)
  | join

/-- The worker ends here by leaving its loop, not by an exception. -/
def leavesLoop (state : State Payload Event Label) (worker : EventWorker Payload Event Label)
    (reply : Reply Label) : Bool :=
  match worker.activity, reply with
  | .reading, .redis reply => (xreadgroup state.stream reply).2.isOk
  | .handling _ (.acknowledging _ _ _ _ _), _ => true
  | .handling _ (.inserting _ _ _ _), _ => true
  | .handling _ (.rejecting entry .acking), .redis reply =>
    (xack state.stream entry reply).2.isNone
  | _, _ => false

/-- The connection of the queue returns; `start` makes the context store and goes on. -/
def makesStore (worker : EventWorker Payload Event Label)
    (after : Option (EventWorker Payload Event Label)) : Bool :=
  match worker.activity with
  | .starting => after.isSome
  | _ => false

namespace Process

/-- What there is to close. `close_db` is always called. -/
def objects (process : Process Payload Event Label Error) : List Closing :=
  (if process.eventQueue then [.eventQueue] else []) ++
    (if process.ipContextStore then [.ipContextStore] else []) ++ [.database]

/-- What `stop` closes once it is past the queue. -/
def pastQueue (process : Process Payload Event Label Error) : Closing :=
  if process.ipContextStore then .ipContextStore else .database

/-- The process ends, and with it whatever still runs. -/
def exits (process : Process Payload Event Label Error) (result : Except Error Unit) :
    Process Payload Event Label Error :=
  { process with backend := { process.backend with worker := none }, point := .ended result }

/-- `stop` is called. -/
def beginStop (process : Process Payload Event Label Error) (after : AfterStop Error) :
    Process Payload Event Label Error :=
  { process with
    backend :=
      { process.backend with
        worker := process.backend.worker.map fun worker => { worker with running := false } }
    point := .stopping (if process.eventQueue then .eventQueue else process.pastQueue) after
    found := process.objects }

/-- The client of the queue is closed. -/
def clearClient (process : Process Payload Event Label Error) :
    Process Payload Event Label Error :=
  { process with
    backend :=
      { process.backend with
        worker := process.backend.worker.map fun worker => { worker with redis := false } } }

/-- A close of `stop` ends. What it raises leaves `run_worker`. Whether there is a context
store is looked at when the queue has been closed. -/
def closes (process : Process Payload Event Label Error) (current : Closing)
    (after : AfterStop Error) (outcome : Except Error Unit) : Process Payload Event Label Error :=
  let recorded := { process with closed := process.closed ++ [(current, outcome)] }
  match outcome, current, after with
  | .error error, _, _ => recorded.exits (.error error)
  | .ok _, .eventQueue, _ =>
    { recorded.clearClient with point := .stopping process.pastQueue after }
  | .ok _, .ipContextStore, _ => { recorded with point := .stopping .database after }
  | .ok _, .database, .raise error => recorded.exits (.error error)
  | .ok _, .database, .done => recorded.exits (.ok ())
  | .ok _, .database, .cancel => { recorded with point := .joining }

/-- `run_worker` on what is in Redis and PostgreSQL, after the first turn of the worker's
task. It awaits the connection of its event queue, or it has ended before it had one. -/
def started (stream : Stream Payload) (table : List (AttackEventModel Event Label))
    (opened : Except Error Unit) : Process Payload Event Label Error :=
  { backend :=
      { stream, table
        worker :=
          if opened.isOk then some { running := false, redis := true, activity := .starting }
          else none }
    result :=
      match opened with
      | .ok _ => none
      | .error error => some (.error error)
    signalled := false
    eventQueue := opened.isOk
    ipContextStore := false
    point := .waiting
    found := []
    closed := [] }

/-- The first of the two tasks has ended; the worker's is looked at first. -/
def wakes (process : Process Payload Event Label Error) :
    Option (Process Payload Event Label Error) :=
  match process.result with
  | some (.error error) => some (process.beginStop (.raise error))
  | some (.ok _) => some (process.beginStop .done)
  | none => if process.signalled then some (process.beginStop .cancel) else none

/-- Whether the worker's task still runs: it was not cancelled and the process is there. -/
def running (process : Process Payload Event Label Error) : Bool :=
  match process.point with
  | .waiting => true
  | .stopping _ _ => true
  | _ => false

variable [DecidableEq Id] (fromJsonStr : Payload → Option Event) (eventId : Event → Id)

/-- An await of the worker ends. -/
def replies (process : Process Payload Event Label Error) (reply : Reply Label) (error : Error) :
    Option (Process Payload Event Label Error) :=
  match process.running, process.backend.worker with
  | true, some worker =>
    (answer fromJsonStr eventId process.backend worker reply).map fun next =>
      { process with
        backend := next
        ipContextStore := process.ipContextStore || makesStore worker next.worker
        result :=
          if next.worker.isSome then none
          else if leavesLoop process.backend worker reply then some (.ok ())
          else some (.error error) }
  | _, _ => none

/-- The connection of the queue returns, and `start` raises before its loop: the rules do
not load, or the context store does not connect. -/
def failsStart (process : Process Payload Event Label Error) (reply : RedisReply)
    (stored : Bool) (error : Error) : Option (Process Payload Event Label Error) :=
  match process.running, process.backend.worker with
  | true, some ⟨_, _, .starting⟩ =>
    match ensureConsumerGroup process.backend.stream reply with
    | (stream, none) =>
      some { process with
        backend := { process.backend with stream, worker := none }
        ipContextStore := process.ipContextStore || stored
        result := some (.error error) }
    | (_, some _) => none
  | _, _ => none

end Process

variable [DecidableEq Id] (fromJsonStr : Payload → Option Event) (eventId : Event → Id)

/-- The process of the worker, again and again. A task that was cancelled is awaited until
it has ended; one that had ended before tells its result. -/
def runWorker : System (Process Payload Event Label Error) (RunMove Payload Label Error) where
  step process move :=
    match move, process.point with
    | .publish payload, _ =>
      some { process with
        backend := { process.backend with stream := process.backend.stream.xadd payload } }
    | .loseGroup, _ =>
      some { process with
        backend := { process.backend with stream := process.backend.stream.dropGroup } }
    | .start opened, .ended _ =>
      some (.started process.backend.stream process.backend.table opened)
    | .signal, .ended _ => none
    | .signal, _ => some { process with signalled := true }
    | .reply reply error, _ => process.replies fromJsonStr eventId reply error
    | .failStart reply stored error, _ => process.failsStart reply stored error
    | .wake, .waiting => process.wakes
    | .closed outcome, .stopping current after => some (process.closes current after outcome)
    | .join, .joining => some (process.exits (process.result.getD (.ok ())))
    | _, _ => none

section Worker

variable {fromJsonStr eventId} {state next : State Payload Event Label}
  {worker : EventWorker Payload Event Label}

/-- A worker whose loop goes on while it is running. -/
def Running : Option (EventWorker Payload Event Label) → Prop
  | none => False
  | some worker => worker.running = true

/-- The flag of a running worker is cleared by a stop alone. This and the next
lemmas say so for every way in which it goes on. -/
theorem running_loopHead (on : worker.running = true) : Running (some worker.loopHead) := by
  unfold EventWorker.loopHead
  split <;> exact on

/-- On the way to an acknowledgement the flag stays set, -/
theorem running_enterAck (batch : List (Nat × Payload)) (work : AckPoint → Work Event Label)
    (on : worker.running = true) : Running (some (worker.enterAck batch work)) := by
  unfold EventWorker.enterAck
  split <;> exact on

omit [DecidableEq Id] in
/-- at the next entry of the batch it does, -/
theorem running_advance (batch : List (Nat × Payload)) (on : worker.running = true) :
    Running (worker.advance fromJsonStr batch) := by
  cases batch with
  | nil => exact running_loopHead on
  | cons first rest =>
    obtain ⟨entry, payload⟩ := first
    simp only [EventWorker.advance]
    split
    · exact running_enterAck rest _ on
    · simp only [on, if_true]
      exact rfl

omit [DecidableEq Id] in
/-- and after a failed attempt. -/
theorem running_attemptFailed (batch : List (Nat × Payload)) (entry : Nat) (event : Event)
    (label : Label) (attempt : Nat) (on : worker.running = true) :
    Running (worker.attemptFailed fromJsonStr batch entry event label attempt) := by
  unfold EventWorker.attemptFailed
  split
  · exact on
  · exact running_advance batch on

/-- A running worker goes on running, or an exception ends it. -/
def RunsOrRaises (state : State Payload Event Label) (worker : EventWorker Payload Event Label)
    (reply : Reply Label) (after : Option (EventWorker Payload Event Label)) : Prop :=
  Running after ∨ after = none ∧ leavesLoop state worker reply = false

/-- A failure of the loop is a lost connection, after which the worker goes on, or
it leaves the loop, which a running worker reports as a crash. -/
theorem runsOrRaises_consumeFailed (reply : Reply Label) (failure : RedisFailure)
    (on : worker.running = true) (raises : leavesLoop state worker reply = false) :
    RunsOrRaises state worker reply (worker.consumeFailed failure) := by
  unfold EventWorker.consumeFailed
  split
  · exact .inl on
  · exact .inr ⟨rfl, raises⟩

/-- Either outcome of a command leaves the worker running or leaves the loop with an
error. -/
theorem runsOrRaises_outcome (reply : Reply Label) {failure : Option RedisFailure}
    {returned : Option (EventWorker Payload Event Label)}
    {raised : RedisFailure → Option (EventWorker Payload Event Label)}
    (normally : failure = none → RunsOrRaises state worker reply returned)
    (failing : ∀ other, failure = some other → RunsOrRaises state worker reply (raised other)) :
    RunsOrRaises state worker reply (outcome failure returned raised) := by
  cases failure with
  | none => exact normally rfl
  | some failure => exact failing failure rfl

/-- Only a stopped worker leaves its loop; a worker that starts runs, or raises. The
cases are its activities, and in each an answer leads on or raises. -/
theorem answer_runs {reply : Reply Label}
    (on : worker.running = true ∨ worker.activity = .starting)
    (answered : answer fromJsonStr eventId state worker reply = some next) :
    RunsOrRaises state worker reply next.worker := by
  have started (activity : worker.activity ≠ .starting) : worker.running = true :=
    on.resolve_right activity
  cases answered_of_answer answered with
  | started reply activity =>
    refine runsOrRaises_outcome _ (fun _ => .inl (running_loopHead rfl)) fun _ _ => .inr ⟨rfl, ?_⟩
    simp [leavesLoop, activity]
  | connected reply activity =>
    have on := started (by simp [activity])
    have raises : leavesLoop state worker (.redis reply) = false := by simp [leavesLoop, activity]
    refine runsOrRaises_outcome _ (fun _ => ?_) fun failure _ =>
      runsOrRaises_consumeFailed _ failure on raises
    split
    · exact .inl on
    · exact .inr ⟨rfl, raises⟩
  | regrouped reply activity =>
    have on := started (by simp [activity])
    refine runsOrRaises_outcome _ (fun _ => .inl (running_loopHead on)) fun failure _ =>
      runsOrRaises_consumeFailed _ failure on (by simp [leavesLoop, activity])
  | read reply activity =>
    have on := started (by simp [activity])
    dsimp only
    split
    · next batch result => exact .inl (running_advance batch on)
    · next failure result =>
      have raises : leavesLoop state worker (.redis reply) = false := by
        simp [leavesLoop, activity, result, Except.isOk, Except.toBool]
      split
      · split
        · exact .inl on
        · exact .inr ⟨rfl, raises⟩
      · exact runsOrRaises_consumeFailed _ failure on raises
  | reconnected reply batch entry event label attempt activity =>
    have on := started (by simp [activity])
    have retry : Running (worker.attemptFailed fromJsonStr batch entry event label attempt) :=
      running_attemptFailed batch entry event label attempt on
    refine runsOrRaises_outcome _ (fun _ => .inl ?_) fun _ _ => .inl retry
    split
    · exact on
    · exact retry
  | acknowledged reply batch entry event label attempt activity =>
    have on := started (by simp [activity])
    exact runsOrRaises_outcome _ (fun _ => .inl (running_advance batch on)) fun _ _ =>
      .inl (running_attemptFailed batch entry event label attempt on)
  | reconnectedRejecting reply batch entry activity =>
    have on := started (by simp [activity])
    have raises : leavesLoop state worker (.redis reply) = false := by simp [leavesLoop, activity]
    refine runsOrRaises_outcome _ (fun _ => ?_) fun failure _ =>
      runsOrRaises_consumeFailed _ failure on raises
    split
    · exact .inl on
    · exact .inr ⟨rfl, raises⟩
  | rejected reply batch entry activity =>
    have on := started (by simp [activity])
    refine runsOrRaises_outcome _ (fun _ => .inl (running_advance batch on)) fun failure failed =>
      runsOrRaises_consumeFailed _ failure on ?_
    simp [leavesLoop, activity, failed]
  | classified batch entry event label activity => exact .inl (started (by simp [activity]))
  | stored batch entry event label attempt table activity inserted =>
    exact .inl (running_enterAck batch _ (started (by simp [activity])))
  | storedUnseen batch entry event label attempt table activity inserted =>
    have running := started (by simp [activity])
    exact .inl (running_attemptFailed batch entry event label attempt running)
  | notStored reply batch entry event label attempt activity why =>
    have running := started (by simp [activity])
    exact .inl (running_attemptFailed batch entry event label attempt running)
  | woken activity => exact .inl (running_loopHead (started (by simp [activity])))
  | retried batch entry event label attempt activity => exact .inl (started (by simp [activity]))

end Worker

/-- The close of the queue, where there is one, has returned. -/
def Process.queueClosed (process : Process Payload Event Label Error) :
    List (Closing × Except Error Unit) :=
  if process.eventQueue then [(.eventQueue, .ok ())] else []

/-- What `stop` has closed before this close. The context store has been closed if there
was one when `stop` was called; one that came up later may have been missed. -/
def Process.Passed (process : Process Payload Event Label Error) : Closing → Prop
  | .eventQueue => process.closed = [] ∧ process.eventQueue = true
  | .ipContextStore => process.closed = process.queueClosed ∧ process.ipContextStore = true
  | .database =>
    process.closed = process.queueClosed ∧ .ipContextStore ∉ process.found ∨
      process.closed = process.queueClosed ++ [(.ipContextStore, .ok ())] ∧
        process.ipContextStore = true

/-- `stop` has come to this close, and whatever it has found is there. -/
def Process.Underway (process : Process Payload Event Label Error) (current : Closing) : Prop :=
  process.found ⊆ process.objects ∧ process.Passed current

/-- `stop` has returned. Whatever there was when it was called has been closed, each close
has returned, in the order of `stop` and the database at last, and nothing was closed that
there is not. -/
structure Process.Closed (process : Process Payload Event Label Error) : Prop where
  found : ∀ closing ∈ process.found, (closing, .ok ()) ∈ process.closed
  order : (process.closed.map Prod.fst).Sublist process.objects
  returned : ∀ close ∈ process.closed, close.2 = .ok ()
  last : process.closed.getLast? = some (.database, .ok ())

/-- While `run_worker` waits, the worker runs or an exception has ended it. -/
def Unstopped (process : Process Payload Event Label Error) : Prop :=
  match process.backend.worker with
  | some worker =>
    process.result = none ∧ (worker.running = true ∨ worker.activity = .starting)
  | none => ∃ error, process.result = some (.error error)

/-- What `stop` was called for. -/
def Reason (process : Process Payload Event Label Error) : AfterStop Error → Prop
  | .raise error => process.result = some (.error error) ∧ process.backend.worker = none
  | .done => False
  | .cancel => process.signalled = true

/-- Where `run_worker` stands is what has happened. What `stop` has found is there, a
worker's exception is raised unless a close raised one, and a return stands for a signal,
the closes of `stop`, and no exception. -/
def Supervised (process : Process Payload Event Label Error) : Prop :=
  match process.point with
  | .waiting => process.closed = [] ∧ Unstopped process
  | .stopping current after => process.Underway current ∧ Reason process after
  | .joining => process.Closed ∧ process.signalled = true
  | .ended (.ok _) =>
    process.Closed ∧ process.signalled = true ∧ ∀ error, process.result ≠ some (.error error)
  | .ended (.error error) =>
    (process.Closed ∧ process.result = some (.error error)) ∨
      ∃ closing, (closing, .error error) ∈ process.closed

section Supervision

variable {fromJsonStr eventId} {process next : Process Payload Event Label Error}

/-- A process that has just been started waits. Its worker is about to connect, or what
the first turn has raised has ended it. -/
theorem started_supervised (stream : Stream Payload)
    (table : List (AttackEventModel Event Label)) (opened : Except Error Unit) :
    Supervised (.started stream table opened) := by
  cases opened with
  | ok value => exact ⟨rfl, rfl, .inr rfl⟩
  | error error => exact ⟨rfl, error, rfl⟩

/-- Only the context store can come up while `stop` is closing. What it has found is still
there then, and what it has passed stays as it is. -/
theorem Process.Underway.grows {current : Closing} (underway : process.Underway current)
    (queue : next.eventQueue = process.eventQueue) (found : next.found = process.found)
    (closed : next.closed = process.closed)
    (store : process.ipContextStore = true → next.ipContextStore = true) :
    next.Underway current := by
  obtain ⟨there, passed⟩ := underway
  have same : next.queueClosed = process.queueClosed := by
    rw [Process.queueClosed, Process.queueClosed, queue]
  constructor
  · intro closing member
    have looked := there (found ▸ member)
    simp only [Process.objects, queue, List.mem_append] at looked ⊢
    refine looked.imp_left fun early => early.imp_right fun second => ?_
    cases stands : process.ipContextStore with
    | false => simp [stands] at second
    | true => simpa [stands, store stands] using second
  · cases current with
    | eventQueue => exact ⟨closed.trans passed.1, queue.trans passed.2⟩
    | ipContextStore => exact ⟨(closed.trans passed.1).trans same.symm, store passed.2⟩
    | database =>
      rcases passed with ⟨before, absent⟩ | ⟨before, stands⟩
      · exact .inl ⟨(closed.trans before).trans same.symm, found ▸ absent⟩
      · exact .inr ⟨by rw [closed, before, same], store stands⟩

/-- The worker's await ends. If its task has ended by that, the result is noted, and
`asyncio.wait` has a reason to return. -/
theorem supervised_replies {reply : Reply Label} {error : Error} (supervised : Supervised process)
    (taken : process.replies fromJsonStr eventId reply error = some next) : Supervised next := by
  obtain ⟨backend, result, signalled, queue, store, point, found, closed⟩ := process
  simp only [Process.replies, Process.running] at taken
  cases point with
  | joining | ended _ => simp at taken
  | waiting =>
    obtain ⟨nothing, unstopped⟩ := supervised
    cases present : backend.worker with
    | none => simp [present] at taken
    | some worker =>
      simp only [present] at taken
      obtain ⟨after, answered, rfl⟩ := Option.map_eq_some_iff.mp taken
      simp only [Unstopped, present] at unstopped
      refine ⟨nothing, ?_⟩
      rcases answer_runs unstopped.2 answered with runs | ⟨gone, raises⟩
      · cases later : after.worker with
        | none => simp [later, Running] at runs
        | some worker =>
          rw [later] at runs
          simp [Unstopped, later, show worker.running = true from runs]
      · simp [Unstopped, gone, raises]
  | stopping current after =>
    obtain ⟨underway, reason⟩ := supervised
    cases present : backend.worker with
    | none => simp [present] at taken
    | some worker =>
      simp only [present] at taken
      obtain ⟨later, answered, rfl⟩ := Option.map_eq_some_iff.mp taken
      refine ⟨underway.grows rfl rfl rfl fun stands => ?_, ?_⟩
      · exact Bool.or_eq_true_iff.mpr (.inl stands)
      cases after with
      | raise error => simp [Reason, present] at reason
      | done => exact absurd reason id
      | cancel => exact reason

/-- What `start` does before its loop raises, once the queue is connected. Whether
the context store has been made by then decides what `stop` will find. -/
theorem failsStart_cases {reply : RedisReply} {stored : Bool} {error : Error}
    (taken : process.failsStart reply stored error = some next) :
    process.running = true ∧ (∃ worker, process.backend.worker = some worker) ∧
      ∃ stream, next = { process with
        backend := { process.backend with stream, worker := none }
        ipContextStore := process.ipContextStore || stored
        result := some (.error error) } := by
  unfold Process.failsStart at taken
  split at taken
  case h_2 => simp at taken
  case h_1 running redis on present =>
    split at taken
    · exact ⟨on, ⟨_, present⟩, _, (Option.some.inj taken).symm⟩
    · simp at taken

/-- A start that fails ends the task of the worker with the error, wherever the main
task stands: it may still wait, or it may be in a stop that was called because of a
signal. -/
theorem supervised_failsStart {reply : RedisReply} {stored : Bool} {error : Error}
    (supervised : Supervised process)
    (taken : process.failsStart reply stored error = some next) : Supervised next := by
  obtain ⟨on, ⟨worker, present⟩, stream, rfl⟩ := failsStart_cases taken
  obtain ⟨backend, result, signalled, queue, store, point, found, closed⟩ := process
  cases point with
  | joining | ended _ => simp [Process.running] at on
  | waiting => exact ⟨supervised.1, error, rfl⟩
  | stopping current after =>
    obtain ⟨underway, reason⟩ := supervised
    refine ⟨underway.grows rfl rfl rfl fun stands => ?_, ?_⟩
    · exact Bool.or_eq_true_iff.mpr (.inl stands)
    cases after with
    | raise other =>
      have gone : backend.worker = none := reason.2
      simp [gone] at present
    | done => exact absurd reason id
    | cancel => exact reason

/-- `stop` has passed nothing when it is called, and finds what there is; the
database is always there to be closed. -/
theorem beginStop_underway (after : AfterStop Error) (nothing : process.closed = []) :
    (process.beginStop after).Underway
      (if process.eventQueue then .eventQueue else process.pastQueue) := by
  refine ⟨List.Subset.refl _, ?_⟩
  cases queue : process.eventQueue with
  | true => exact ⟨nothing, queue⟩
  | false =>
    have unqueued : (process.beginStop after).queueClosed = [] := by
      simp [Process.queueClosed, Process.beginStop, queue]
    cases store : process.ipContextStore with
    | true =>
      simp only [Process.pastQueue, store]
      exact ⟨nothing.trans unqueued.symm, store⟩
    | false =>
      simp only [Process.pastQueue, store]
      exact .inl ⟨nothing.trans unqueued.symm, by
        simp [Process.beginStop, Process.objects, queue, store]⟩

/-- `asyncio.wait` returns because of the signal or because the task has ended, and
`stop` is called in both cases. -/
theorem supervised_wakes (waiting : process.point = .waiting) (supervised : Supervised process)
    (taken : process.wakes = some next) : Supervised next := by
  simp only [Supervised, waiting] at supervised
  obtain ⟨nothing, unstopped⟩ := supervised
  unfold Process.wakes at taken
  cases result : process.result with
  | none =>
    simp only [result, Option.ite_none_right_eq_some, Option.some.injEq] at taken
    obtain ⟨signalled, rfl⟩ := taken
    exact ⟨beginStop_underway .cancel nothing, signalled⟩
  | some outcome =>
    have gone : process.backend.worker = none ∧ ∃ error, outcome = .error error := by
      unfold Unstopped at unstopped
      split at unstopped
      · simp [result] at unstopped
      · next absent =>
        obtain ⟨error, same⟩ := unstopped
        exact ⟨absent, error, Option.some.inj (result.symm.trans same)⟩
    obtain ⟨absent, error, rfl⟩ := gone
    simp only [result, Option.some.injEq] at taken
    subst taken
    refine ⟨beginStop_underway (.raise error) nothing, result, ?_⟩
    simp [Process.beginStop, absent]

/-- The close of the queue has returned, and `stop` looks for a context store. What was
there when it was called is still there. -/
theorem underway_queue (underway : process.Underway .eventQueue) {value : Unit}
    (queue : next.eventQueue = process.eventQueue)
    (store : next.ipContextStore = process.ipContextStore) (found : next.found = process.found)
    (closed : next.closed = process.closed ++ [(.eventQueue, .ok value)]) :
    next.Underway process.pastQueue := by
  obtain ⟨there, nothing, queued⟩ := underway
  refine ⟨by rwa [found, Process.objects, queue, store], ?_⟩
  have first : next.closed = next.queueClosed := by
    simp [closed, nothing, Process.queueClosed, queue, queued]
  cases stands : process.ipContextStore with
  | true =>
    simp only [Process.pastQueue, stands]
    exact ⟨first, store.trans stands⟩
  | false =>
    simp only [Process.pastQueue, stands]
    refine .inl ⟨first, fun member => ?_⟩
    have looked := there (found ▸ member)
    simp [Process.objects, stands, queued] at looked

/-- The close of the database has returned, and with it `stop`. It was the last one,
so all that was found has been closed. -/
theorem closed_of_underway (underway : process.Underway .database) {value : Unit}
    (queue : next.eventQueue = process.eventQueue)
    (store : next.ipContextStore = process.ipContextStore) (found : next.found = process.found)
    (closed : next.closed = process.closed ++ [(.database, .ok value)]) : next.Closed := by
  have stored : next.objects = process.objects := by
    rw [Process.objects, Process.objects, queue, store]
  obtain ⟨there, passed⟩ := underway
  rcases passed with ⟨before, absent⟩ | ⟨before, stands⟩
  · refine ⟨fun closing member => ?_, ?_, ?_, by simp [closed]⟩
    · have looked := there (found ▸ member)
      rw [found] at member
      rw [closed, before]
      cases closing with
      | ipContextStore => exact absurd member absent
      | eventQueue | database =>
        cases queued : process.eventQueue <;>
          simp_all [Process.objects, Process.queueClosed]
    · rw [stored, closed, before]
      cases queued : process.eventQueue <;> cases process.ipContextStore <;>
        simp [Process.objects, Process.queueClosed, queued]
    · rw [closed, before]
      cases queued : process.eventQueue <;> simp [Process.queueClosed, queued]
  · refine ⟨fun closing member => ?_, ?_, ?_, by simp [closed]⟩
    · have looked := there (found ▸ member)
      rw [closed, before]
      cases queued : process.eventQueue <;> cases closing <;>
        simp_all [Process.objects, Process.queueClosed]
    · rw [stored, closed, before]
      cases queued : process.eventQueue <;>
        simp [Process.objects, Process.queueClosed, queued, stands]
    · rw [closed, before]
      cases queued : process.eventQueue <;> simp [Process.queueClosed, queued]

/-- A close of `stop` ends. If it raises, its exception leaves `run_worker`;
otherwise the next object that is there comes, or the end. -/
theorem supervised_closes {current : Closing} {after : AfterStop Error}
    (stopping : process.point = .stopping current after) (supervised : Supervised process)
    (outcome : Except Error Unit) : Supervised (process.closes current after outcome) := by
  simp only [Supervised, stopping] at supervised
  obtain ⟨underway, reason⟩ := supervised
  cases outcome with
  | error error => exact .inr ⟨current, List.mem_append_right _ List.mem_cons_self⟩
  | ok value =>
    cases current with
    | eventQueue =>
      refine ⟨underway_queue underway rfl rfl rfl rfl, ?_⟩
      cases after with
      | raise error => exact ⟨reason.1, congrArg (Option.map _) reason.2⟩
      | done => exact absurd reason id
      | cancel => exact reason
    | ipContextStore =>
      obtain ⟨there, before, stands⟩ := underway
      have second : process.closed ++ [(.ipContextStore, .ok value)] =
          process.queueClosed ++ [(.ipContextStore, .ok ())] := by rw [before]
      cases after <;> exact ⟨⟨there, .inr ⟨second, stands⟩⟩, reason⟩
    | database =>
      cases after with
      | raise error =>
        exact .inl ⟨closed_of_underway underway rfl rfl rfl rfl, reason.1⟩
      | done => exact absurd reason id
      | cancel => exact ⟨closed_of_underway underway rfl rfl rfl rfl, reason⟩

/-- What `stop` has closed does not change once it has returned, until the process
is started again. -/
theorem Process.Closed.same (closed : process.Closed)
    (queue : next.eventQueue = process.eventQueue)
    (store : next.ipContextStore = process.ipContextStore) (found : next.found = process.found)
    (closes : next.closed = process.closed) : next.Closed where
  found := by
    rw [found, closes]
    exact closed.found
  order := by
    rw [closes, Process.objects, queue, store]
    exact closed.order
  returned := by
    rw [closes]
    exact closed.returned
  last := closes ▸ closed.last

/-- What the honeypots do to the stream is nothing to `run_worker`, whatever point
it has come to. -/
theorem supervised_stream (stream : Stream Payload) (supervised : Supervised process) :
    Supervised { process with backend := { process.backend with stream } } := by
  obtain ⟨backend, result, signalled, queue, store, point, found, closed⟩ := process
  cases point with
  | waiting => exact supervised
  | joining => exact ⟨supervised.1.same rfl rfl rfl rfl, supervised.2⟩
  | stopping current after =>
    refine ⟨supervised.1.grows rfl rfl rfl id, ?_⟩
    cases after <;> exact supervised.2
  | ended outcome =>
    cases outcome with
    | ok value => exact ⟨supervised.1.same rfl rfl rfl rfl, supervised.2⟩
    | error error =>
      exact supervised.imp_left fun ends => ⟨ends.1.same rfl rfl rfl rfl, ends.2⟩

/-- A signal is received. It is a reason to stop, and takes no other away. -/
theorem supervised_signal (going : ∀ outcome, process.point ≠ .ended outcome)
    (supervised : Supervised process) : Supervised { process with signalled := true } := by
  obtain ⟨backend, result, signalled, queue, store, point, found, closed⟩ := process
  cases point with
  | waiting => exact supervised
  | joining => exact ⟨supervised.1.same rfl rfl rfl rfl, rfl⟩
  | stopping current after =>
    refine ⟨supervised.1.grows rfl rfl rfl id, ?_⟩
    cases after with
    | cancel => rfl
    | raise _ | done => exact supervised.2
  | ended outcome => exact absurd rfl (going outcome)

/-- Every move leaves `run_worker` where it should stand. The cases are the moves,
each with its lemma above. -/
theorem supervised_step {move : RunMove Payload Label Error} (supervised : Supervised process)
    (taken : (runWorker fromJsonStr eventId).step process move = some next) :
    Supervised next := by
  cases move with
  | publish payload | loseGroup =>
    obtain rfl := Option.some.inj taken
    exact supervised_stream _ supervised
  | start opened =>
    cases standing : process.point with
    | ended outcome =>
      simp only [runWorker, standing, Option.some.injEq] at taken
      exact taken ▸ started_supervised _ _ opened
    | _ => simp [runWorker, standing] at taken
  | signal =>
    cases standing : process.point with
    | ended outcome => simp [runWorker, standing] at taken
    | _ =>
      have signalled := supervised_signal (by simp [standing]) supervised
      simp only [runWorker, standing, Option.some.injEq] at taken
      rwa [standing, taken] at signalled
  | reply reply error => exact supervised_replies supervised taken
  | failStart reply stored error => exact supervised_failsStart supervised taken
  | wake =>
    cases standing : process.point with
    | waiting =>
      simp only [runWorker, standing] at taken
      exact supervised_wakes standing supervised taken
    | _ => simp [runWorker, standing] at taken
  | closed outcome =>
    cases standing : process.point with
    | stopping current after =>
      simp only [runWorker, standing, Option.some.injEq] at taken
      exact taken ▸ supervised_closes standing supervised outcome
    | _ => simp [runWorker, standing] at taken
  | join =>
    cases standing : process.point with
    | joining =>
      simp only [runWorker, standing, Option.some.injEq] at taken
      subst taken
      simp only [Supervised, standing] at supervised
      obtain ⟨all, signalled⟩ := supervised
      cases result : process.result with
      | none => exact ⟨all.same rfl rfl rfl rfl, signalled, by simp [Process.exits, result]⟩
      | some outcome =>
        cases outcome with
        | ok value =>
          exact ⟨all.same rfl rfl rfl rfl, signalled, by simp [Process.exits, result]⟩
        | error error => exact .inl ⟨all.same rfl rfl rfl rfl, result⟩
    | _ => simp [runWorker, standing] at taken

/-- In every run of the process, with signals, failures and restarts anywhere, a start in
which `init_db` fails, the rules do not load or a signal comes before the context store
exists among them: when `run_worker` has returned, a signal was received, the worker has
raised nothing, and `stop` has closed all it has found; when it has raised, `stop` has
closed all it has found and the exception is that of the worker, or it is that of a close. -/
theorem run_worker_ends_for_a_reason (stream : Stream Payload)
    (table : List (AttackEventModel Event Label)) (opened : Except Error Unit)
    (schedule : List (RunMove Payload Label Error)) (final : Process Payload Event Label Error)
    (reached :
      (runWorker fromJsonStr eventId).run (.started stream table opened) schedule = some final)
    (outcome : Except Error Unit) (ended : final.point = .ended outcome) :
    match outcome with
    | .ok _ => final.Closed ∧ final.signalled = true ∧
      ∀ error, final.result ≠ some (.error error)
    | .error error => (final.Closed ∧ final.result = some (.error error)) ∨
      ∃ closing, (closing, .error error) ∈ final.closed := by
  have supervised := (runWorker fromJsonStr eventId).run_invariant Supervised
    (fun process move next kept taken => supervised_step kept taken) _ final schedule
    (started_supervised stream table opened) reached
  simp only [Supervised, ended] at supervised
  cases outcome <;> exact supervised

/-- The worker starts, and a read fails otherwise than by a lost connection. -/
def crash : List (RunMove Nat Unit Nat) :=
  [.reply (.redis .answered) 0,
    .reply (.redis (.failed (.responseError (literal "WRONGTYPE")) false)) 7, .wake]

/-- The three closes of `stop` return. -/
def closesAll : List (RunMove Nat Unit Nat) :=
  [.closed (.ok ()), .closed (.ok ()), .closed (.ok ())]

/-- Started again, the process finds no event queue to close when `init_db` fails; the
exception is raised again once the database is closed. -/
def unopened : List (RunMove Nat Unit Nat) :=
  [.start (.error 9), .wake, .closed (.ok ())]

/-- The exception of a worker that has crashed is raised again, with all three closes made;
after the next start, with that of the database alone. -/
theorem run_worker_ends_for_a_reason_crash :
    ∃ crashed final : Process Nat Nat Unit Nat,
      (runWorker some id).run (.started .empty [] (.ok ())) (crash ++ closesAll) = some crashed ∧
      crashed.point = .ended (.error 7) ∧
      crashed.closed = [(.eventQueue, .ok ()), (.ipContextStore, .ok ()), (.database, .ok ())] ∧
      ((crashed.Closed ∧ crashed.result = some (.error 7)) ∨
        ∃ closing, (closing, .error 7) ∈ crashed.closed) ∧
      (runWorker some id).run crashed unopened = some final ∧
      final.point = .ended (.error 9) ∧ final.closed = [(.database, .ok ())] ∧
      ((final.Closed ∧ final.result = some (.error 9)) ∨
        ∃ closing, (closing, .error 9) ∈ final.closed) := by
  obtain ⟨crashed, final, reached, ended, closed, again, endedAgain, closedAgain⟩ :
      ∃ crashed final : Process Nat Nat Unit Nat,
        (runWorker some id).run (.started .empty [] (.ok ())) (crash ++ closesAll) =
          some crashed ∧
        crashed.point = .ended (.error 7) ∧
        crashed.closed = [(.eventQueue, .ok ()), (.ipContextStore, .ok ()), (.database, .ok ())] ∧
        (runWorker some id).run crashed unopened = some final ∧
        final.point = .ended (.error 9) ∧ final.closed = [(.database, .ok ())] :=
    ⟨_, _, rfl, rfl, rfl, rfl, rfl, rfl⟩
  refine ⟨crashed, final, reached, ended, closed, ?_, again, endedAgain, closedAgain, ?_⟩
  · exact run_worker_ends_for_a_reason .empty [] (.ok ()) (crash ++ closesAll) crashed reached
      (.error 7) ended
  · have both := (runWorker some id).run_append _ crashed (crash ++ closesAll) unopened reached
    exact run_worker_ends_for_a_reason .empty [] (.ok ()) (crash ++ closesAll ++ unopened) final
      (both.trans again) (.error 9) endedAgain

/-- How many of its awaits `run_worker` has before it at most. -/
def RunPoint.rank : RunPoint Error → Nat
  | .waiting => 5
  | .stopping .eventQueue _ => 4
  | .stopping .ipContextStore _ => 3
  | .stopping .database _ => 2
  | .joining => 1
  | .ended _ => 0

/-- The move ends an await of `run_worker`. -/
def RunMove.own : RunMove Payload Label Error → Bool
  | .wake => true
  | .closed _ => true
  | .join => true
  | _ => false

/-- The process is started. -/
def RunMove.starts : RunMove Payload Label Error → Bool
  | .start _ => true
  | _ => false

/-- A signal was received, or the worker's task has ended. -/
def Due (process : Process Payload Event Label Error) : Prop :=
  process.signalled = true ∨ process.result.isSome = true

/-- When `run_worker` wakes it calls `stop`, whatever it does afterwards: return,
raise or cancel its task. -/
theorem wakes_stops (taken : process.wakes = some next) :
    ∃ after, next = process.beginStop after := by
  unfold Process.wakes at taken
  split at taken
  · exact ⟨_, (Option.some.inj taken).symm⟩
  · exact ⟨_, (Option.some.inj taken).symm⟩
  · obtain ⟨-, stops⟩ := Option.ite_none_right_eq_some.mp taken
    exact ⟨_, (Option.some.inj stops).symm⟩

/-- The close of the queue is over, whether there is a context store to close or not. -/
theorem pastQueue_rank (after : AfterStop Error) :
    (RunPoint.stopping process.pastQueue after).rank ≤ 3 := by
  unfold Process.pastQueue
  split
  · exact Nat.le_refl 3
  · exact Nat.le_succ 2

/-- Every await of `run_worker` that ends brings it closer to its end, and nothing else
takes it back but a new start. -/
theorem step_rank {move : RunMove Payload Label Error} (kept : move.starts = false)
    (taken : (runWorker fromJsonStr eventId).step process move = some next) :
    (if move.own then 1 else 0) + next.point.rank ≤ process.point.rank := by
  cases move with
  | publish payload | loseGroup =>
    obtain rfl := Option.some.inj taken
    simp [RunMove.own]
  | start opened => simp [RunMove.starts] at kept
  | signal =>
    cases standing : process.point <;>
      simp only [runWorker, standing, Option.some.injEq, reduceCtorEq] at taken <;>
      simp [← taken, RunMove.own]
  | reply reply error =>
    simp only [runWorker, Process.replies] at taken
    split at taken
    · obtain ⟨after, _, rfl⟩ := Option.map_eq_some_iff.mp taken
      simp [RunMove.own]
    · simp at taken
  | failStart reply stored error =>
    obtain ⟨-, -, stream, rfl⟩ := failsStart_cases taken
    simp [RunMove.own]
  | wake =>
    cases standing : process.point with
    | waiting =>
      simp only [runWorker, standing] at taken
      obtain ⟨after, rfl⟩ := wakes_stops taken
      simp only [Process.beginStop, RunMove.own, if_true]
      split
      · exact Nat.le_refl 5
      · exact Nat.add_le_add_left (Nat.le_succ_of_le (pastQueue_rank after)) 1
    | _ => simp [runWorker, standing] at taken
  | closed outcome =>
    cases standing : process.point with
    | stopping current after =>
      simp only [runWorker, standing, Option.some.injEq] at taken
      subst taken
      cases outcome with
      | error error =>
        cases current <;> simp [Process.closes, Process.exits, RunMove.own, RunPoint.rank]
      | ok value =>
        cases current with
        | eventQueue => exact Nat.add_le_add_left (pastQueue_rank after) 1
        | ipContextStore | database =>
          cases after <;> simp [Process.closes, Process.exits, RunMove.own, RunPoint.rank]
    | _ => simp [runWorker, standing] at taken
  | join =>
    cases standing : process.point with
    | joining =>
      simp only [runWorker, standing, Option.some.injEq] at taken
      subst taken
      simp [Process.exits, RunMove.own, RunPoint.rank]
    | _ => simp [runWorker, standing] at taken

/-- An await of the worker ends, and what was due is due still. A task that has ended has
no further await, so with a worker at hand it is the signal that was due. -/
theorem due_replies {reply : Reply Label} {error : Error} (supervised : Supervised process)
    (due : Due process ∨ ∃ outcome, process.point = .ended outcome)
    (taken : process.replies fromJsonStr eventId reply error = some next) : Due next := by
  unfold Process.replies at taken
  split at taken
  case h_2 => simp at taken
  case h_1 worker on present =>
    obtain ⟨after, _, rfl⟩ := Option.map_eq_some_iff.mp taken
    rcases due with (signalled | ended) | ⟨outcome, standing⟩
    · exact .inl signalled
    · unfold Supervised at supervised
      split at supervised
      · simp only [Unstopped, present] at supervised
        simp [supervised.2.1] at ended
      · next after' standing =>
        cases after' with
        | raise error => simp [Reason, present] at supervised
        | done => exact absurd supervised.2 id
        | cancel => exact .inl supervised.2
      · exact .inl supervised.2
      · next standing => simp [Process.running, standing] at on
      · next standing => simp [Process.running, standing] at on
    · simp [Process.running, standing] at on

/-- A close of `stop` changes neither of the two reasons: not the signal, -/
@[simp] theorem closes_signalled (current : Closing) (after : AfterStop Error)
    (outcome : Except Error Unit) :
    (process.closes current after outcome).signalled = process.signalled := by
  cases outcome with
  | error error => rfl
  | ok value => cases current <;> cases after <;> rfl

/-- and not the result of the worker's task. -/
@[simp] theorem closes_result (current : Closing) (after : AfterStop Error)
    (outcome : Except Error Unit) :
    (process.closes current after outcome).result = process.result := by
  cases outcome with
  | error error => rfl
  | ok value => cases current <;> cases after <;> rfl

/-- What is due stays due until the next start: the end of an await leads to the
next one, and a move of another part does not take it away. -/
theorem due_step {move : RunMove Payload Label Error} (kept : move.starts = false)
    (supervised : Supervised process)
    (due : Due process ∨ ∃ outcome, process.point = .ended outcome)
    (taken : (runWorker fromJsonStr eventId).step process move = some next) :
    Due next ∨ ∃ outcome, next.point = .ended outcome := by
  cases move with
  | publish payload | loseGroup =>
    obtain rfl := Option.some.inj taken
    exact due
  | start opened => simp [RunMove.starts] at kept
  | signal =>
    left
    cases standing : process.point <;>
      simp only [runWorker, standing, Option.some.injEq, reduceCtorEq] at taken <;>
      exact .inl (by rw [← taken])
  | reply reply error => exact .inl (due_replies supervised due taken)
  | failStart reply stored error =>
    obtain ⟨-, -, stream, rfl⟩ := failsStart_cases taken
    exact .inl (.inr rfl)
  | wake =>
    cases standing : process.point with
    | waiting =>
      simp only [runWorker, standing] at taken
      obtain ⟨after, rfl⟩ := wakes_stops taken
      rcases due with due | ⟨outcome, ended⟩
      · exact .inl due
      · simp [standing] at ended
    | _ => simp [runWorker, standing] at taken
  | closed outcome =>
    cases standing : process.point with
    | stopping current after =>
      simp only [runWorker, standing, Option.some.injEq] at taken
      subst taken
      rcases due with due | ⟨other, ended⟩
      · left
        rwa [Due, closes_signalled, closes_result]
      · simp [standing] at ended
    | _ => simp [runWorker, standing] at taken
  | join =>
    cases standing : process.point with
    | joining =>
      simp only [runWorker, standing, Option.some.injEq] at taken
      subst taken
      exact .inr ⟨_, rfl⟩
    | _ => simp [runWorker, standing] at taken

/-- While something is due, the next await of `run_worker` can end, so it is not
kept by anything else. -/
theorem due_goes_on (due : Due process) :
    (∃ outcome, process.point = .ended outcome) ∨
      ∃ move, move.own = true ∧
        ((runWorker fromJsonStr eventId).step process move).isSome = true := by
  cases standing : process.point with
  | ended outcome => exact .inl ⟨outcome, rfl⟩
  | joining => exact .inr ⟨.join, rfl, by simp [runWorker, standing]⟩
  | stopping current after => exact .inr ⟨.closed (.ok ()), rfl, by simp [runWorker, standing]⟩
  | waiting =>
    refine .inr ⟨.wake, rfl, ?_⟩
    simp only [runWorker, standing, Process.wakes]
    rcases due with signalled | ended
    · split <;> simp [signalled]
    · split
      · rfl
      · rfl
      · next absent => simp [absent] at ended

/-- The process never lives on without its worker, nor after a signal. From a state in
which the worker's task is gone or a signal was received, whatever else happens, five of
its own awaits at most are left until it ends, and the next one can end at any time. -/
theorem process_never_lingers (stream : Stream Payload)
    (table : List (AttackEventModel Event Label)) (opened : Except Error Unit)
    (schedule later : List (RunMove Payload Label Error))
    (middle final : Process Payload Event Label Error)
    (reached :
      (runWorker fromJsonStr eventId).run (.started stream table opened) schedule = some middle)
    (due : middle.signalled = true ∨ middle.backend.worker = none)
    (same : ∀ move ∈ later, move.starts = false)
    (continued : (runWorker fromJsonStr eventId).run middle later = some final) :
    later.countP RunMove.own + final.point.rank ≤ 5 ∧
      ((∃ outcome, final.point = .ended outcome) ∨ ∃ move, move.own = true ∧
        ((runWorker fromJsonStr eventId).step final move).isSome = true) := by
  have supervised := (runWorker fromJsonStr eventId).run_invariant Supervised
    (fun process move next kept taken => supervised_step kept taken) _ middle schedule
    (started_supervised stream table opened) reached
  have initially : Due middle ∨ ∃ outcome, middle.point = .ended outcome := by
    rcases due with signalled | gone
    · exact .inl (.inl signalled)
    · unfold Supervised at supervised
      split at supervised
      · simp only [Unstopped, gone] at supervised
        obtain ⟨error, result⟩ := supervised.2
        exact .inl (.inr (by simp [result]))
      · next after standing =>
        cases after with
        | raise error => exact .inl (.inr (by simp [supervised.2.1]))
        | done => exact absurd supervised.2 id
        | cancel => exact .inl (.inl supervised.2)
      · exact .inl (.inl supervised.2)
      · exact .inr ⟨_, by assumption⟩
      · exact .inr ⟨_, by assumption⟩
  have bounded : middle.point.rank ≤ 5 := by
    cases middle.point with
    | stopping current after => cases current <;> simp [RunPoint.rank]
    | _ => simp [RunPoint.rank]
  suffices both : later.countP RunMove.own + final.point.rank ≤ middle.point.rank ∧
      Supervised final ∧ (Due final ∨ ∃ outcome, final.point = .ended outcome) by
    obtain ⟨count, -, due | ended⟩ := both
    · exact ⟨Nat.le_trans count bounded, due_goes_on due⟩
    · exact ⟨Nat.le_trans count bounded, .inl ended⟩
  clear reached bounded due
  induction later generalizing middle with
  | nil =>
    obtain rfl : middle = final := Option.some.inj continued
    exact ⟨by simp, supervised, initially⟩
  | cons move rest inductionHypothesis =>
    obtain ⟨next, taken, remaining⟩ :=
      ((runWorker fromJsonStr eventId).run_cons_iff middle final move rest).mp continued
    have kept := same move List.mem_cons_self
    obtain ⟨count, ending⟩ := inductionHypothesis next
      (fun other member => same other (List.mem_cons_of_mem _ member)) remaining
      (supervised_step supervised taken) (due_step kept supervised initially taken)
    have lower := step_rank kept taken
    refine ⟨?_, ending⟩
    rw [List.countP_cons]
    omega

/-- After a crash `run_worker` is waiting in `stop`; a publish does not keep it, and
three closes later it has ended. -/
theorem process_never_lingers_crash :
    ∃ middle final : Process Nat Nat Unit Nat,
      (runWorker some id).run (.started .empty [] (.ok ())) crash = some middle ∧
      (runWorker some id).run middle (.publish 3 :: closesAll) = some final ∧
      (.publish 3 :: closesAll).countP RunMove.own + final.point.rank ≤ 5 := by
  obtain ⟨middle, reached, gone⟩ : ∃ middle : Process Nat Nat Unit Nat,
      (runWorker some id).run (.started .empty [] (.ok ())) crash = some middle ∧
      middle.backend.worker = none := ⟨_, rfl, rfl⟩
  obtain ⟨final, continued⟩ : ∃ final, (runWorker some id).run middle (.publish 3 :: closesAll) =
      some final := by
    obtain rfl := Option.some.inj reached
    exact ⟨_, rfl⟩
  exact ⟨middle, final, reached, continued,
    (process_never_lingers .empty [] (.ok ()) crash (.publish 3 :: closesAll) middle final reached
      (.inr gone) (by decide) continued).1⟩

end Supervision

end Honeywatch.Tasks
