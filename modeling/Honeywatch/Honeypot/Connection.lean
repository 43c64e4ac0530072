import Honeywatch.Honeypot.Answers
import Honeywatch.Honeypot.Survival
import Mathlib.Data.List.Perm.Subperm

/-!
# The connections of the SSH honeypot

Any number of connections over one honeypot with its buffer and its periodic
flush, and one event queue that the other honeypots of the process publish to.
A callback runs without interruption up to the first await of the emit it makes:
`validate_password` awaits its emit, `connection_lost` schedules it as a task of
its own. A connection may be lost while attempts of it are suspended in their
emits. Their coroutines are cancelled at the await, and Redis may have executed
the command that was awaited there.

What a connection emits is what its callbacks emit one after the other, however
they interleave with everything else. Whether an emitted event ends up in the
stream or in the buffer depends on the cancellations and on the answers of
Redis.
-/

namespace Honeywatch.Honeypot.Ssh

open Transition Cooperative Text Json Collector EventQueue

/-- How far the callbacks of a connection have come. -/
inductive Phase
  | accepted
  | made
  | lost
deriving DecidableEq, Repr

/-- `asyncssh` begins with `connection_made` and calls nothing after
`connection_lost`, which has a move of its own. -/
def Phase.admits : Phase → Callback → Bool
  | .accepted, .connectionMade _ _ => true
  | .made, .beginAuth _ => true
  | .made, .validatePassword _ _ _ _ _ => true
  | _, _ => false

/-- A connection: its instance and how far it has come. -/
structure Connection where
  server : SSHHoneypotServer
  phase : Phase

/-- Where an emit or a flush of the honeypot stands after it has begun. -/
abbrev Standing := Progress (TaskPoint AttackEvent (PublishPoint (List Char))) (Except Raised Unit)

/-- Where a task stands. A task that was created waits for its first turn. -/
inductive Stage
  | scheduled
  | running (standing : Standing)
  | cancelled

/-- A task with the connection it belongs to; the periodic flush belongs to none. -/
structure Running where
  connection : Option Nat
  task : Task AttackEvent
  stage : Stage

/-- The honeypot with its connections and tasks, in the order in which they came. -/
structure Process where
  memory : Queued AttackEvent (List Char)
  connections : List Connection
  tasks : List Running

/-- What happens to the honeypot. `executed` are the entries of those cancelled
appends that Redis has executed; `elsewhere` is the work of the other honeypots
on the shared queue. -/
inductive Happening
  | accept
  | receive (connection : Nat) (callback : Callback)
  | disconnect (connection : Nat) (connectionDuration : Decimal) (stamp : Stamp)
      (executed : List (List Char))
  | startFlushLoop
  | begin (task : Nat)
  | answer (task : Nat) (reply : RedisReply)
  | elsewhere (redis : Bool) (payloads : List (List Char))

/-- The entry that a task's awaited append sends. -/
def Running.sending (running : Running) : Option (List Char) :=
  match running.stage with
  | .running (.suspended (.flushing _ (.adding _ payload))) => some payload
  | .running (.suspended (.publishing (.adding _ payload))) => some payload
  | _ => none

/-- What the suspended attempts of a connection have sent. -/
def Process.inFlight (process : Process) (connection : Nat) : List (List Char) :=
  process.tasks.filterMap fun running =>
    if running.connection = some connection then running.sending else none

/-- Cancel a task of the connection at its await. -/
def Running.cancel (connection : Nat) (running : Running) : Running :=
  match running.stage with
  | .running (.suspended _) =>
    if running.connection = some connection then { running with stage := .cancelled } else running
  | _ => running

/-- `await emit_event(event)`, up to its first await. -/
def Process.emit (process : Process) (connection : Nat) (event : AttackEvent) : Process :=
  let entered := (honeypot (publish AttackEvent.toJsonStr)).enter process.memory (.emitEvent event)
  { process with
    memory := entered.1
    tasks := process.tasks ++ [⟨some connection, .emitEvent event, .running entered.2⟩] }

/-- `connection_made`, `begin_auth` or `validate_password` is called. -/
def Process.receive (port : Int) (process : Process) (connection : Nat) (next : Callback) :
    Option Process :=
  match process.connections[connection]? with
  | none => none
  | some ⟨server, phase⟩ =>
    if phase.admits next then
      let called := callback port server next
      let changed :=
        { process with connections := process.connections.set connection ⟨called.1, .made⟩ }
      match called.2 with
      | none => some changed
      | some event => some (changed.emit connection event)
    else none

/-- The connection is lost: its suspended attempts are cancelled, and
`connection_lost` is called inside the running loop. -/
def Process.disconnect (port : Int) (process : Process) (connection : Nat)
    (connectionDuration : Decimal) (stamp : Stamp) (executed : List (List Char)) :
    Option Process :=
  match process.connections[connection]? with
  | some ⟨server, .made⟩ =>
    if List.Subperm executed (process.inFlight connection) then
      let called := callback port server (.connectionLost connectionDuration stamp true)
      some {
        memory :=
          { process.memory with
            queue :=
              { process.memory.queue with entries := process.memory.queue.entries ++ executed } }
        connections := process.connections.set connection ⟨called.1, .lost⟩
        tasks := process.tasks.map (Running.cancel connection) ++
          called.2.toList.map fun event => ⟨some connection, .emitEvent event, .scheduled⟩ }
    else none
  | _ => none

/-- A scheduled task has its first turn. -/
def Process.begin (process : Process) (index : Nat) : Option Process :=
  match process.tasks[index]? with
  | some ⟨connection, task, .scheduled⟩ =>
    let entered := (honeypot (publish AttackEvent.toJsonStr)).enter process.memory task
    some { process with
      memory := entered.1
      tasks := process.tasks.set index ⟨connection, task, .running entered.2⟩ }
  | _ => none

/-- The await of a suspended task is answered. -/
def Process.answer (process : Process) (index : Nat) (reply : RedisReply) : Option Process :=
  match process.tasks[index]? with
  | some ⟨connection, task, .running (.suspended point)⟩ =>
    let resumed :=
      (honeypot (publish AttackEvent.toJsonStr)).resume process.memory task point reply
    some { process with
      memory := resumed.1
      tasks := process.tasks.set index ⟨connection, task, .running resumed.2⟩ }
  | _ => none

/-- The honeypot listening on the given port. -/
def listening (port : Int) : System Process Happening where
  step process happening :=
    match happening with
    | .accept => some { process with connections := process.connections ++ [⟨.init, .accepted⟩] }
    | .receive connection next => process.receive port connection next
    | .disconnect connection connectionDuration stamp executed =>
      process.disconnect port connection connectionDuration stamp executed
    | .startFlushLoop =>
      some { process with tasks := process.tasks ++ [⟨none, .periodicFlush, .scheduled⟩] }
    | .begin index => process.begin index
    | .answer index reply => process.answer index reply
    | .elsewhere redis payloads =>
      some { process with
        memory :=
          { process.memory with
            queue :=
              { process.memory.queue with
                redis := redis
                entries := process.memory.queue.entries ++ payloads } } }

/-- A honeypot that has just been started, on any queue. -/
def started (queue : EventQueue (List Char)) : Process :=
  { memory := { buffer := .empty, queue, evicted := [] }, connections := [], tasks := [] }

/-- The event that a task emits for the connection. -/
def Running.emits (connection : Nat) (running : Running) : Option AttackEvent :=
  match running.task with
  | .emitEvent event => if running.connection = some connection then some event else none
  | .periodicFlush => none

/-- The events that a connection has left. -/
def Process.emitted (process : Process) (connection : Nat) : List AttackEvent :=
  process.tasks.filterMap (Running.emits connection)

/-- The callback of the connection that a move makes. -/
def Happening.callback (connection : Nat) : Happening → Option Callback
  | .receive called next => if called = connection then some next else none
  | .disconnect lost connectionDuration stamp _ =>
    if lost = connection then some (.connectionLost connectionDuration stamp true) else none
  | _ => none

/-- The callbacks of a connection, in their order. -/
def callbacks (connection : Nat) (schedule : List Happening) : List Callback :=
  schedule.filterMap (Happening.callback connection)

/-- A password attempt is started. -/
def Callback.isAttempt : Callback → Bool
  | .validatePassword _ _ _ _ _ => true
  | _ => false

/-- The connection is over. -/
def Callback.isLoss : Callback → Bool
  | .connectionLost _ _ _ => true
  | _ => false

/-- The event has this `event_type`. -/
def ofType (eventType : String) (event : AttackEvent) : Bool :=
  decide (event.eventType = literal eventType)

/-- The instance after its callbacks. -/
def serverAfter (port : Int) (server : SSHHoneypotServer) (calls : List Callback) :
    SSHHoneypotServer :=
  calls.foldl (fun server next => (callback port server next).1) server

/-- What further callbacks emit depends on the instance that the earlier ones have
left. -/
theorem events_append (port : Int) (server : SSHHoneypotServer) (calls later : List Callback) :
    eventsFrom port server (calls ++ later) =
      eventsFrom port server calls ++ eventsFrom port (serverAfter port server calls) later := by
  induction calls generalizing server with
  | nil => rfl
  | cons next rest inductionHypothesis =>
    simp only [List.cons_append, eventsFrom, inductionHypothesis, List.append_assoc]
    rfl

/-- The instance counts the attempts, one for each password callback. -/
theorem callback_attempts (port : Int) (server : SSHHoneypotServer) (next : Callback) :
    (callback port server next).1.attempts =
      server.attempts + if next.isAttempt then 1 else 0 := by
  cases next <;> rfl

/-- The counter of the instance is the number of attempts that were started, however
many of them have ended. -/
theorem serverAfter_attempts (port : Int) (server : SSHHoneypotServer) (calls : List Callback) :
    (serverAfter port server calls).attempts =
      server.attempts + calls.countP Callback.isAttempt := by
  induction calls generalizing server with
  | nil => rfl
  | cons next rest inductionHypothesis =>
    have later := inductionHypothesis (callback port server next).1
    rw [callback_attempts] at later
    rw [List.countP_cons]
    exact later.trans (by omega)

/-- The two types of events of a connection have different names. -/
theorem types_differ : literal "ssh_login_attempt" ≠ literal "ssh_connection" := by decide

/-- A callback emits an attempt exactly when it starts one; no other callback emits
an event of this type. -/
theorem callback_attempt (port : Int) (server : SSHHoneypotServer) (next : Callback) :
    (callback port server next).2.toList.countP (ofType "ssh_login_attempt") =
      if next.isAttempt then 1 else 0 := by
  cases next with
  | connectionMade peername clientVersion => rfl
  | beginAuth username => rfl
  | validatePassword username password clientVersion connectionDuration stamp =>
    simp [callback, ofType, SSHHoneypotServer.attackEvent, Callback.isAttempt]
  | connectionLost connectionDuration stamp runningLoop =>
    have other : ofType "ssh_login_attempt" (server.attackEvent port stamp "ssh_connection"
        (server.connectionData connectionDuration)) = false :=
      decide_eq_false types_differ.symm
    simp only [callback, Callback.isAttempt]
    split
    · rfl
    · split
      · simp [other]
      · rfl

/-- Every started attempt emits one event, before its delay and whether or not it is
cancelled later. -/
theorem events_attempts (port : Int) (server : SSHHoneypotServer) (calls : List Callback) :
    (eventsFrom port server calls).countP (ofType "ssh_login_attempt") =
      calls.countP Callback.isAttempt := by
  induction calls generalizing server with
  | nil => rfl
  | cons next rest inductionHypothesis =>
    rw [eventsFrom, List.countP_append, inductionHypothesis, callback_attempt, List.countP_cons]
    exact Nat.add_comm _ _

/-- Only the loss of the connection emits `ssh_connection`, so a connection under
way has none. -/
theorem callback_connection (port : Int) (server : SSHHoneypotServer) (next : Callback)
    (kept : next.isLoss = false) :
    (callback port server next).2.toList.countP (ofType "ssh_connection") = 0 := by
  cases next with
  | connectionMade peername clientVersion => rfl
  | beginAuth username => rfl
  | validatePassword username password clientVersion connectionDuration stamp =>
    have other (data : Dict) : ofType "ssh_connection" ((server.attempted clientVersion).attackEvent
        port stamp "ssh_login_attempt" data) = false :=
      decide_eq_false types_differ
    simp [callback, other]
  | connectionLost connectionDuration stamp runningLoop => simp [Callback.isLoss] at kept

/-- A connection that is not lost emits no event of its own, however many attempts
it has made. -/
theorem events_unlost (port : Int) (server : SSHHoneypotServer) (calls : List Callback)
    (kept : ∀ call ∈ calls, call.isLoss = false) :
    (eventsFrom port server calls).countP (ofType "ssh_connection") = 0 := by
  induction calls generalizing server with
  | nil => rfl
  | cons next rest inductionHypothesis =>
    rw [List.forall_mem_cons] at kept
    rw [eventsFrom, List.countP_append, callback_connection port server next kept.1,
      inductionHypothesis _ kept.2]

/-- A connection that is lost emits `ssh_connection` exactly when no attempt was
started. -/
theorem events_lost (port : Int) (calls : List Callback) (connectionDuration : Decimal)
    (stamp : Stamp) (kept : ∀ call ∈ calls, call.isLoss = false) :
    (events port (calls ++ [.connectionLost connectionDuration stamp true])).countP
        (ofType "ssh_connection") =
      if calls.countP Callback.isAttempt = 0 then 1 else 0 := by
  have counted : (serverAfter port .init calls).attempts = calls.countP Callback.isAttempt :=
    (serverAfter_attempts port .init calls).trans (Nat.zero_add _)
  rw [events, events_append, List.countP_append, events_unlost port .init calls kept]
  simp only [eventsFrom, callback, counted, Nat.zero_add, List.append_nil, if_true]
  by_cases unstarted : calls.countP Callback.isAttempt = 0
  · simp only [unstarted, ne_eq, not_true_eq_false, if_false, if_true]
    simp [ofType, SSHHoneypotServer.attackEvent]
  · simp only [unstarted, ne_eq, not_false_eq_true, if_true, if_false]
    rfl

/-- A connection emits nothing else: every event of it is an attempt or its own
loss. -/
theorem events_types (port : Int) (server : SSHHoneypotServer) (calls : List Callback) :
    ∀ event ∈ eventsFrom port server calls,
      ofType "ssh_login_attempt" event = true ∨ ofType "ssh_connection" event = true := by
  induction calls generalizing server with
  | nil => simp [eventsFrom]
  | cons next rest inductionHypothesis =>
    rw [eventsFrom, List.forall_mem_append]
    refine ⟨?_, inductionHypothesis _⟩
    intro event member
    rw [Option.mem_toList] at member
    cases next with
    | connectionMade peername clientVersion => cases member
    | beginAuth username => cases member
    | validatePassword username password clientVersion connectionDuration stamp =>
      cases member
      simp [ofType, SSHHoneypotServer.attackEvent]
    | connectionLost connectionDuration stamp runningLoop =>
      simp only [callback] at member
      split at member
      · cases member
      · split at member
        · cases member
          simp [ofType, SSHHoneypotServer.attackEvent]
        · cases member

end Honeywatch.Honeypot.Ssh
