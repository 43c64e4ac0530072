import Honeywatch.Honeypot.Connection

/-!
# What every connection of the SSH honeypot leaves

Whatever else runs on the honeypot, a connection emits one event for each
attempt that was started, and one event for the connection when it is lost
without an attempt. Such an event ends up in the stream or in the buffer unless
one of three things happens: the loss of the connection cancels an attempt
before its event is recorded, an answer that is not handled raises out of its
emit, or the event leaves the buffer without being published.
-/

namespace Honeywatch.Honeypot.Ssh

open Transition Cooperative Text Json Collector EventQueue

/-- The event is in the stream. -/
def InStream (event : AttackEvent) (entries : List (List Char)) : Prop :=
  ∃ payload, event.toJsonStr = some payload ∧ payload ∈ entries

/-- The task awaits an answer. -/
def Running.awaiting (running : Running) : Bool :=
  match running.stage with
  | .running (.suspended _) => true
  | _ => false

/-- The task is over: it has ended, or it was cancelled. -/
def Running.over (running : Running) : Bool :=
  match running.stage with
  | .running (.finished _) => true
  | .cancelled => true
  | _ => false

/-- The condition on a move, for one connection. Its loss cancels an attempt only
when the event is in the stream already or the cancelled append was executed;
its emits receive answers that they handle; and an event of it that leaves the
buffer is in the stream by then. -/
structure Spares (connection : Nat) (process : Process) (happening : Happening) : Prop where
  cancelled : ∀ connectionDuration stamp executed,
    happening = .disconnect connection connectionDuration stamp executed →
    ∀ running ∈ process.tasks, ∀ event, running.emits connection = some event →
      running.awaiting = true →
      InStream event (process.memory.queue.entries ++ executed)
  handled : ∀ index reply task point, happening = .answer index reply →
    process.tasks[index]? = some ⟨some connection, task, .running (.suspended point)⟩ →
    unharmed process.memory point reply = true
  displaced : ∀ index reply owner task point, happening = .answer index reply →
    process.tasks[index]? = some ⟨owner, task, .running (.suspended point)⟩ →
    ∀ event ∈ displaced process.memory point reply, event ∈ process.emitted connection →
      InStream event (process.memory.queue.entries ++ taskAppends point reply)

/-- What a connection has left after the moves of a schedule. -/
structure Accounted (connection : Nat) (schedule : List Happening) (process : Process) :
    Prop where
  attempts : (process.emitted connection).countP (ofType "ssh_login_attempt") =
    (callbacks connection schedule).countP Callback.isAttempt
  lost : (process.emitted connection).countP (ofType "ssh_connection") =
    if (callbacks connection schedule).any Callback.isLoss ∧
      (callbacks connection schedule).countP Callback.isAttempt = 0 then 1 else 0
  types : ∀ event ∈ process.emitted connection,
    ofType "ssh_login_attempt" event = true ∨ ofType "ssh_connection" event = true
  recorded : ∀ running ∈ process.tasks, ∀ event, running.emits connection = some event →
    running.over = true → Recorded AttackEvent.toJsonStr event process.memory
  ends : ∀ running ∈ process.tasks, ∀ event, running.emits connection = some event →
    ∀ answers : Nat → RedisReply,
      match running.stage with
      | .scheduled => ∃ used final result,
        (honeypot (publish AttackEvent.toJsonStr)).complete process.memory (.emitEvent event)
          ((List.range used).map answers) = some (final, result) ∧
        (result = .ok () → Recorded AttackEvent.toJsonStr event final)
      | .running standing => ∃ used final result,
        (honeypot (publish AttackEvent.toJsonStr)).drive (.emitEvent event) process.memory standing
          ((List.range used).map answers) = some (final, result) ∧
        (result = .ok () → Recorded AttackEvent.toJsonStr event final)
      | .cancelled => True

/-- The callbacks that a connection in this phase has had. -/
def Phase.Follows : Phase → List Callback → Prop
  | .accepted, calls => calls = []
  | .made, calls => ∀ call ∈ calls, call.isLoss = false
  | .lost, calls => ∃ before connectionDuration stamp,
    calls = before ++ [.connectionLost connectionDuration stamp true] ∧
      ∀ call ∈ before, call.isLoss = false

/-- What the instance of a connection and its tasks have to do with its
callbacks. -/
structure Ledger (port : Int) (connection : Nat) (past : List Happening) (process : Process) :
    Prop where
  emitted : process.emitted connection = events port (callbacks connection past)
  absent : process.connections[connection]? = none → callbacks connection past = []
  present : ∀ known ∈ process.connections[connection]?,
    known.server = serverAfter port .init (callbacks connection past) ∧
      known.phase.Follows (callbacks connection past)

/-- A callback that is received. The instance takes it, and what it returns is
emitted by a task that starts at once, or there is nothing to emit. -/
theorem receive_cases {port : Int} {process next : Process} {called : Nat} {call : Callback}
    (taken : process.receive port called call = some next) :
    ∃ server phase, process.connections[called]? = some ⟨server, phase⟩ ∧
      phase.admits call = true ∧
      next.connections =
        process.connections.set called ⟨(callback port server call).1, .made⟩ ∧
      ((callback port server call).2 = none ∧ next.memory = process.memory ∧
          next.tasks = process.tasks ∨
        ∃ event, (callback port server call).2 = some event ∧
          next.memory =
            ((honeypot (publish AttackEvent.toJsonStr)).enter process.memory
              (.emitEvent event)).1 ∧
          next.tasks = process.tasks ++ [⟨some called, .emitEvent event, .running
            ((honeypot (publish AttackEvent.toJsonStr)).enter process.memory
              (.emitEvent event)).2⟩]) := by
  unfold Process.receive at taken
  split at taken
  · simp at taken
  · next server phase found =>
    split at taken
    · next admitted =>
      refine ⟨server, phase, found, admitted, ?_⟩
      simp only at taken
      split at taken
      · next silent =>
        obtain rfl := Option.some.inj taken
        exact ⟨rfl, .inl ⟨silent, rfl, rfl⟩⟩
      · next event emits =>
        obtain rfl := Option.some.inj taken
        exact ⟨rfl, .inr ⟨event, emits, rfl, rfl⟩⟩
    · simp at taken

/-- A connection that is lost. The tasks of its callbacks are cancelled where they
await, Redis may still execute what they had sent, and its own event is only
scheduled. -/
theorem disconnect_cases {port : Int} {process next : Process} {lost : Nat}
    {connectionDuration : Decimal} {stamp : Stamp} {executed : List (List Char)}
    (taken : process.disconnect port lost connectionDuration stamp executed = some next) :
    ∃ server, process.connections[lost]? = some ⟨server, .made⟩ ∧
      next.memory.queue.entries = process.memory.queue.entries ++ executed ∧
      next.memory.buffer = process.memory.buffer ∧
      next.connections = process.connections.set lost ⟨server, .lost⟩ ∧
      next.tasks = process.tasks.map (Running.cancel lost) ++
        (callback port server (.connectionLost connectionDuration stamp true)).2.toList.map
          fun event => ⟨some lost, .emitEvent event, .scheduled⟩ := by
  unfold Process.disconnect at taken
  split at taken
  · next server found =>
    split at taken
    · obtain rfl := Option.some.inj taken
      exact ⟨server, found, rfl, rfl, rfl, rfl⟩
    · simp at taken
  · simp at taken

/-- A task that begins: one that was scheduled runs up to its first await, and the
other tasks wait. -/
theorem begin_cases {process next : Process} {index : Nat}
    (taken : process.begin index = some next) :
    ∃ owner task, process.tasks[index]? = some ⟨owner, task, .scheduled⟩ ∧
      next.memory =
        ((honeypot (publish AttackEvent.toJsonStr)).enter process.memory task).1 ∧
      next.connections = process.connections ∧
      next.tasks = process.tasks.set index ⟨owner, task, .running
        ((honeypot (publish AttackEvent.toJsonStr)).enter process.memory task).2⟩ := by
  unfold Process.begin at taken
  split at taken
  · next owner task found =>
    obtain rfl := Option.some.inj taken
    exact ⟨owner, task, found, rfl, rfl, rfl⟩
  · simp at taken

/-- A task that is answered runs on to its next await or its end; no other task and
no connection changes. -/
theorem answer_cases {process next : Process} {index : Nat} {reply : RedisReply}
    (taken : process.answer index reply = some next) :
    ∃ owner task point,
      process.tasks[index]? = some ⟨owner, task, .running (.suspended point)⟩ ∧
      next.memory = ((honeypot (publish AttackEvent.toJsonStr)).resume process.memory task point
        reply).1 ∧
      next.connections = process.connections ∧
      next.tasks = process.tasks.set index ⟨owner, task, .running
        ((honeypot (publish AttackEvent.toJsonStr)).resume process.memory task point
          reply).2⟩ := by
  unfold Process.answer at taken
  split at taken
  · next owner task point found =>
    obtain rfl := Option.some.inj taken
    exact ⟨owner, task, point, found, rfl, rfl, rfl⟩
  · simp at taken

/-- A task that gets further emits what it emitted, since neither its owner nor its
event changes. -/
theorem emits_set (connection : Nat) (tasks : List Running) (index : Nat) (owner : Option Nat)
    (task : Task AttackEvent) (stage further : Stage)
    (found : tasks[index]? = some ⟨owner, task, stage⟩) :
    (tasks.set index ⟨owner, task, further⟩).filterMap (Running.emits connection) =
      tasks.filterMap (Running.emits connection) := by
  obtain ⟨before, after, split, _, replaced⟩ := Coroutine.split_at tasks index _ found
  rw [replaced, split]
  simp only [List.filterMap_append, List.filterMap_cons]
  rfl

/-- A cancelled task has emitted its event. -/
@[simp] theorem cancel_emits (connection lost : Nat) (running : Running) :
    (running.cancel lost).emits connection = running.emits connection := by
  unfold Running.cancel
  split
  · split <;> rfl
  · rfl

/-- So a loss takes back nothing that was emitted. -/
theorem emits_cancel (connection lost : Nat) (tasks : List Running) :
    (tasks.map (Running.cancel lost)).filterMap (Running.emits connection) =
      tasks.filterMap (Running.emits connection) := by
  rw [List.filterMap_map]
  exact List.filterMap_congr fun running _ => cancel_emits connection lost running

/-- What a step does to a connection that has no callback in it: the connection emits
nothing, and its instance stays as it is or is only now there. -/
def Passes (connection : Nat) (process next : Process) : Prop :=
  next.emitted connection = process.emitted connection ∧
    (next.connections[connection]? = process.connections[connection]? ∨
      process.connections[connection]? = none ∧
        next.connections[connection]? = some ⟨.init, .accepted⟩)

/-- What a step does to a connection with a callback in it: the callback is made on its
instance, and the connection emits what the callback does. -/
def Calls (port : Int) (connection : Nat) (call : Callback) (process next : Process) : Prop :=
  ∃ server phase after,
    process.connections[connection]? = some ⟨server, phase⟩ ∧
      next.connections[connection]? = some ⟨(callback port server call).1, after⟩ ∧
      next.emitted connection =
        process.emitted connection ++ (callback port server call).2.toList ∧
      (phase.admits call = true ∧ after = .made ∨
        phase = .made ∧ after = .lost ∧
          ∃ connectionDuration stamp, call = .connectionLost connectionDuration stamp true)

/-- A new connection takes the next number; the other numbers keep what they have,
and this one had nothing before. -/
theorem accept_passes (connection : Nat) (process : Process) :
    Passes connection process
      { process with connections := process.connections ++ [⟨.init, .accepted⟩] } := by
  refine ⟨rfl, ?_⟩
  rcases Nat.lt_trichotomy connection process.connections.length with known | newest | unknown
  · exact .inl (List.getElem?_append_left known)
  · subst newest
    exact .inr (by simp)
  · left
    have longer : (process.connections ++ [(⟨.init, .accepted⟩ : Connection)]).length ≤
        connection := by
      rw [List.length_append]
      exact unknown
    rw [List.getElem?_eq_none (Nat.le_of_lt unknown)]
    exact List.getElem?_eq_none longer

/-- A callback that is received emits for its own connection what it returns, behind
what the connection has emitted so far. -/
theorem receive_calls {port : Int} {process next : Process} {connection : Nat} {call : Callback}
    (taken : process.receive port connection call = some next) :
    Calls port connection call process next := by
  obtain ⟨server, phase, found, admitted, connections, effect⟩ := receive_cases taken
  have bounded := (List.getElem?_eq_some_iff.mp found).1
  refine ⟨server, phase, .made, found, by rw [connections, List.getElem?_set_self bounded], ?_,
    .inl ⟨admitted, rfl⟩⟩
  rcases effect with ⟨silent, _, tasks⟩ | ⟨event, emits, _, tasks⟩
  · simp [Process.emitted, tasks, silent]
  · simp [Process.emitted, tasks, emits, Running.emits]

/-- It is nothing to the other connections: neither their instances nor what they
emit. -/
theorem receive_passes {port : Int} {process next : Process} {called connection : Nat}
    {call : Callback} (taken : process.receive port called call = some next)
    (other : called ≠ connection) : Passes connection process next := by
  obtain ⟨server, phase, found, admitted, connections, effect⟩ := receive_cases taken
  refine ⟨?_, .inl ?_⟩
  · rcases effect with ⟨_, _, tasks⟩ | ⟨event, _, _, tasks⟩
    · simp [Process.emitted, tasks]
    · simp [Process.emitted, tasks, Running.emits, other]
  · rw [connections, List.getElem?_set_ne other]

/-- A loss emits the event of the loss, for the connection that is lost. What it
cancels was emitted before. -/
theorem disconnect_emitted {port : Int} {process next : Process} {lost : Nat}
    {connectionDuration : Decimal} {stamp : Stamp} {executed : List (List Char)}
    (connection : Nat)
    (taken : process.disconnect port lost connectionDuration stamp executed = some next) :
    ∃ server, process.connections[lost]? = some ⟨server, .made⟩ ∧
      next.connections = process.connections.set lost ⟨server, .lost⟩ ∧
      next.emitted connection = process.emitted connection ++
        if lost = connection then
          (callback port server (.connectionLost connectionDuration stamp true)).2.toList
        else [] := by
  obtain ⟨server, found, _, _, connections, tasks⟩ := disconnect_cases taken
  refine ⟨server, found, connections, ?_⟩
  rw [Process.emitted, tasks, List.filterMap_append, emits_cancel, List.filterMap_map]
  apply congrArg (process.emitted connection ++ ·)
  by_cases same : lost = connection
  · subst same
    rw [if_pos rfl]
    conv_rhs => rw [← List.filterMap_some (l := Option.toList _)]
    exact List.filterMap_congr fun event _ => by simp [Running.emits]
  · simp [Function.comp_def, Running.emits, same]

/-- The loss of a connection is its last callback, made on its own instance, with
the event it emits scheduled behind those before, -/
theorem disconnect_calls {port : Int} {process next : Process} {connection : Nat}
    {connectionDuration : Decimal} {stamp : Stamp} {executed : List (List Char)}
    (taken : process.disconnect port connection connectionDuration stamp executed = some next) :
    Calls port connection (.connectionLost connectionDuration stamp true) process next := by
  obtain ⟨server, found, connections, emitted⟩ := disconnect_emitted connection taken
  rw [if_pos rfl] at emitted
  have bounded := (List.getElem?_eq_some_iff.mp found).1
  exact ⟨server, .made, .lost, found, by rw [connections, List.getElem?_set_self bounded]; rfl,
    emitted, .inr ⟨rfl, rfl, connectionDuration, stamp, rfl⟩⟩

/-- and it is nothing to the other connections. -/
theorem disconnect_passes {port : Int} {process next : Process} {lost connection : Nat}
    {connectionDuration : Decimal} {stamp : Stamp} {executed : List (List Char)}
    (taken : process.disconnect port lost connectionDuration stamp executed = some next)
    (other : lost ≠ connection) : Passes connection process next := by
  obtain ⟨server, found, connections, emitted⟩ := disconnect_emitted connection taken
  rw [if_neg other, List.append_nil] at emitted
  exact ⟨emitted, .inl (by rw [connections, List.getElem?_set_ne other])⟩

/-- A task that gets further emits nothing new, and no connection hears of it. -/
theorem further_passes {process next : Process} {index : Nat} {owner : Option Nat}
    {task : Task AttackEvent} {stage further : Stage} (connection : Nat)
    (found : process.tasks[index]? = some ⟨owner, task, stage⟩)
    (connections : next.connections = process.connections)
    (tasks : next.tasks = process.tasks.set index ⟨owner, task, further⟩) :
    Passes connection process next := by
  refine ⟨?_, .inl (by rw [connections])⟩
  rw [Process.emitted, tasks, emits_set connection _ _ _ _ _ _ found]
  rfl

/-- A step makes at most one callback of the connection, on its instance, and
the connection emits what the callback does. -/
theorem step_emitted {port : Int} {process next : Process} {happening : Happening}
    (connection : Nat) (taken : (listening port).step process happening = some next) :
    (happening.callback connection = none ∧ Passes connection process next) ∨
      ∃ call, happening.callback connection = some call ∧
        Calls port connection call process next := by
  cases happening with
  | accept =>
    obtain rfl := Option.some.inj taken
    exact .inl ⟨rfl, accept_passes connection process⟩
  | receive called call =>
    by_cases same : called = connection
    · subst same
      exact .inr ⟨call, by simp [Happening.callback], receive_calls taken⟩
    · exact .inl ⟨by simp [Happening.callback, same], receive_passes taken same⟩
  | disconnect lost connectionDuration stamp executed =>
    by_cases same : lost = connection
    · subst same
      exact .inr ⟨_, by simp [Happening.callback], disconnect_calls taken⟩
    · exact .inl ⟨by simp [Happening.callback, same], disconnect_passes taken same⟩
  | startFlushLoop =>
    obtain rfl := Option.some.inj taken
    exact .inl ⟨rfl, by simp [Process.emitted, Running.emits], .inl rfl⟩
  | begin index =>
    obtain ⟨owner, task, found, _, connections, tasks⟩ := begin_cases taken
    exact .inl ⟨rfl, further_passes connection found connections tasks⟩
  | answer index reply =>
    obtain ⟨owner, task, point, found, _, connections, tasks⟩ := answer_cases taken
    exact .inl ⟨rfl, further_passes connection found connections tasks⟩
  | elsewhere redis payloads =>
    obtain rfl := Option.some.inj taken
    exact .inl ⟨rfl, rfl, .inl rfl⟩

/-- A connection that is not lost goes on without a loss, so the callbacks that
follow are those of a session under way. -/
theorem Phase.Follows.admitted {phase : Phase} {calls : List Callback} {call : Callback}
    (follows : phase.Follows calls) (admitted : phase.admits call = true) :
    Phase.made.Follows (calls ++ [call]) := by
  have kept : call.isLoss = false := by
    cases phase <;> cases call <;> simp_all [Phase.admits, Callback.isLoss]
  cases phase with
  | accepted =>
    obtain rfl : calls = [] := follows
    simpa [Phase.Follows] using kept
  | made => simpa [Phase.Follows, or_imp, forall_and, kept] using follows
  | lost => cases call <;> simp [Phase.admits] at admitted

/-- A connection is recorded as such exactly when it is lost without an attempt. The
loss is its last callback, so the count of attempts is final. -/
theorem Phase.Follows.lost (port : Int) {phase : Phase} {calls : List Callback}
    (follows : phase.Follows calls) :
    (events port calls).countP (ofType "ssh_connection") =
      if calls.any Callback.isLoss ∧ calls.countP Callback.isAttempt = 0 then 1 else 0 := by
  cases phase with
  | accepted =>
    obtain rfl : calls = [] := follows
    rfl
  | made =>
    have kept : calls.any Callback.isLoss = false := by simpa [Phase.Follows] using follows
    rw [events, events_unlost port .init calls follows]
    simp [kept]
  | lost =>
    obtain ⟨before, connectionDuration, stamp, rfl, kept⟩ := follows
    rw [events_lost port before connectionDuration stamp kept]
    simp [Callback.isLoss, Callback.isAttempt]

/-- A step keeps the books: with a callback of the connection its instance and what
it emits follow the callback, and without one both stay. -/
theorem ledger_step {port : Int} {connection : Nat} {past : List Happening}
    {process next : Process} {happening : Happening}
    (ledger : Ledger port connection past process)
    (taken : (listening port).step process happening = some next) :
    Ledger port connection (past ++ [happening]) next := by
  have extended : callbacks connection (past ++ [happening]) =
      callbacks connection past ++ (happening.callback connection).toList := by
    simp only [callbacks, List.filterMap_append, List.filterMap_cons, List.filterMap_nil]
    cases happening.callback connection <;> rfl
  rcases step_emitted connection taken with
    ⟨silent, emitted, same | ⟨unknown, accepted⟩⟩ |
      ⟨call, called, server, phase, after, known, later, emitted, moved⟩
  · rw [silent, Option.toList_none, List.append_nil] at extended
    exact ⟨by rw [emitted, extended, ledger.emitted], by rw [same, extended]; exact ledger.absent,
      by rw [same, extended]; exact ledger.present⟩
  · rw [silent, Option.toList_none, List.append_nil, ledger.absent unknown] at extended
    refine ⟨by rw [emitted, extended, ledger.emitted, ledger.absent unknown], fun _ => extended, ?_⟩
    rw [accepted, extended]
    rintro _ ⟨rfl⟩
    exact ⟨rfl, rfl⟩
  · rw [called, Option.toList_some] at extended
    obtain ⟨sameServer, follows⟩ := ledger.present _ known
    simp only at sameServer follows
    refine ⟨?_, by simp [later], ?_⟩
    · rw [emitted, extended, ledger.emitted, events, events, events_append, ← sameServer]
      simp [eventsFrom]
    · rw [later, extended]
      rintro _ ⟨rfl⟩
      refine ⟨by simp [serverAfter, sameServer], ?_⟩
      rcases moved with ⟨admitted, rfl⟩ | ⟨rfl, rfl, connectionDuration, stamp, rfl⟩
      · exact follows.admitted admitted
      · exact ⟨_, connectionDuration, stamp, rfl, follows⟩

/-- The event of a task can be serialized, and the task awaits what belongs to it. -/
structure Running.Sound (running : Running) : Prop where
  own : ∀ event, running.task = .emitEvent event → event.toJsonStr.isSome
  awaits : ∀ point, running.stage = .running (.suspended point) →
    Awaits AttackEvent.toJsonStr running.task point

/-- The connections hold text, and the buffered events can be serialized. -/
structure Sound (process : Process) : Prop where
  textual : ∀ known ∈ process.connections, known.server.Textual
  serialize : ∀ event ∈ process.memory.buffer.items, event.toJsonStr.isSome
  tasks : ∀ running ∈ process.tasks, running.Sound

/-- The event of a callback can be serialized. -/
theorem callback_serializes {port : Int} {server : SSHHoneypotServer} {call : Callback}
    (textual : server.Textual) (event : AttackEvent)
    (emits : event ∈ (callback port server call).2) : event.toJsonStr.isSome := by
  have survives := callback_survives port server call textual event emits
  obtain ⟨payload, serialized, _⟩ := survives ⟨event.id, event.timestamp⟩
  exact Option.isSome_iff_exists.mpr ⟨payload, serialized⟩

/-- What holds of every item and of a new one holds after the new one is set. -/
theorem forall_mem_set {α : Type} {property : α → Prop} {items : List α} (index : Nat) {item : α}
    (all : ∀ other ∈ items, property other) (new : property item) :
    ∀ other ∈ items.set index item, property other := by
  intro other member
  rcases List.mem_or_eq_of_mem_set member with old | rfl
  · exact all other old
  · exact new

/-- A task that has just begun is sound: what it holds and what it finds in the
buffer can be serialized. -/
theorem begun_sound {memory : Queued AttackEvent (List Char)} (owner : Option Nat)
    {task : Task AttackEvent} (serialize : ∀ event ∈ memory.buffer.items, event.toJsonStr.isSome)
    (own : ∀ event, task = .emitEvent event → event.toJsonStr.isSome) :
    (Running.mk owner task (.running
      ((honeypot (publish AttackEvent.toJsonStr)).enter memory task).2)).Sound := by
  obtain ⟨_, _, point, suspended, awaits⟩ := enter_awaits memory task serialize own
  refine ⟨own, ?_⟩
  rw [suspended]
  rintro _ ⟨rfl⟩
  exact awaits

/-- A cancelled task awaits nothing any more, so there is nothing left that it would
have to serialize. -/
theorem cancel_sound (lost : Nat) {running : Running} (sound : running.Sound) :
    (running.cancel lost).Sound := by
  unfold Running.cancel
  split
  · split
    · exact ⟨sound.own, by simp⟩
    · exact sound
  · exact sound

/-- Every event that gets into the process can be serialized, for it comes from a
callback on text, and every task awaits what belongs to it. The cases are the moves.
-/
theorem sound_step {port : Int} {process next : Process} {happening : Happening}
    (sound : Sound process) (taken : (listening port).step process happening = some next) :
    Sound next := by
  cases happening with
  | accept =>
    obtain rfl := Option.some.inj taken
    refine ⟨?_, sound.serialize, sound.tasks⟩
    rw [List.forall_mem_append]
    exact ⟨sound.textual, by simpa using init_textual⟩
  | receive called call =>
    obtain ⟨server, phase, found, admitted, connections, effect⟩ := receive_cases taken
    have text : server.Textual := sound.textual _ (List.mem_of_getElem? found)
    have textual : ∀ known ∈ next.connections, known.server.Textual := by
      rw [connections]
      exact forall_mem_set called sound.textual (callback_textual port server call text)
    rcases effect with ⟨_, memory, tasks⟩ | ⟨event, emits, memory, tasks⟩
    · exact ⟨textual, memory ▸ sound.serialize, tasks ▸ sound.tasks⟩
    · have own : ∀ other, Task.emitEvent event = .emitEvent other → other.toJsonStr.isSome := by
        rintro _ ⟨rfl⟩
        exact callback_serializes text event emits
      obtain ⟨_, same, _⟩ := enter_awaits process.memory (.emitEvent event) sound.serialize own
      refine ⟨textual, by rw [memory, same]; exact sound.serialize, ?_⟩
      rw [tasks, List.forall_mem_append]
      exact ⟨sound.tasks, by simpa using begun_sound _ sound.serialize own⟩
  | disconnect lost connectionDuration stamp executed =>
    obtain ⟨server, found, _, buffer, connections, tasks⟩ := disconnect_cases taken
    have text : server.Textual := sound.textual _ (List.mem_of_getElem? found)
    refine ⟨?_, buffer ▸ sound.serialize, ?_⟩
    · rw [connections]
      exact forall_mem_set lost sound.textual text
    · rw [tasks, List.forall_mem_append, List.forall_mem_map, List.forall_mem_map]
      refine ⟨fun running member => cancel_sound lost (sound.tasks running member), ?_⟩
      intro event emits
      refine ⟨?_, by simp⟩
      rintro _ ⟨rfl⟩
      exact callback_serializes text event (Option.mem_toList.mp emits)
  | startFlushLoop =>
    obtain rfl := Option.some.inj taken
    refine ⟨sound.textual, sound.serialize, ?_⟩
    rw [List.forall_mem_append]
    exact ⟨sound.tasks, by simpa using ⟨by simp, by simp⟩⟩
  | begin index =>
    obtain ⟨owner, task, found, memory, connections, tasks⟩ := begin_cases taken
    have own := (sound.tasks _ (List.mem_of_getElem? found)).own
    obtain ⟨_, same, _⟩ := enter_awaits process.memory task sound.serialize own
    refine ⟨connections ▸ sound.textual, by rw [memory, same]; exact sound.serialize, ?_⟩
    rw [tasks]
    exact forall_mem_set index sound.tasks (begun_sound owner sound.serialize own)
  | answer index reply =>
    obtain ⟨owner, task, point, found, memory, connections, tasks⟩ := answer_cases taken
    have waiting := sound.tasks _ (List.mem_of_getElem? found)
    have answered := resume_answered process.memory task point reply sound.serialize
      waiting.own (waiting.awaits point rfl)
    refine ⟨connections ▸ sound.textual, ?_, ?_⟩
    · rw [memory]
      intro event member
      rcases answered.buffer.buffered_before event member with before | itself
      · exact sound.serialize event before
      · exact waiting.own event itself
    · rw [tasks]
      refine forall_mem_set index sound.tasks ⟨waiting.own, ?_⟩
      intro later suspended
      exact answered.awaits later (Stage.running.inj suspended)
  | elsewhere redis payloads =>
    obtain rfl := Option.some.inj taken
    exact ⟨sound.textual, sound.serialize, sound.tasks⟩

/-- Every event of the connection whose task is over is recorded. -/
def Settled (connection : Nat) (process : Process) : Prop :=
  ∀ running ∈ process.tasks, ∀ event, running.emits connection = some event →
    running.over = true → Recorded AttackEvent.toJsonStr event process.memory

/-- A recorded event stays recorded when the stream grows and the buffer keeps it
or leaves it to the stream. -/
theorem recorded_after {memory after : Queued AttackEvent (List Char)} {event : AttackEvent}
    (more : List (List Char)) (recorded : Recorded AttackEvent.toJsonStr event memory)
    (entries : after.queue.entries = memory.queue.entries ++ more)
    (buffer : event ∈ memory.buffer.items →
      event ∈ after.buffer.items ∨ InStream event (memory.queue.entries ++ more)) :
    Recorded AttackEvent.toJsonStr event after := by
  rcases recorded with ⟨payload, serialized, stored⟩ | buffered
  · exact .inl ⟨payload, serialized, entries ▸ List.mem_append_left _ stored⟩
  · rcases buffer buffered with kept | published
    · exact .inr kept
    · rw [← entries] at published
      exact .inl published

/-- A step under the condition leaves every recorded event of the connection
recorded. -/
theorem recorded_step {port : Int} {connection : Nat} {process next : Process}
    {happening : Happening} {event : AttackEvent} (sound : Sound process)
    (spares : Spares connection process happening) (mine : event ∈ process.emitted connection)
    (recorded : Recorded AttackEvent.toJsonStr event process.memory)
    (taken : (listening port).step process happening = some next) :
    Recorded AttackEvent.toJsonStr event next.memory := by
  cases happening with
  | accept =>
    obtain rfl := Option.some.inj taken
    exact recorded
  | receive called call =>
    obtain ⟨server, phase, found, admitted, connections, effect⟩ := receive_cases taken
    rcases effect with ⟨_, memory, _⟩ | ⟨own, emits, memory, _⟩
    · exact memory ▸ recorded
    · have text : server.Textual := sound.textual _ (List.mem_of_getElem? found)
      obtain ⟨kept, same, _⟩ := enter_awaits process.memory (.emitEvent own) sound.serialize
        (by rintro _ ⟨rfl⟩; exact callback_serializes text own emits)
      rw [memory]
      apply recorded_after [] recorded
      · simpa using kept
      · exact fun buffered => .inl (same ▸ buffered)
  | disconnect lost connectionDuration stamp executed =>
    obtain ⟨server, found, entries, buffer, _, _⟩ := disconnect_cases taken
    exact recorded_after executed recorded entries fun buffered => .inl (buffer ▸ buffered)
  | startFlushLoop =>
    obtain rfl := Option.some.inj taken
    exact recorded
  | begin index =>
    obtain ⟨owner, task, found, memory, _, _⟩ := begin_cases taken
    obtain ⟨kept, same, _⟩ := enter_awaits process.memory task sound.serialize
      (sound.tasks _ (List.mem_of_getElem? found)).own
    rw [memory]
    apply recorded_after [] recorded
    · simpa using kept
    · exact fun buffered => .inl (same ▸ buffered)
  | answer index reply =>
    obtain ⟨owner, task, point, found, memory, _, _⟩ := answer_cases taken
    have waiting := sound.tasks _ (List.mem_of_getElem? found)
    have answered := resume_answered process.memory task point reply sound.serialize
      waiting.own (waiting.awaits point rfl)
    rw [memory]
    apply recorded_after _ recorded answered.entries
    intro buffered
    rcases answered.buffer.remains event buffered with kept | leaves
    · exact .inl kept
    · exact .inr (spares.displaced index reply owner task point rfl found event leaves mine)
  | elsewhere redis payloads =>
    obtain rfl := Option.some.inj taken
    exact recorded_after payloads recorded rfl .inl

/-- A task that emits for a connection belongs to this connection and is an
emission. -/
theorem emits_owner {connection : Nat} {running : Running} {event : AttackEvent}
    (emits : running.emits connection = some event) :
    running.connection = some connection ∧ running.task = .emitEvent event := by
  obtain ⟨owner, task, stage⟩ := running
  cases task with
  | periodicFlush => cases emits
  | emitEvent own =>
    simp only [Running.emits] at emits
    split at emits
    · next mine => exact ⟨mine, by rw [Option.some.inj emits]⟩
    · cases emits

/-- Only a task that awaits an answer is cancelled; one that is over or not yet
begun stays as it is. -/
theorem cancel_kept (lost : Nat) {running : Running} (idle : running.awaiting = false) :
    running.cancel lost = running := by
  obtain ⟨owner, task, stage⟩ := running
  cases stage with
  | scheduled => rfl
  | cancelled => rfl
  | running standing =>
    cases standing with
    | suspended point => cases idle
    | finished result => rfl

/-- Only a task of the lost connection is cancelled, so a neighbour's emit goes on.
-/
theorem cancel_over (lost : Nat) {running : Running} (awaiting : running.awaiting = true)
    (ended : (running.cancel lost).over = true) : running.connection = some lost := by
  obtain ⟨owner, task, stage⟩ := running
  unfold Running.awaiting at awaiting
  split at awaiting
  · next point suspended =>
    simp only at suspended
    subst suspended
    by_contra other
    simp [Running.cancel, other, Running.over] at ended
  · cases awaiting

/-- What one of its tasks emits the connection has emitted. -/
theorem mem_emitted {connection : Nat} {process : Process} {running : Running}
    {event : AttackEvent} (member : running ∈ process.tasks)
    (emits : running.emits connection = some event) : event ∈ process.emitted connection :=
  List.mem_filterMap.mpr ⟨running, member, emits⟩

/-- The tasks that were over stay so with their events recorded. Those that the loss of
the connection cancels were awaiting an answer, and then Redis has what they had sent. -/
theorem settled_disconnect {port : Int} {connection lost : Nat} {process next : Process}
    {connectionDuration : Decimal} {stamp : Stamp} {executed : List (List Char)}
    (spares : Spares connection process (.disconnect lost connectionDuration stamp executed))
    (before : ∀ running ∈ process.tasks, ∀ event, running.emits connection = some event →
      running.over = true → Recorded AttackEvent.toJsonStr event next.memory)
    (taken : process.disconnect port lost connectionDuration stamp executed = some next) :
    Settled connection next := by
  obtain ⟨server, found, entries, buffer, _, tasks⟩ := disconnect_cases taken
  rw [Settled, tasks, List.forall_mem_append, List.forall_mem_map, List.forall_mem_map]
  refine ⟨?_, by simp [Running.over]⟩
  intro running member event emits ended
  rw [cancel_emits] at emits
  cases awaiting : running.awaiting with
  | false =>
    rw [cancel_kept lost awaiting] at ended
    exact before running member event emits ended
  | true =>
    have mine := cancel_over lost awaiting ended
    obtain rfl : lost = connection :=
      Option.some.inj (mine.symm.trans (emits_owner emits).1)
    have published := spares.cancelled connectionDuration stamp executed rfl running member
      event emits awaiting
    rw [← entries] at published
    exact .inl published

/-- A task that ends with this answer has its event recorded: it returned, or it raised,
which an answer that the queue handles excludes. -/
theorem settled_answer {connection index : Nat} {process next : Process} {reply : RedisReply}
    (sound : Sound process) (spares : Spares connection process (.answer index reply))
    (before : ∀ running ∈ process.tasks, ∀ event, running.emits connection = some event →
      running.over = true → Recorded AttackEvent.toJsonStr event next.memory)
    (taken : process.answer index reply = some next) : Settled connection next := by
  obtain ⟨owner, task, point, found, memory, _, tasks⟩ := answer_cases taken
  have waiting := sound.tasks _ (List.mem_of_getElem? found)
  have answered := resume_answered process.memory task point reply sound.serialize
    waiting.own (waiting.awaits point rfl)
  rw [Settled, tasks]
  apply forall_mem_set index before
  intro event emits ended
  obtain ⟨rfl, rfl⟩ : owner = some connection ∧ task = .emitEvent event := emits_owner emits
  rw [memory]
  generalize (honeypot (publish AttackEvent.toJsonStr)).resume process.memory (.emitEvent event)
    point reply = resumed at *
  obtain ⟨_, standing⟩ := resumed
  cases standing with
  | suspended later => cases ended
  | finished result =>
    cases result with
    | ok returned => exact answered.returned event rfl rfl
    | error raised =>
      have handled := spares.handled index reply _ point rfl found
      simp [answered.raised raised rfl] at handled

/-- A task that a step under the condition brings to its end has its event
recorded. -/
theorem settled_step {port : Int} {connection : Nat} {process next : Process}
    {happening : Happening} (sound : Sound process)
    (spares : Spares connection process happening) (settled : Settled connection process)
    (taken : (listening port).step process happening = some next) :
    Settled connection next := by
  have before : ∀ running ∈ process.tasks, ∀ event, running.emits connection = some event →
      running.over = true → Recorded AttackEvent.toJsonStr event next.memory :=
    fun running member event emits ended =>
      recorded_step sound spares (mem_emitted member emits)
        (settled running member event emits ended) taken
  cases happening with
  | accept =>
    obtain rfl := Option.some.inj taken
    exact before
  | receive called call =>
    obtain ⟨server, phase, found, admitted, connections, effect⟩ := receive_cases taken
    rcases effect with ⟨_, _, tasks⟩ | ⟨own, emits, memory, tasks⟩
    · rw [Settled, tasks]
      exact before
    · have text : server.Textual := sound.textual _ (List.mem_of_getElem? found)
      obtain ⟨_, _, point, suspended, _⟩ := enter_awaits process.memory (.emitEvent own)
        sound.serialize (by rintro _ ⟨rfl⟩; exact callback_serializes text own emits)
      rw [Settled, tasks, suspended, List.forall_mem_append]
      exact ⟨before, by simp [Running.over]⟩
  | disconnect lost connectionDuration stamp executed => exact settled_disconnect spares before taken
  | startFlushLoop =>
    obtain rfl := Option.some.inj taken
    rw [Settled, List.forall_mem_append]
    exact ⟨before, by simp [Running.over]⟩
  | begin index =>
    obtain ⟨owner, task, found, memory, _, tasks⟩ := begin_cases taken
    obtain ⟨_, _, point, suspended, _⟩ := enter_awaits process.memory task sound.serialize
      (sound.tasks _ (List.mem_of_getElem? found)).own
    rw [Settled, tasks, suspended]
    exact forall_mem_set index before (by simp [Running.over])
  | answer index reply => exact settled_answer sound spares before taken
  | elsewhere redis payloads =>
    obtain rfl := Option.some.inj taken
    exact before

/-- The tasks of a connection end when they are answered, and with their event
recorded when they return. -/
theorem sound_ends {connection : Nat} {process : Process} (sound : Sound process)
    (settled : Settled connection process) {running : Running}
    (member : running ∈ process.tasks) {event : AttackEvent}
    (emits : running.emits connection = some event) (standing : Standing)
    (stage : running.stage = .running standing) :
    Emitting AttackEvent.toJsonStr event process.memory standing where
  serialize := sound.serialize
  own := (sound.tasks running member).own event (emits_owner emits).2
  awaits := by
    rintro point rfl
    rw [← (emits_owner emits).2]
    exact (sound.tasks running member).awaits point stage
  returned := by
    rintro rfl
    exact settled running member event emits (by simp [Running.over, stage])

/-- In every run of the honeypot on any queue, with any number of connections,
whose moves all spare a connection, that connection has left one
`ssh_login_attempt` event for every attempt that was started and no
`ssh_connection` event, or exactly one if it was lost without an attempt; every
event whose task is over is in the stream or in the buffer, and every other
task ends when it is answered. -/
theorem spared_connections_accounted (port : Int) (queue : EventQueue (List Char))
    (connection : Nat) (schedule : List Happening) (final : Process)
    (condition : (listening port).Admitted (Spares connection) (started queue) schedule)
    (reached : (listening port).run (started queue) schedule = some final) :
    Accounted connection schedule final := by
  obtain ⟨sound, ledger, settled⟩ := (listening port).admitted_history (Spares connection)
    (fun past process => Sound process ∧ Ledger port connection past process ∧
      Settled connection process)
    (fun past process happening next kept spares taken =>
      ⟨sound_step kept.1 taken, ledger_step kept.2.1 taken,
        settled_step kept.1 spares kept.2.2 taken⟩)
    [] (started queue) final schedule
    ⟨⟨by simp [started], by simp [started], by simp [started]⟩,
      ⟨rfl, fun _ => rfl, by simp [started]⟩, by simp [Settled, started]⟩
    condition reached
  rw [List.nil_append] at ledger
  refine ⟨?_, ?_, ?_, settled, ?_⟩
  · rw [ledger.emitted]
    exact events_attempts port .init _
  · rw [ledger.emitted]
    cases known : final.connections[connection]? with
    | none => rw [ledger.absent known]; rfl
    | some present => exact (ledger.present present known).2.lost port
  · rw [ledger.emitted]
    exact events_types port .init _
  · intro running member event emits answers
    cases stage : running.stage with
    | cancelled => trivial
    | running standing =>
      exact emitting_ends event _ standing answers
        (sound_ends sound settled member emits standing stage)
    | scheduled =>
      exact emitting_ends event _ _ answers (enter_emitting event final.memory sound.serialize
        ((sound.tasks running member).own event (emits_owner emits).2))

/-- `InStream`, computed. -/
def inStream (event : AttackEvent) (entries : List (List Char)) : Bool :=
  event.toJsonStr.any fun payload => entries.contains payload

/-- The test for an event in the stream and its meaning agree, so the examples can
be evaluated. -/
theorem inStream_iff (event : AttackEvent) (entries : List (List Char)) :
    inStream event entries = true ↔ InStream event entries := by
  simp [inStream, InStream, Option.any_eq_true]

/-- A check that is enough for `Spares`: whichever connection an event that leaves the
buffer belongs to, it is in the stream. -/
def sparing (connection : Nat) (process : Process) : Happening → Bool
  | .disconnect _ _ _ executed =>
    process.tasks.all fun running => !running.awaiting ||
      (running.emits connection).all fun event =>
        inStream event (process.memory.queue.entries ++ executed)
  | .answer index reply =>
    match process.tasks[index]? with
    | some ⟨_, _, .running (.suspended point)⟩ =>
      unharmed process.memory point reply &&
        (displaced process.memory point reply).all fun event =>
          inStream event (process.memory.queue.entries ++ taskAppends point reply)
    | _ => true
  | _ => true

/-- The parts of the condition are about the loss of the connection and about answers, so
the other moves meet it. -/
theorem spares_of_sparing (connection : Nat) (process : Process) (happening : Happening)
    (checked : sparing connection process happening = true) :
    Spares connection process happening where
  cancelled := by
    rintro connectionDuration stamp executed rfl running member event emits awaiting
    have spared := List.all_eq_true.mp checked running member
    rw [awaiting, Bool.not_true, Bool.false_or, emits, Option.all_some] at spared
    exact (inStream_iff event _).mp spared
  handled := by
    rintro index reply task point rfl found
    simp only [sparing, found, Bool.and_eq_true] at checked
    exact checked.1
  displaced := by
    rintro index reply owner task point rfl found event leaves _
    simp only [sparing, found, Bool.and_eq_true] at checked
    have streamed := checked.2
    rw [leaves, Option.all_some] at streamed
    exact (inStream_iff event _).mp streamed

/-- A password attempt for the given user. -/
def tries (username : String) : Callback :=
  .validatePassword username.toList "secret".toList none .zero someStamp

/-- The connection is lost for all five attempts of the publish. -/
def gives (task : Nat) : List Happening :=
  let lost := .answer task (.failed .connectionError false)
  let slept := .answer task .answered
  [lost, slept, lost, slept, lost, slept, lost, slept, lost]

/-- Three attempts on one connection. The event of the first one is published; that of the
second one is buffered while Redis is away, and the periodic flush publishes it. The
connection is lost while the third one awaits its append, which Redis has executed. -/
def threeAttempts : List Happening :=
  [.startFlushLoop, .begin 0, .accept, .receive 0 (.connectionMade none none),
    .receive 0 (tries "root"), .answer 1 .answered, .receive 0 (tries "admin")] ++ gives 2 ++
  [.answer 0 .answered, .answer 0 .answered, .answer 0 .answered, .receive 0 (tries "guest"),
    .disconnect 0 .zero someStamp
      (((events 2222 [.connectionMade none none, tries "root", tries "admin", tries "guest"]).drop
        2).filterMap AttackEvent.toJsonStr)]

/-- All three attempts are in the stream, in the order in which they were started, and the
connection leaves no event of its own. -/
theorem spared_connections_accounted_attempts :
    ∃ final : Process,
      (listening 2222).run (started ⟨true, [], []⟩) threeAttempts = some final ∧
      Accounted 0 threeAttempts final ∧
      (final.emitted 0).countP (ofType "ssh_login_attempt") = 3 ∧
      (final.emitted 0).countP (ofType "ssh_connection") = 0 ∧
      (callbacks 0 threeAttempts).any Callback.isLoss = true ∧
      final.memory.queue.entries.length = 3 ∧ final.memory.buffer.items = [] := by
  have condition : (listening 2222).Admitted (Spares 0) (started ⟨true, [], []⟩) threeAttempts :=
    (listening 2222).admitted_of_check (Spares 0) (sparing 0) (spares_of_sparing 0) _ _
      (by decide +kernel)
  have facts : ((listening 2222).run (started ⟨true, [], []⟩) threeAttempts).map (fun final =>
      ((final.emitted 0).countP (ofType "ssh_login_attempt"),
        (final.emitted 0).countP (ofType "ssh_connection"), final.memory.queue.entries.length,
        final.memory.buffer.items.length)) = some (3, 0, 3, 0) := by
    decide +kernel
  obtain ⟨final, reached, counts⟩ := Option.map_eq_some_iff.mp facts
  simp only [Prod.mk.injEq] at counts
  obtain ⟨attempts, connections, entries, buffer⟩ := counts
  exact ⟨final, reached,
    spared_connections_accounted 2222 ⟨true, [], []⟩ 0 threeAttempts final condition reached,
    attempts, connections, by decide, entries, List.length_eq_zero_iff.mp buffer⟩

/-- A password attempt is in its reconnect to Redis when its connection is lost:
the coroutine is cancelled, nothing else of the connection runs, and neither an
attempt nor a connection is recorded. -/
theorem cancelled_attempt_unrecorded :
    ∃ (schedule : List Happening) (final : Process),
      (listening 2222).run (started ⟨false, [], []⟩) schedule = some final ∧
      (callbacks 0 schedule).countP Callback.isAttempt = 1 ∧
      (callbacks 0 schedule).any Callback.isLoss = true ∧
      (∀ running ∈ final.tasks, running.over = true) ∧
      final.memory.queue.entries = [] ∧ final.memory.buffer.items = [] ∧
      ¬ Accounted 0 schedule final := by
  let stamp : Stamp := someStamp
  let schedule : List Happening :=
    [.accept, .receive 0 (.connectionMade none none),
      .receive 0 (.validatePassword [] [] none .zero stamp), .disconnect 0 .zero stamp []]
  obtain ⟨final, reached, left⟩ : ∃ final,
      (listening 2222).run (started ⟨false, [], []⟩) schedule = some final ∧
      (∃ running event, final.tasks = [running] ∧ running.emits 0 = some event ∧
        running.over = true) ∧
      final.memory.queue.entries = [] ∧ final.memory.buffer.items = [] :=
    ⟨_, rfl, ⟨_, _, rfl, rfl, rfl⟩, rfl, rfl⟩
  obtain ⟨⟨running, event, tasks, emits, ended⟩, entries, buffer⟩ := left
  refine ⟨schedule, final, reached, rfl, rfl, by simp [tasks, ended], entries, buffer, ?_⟩
  intro accounted
  rcases accounted.recorded running (by simp [tasks]) event emits ended with
    ⟨payload, _, stored⟩ | buffered
  · simp [entries] at stored
  · simp [buffer] at buffered

end Honeywatch.Honeypot.Ssh
