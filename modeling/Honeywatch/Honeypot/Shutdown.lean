import Honeywatch.Collector.Publish
import Honeywatch.Honeypot.Keeping

/-!
# Stopping a honeypot

`BaseHoneypot.start_flush_loop` and `stop_flush_loop` and the `stop` of a
honeypot, over the emits of its connections and one event queue that the other
honeypots of the process publish to. `stop` cancels the periodic flush at its
await, awaits it, and then waits for its server to close; everything else that
runs on the honeypot may go on until `stop` returns. Which of the connections
the framework lets finish, and which it cancels, is left open.

Nothing in `stop` looks at the buffer. What was emitted before it and is in
the buffer or with an unfinished emit when `stop` returns has not been
published by it.
-/

namespace Honeywatch.Honeypot.Shutdown

open Transition Cooperative Collector EventQueue

variable {Event Payload : Type}

/-- Where a task stands. A task that was created waits for its first turn. -/
inductive Stage (Event Payload : Type)
  | scheduled
  | running (standing : Progress (TaskPoint Event (PublishPoint Payload)) (Except Raised Unit))
  | cancelled

/-- A call of `emit_event` or of `_periodic_flush`, and where it stands. -/
structure Running (Event Payload : Type) where
  task : Task Event
  stage : Stage Event Payload

/-- How far `stop` has come: not called, awaiting, returned or raised. -/
inductive Phase
  | serving
  | stopping
  | stopped
  | failed
deriving DecidableEq

/-- A honeypot: its memory, its tasks in the order in which they came, and
`_flush_task`. What `stop` found accepted is recorded for use in statements. -/
structure Process (Event Payload : Type) where
  memory : Memory Event (EventQueue Payload)
  tasks : List (Running Event Payload)
  flushTask : Option Nat
  phase : Phase
  accepted : List Event

/-- What happens to a honeypot. A connection calls `emit_event` or loses a call
of it to a cancellation; the other honeypots work on the shared queue, where
Redis may also execute a command whose call was cancelled. -/
inductive Happening (Event Payload : Type)
  | emitEvent (event : Event)
  | startFlushLoop
  | begin (task : Nat)
  | answer (task : Nat) (reply : RedisReply)
  | cancel (task : Nat)
  | elsewhere (redis : Bool) (payloads : List Payload)
  | stop
  | stopReturns

/-- The event that `emit_event` has accepted: it was passed to a call that has
neither raised nor been cancelled. -/
def Running.accepts : Running Event Payload → Option Event
  | ⟨.emitEvent event, .scheduled⟩ => some event
  | ⟨.emitEvent event, .running (.suspended _)⟩ => some event
  | ⟨.emitEvent event, .running (.finished (.ok ()))⟩ => some event
  | _ => none

/-- The call has returned normally. -/
def Running.returned : Running Event Payload → Bool
  | ⟨_, .running (.finished (.ok ()))⟩ => true
  | _ => false

/-- A task is created. -/
def Process.create (process : Process Event Payload) (task : Task Event) :
    Process Event Payload :=
  { process with tasks := process.tasks ++ [⟨task, .scheduled⟩] }

/-- `start_flush_loop`. -/
def Process.startFlushLoop (process : Process Event Payload) : Process Event Payload :=
  { process.create .periodicFlush with flushTask := some process.tasks.length }

/-- `stop_flush_loop`: the tasks after it. Cancelling a task that has ended does
nothing, and awaiting it raises what has ended it. -/
def Process.stopFlushLoop (process : Process Event Payload) :
    Except Raised (List (Running Event Payload)) :=
  match process.flushTask with
  | none => .ok process.tasks
  | some index =>
    match process.tasks[index]? with
    | some ⟨_, .running (.finished (.error raised))⟩ => .error raised
    | some ⟨_, .running (.finished (.ok ()))⟩ => .ok process.tasks
    | some ⟨task, _⟩ => .ok (process.tasks.set index ⟨task, .cancelled⟩)
    | none => .ok process.tasks

/-- `stop` is called and comes to the closing of its server, or raises. -/
def Process.stop (process : Process Event Payload) : Process Event Payload :=
  let accepted := process.tasks.filterMap Running.accepts
  match process.stopFlushLoop with
  | .ok tasks => { process with tasks := tasks, phase := .stopping, accepted := accepted }
  | .error _ => { process with phase := .failed, accepted := accepted }

variable (toJsonStr : Event → Option Payload)

/-- A created task has its first turn. -/
def Process.begin (process : Process Event Payload) (index : Nat) :
    Option (Process Event Payload) :=
  match process.tasks[index]? with
  | some ⟨task, .scheduled⟩ =>
    let entered := (honeypot (publish toJsonStr)).enter process.memory task
    some { process with
      memory := entered.1
      tasks := process.tasks.set index ⟨task, .running entered.2⟩ }
  | _ => none

/-- The await of a suspended task is answered. -/
def Process.answer (process : Process Event Payload) (index : Nat) (reply : RedisReply) :
    Option (Process Event Payload) :=
  match process.tasks[index]? with
  | some ⟨task, .running (.suspended point)⟩ =>
    let resumed := (honeypot (publish toJsonStr)).resume process.memory task point reply
    some { process with
      memory := resumed.1
      tasks := process.tasks.set index ⟨task, .running resumed.2⟩ }
  | _ => none

/-- A call of `emit_event` is cancelled before it has ended. -/
def Process.cancel (process : Process Event Payload) (index : Nat) :
    Option (Process Event Payload) :=
  match process.tasks[index]? with
  | some ⟨.emitEvent _, .running (.finished _)⟩ => none
  | some ⟨.emitEvent event, _⟩ =>
    some { process with tasks := process.tasks.set index ⟨.emitEvent event, .cancelled⟩ }
  | _ => none

/-- One honeypot from its start on. `stop` is called once. -/
def system : System (Process Event Payload) (Happening Event Payload) where
  step process happening :=
    match happening with
    | .emitEvent event => some (process.create (.emitEvent event))
    | .startFlushLoop =>
      if process.phase = .serving then some process.startFlushLoop else none
    | .begin index => process.begin toJsonStr index
    | .answer index reply => process.answer toJsonStr index reply
    | .cancel index => process.cancel index
    | .elsewhere redis payloads =>
      some { process with
        memory :=
          { process.memory with
            queue :=
              { process.memory.queue with
                redis := redis
                entries := process.memory.queue.entries ++ payloads } } }
    | .stop => if process.phase = .serving then some process.stop else none
    | .stopReturns =>
      if process.phase = .stopping then some { process with phase := .stopped } else none

/-- A honeypot with an empty buffer on any queue. -/
def started (queue : EventQueue Payload) : Process Event Payload where
  memory := { buffer := .empty, queue, evicted := [] }
  tasks := []
  flushTask := none
  phase := .serving
  accepted := []

/-- An entry of the stream carries the event. -/
def InStream (queue : EventQueue Payload) (event : Event) : Prop :=
  ∃ payload ∈ queue.entries, toJsonStr event = some payload

/-- What a suspended publish sends is the serialization of its event. -/
def Sending (event : Event) : PublishPoint Payload → Prop
  | .adding _ payload => toJsonStr event = some payload
  | _ => True

/-- A publish after one segment. -/
structure Segment (queue : EventQueue Payload) (event : Event)
    (advanced : EventQueue Payload × PublishProgress Payload) : Prop where
  entries : queue.entries ⊆ advanced.1.entries
  sends : ∀ point, advanced.2 = .suspended point → Sending toJsonStr event point
  returned : ∀ entryId, advanced.2 = .finished (.ok entryId) → InStream toJsonStr advanced.1 event

variable {toJsonStr}

/-- Entries are only added, so an event stays in the stream. -/
theorem InStream.mono {queue after : EventQueue Payload} {event : Event}
    (grows : queue.entries ⊆ after.entries) (streamed : InStream toJsonStr queue event) :
    InStream toJsonStr after event := by
  obtain ⟨payload, member, serialized⟩ := streamed
  exact ⟨payload, grows member, serialized⟩

/-- Sending suspends at the append of the serialization, or raises, and the stream
stays as it is until the answer. -/
theorem send_segment (event : Event) (attempt : Nat) (queue logged : EventQueue Payload)
    (kept : logged.entries = queue.entries) :
    Segment toJsonStr queue event (logged.send toJsonStr event attempt) := by
  unfold send
  split
  · split
    · exact ⟨by simp [kept], by simp, by simp⟩
    · next payload serialized =>
      refine ⟨by simp [kept], ?_, by simp⟩
      rintro _ ⟨rfl⟩
      exact serialized
  · exact ⟨by simp [kept], by simp, by simp⟩

/-- An attempt to publish changes nothing before its first await: it connects, or it
sends. -/
theorem attempt_segment (event : Event) (attempt : Nat) (queue : EventQueue Payload) :
    Segment toJsonStr queue event (queue.attemptPublish toJsonStr event attempt) := by
  unfold attemptPublish
  split
  · split
    · exact send_segment event attempt queue queue rfl
    · refine ⟨List.Subset.refl _, ?_, by simp⟩
      rintro _ ⟨rfl⟩
      trivial
  · exact ⟨List.Subset.refl _, by simp, by simp⟩

/-- A failure pauses or raises; what the failed command has appended all the same is
in the stream. -/
theorem failed_segment (event : Event) (attempt : Nat) (failure : RedisFailure)
    (queue logged : EventQueue Payload) (grows : queue.entries ⊆ logged.entries) :
    Segment toJsonStr queue event (logged.publishFailed attempt failure) := by
  rcases publishFailed_cases attempt failure logged with
    ⟨_, dropped, ⟨_, paused⟩ | raised⟩ | ⟨_, left⟩
  · refine ⟨by rw [dropped]; exact grows, ?_, by simp [paused]⟩
    intro point suspended
    obtain rfl : PublishPoint.sleeping attempt = point := by simpa [paused] using suspended
    trivial
  · exact ⟨by rw [dropped]; exact grows, by simp [raised], by simp [raised]⟩
  · exact ⟨by rw [left]; exact grows, by simp [left], by simp [left]⟩

/-- Every segment of a publish after its first. If it returns, the entry it returns
for is in the stream. -/
theorem resume_segment (queue : EventQueue Payload) (event : Event)
    (point : PublishPoint Payload) (reply : RedisReply) (sends : Sending toJsonStr event point) :
    Segment toJsonStr queue event ((publish toJsonStr).resume queue event point reply) := by
  cases point with
  | connecting attempt =>
    cases reply with
    | answered => exact send_segment event attempt queue _ rfl
    | failed failure executed =>
      simp only [publish]
      split
      · exact send_segment event attempt queue _ rfl
      · exact failed_segment event attempt failure queue _ (List.Subset.refl _)
  | adding attempt payload =>
    cases reply with
    | answered =>
      refine ⟨by simp [publish, append], by simp [publish], ?_⟩
      intro entryId _
      exact ⟨payload, by simp [publish, append], sends⟩
    | failed failure executed =>
      apply failed_segment event attempt failure queue
      cases executed with
      | false => exact List.Subset.refl _
      | true => exact List.subset_append_left _ _
  | sleeping attempt => exact attempt_segment event (attempt + 1) queue

variable (toJsonStr) in
/-- The publish of the event queue keeps its word, whatever Redis answers: an event
is published only where its serialization is in the stream. -/
theorem publish_keepsWord :
    KeepsWord (publish toJsonStr) (InStream toJsonStr) (Sending toJsonStr) where
  entered queue own _ streamed := streamed.mono (attempt_segment own 0 queue).entries
  resumed queue own point reply _ sends streamed :=
    streamed.mono (resume_segment queue own point reply sends).entries
  sendsFirst queue own := (attempt_segment own 0 queue).sends
  sendsNext queue own point reply next sends :=
    (resume_segment queue own point reply sends).sends next
  returnsAtOnce queue own := (attempt_segment own 0 queue).returned
  returns queue own point reply entryId sends :=
    (resume_segment queue own point reply sends).returned entryId

variable (toJsonStr) in
/-- What this move pops off the buffer. -/
def Process.pops (process : Process Event Payload) : Happening Event Payload → Option Event
  | .answer index reply =>
    match process.tasks[index]? with
    | some ⟨_, .running (.suspended point)⟩ =>
      popped (publish toJsonStr) process.memory point reply
    | _ => none
  | _ => none

/-- Every suspended task awaits what belongs to it. -/
def Process.Sound (toJsonStr : Event → Option Payload) (process : Process Event Payload) : Prop :=
  ∀ running ∈ process.tasks, ∀ point, running.stage = .running (.suspended point) →
    Awaiting (Sending toJsonStr) running.task point

/-- What one move does. -/
structure Stepped (toJsonStr : Event → Option Payload) (process : Process Event Payload)
    (happening : Happening Event Payload) (next : Process Event Payload) : Prop where
  retains : Retains (InStream toJsonStr) (process.pops toJsonStr happening) process.memory
    next.memory
  sound : next.Sound toJsonStr
  returned : ∀ running ∈ next.tasks, ∀ event, running.task = .emitEvent event →
    running.returned = true →
    running ∈ process.tasks ∨ Safe (InStream toJsonStr) next.memory event
  lasting : ∀ running ∈ process.tasks, ∃ later ∈ next.tasks, later.task = running.task
  accepted : next.accepted = process.accepted ∨
    happening = .stop ∧ next.accepted = process.tasks.filterMap Running.accepts

/-- A task that goes on takes the place it had, so each task is found again behind a
step. -/
theorem set_lasting {tasks : List (Running Event Payload)} {index : Nat} {task : Task Event}
    {stage : Stage Event Payload} (found : tasks[index]? = some ⟨task, stage⟩)
    (later : Stage Event Payload) (running : Running Event Payload) (member : running ∈ tasks) :
    ∃ other ∈ tasks.set index ⟨task, later⟩, other.task = running.task := by
  obtain ⟨position, bounded, rfl⟩ := List.mem_iff_getElem.mp member
  by_cases same : index = position
  · subst same
    refine ⟨⟨task, later⟩, List.mem_set bounded _, ?_⟩
    rw [List.getElem?_eq_getElem bounded, Option.some.injEq] at found
    simp [found]
  · refine ⟨tasks[position], ?_, rfl⟩
    rw [List.mem_iff_getElem]
    exact ⟨position, by simpa using bounded, by simp [List.getElem_set_ne same]⟩

/-- A task goes on, and the others stay as they are. What has to be shown of the
step is what this task does to the memory, and what it has to show for a return. -/
theorem set_stepped {process : Process Event Payload} {happening : Happening Event Payload}
    {index : Nat} {task : Task Event} {stage later : Stage Event Payload}
    {memory : Memory Event (EventQueue Payload)}
    (sound : process.Sound toJsonStr)
    (found : process.tasks[index]? = some ⟨task, stage⟩)
    (retains : Retains (InStream toJsonStr) (process.pops toJsonStr happening) process.memory
      memory)
    (awaits : ∀ point, later = .running (.suspended point) →
      Awaiting (Sending toJsonStr) task point)
    (returned : ∀ event, task = .emitEvent event → later = .running (.finished (.ok ())) →
      Safe (InStream toJsonStr) memory event) :
    Stepped toJsonStr process happening
      { process with memory := memory, tasks := process.tasks.set index ⟨task, later⟩ } where
  retains := retains
  sound := by
    intro running member point suspended
    rcases List.mem_or_eq_of_mem_set member with other | rfl
    · exact sound running other point suspended
    · exact awaits point suspended
  returned := by
    intro running member event own ended
    rcases List.mem_or_eq_of_mem_set member with other | rfl
    · exact .inl other
    · right
      apply returned event own
      unfold Running.returned at ended
      split at ended
      · next same =>
        cases same
        rfl
      · simp at ended
  lasting := set_lasting found later
  accepted := .inl rfl

/-- A move that leaves memory and tasks alone, or adds a task that waits; neither
returns anything to anyone. -/
theorem added_stepped {process next : Process Event Payload}
    {happening : Happening Event Payload} (sound : process.Sound toJsonStr)
    (added : List (Task Event))
    (tasks : next.tasks = process.tasks ++ added.map fun task => ⟨task, .scheduled⟩)
    (retains : Retains (InStream toJsonStr) (process.pops toJsonStr happening) process.memory
      next.memory)
    (accepted : next.accepted = process.accepted) :
    Stepped toJsonStr process happening next where
  retains := retains
  sound := by
    intro running member point suspended
    rw [tasks, List.mem_append] at member
    rcases member with old | new
    · exact sound running old point suspended
    · obtain ⟨task, _, rfl⟩ := List.mem_map.mp new
      cases suspended
  returned := by
    intro running member event _ ended
    rw [tasks, List.mem_append] at member
    rcases member with old | new
    · exact .inl old
    · obtain ⟨task, _, rfl⟩ := List.mem_map.mp new
      simp [Running.returned] at ended
  lasting := by
    intro running member
    exact ⟨running, by simp [tasks, member], rfl⟩
  accepted := .inl accepted

/-- Stopping the flush loop cancels at most one task, the one that the attribute
holds, if it has not ended before. -/
theorem stopFlushLoop_cases {process : Process Event Payload}
    {tasks : List (Running Event Payload)} (stopped : process.stopFlushLoop = .ok tasks) :
    tasks = process.tasks ∨
      ∃ index task stage, process.tasks[index]? = some ⟨task, stage⟩ ∧
        tasks = process.tasks.set index ⟨task, .cancelled⟩ := by
  unfold Process.stopFlushLoop at stopped
  split at stopped
  · cases stopped
    exact .inl rfl
  · next index _ =>
    split at stopped
    · cases stopped
    · cases stopped
      exact .inl rfl
    · next task stage _ _ found =>
      cases stopped
      exact .inr ⟨index, task, stage, found, rfl⟩
    · cases stopped
      exact .inl rfl

/-- Stopping touches neither stream nor buffer; what is buffered then is what a
process that ends leaves behind. -/
theorem stop_stepped {process : Process Event Payload} (sound : process.Sound toJsonStr) :
    Stepped toJsonStr process .stop process.stop := by
  unfold Process.stop
  cases stopped : process.stopFlushLoop with
  | error raised =>
    have same : Stepped toJsonStr process .stop process :=
      added_stepped sound [] (by simp) (.refl _) rfl
    exact ⟨same.retains, same.sound, same.returned, same.lasting, .inr ⟨rfl, rfl⟩⟩
  | ok tasks =>
    rcases stopFlushLoop_cases stopped with rfl | ⟨index, task, stage, found, rfl⟩
    · have same : Stepped toJsonStr process .stop process :=
        added_stepped sound [] (by simp) (.refl _) rfl
      exact ⟨same.retains, same.sound, same.returned, same.lasting, .inr ⟨rfl, rfl⟩⟩
    · have cancelled : Stepped toJsonStr process .stop
          { process with tasks := process.tasks.set index ⟨task, .cancelled⟩ } :=
        set_stepped sound found (.refl _) (by simp) (by simp)
      exact ⟨cancelled.retains, cancelled.sound, cancelled.returned, cancelled.lasting,
        .inr ⟨rfl, rfl⟩⟩

/-- Every move of a honeypot. The cases are the moves, and each is a task that goes
on, one that is added, or a call of `stop`. -/
theorem step_stepped {process next : Process Event Payload}
    {happening : Happening Event Payload} (sound : process.Sound toJsonStr)
    (taken : (system toJsonStr).step process happening = some next) :
    Stepped toJsonStr process happening next := by
  cases happening with
  | emitEvent event =>
    cases taken
    exact added_stepped sound [.emitEvent event] rfl (.refl _) rfl
  | startFlushLoop =>
    simp only [system] at taken
    split at taken
    · cases taken
      exact added_stepped sound [.periodicFlush] rfl (.refl _) rfl
    · cases taken
  | begin index =>
    simp only [system, Process.begin] at taken
    split at taken
    · next task found =>
      cases taken
      have entered := enter_advanced (publish_keepsWord toJsonStr) process.memory task
      refine set_stepped sound found entered.retains ?_ ?_
      · intro point suspended
        exact entered.awaits point (Stage.running.inj suspended)
      · intro event own ended
        exact entered.returned event own (Stage.running.inj ended)
    · cases taken
  | answer index reply =>
    simp only [system, Process.answer] at taken
    split at taken
    · next task point found =>
      cases taken
      have awaiting := sound _ (List.mem_of_getElem? found) point rfl
      have resumed :=
        resume_advanced (publish_keepsWord toJsonStr) process.memory task point reply awaiting
      refine set_stepped sound found ?_ ?_ ?_
      · simp only [Process.pops, found]
        exact resumed.retains
      · intro next suspended
        exact resumed.awaits next (Stage.running.inj suspended)
      · intro event own ended
        exact resumed.returned event own (Stage.running.inj ended)
    · cases taken
  | cancel index =>
    simp only [system, Process.cancel] at taken
    split at taken
    · cases taken
    · next event stage _ found =>
      cases taken
      exact set_stepped sound found (.refl _) (by simp) (by simp)
    · cases taken
  | elsewhere redis payloads =>
    cases taken
    refine added_stepped sound [] (by simp) (.requeued _ ?_) rfl
    intro event streamed
    exact streamed.mono (List.subset_append_left _ _)
  | stop =>
    simp only [system] at taken
    split at taken
    · cases taken
      exact stop_stepped sound
    · cases taken
  | stopReturns =>
    simp only [system] at taken
    split at taken
    · cases taken
      exact added_stepped sound [] (by simp) (.refl _) rfl
    · cases taken

/-- The event is in the stream, or a full buffer has discarded it. -/
def Process.Settled (toJsonStr : Event → Option Payload) (process : Process Event Payload)
    (event : Event) : Prop :=
  InStream toJsonStr process.memory.queue event ∨ event ∈ process.memory.evicted

/-- Every accepted event is in the stream or was discarded. -/
def Process.Drained (toJsonStr : Event → Option Payload) (process : Process Event Payload) :
    Prop :=
  ∀ event ∈ process.accepted, process.Settled toJsonStr event

/-- The event is still in the buffer, or with a call of `emit_event` that has
not returned. -/
def Process.Holds (process : Process Event Payload) (event : Event) : Prop :=
  event ∈ process.memory.buffer.items ∨
    ∃ running ∈ process.tasks, running.task = .emitEvent event ∧ running.returned = false

/-- An event that a flush pops in this move is in the stream by then. -/
def PopsPublished (toJsonStr : Event → Option Payload) (process : Process Event Payload)
    (happening : Happening Event Payload) : Prop :=
  ∀ event, process.pops toJsonStr happening = some event →
    ∀ next, (system toJsonStr).step process happening = some next →
      InStream toJsonStr next.memory.queue event

/-- What holds of a honeypot whose flushes pop only what is published. -/
structure Accounted (toJsonStr : Event → Option Payload) (process : Process Event Payload) :
    Prop where
  sound : process.Sound toJsonStr
  returned : ∀ running ∈ process.tasks, ∀ event, running.task = .emitEvent event →
    running.returned = true → Safe (InStream toJsonStr) process.memory event
  accepted : ∀ event ∈ process.accepted, ∃ running ∈ process.tasks,
    running.task = .emitEvent event

/-- An accepted event belongs to a call of `emit_event`. -/
theorem task_of_accepts {running : Running Event Payload} {event : Event}
    (accepts : running.accepts = some event) : running.task = .emitEvent event := by
  unfold Running.accepts at accepts
  split at accepts <;> cases accepts <;> rfl

/-- A move that pops only what is published keeps the accounts: every event whose
emit has returned is in the stream, in the buffer, or was discarded. -/
theorem accounted_step {process next : Process Event Payload}
    {happening : Happening Event Payload} (accounted : Accounted toJsonStr process)
    (published : PopsPublished toJsonStr process happening)
    (taken : (system toJsonStr).step process happening = some next) :
    Accounted toJsonStr next := by
  have stepped := step_stepped accounted.sound taken
  have safe : ∀ event, Safe (InStream toJsonStr) process.memory event →
      Safe (InStream toJsonStr) next.memory event := by
    intro event held
    by_cases gone : process.pops toJsonStr happening = some event
    · exact .inl (published event gone next taken)
    · exact stepped.retains.safe held gone
  refine ⟨stepped.sound, ?_, ?_⟩
  · intro running member event own ended
    rcases stepped.returned running member event own ended with before | now
    · exact safe event (accounted.returned running before event own ended)
    · exact now
  · intro event member
    have owned : ∃ running ∈ process.tasks, running.task = .emitEvent event := by
      rcases stepped.accepted with same | ⟨_, found⟩
      · exact accounted.accepted event (same ▸ member)
      · rw [found] at member
        obtain ⟨running, present, accepts⟩ := List.mem_filterMap.mp member
        exact ⟨running, present, task_of_accepts accepts⟩
    obtain ⟨running, present, own⟩ := owned
    obtain ⟨later, stays, same⟩ := stepped.lasting running present
    exact ⟨later, stays, same.trans own⟩

/-- The accounts hold in every state of a run whose flushes pop only what is
published. -/
theorem accounted_run (queue : EventQueue Payload) (schedule : List (Happening Event Payload))
    (process : Process Event Payload)
    (published : (system toJsonStr).Admitted (PopsPublished toJsonStr) (started queue) schedule)
    (reached : (system toJsonStr).run (started queue) schedule = some process) :
    Accounted toJsonStr process := by
  have initially : Accounted toJsonStr (started queue) :=
    ⟨by simp [Process.Sound, started], by simp [started], by simp [started]⟩
  exact (system toJsonStr).admitted_invariant _ (Accounted toJsonStr)
    (fun _ _ _ accounted pops taken => accounted_step accounted pops taken)
    _ process schedule initially published reached

/-- What is in the stream or discarded stays so, whatever the tasks and `stop` do.
-/
theorem settled_step {process next : Process Event Payload}
    {happening : Happening Event Payload} (sound : process.Sound toJsonStr)
    (taken : (system toJsonStr).step process happening = some next) (event : Event)
    (settled : process.Settled toJsonStr event) : next.Settled toJsonStr event := by
  have stepped := step_stepped sound taken
  rcases settled with streamed | discarded
  · exact .inl (stepped.retains.stream event streamed)
  · exact .inr (stepped.retains.evicted event discarded)

/-- An event that has been accounted for and is nowhere held is in the stream or
was discarded. -/
theorem settled_of_unheld {process : Process Event Payload}
    (accounted : Accounted toJsonStr process) {event : Event}
    (owned : ∃ running ∈ process.tasks, running.task = .emitEvent event)
    (unheld : ¬ process.Holds event) : process.Settled toJsonStr event := by
  obtain ⟨running, member, own⟩ := owned
  have ended : running.returned = true := by
    by_contra unreturned
    exact unheld (.inr ⟨running, member, own, Bool.eq_false_of_not_eq_true unreturned⟩)
  rcases accounted.returned running member event own ended with streamed | buffered | discarded
  · exact .inl streamed
  · exact absurd (.inl buffered) unheld
  · exact .inr discarded

/-- Once `stop` has been called, what it found accepted does not change: it is
recorded at the call and by nothing after it. -/
theorem stopping_step {process next : Process Event Payload}
    {happening : Happening Event Payload} (called : process.phase ≠ .serving)
    (taken : (system toJsonStr).step process happening = some next) :
    next.phase ≠ .serving ∧ next.accepted = process.accepted := by
  cases happening with
  | emitEvent event =>
    cases taken
    exact ⟨called, rfl⟩
  | startFlushLoop => simp [system, called] at taken
  | begin index =>
    simp only [system, Process.begin] at taken
    split at taken <;> cases taken
    exact ⟨called, rfl⟩
  | answer index reply =>
    simp only [system, Process.answer] at taken
    split at taken <;> cases taken
    exact ⟨called, rfl⟩
  | cancel index =>
    simp only [system, Process.cancel] at taken
    split at taken <;> cases taken
    exact ⟨called, rfl⟩
  | elsewhere redis payloads =>
    cases taken
    exact ⟨called, rfl⟩
  | stop => simp [system, called] at taken
  | stopReturns =>
    simp only [system] at taken
    split at taken <;> cases taken
    exact ⟨by simp, rfl⟩

/-- What `stop` finds accepted, and that it was called. -/
theorem stop_found (process : Process Event Payload) :
    process.stop.phase ≠ .serving ∧
      process.stop.accepted = process.tasks.filterMap Running.accepts := by
  unfold Process.stop
  cases process.stopFlushLoop <;> simp

/-- Redis answers, and no other publish loses the shared client. -/
def Happening.succeeds : Happening Event Payload → Bool
  | .answer _ reply => decide (reply = .answered)
  | .elsewhere redis _ => redis
  | _ => true

/-- The call of `stop` leaves stream and buffer as they are. -/
theorem stop_memory (process : Process Event Payload) : process.stop.memory = process.memory := by
  unfold Process.stop
  cases process.stopFlushLoop <;> rfl

/-- If whatever the honeypot still holds of the accepted events when `stop` is called is in
the stream already or was discarded, it is drained in every state after it, whatever
happens while `stop` awaits: an event that is not held is settled, and what is settled
stays so. -/
theorem spared_stop_drains {process final : Process Event Payload}
    (accounted : Accounted toJsonStr process)
    (spared : ∀ running ∈ process.tasks, ∀ event, running.accepts = some event →
      process.Holds event → process.Settled toJsonStr event)
    (during : List (Happening Event Payload))
    (stops : (system toJsonStr).run process (.stop :: during) = some final) :
    final.Drained toJsonStr := by
  obtain ⟨stopped, taken, later⟩ := ((system toJsonStr).run_cons_iff _ _ _ _).mp stops
  have stepped := step_stepped accounted.sound taken
  have settles : ∀ event ∈ process.tasks.filterMap Running.accepts,
      stopped.Settled toJsonStr event := by
    intro event member
    obtain ⟨running, present, accepts⟩ := List.mem_filterMap.mp member
    refine settled_step accounted.sound taken event ?_
    by_cases held : process.Holds event
    · exact spared running present event accepts held
    · exact settled_of_unheld accounted ⟨running, present, task_of_accepts accepts⟩ held
  obtain rfl : process.stop = stopped := by
    simp only [system] at taken
    split at taken <;> cases taken
    rfl
  obtain ⟨called, found⟩ := stop_found process
  have kept := (system toJsonStr).run_invariant
    (fun state => state.Sound toJsonStr ∧ state.phase ≠ .serving ∧ state.Drained toJsonStr)
    (fun state happening next invariant moved => by
      obtain ⟨sound, serving, drained⟩ := invariant
      obtain ⟨still, same⟩ := stopping_step serving moved
      refine ⟨(step_stepped sound moved).sound, still, ?_⟩
      intro event member
      exact settled_step sound moved event (drained event (same ▸ member)))
    _ final during ⟨stepped.sound, called, fun event member => settles event (found ▸ member)⟩
    later
  exact kept.2.2

/-- Where `stop` may return at once, it is drained then only if what was accepted was
settled when it was called: the call itself publishes nothing. -/
theorem settled_of_stop_drains {process final : Process Event Payload}
    (stops : (system toJsonStr).run process [.stop, .stopReturns] = some final)
    (drained : final.Drained toJsonStr) {running : Running Event Payload} {event : Event}
    (member : running ∈ process.tasks) (accepts : running.accepts = some event) :
    process.Settled toJsonStr event := by
  obtain ⟨stopped, taken, later⟩ := ((system toJsonStr).run_cons_iff _ _ _ _).mp stops
  obtain rfl : process.stop = stopped := by
    simp only [system] at taken
    split at taken <;> cases taken
    rfl
  obtain ⟨returned, taken, ended⟩ := ((system toJsonStr).run_cons_iff _ _ _ _).mp later
  obtain rfl := Option.some.inj ended
  obtain ⟨-, rfl⟩ : process.stop.phase = .stopping ∧
      { process.stop with phase := .stopped } = returned := by
    simpa [system] using taken
  have settled := drained event ((stop_found process).2 ▸ List.mem_filterMap.mpr
    ⟨running, member, accepts⟩)
  rw [Process.Settled, ← stop_memory process]
  exact settled

/-- For every run of a honeypot on any queue, with any emits, cancellations and answers of
Redis, in which the flushes pop only what is published, and which comes to a call of `stop`
that gets past the flush loop: whatever happens until `stop` returns, with every publish
succeeding, every event that was accepted before the call is in the stream or was discarded
by a full buffer then, exactly when those of them that the buffer or a call of `emit_event`
still has at the call of `stop` are so already. -/
theorem stop_drains_iff (toJsonStr : Event → Option Payload) (queue : EventQueue Payload)
    (schedule : List (Happening Event Payload)) (process stopping : Process Event Payload)
    (published : (system toJsonStr).Admitted (PopsPublished toJsonStr) (started queue) schedule)
    (reached : (system toJsonStr).run (started queue) schedule = some process)
    (called : (system toJsonStr).step process .stop = some stopping)
    (past : stopping.phase = .stopping) :
    (∀ (during : List (Happening Event Payload)) (final : Process Event Payload),
        (∀ happening ∈ during, happening.succeeds = true) →
        (system toJsonStr).run process (.stop :: during ++ [.stopReturns]) = some final →
        final.Drained toJsonStr) ↔
      ∀ running ∈ process.tasks, ∀ event, running.accepts = some event →
        process.Holds event → process.Settled toJsonStr event := by
  constructor
  · intro drains running member event accepts _
    have stops : (system toJsonStr).run process [.stop, .stopReturns] =
        some { stopping with phase := .stopped } := by
      refine ((system toJsonStr).run_cons_iff _ _ _ _).mpr ⟨stopping, called, ?_⟩
      simp [System.run, system, past]
    exact settled_of_stop_drains stops (drains [] _ (by simp) stops) member accepts
  · intro spared during final _ stops
    rw [List.cons_append] at stops
    exact spared_stop_drains (accounted_run queue schedule process published reached) spared _ stops

/-- A move that pops nothing. -/
theorem popsPublished_quiet {process : Process Event Payload}
    {happening : Happening Event Payload} (quiet : process.pops toJsonStr happening = none) :
    PopsPublished toJsonStr process happening := by
  intro event gone
  simp [quiet] at gone

/-- Redis executes the append of the first event and the connection is lost before it
answers; the second event is published over a new one. -/
def executedUnheard : List (Happening Nat Nat) :=
  [.emitEvent 0, .begin 0, .answer 0 (.failed .connectionError true), .emitEvent 1, .begin 1,
    .answer 1 .answered, .answer 1 .answered]

/-- The emit of the first event still waits for its next attempt when `stop` is called, but
the event is in the stream. So nothing is lost, whether it comes to that attempt or not. -/
theorem stop_drains_iff_executed :
    ∃ process stopping : Process Nat Nat,
      (system some).run (started ⟨true, [], []⟩) executedUnheard = some process ∧
      (system some).step process .stop = some stopping ∧ stopping.accepted = [0, 1] ∧
      process.Holds 0 ∧
      ∀ (during : List (Happening Nat Nat)) (final : Process Nat Nat),
        (∀ happening ∈ during, happening.succeeds = true) →
        (system some).run process (.stop :: during ++ [.stopReturns]) = some final →
        final.Drained some := by
  have published : (system some).Admitted (PopsPublished some) (started ⟨true, [], []⟩)
      executedUnheard := by
    refine ⟨popsPublished_quiet rfl, fun _ created => ⟨popsPublished_quiet rfl, fun _ sending =>
      ⟨popsPublished_quiet ?_, fun _ lost => ⟨popsPublished_quiet rfl, fun _ again =>
        ⟨popsPublished_quiet rfl, fun _ connecting => ⟨popsPublished_quiet ?_, fun _ resending =>
          ⟨popsPublished_quiet ?_, fun _ _ => trivial⟩⟩⟩⟩⟩⟩⟩
    · cases created; cases sending
      rfl
    · cases created; cases sending; cases lost; cases again; cases connecting
      rfl
    · cases created; cases sending; cases lost; cases again; cases connecting; cases resending
      rfl
  obtain ⟨process, stopping, reached, called, past, accepted, held, tasks, entries⟩ :
      ∃ process stopping : Process Nat Nat,
        (system some).run (started ⟨true, [], []⟩) executedUnheard = some process ∧
        (system some).step process .stop = some stopping ∧ stopping.phase = .stopping ∧
        stopping.accepted = [0, 1] ∧ process.Holds 0 ∧
        process.tasks.filterMap Running.accepts = [0, 1] ∧
        process.memory.queue.entries = [0, 1] :=
    ⟨_, _, rfl, rfl, rfl, rfl, .inr ⟨_, List.mem_cons_self, rfl, rfl⟩, rfl, rfl⟩
  refine ⟨process, stopping, reached, called, accepted, held, ?_⟩
  refine (stop_drains_iff some ⟨true, [], []⟩ executedUnheard process stopping published reached
    called past).mpr ?_
  intro running member event accepts _
  have among : event ∈ process.tasks.filterMap Running.accepts :=
    List.mem_filterMap.mpr ⟨running, member, accepts⟩
  exact .inl ⟨event, by rwa [entries, ← tasks], rfl⟩

/-- The connection to Redis is lost while an event is emitted; `emit_event`
returns with the event in the buffer. The connection is back when `stop` is
called. `stop` cancels the sleeping flush and returns, no publish is called
again, and the event is neither in the stream nor discarded. -/
theorem stop_leaves_buffered :
    ∃ (before : List (Happening Nat Nat)) (process final : Process Nat Nat),
      (system some).run (started ⟨true, [], []⟩) before = some process ∧
      (∃ running ∈ process.tasks, running.task = .emitEvent 0 ∧ running.returned = true) ∧
      (system some).run process [.elsewhere true [], .stop, .stopReturns] = some final ∧
      final.phase = .stopped ∧ final.accepted = [0] ∧
      final.memory.buffer.items = [0] ∧ final.memory.evicted = [] ∧
      final.memory.queue.entries = [] ∧ ¬ final.Drained some := by
  let lost : RedisReply := .failed .connectionError false
  let before : List (Happening Nat Nat) :=
    [.startFlushLoop, .begin 0, .emitEvent 0, .begin 1, .answer 1 lost,
      .answer 1 .answered, .answer 1 lost, .answer 1 .answered, .answer 1 lost,
      .answer 1 .answered, .answer 1 lost, .answer 1 .answered, .answer 1 lost]
  obtain ⟨process, final, reached, returned, stops, stopped, accepted, buffer, evicted, entries⟩ :
      ∃ process final : Process Nat Nat,
        (system some).run (started ⟨true, [], []⟩) before = some process ∧
        (∃ running ∈ process.tasks, running.task = .emitEvent 0 ∧ running.returned = true) ∧
        (system some).run process [.elsewhere true [], .stop, .stopReturns] = some final ∧
        final.phase = .stopped ∧ final.accepted = [0] ∧
        final.memory.buffer.items = [0] ∧ final.memory.evicted = [] ∧
        final.memory.queue.entries = [] :=
    ⟨_, _, rfl, ⟨_, .tail _ (.head _), rfl, rfl⟩, rfl, rfl, rfl, rfl, rfl, rfl⟩
  refine ⟨before, process, final, reached, returned, stops, stopped, accepted, buffer, evicted,
    entries, ?_⟩
  intro drained
  rcases drained 0 (by simp [accepted]) with ⟨payload, member, _⟩ | discarded
  · simp [entries] at member
  · simp [evicted] at discarded

end Honeywatch.Honeypot.Shutdown
