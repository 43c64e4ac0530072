import Honeywatch.Honeypot.Holding
import Honeywatch.Tasks.Acknowledged
import Honeywatch.Tasks.PasswordLogs

/-!
# Where the rows come from

A row of the table is read from an entry of the stream, an entry is written from
an event of one of the honeypots, and an event is what a request or a session was
recorded as. In every run of the pipeline, with every failure and crash on the
way, a row therefore holds such an event field by field, the label is what the
classifier makes of that event, and no event has two rows. Nothing else gets
into the table.
-/

namespace Honeywatch.Tasks

open Collector Cooperative Detection Honeypot Http Redis Text Transition EventQueue

section Labels

variable {Payload Event Id Label : Type} (good : Event → Label → Prop)

/-- The label that goes with the event in hand is a good one. -/
def Work.Judged : Work Event Label → Prop
  | .inserting _ event label _ => good event label
  | .acknowledging _ event label _ _ => good event label
  | .pausing _ event label _ => good event label
  | _ => True

/-- So is that of the event a worker has in hand. -/
def Judges : Option (EventWorker Payload Event Label) → Prop
  | none => True
  | some worker =>
    match worker.activity with
    | .handling _ work => work.Judged good
    | _ => True

/-- Every label is a good one for its event, in the table and in hand. -/
structure Judicious (state : State Payload Event Label) : Prop where
  rows : ∀ row ∈ state.table, good row.event row.label
  worker : Judges good state.worker

variable {good} (fromJsonStr : Payload → Option Event) (eventId : Event → Id)

section Worker

variable (worker : EventWorker Payload Event Label) (batch : List (Nat × Payload))

/-- At the head of the loop the worker has judged nothing. -/
theorem judges_loopHead : Judges good (some worker.loopHead) := by
  cases client : worker.redis <;> simp [EventWorker.loopHead, client, Judges]

/-- After a failure of the loop it has not either. -/
theorem judges_consumeFailed (failure : RedisFailure) :
    Judges good (worker.consumeFailed failure) := by
  unfold EventWorker.consumeFailed
  split <;> exact trivial

/-- On the way to an acknowledgement it carries the judgement of its event, -/
theorem judges_enterAck (work : AckPoint → Work Event Label)
    (judged : ∀ point, (work point).Judged good) :
    Judges good (some (worker.enterAck batch work)) := by
  unfold EventWorker.enterAck
  split
  · exact judged _
  · exact judged _

/-- The next entry has no label yet, so a worker that goes on to it has nothing to
answer for. -/
theorem judges_advance : Judges good (worker.advance fromJsonStr batch) := by
  cases batch with
  | nil => exact judges_loopHead worker
  | cons first rest =>
    obtain ⟨entry, payload⟩ := first
    cases parsed : fromJsonStr payload with
    | none =>
      simp only [EventWorker.advance, parsed]
      exact judges_enterAck worker rest _ fun _ => trivial
    | some event =>
      simp only [EventWorker.advance, parsed]
      split <;> exact trivial

/-- and so it does into another attempt. -/
theorem judges_attemptFailed (entry : Nat) (event : Event) (label : Label) (attempt : Nat)
    (judged : good event label) :
    Judges good (worker.attemptFailed fromJsonStr batch entry event label attempt) := by
  unfold EventWorker.attemptFailed
  split
  · exact judged
  · exact judges_advance fromJsonStr worker batch

/-- Either outcome of a command may be checked on its own; the command itself brings
in no label. -/
theorem judges_outcome (failure : Option RedisFailure)
    (returned : Option (EventWorker Payload Event Label))
    (raised : RedisFailure → Option (EventWorker Payload Event Label))
    (normally : Judges good returned) (failing : ∀ failure, Judges good (raised failure)) :
    Judges good (outcome failure returned raised) := by
  cases failure with
  | none => exact normally
  | some failure => exact failing failure

end Worker

variable [DecidableEq Id] {fromJsonStr eventId} {state next : State Payload Event Label}
  {worker : EventWorker Payload Event Label}

/-- Only a classification brings in a label. All other answers keep the label that
the event in hand has, or end with it in its row. -/
theorem answer_judicious {reply : Reply Label} (present : state.worker = some worker)
    (judicious : Judicious good state)
    (classified : ∀ label, reply = .classified label → ∀ batch entry event,
      worker.activity = .handling batch (.classifying entry event) → good event label)
    (answered : answer fromJsonStr eventId state worker reply = some next) :
    Judicious good next := by
  obtain ⟨rows, judged⟩ := judicious
  rw [present] at judged
  cases answered_of_answer answered with
  | started reply activity =>
    exact ⟨rows, judges_outcome _ _ _ (judges_loopHead _) fun _ => trivial⟩
  | connected reply activity =>
    refine ⟨rows, judges_outcome _ _ _ ?_ fun failure => judges_consumeFailed worker failure⟩
    split <;> exact trivial
  | regrouped reply activity =>
    exact ⟨rows, judges_outcome _ _ _ (judges_loopHead worker) (judges_consumeFailed worker)⟩
  | read reply activity =>
    refine ⟨rows, ?_⟩
    split
    · exact judges_advance fromJsonStr worker _
    · split
      · split <;> exact trivial
      · exact judges_consumeFailed worker _
  | reconnected reply batch entry event label attempt activity =>
    simp only [Judges, activity] at judged
    have retry := judges_attemptFailed fromJsonStr worker batch entry event label attempt judged
    refine ⟨rows, judges_outcome _ _ _ ?_ fun _ => retry⟩
    split
    · exact judged
    · exact retry
  | acknowledged reply batch entry event label attempt activity =>
    simp only [Judges, activity] at judged
    have retry := judges_attemptFailed fromJsonStr worker batch entry event label attempt judged
    exact ⟨rows, judges_outcome _ _ _ (judges_advance fromJsonStr worker batch) fun _ => retry⟩
  | reconnectedRejecting reply batch entry activity =>
    refine ⟨rows, judges_outcome _ _ _ ?_ fun failure => judges_consumeFailed worker failure⟩
    split <;> exact trivial
  | rejected reply batch entry activity =>
    exact ⟨rows, judges_outcome _ _ _ (judges_advance fromJsonStr worker batch)
      (judges_consumeFailed worker)⟩
  | classified batch entry event label activity =>
    exact ⟨rows, classified label rfl batch entry event activity⟩
  | stored batch entry event label attempt table activity inserted =>
    simp only [Judges, activity] at judged
    obtain rfl := commit_appends inserted
    refine ⟨fun row member => ?_, judges_enterAck worker batch _ fun _ => judged⟩
    rcases List.mem_append.mp member with before | added
    · exact rows row before
    · rw [List.mem_singleton.mp added]
      exact judged
  | storedUnseen batch entry event label attempt table activity inserted =>
    simp only [Judges, activity] at judged
    obtain rfl := commit_appends inserted
    refine ⟨fun row member => ?_,
      judges_attemptFailed fromJsonStr worker batch entry event label attempt judged⟩
    rcases List.mem_append.mp member with before | added
    · exact rows row before
    · rw [List.mem_singleton.mp added]
      exact judged
  | notStored reply batch entry event label attempt activity why =>
    simp only [Judges, activity] at judged
    exact ⟨rows, judges_attemptFailed fromJsonStr worker batch entry event label attempt judged⟩
  | woken activity => exact ⟨rows, judges_loopHead worker⟩
  | retried batch entry event label attempt activity =>
    simp only [Judges, activity] at judged
    exact ⟨rows, judged⟩

/-- A move of the worker, of Redis or of a publisher keeps the labels good, those in
the worker's hand and those in the table. -/
theorem step_judicious {move : Move Payload Label} (judicious : Judicious good state)
    (classified : ∀ label, move = .reply (.classified label) → ∀ worker batch entry event,
      state.worker = some worker → worker.activity = .handling batch (.classifying entry event) →
      good event label)
    (taken : (system fromJsonStr eventId).step state move = some next) :
    Judicious good next := by
  obtain ⟨rows, judged⟩ := judicious
  cases present : state.worker with
  | none =>
    cases move with
    | publish payload | loseGroup =>
      simp only [system, Option.some.injEq] at taken
      exact taken ▸ ⟨rows, judged⟩
    | start =>
      simp only [system, present, Option.some.injEq] at taken
      exact taken ▸ ⟨rows, trivial⟩
    | stop | crash | reply _ => simp [system, present] at taken
  | some worker =>
    cases move with
    | publish payload | loseGroup =>
      simp only [system, Option.some.injEq] at taken
      exact taken ▸ ⟨rows, judged⟩
    | start => simp [system, present] at taken
    | stop =>
      simp only [system, present, Option.some.injEq] at taken
      rw [present] at judged
      exact taken ▸ ⟨rows, judged⟩
    | crash =>
      simp only [system, present, Option.some.injEq] at taken
      exact taken ▸ ⟨rows, trivial⟩
    | reply reply =>
      simp only [system, present] at taken
      refine answer_judicious present ⟨rows, judged⟩ ?_ taken
      rintro label rfl batch entry event activity
      exact classified label rfl worker batch entry event present activity

end Labels

section Rows

variable {Payload Event Id Label : Type} [DecidableEq Id] {fromJsonStr : Payload → Option Event}
  {eventId : Event → Id} {state next : State Payload Event Label} {move : Move Payload Label}

/-- The table changes by commits only, one row at a time. -/
theorem step_table (taken : (system fromJsonStr eventId).step state move = some next) :
    next.table = state.table ∨ ∃ row, commit eventId state.table row = some next.table := by
  cases present : state.worker with
  | none =>
    cases move <;> simp only [system, present, Option.some.injEq, reduceCtorEq] at taken <;>
      exact .inl (by rw [← taken])
  | some worker =>
    cases move with
    | publish payload | loseGroup | stop | crash =>
      simp only [system, present, Option.some.injEq] at taken
      exact .inl (by rw [← taken])
    | start => simp [system, present] at taken
    | reply reply =>
      simp only [system, present] at taken
      cases answered_of_answer taken with
      | stored batch entry event label attempt table activity inserted => exact .inr ⟨_, inserted⟩
      | storedUnseen batch entry event label attempt table activity inserted =>
        exact .inr ⟨_, inserted⟩
      | _ => exact .inl rfl

/-- Rows with distinct keys stay so: a commit refuses a key that is taken, as the
primary key of the table does. -/
theorem step_distinct (distinct : (state.table.map fun row => eventId row.event).Nodup)
    (taken : (system fromJsonStr eventId).step state move = some next) :
    (next.table.map fun row => eventId row.event).Nodup := by
  rcases step_table taken with same | ⟨row, inserted⟩
  · rwa [same]
  · have fresh : committed eventId state.table (eventId row.event) ≠ true := by
      intro present
      simp [commit, present] at inserted
    rw [commit_appends inserted, List.map_append, List.map_singleton]
    refine List.nodup_append'.mpr ⟨distinct, List.nodup_singleton _, ?_⟩
    rw [List.disjoint_singleton]
    intro member
    obtain ⟨other, among, same⟩ := List.mem_map.mp member
    exact fresh (List.any_eq_true.mpr ⟨other, among, decide_eq_true same⟩)

/-- What a move adds to the stream. -/
def Move.added : Move Payload Label → List Payload
  | .publish payload => [payload]
  | _ => []

/-- An answer adds nothing to the stream; the worker reads and acknowledges, and
never publishes. -/
theorem answer_entries {worker : EventWorker Payload Event Label} {reply : Reply Label}
    (answered : answer fromJsonStr eventId state worker reply = some next) :
    next.stream.entries = state.stream.entries := by
  cases answered_of_answer answered with
  | read reply activity => exact (xreadgroup_reply fromJsonStr state.stream reply).1
  | acknowledged reply _ entry | rejected reply _ entry =>
    exact xack_reply_entries state.stream reply entry
  | started reply | connected reply | regrouped reply | reconnected reply
  | reconnectedRejecting reply => exact ensureConsumerGroup_entries state.stream reply
  | _ => rfl

/-- The stream gets the entries that are published, and no others; none is changed
and none is taken away. -/
theorem step_entries (taken : (system fromJsonStr eventId).step state move = some next) :
    next.stream.entries = state.stream.entries ++ move.added := by
  cases present : state.worker with
  | none =>
    cases move <;> simp only [system, present, Option.some.injEq, reduceCtorEq] at taken <;>
      simp [← taken, Move.added, Stream.xadd]
  | some worker =>
    cases move with
    | reply reply =>
      simp only [system, present] at taken
      simpa [Move.added] using answer_entries taken
    | _ =>
      simp only [system, present, Option.some.injEq, reduceCtorEq] at taken
      all_goals simp [← taken, Move.added, Stream.xadd]

end Rows

section Traces

variable {Event Payload Label Message : Type} (handling : Handling Event Payload Label Message)
  (emitted : Event → Prop) (published : Payload → Prop)

/-- A payload of the other honeypot, or what an emitted event is written to. -/
def Written (payload : Payload) : Prop :=
  published payload ∨ ∃ event, emitted event ∧ handling.toJsonStr event = some payload

/-- The event is read from such a payload, and the label is what the classifier
makes of it. -/
def Justified (event : Event) (label : Label) : Prop :=
  (∃ payload, Written handling emitted published payload ∧ handling.parse payload = some event) ∧
    ∃ context, label = handling.classify event context

/-- Everything behind the stream is justified by what was written to it. -/
structure BackendTraced (state : State Payload Event Label) : Prop where
  entries : ∀ payload ∈ state.stream.entries, Written handling emitted published payload
  known : Known handling.parse state.stream.entries state.table state.worker
  judicious : Judicious (Justified handling emitted published) state
  distinct : (state.table.map fun row => handling.eventId row.event).Nodup

/-- So is everything before it by what was emitted. -/
structure Traced (pipeline : Pipeline Event Payload Label Message) : Prop where
  buffered : ∀ event ∈ pipeline.memory.buffer.items, emitted event
  own : ∀ emission ∈ pipeline.emissions, ∀ event, emission.task = .emitEvent event → emitted event
  awaits : ∀ emission ∈ pipeline.emissions, ∀ point, emission.progress = .suspended point →
    HoldsAt handling.toJsonStr emitted emission.task point
  backend : BackendTraced handling emitted published pipeline.backend

variable {handling emitted published} {state next : State Payload Event Label}

/-- Every move of the worker's system keeps the backend traced, when what is
published is written and what is classified is justified. -/
theorem backendTraced_step {move : Move Payload Label}
    (traced : BackendTraced handling emitted published state)
    (publishes : ∀ payload, move = .publish payload → Written handling emitted published payload)
    (classifies : ∀ label, move = .reply (.classified label) → ∀ worker batch entry event,
      state.worker = some worker → worker.activity = .handling batch (.classifying entry event) →
      ∃ context, label = handling.classify event context)
    (taken : handling.worker.step state move = some next) :
    BackendTraced handling emitted published next where
  entries payload member := by
    rw [step_entries taken, List.mem_append] at member
    rcases member with before | added
    · exact traced.entries payload before
    · cases move with
      | publish other => exact publishes payload (by rw [List.mem_singleton.mp added])
      | _ => simp [Move.added] at added
  known := by
    have accounted := accounted_step handling.parse handling.eventId { state, acked := [] }
      { state := next, acked := (acknowledges state move).toList ++ [] } move
      ⟨traced.known, by simp⟩
    have recorded := congrArg (Option.map fun after : State Payload Event Label =>
      ({ state := after, acked := (acknowledges state move).toList ++ [] } : Recorded _ _ _)) taken
    exact (accounted recorded).known
  judicious := by
    refine step_judicious traced.judicious ?_ taken
    intro label move worker batch entry event present activity
    have known := traced.known
    simp only [present, Known, activity] at known
    obtain ⟨-, payload, stored, decoded⟩ := known
    exact ⟨⟨payload, traced.entries payload (List.mem_of_getElem? stored), decoded⟩,
      classifies label move worker batch entry event present activity⟩
  distinct := step_distinct traced.distinct taken

/-- Further entries that are written, by an emit or by somebody else, leave all that
is there as justified as it was. -/
theorem backendTraced_published (payloads : List Payload)
    (traced : BackendTraced handling emitted published state)
    (written : ∀ payload ∈ payloads, Written handling emitted published payload) :
    BackendTraced handling emitted published
      { state with stream := payloads.foldl Stream.xadd state.stream } := by
  induction payloads generalizing state with
  | nil => exact traced
  | cons payload rest inductionHypothesis =>
    have added : BackendTraced handling emitted published
        { state with stream := state.stream.xadd payload } := by
      have taken : handling.worker.step state (.publish payload) =
          some { state with stream := state.stream.xadd payload } := rfl
      refine backendTraced_step traced ?_ (fun label same => by simp at same) taken
      exact fun other same => Move.publish.inj same ▸ written payload List.mem_cons_self
    exact inductionHypothesis added fun other member =>
      written other (List.mem_cons_of_mem _ member)

/-- A move of the worker within the pipeline. It publishes nothing, and its label,
if it brings one, is the classifier's. -/
theorem traced_backendMoves {pipeline after : Pipeline Event Payload Label Message}
    {move : Move Payload Label} {records : List (LogRecord Label Message)}
    (traced : Traced handling emitted published pipeline)
    (publishes : ∀ payload, move ≠ .publish payload)
    (classifies : ∀ label, move = .reply (.classified label) → ∀ worker batch entry event,
      pipeline.backend.worker = some worker →
      worker.activity = .handling batch (.classifying entry event) →
      ∃ context, label = handling.classify event context)
    (taken : handling.backendMoves pipeline move records = some after) :
    Traced handling emitted published after := by
  obtain ⟨backend, moved, rfl⟩ := Option.map_eq_some_iff.mp taken
  exact { traced with
    backend := backendTraced_step traced.backend
      (fun payload same => absurd same (publishes payload)) classifies moved }

/-- An emit begins, with an emitted event, which it may publish or buffer from now
on. -/
theorem traced_receives {pipeline : Pipeline Event Payload Label Message}
    (before : List (LogRecord Label Message)) (event : Event) (after : LogRecord Label Message)
    (traced : Traced handling emitted published pipeline) (held : emitted event) :
    Traced handling emitted published
      (handling.receives pipeline before (some (event, after))) := by
  have entered : Holding handling.toJsonStr emitted _ _ _ :=
    enter_holding pipeline.memory (.emitEvent event) traced.buffered fun other same =>
      Task.emitEvent.inj same ▸ held
  refine ⟨entered.buffered, ?_, ?_, traced.backend⟩
  · intro emission member other own
    rcases List.mem_append.mp member with earlier | added
    · exact traced.own emission earlier other own
    · obtain rfl := List.mem_singleton.mp added
      exact Task.emitEvent.inj own ▸ held
  · intro emission member point suspended
    rcases List.mem_append.mp member with earlier | added
    · exact traced.awaits emission earlier point suspended
    · obtain rfl := List.mem_singleton.mp added
      exact entered.awaits point suspended

/-- A task of the honeypot is answered. What it appends to the stream is an event it
holds, written out. -/
theorem traced_answers {pipeline after : Pipeline Event Payload Label Message} {index : Nat}
    {reply : RedisReply} {error : Str} (traced : Traced handling emitted published pipeline)
    (taken : handling.answers pipeline index reply error = some after) :
    Traced handling emitted published after := by
  unfold Handling.answers at taken
  split at taken
  case h_2 => simp at taken
  case h_1 task flushed returns point found =>
    have among := List.mem_of_getElem? found
    have holds := traced.awaits _ among point rfl
    have resumed := resume_holding pipeline.memory task point reply traced.buffered
      (traced.own _ among) holds
    obtain rfl := Option.some.inj taken
    refine ⟨resumed.buffered, ?_, ?_, ?_⟩
    · intro emission member event own
      rcases List.mem_or_eq_of_mem_set member with earlier | rfl
      · exact traced.own emission earlier event own
      · exact traced.own _ among event own
    · intro emission member next suspended
      rcases List.mem_or_eq_of_mem_set member with earlier | rfl
      · exact traced.awaits emission earlier next suspended
      · exact resumed.awaits next suspended
    · exact backendTraced_published _ traced.backend fun payload member =>
        .inr (appended_emitted reply holds payload member)

/-- A task of the honeypot is cancelled. What Redis executes of it is written from an
emitted event, as any append of it. -/
theorem traced_cancels {pipeline after : Pipeline Event Payload Label Message} {index : Nat}
    {executed : Bool} (traced : Traced handling emitted published pipeline)
    (taken : pipeline.cancels index executed = some after) :
    Traced handling emitted published after := by
  unfold Pipeline.cancels at taken
  split at taken
  case h_2 => simp at taken
  case h_1 task flushed returns point found =>
    have holds := traced.awaits _ (List.mem_of_getElem? found) point rfl
    obtain rfl := Option.some.inj taken
    refine ⟨traced.buffered, ?_, ?_, ?_⟩
    · intro emission member
      exact traced.own emission (List.eraseIdx_subset member)
    · intro emission member
      exact traced.awaits emission (List.eraseIdx_subset member)
    · refine backendTraced_published _ traced.backend fun payload member => .inr ?_
      cases executed with
      | true => exact appended_emitted .answered holds payload member
      | false => simp [cancelledAppends] at member

/-- The event that a handler emits. -/
def Happening.emits : Happening Event Payload Label Message → Option Event
  | .receive _ emission => emission.map Prod.fst
  | _ => none

/-- What the other honeypot publishes. -/
def Happening.publishes : Happening Event Payload Label Message → List Payload
  | .elsewhere _ payloads _ => payloads
  | _ => []

/-- Whatever happens, the pipeline stays traced. The cases are the happenings, and
only an emit and a publish of the other honeypot widen what may be found in it. -/
theorem traced_step {pipeline after : Pipeline Event Payload Label Message}
    {happening : Happening Event Payload Label Message}
    (traced : Traced handling emitted published pipeline)
    (emits : ∀ event, happening.emits = some event → emitted event)
    (publishes : ∀ payload ∈ happening.publishes, published payload)
    (taken : handling.pipeline.step pipeline happening = some after) :
    Traced handling emitted published after := by
  cases happening with
  | receive before emission =>
    obtain rfl := Option.some.inj taken
    cases emission with
    | none => exact { traced with }
    | some emission =>
      exact traced_receives before emission.1 emission.2 traced (emits emission.1 rfl)
  | startFlushLoop =>
    obtain rfl := Option.some.inj taken
    refine ⟨traced.buffered, ?_, ?_, traced.backend⟩
    · intro emission member event own
      rcases List.mem_append.mp member with earlier | added
      · exact traced.own emission earlier event own
      · obtain rfl := List.mem_singleton.mp added
        simp at own
    · intro emission member point suspended
      rcases List.mem_append.mp member with earlier | added
      · exact traced.awaits emission earlier point suspended
      · obtain rfl := List.mem_singleton.mp added
        obtain rfl := Progress.suspended.inj suspended
        trivial
  | answer index reply error => exact traced_answers traced taken
  | cancel index executed => exact traced_cancels traced taken
  | restartHoneypots redis records =>
    obtain rfl := Option.some.inj taken
    exact ⟨by simp [Pipeline.restartsHoneypots, Deque.empty], by simp [Pipeline.restartsHoneypots],
      by simp [Pipeline.restartsHoneypots], traced.backend⟩
  | elsewhere redis payloads records =>
    obtain rfl := Option.some.inj taken
    exact { traced with
      backend := backendTraced_published payloads traced.backend fun payload member =>
        .inl (publishes payload member) }
  | classify now degraded =>
    simp only [Handling.pipeline, Handling.classifies] at taken
    split at taken
    case h_2 => simp at taken
    case h_1 running redis batch entry event present =>
      -- The store has no part in what is traced.
      have kept (store : IPContextStore) :
          Traced handling emitted published { pipeline with store := store } := { traced with }
      refine traced_backendMoves (kept _) ?_ ?_ taken
      · exact fun payload same => by simp at same
      · rintro label same worker batch' entry' event' present' activity
        obtain rfl := Option.some.inj (present.symm.trans present')
        obtain ⟨-, -, rfl⟩ := by simpa using activity
        simp only [Move.reply.injEq, Reply.classified.injEq] at same
        exact ⟨_, same.symm⟩
  | store reply error =>
    simp only [Handling.pipeline, Handling.stores] at taken
    split at taken
    case h_2 => simp at taken
    case h_1 =>
      exact traced_backendMoves traced (fun payload same => by simp at same)
        (fun label same => by simp at same) taken
  | loseGroup | start | stop | crash | reply _ _ | awake =>
    simp only [Handling.pipeline] at taken
    exact traced_backendMoves traced (fun payload same => by simp at same)
      (fun label same => by simp at same) taken

/-- In every run, a row is justified by what was emitted and published in it. The
induction carries the moves so far along. -/
theorem traced_run (redis : Bool) (schedule : List (Happening Event Payload Label Message))
    (final : Pipeline Event Payload Label Message)
    (reached : handling.pipeline.run (.initial redis) schedule = some final) :
    Traced handling (fun event => ∃ happening ∈ schedule, happening.emits = some event)
      (fun payload => ∃ happening ∈ schedule, payload ∈ happening.publishes) final := by
  refine handling.pipeline.admitted_invariant (fun _ happening => happening ∈ schedule) _ ?_ _ _
    schedule ?_ (handling.pipeline.admitted_of_moves (· ∈ schedule) _ schedule fun _ => id) reached
  · intro state happening next traced member taken
    exact traced_step traced (fun event emits => ⟨happening, member, emits⟩)
      (fun payload publishes => ⟨happening, member, publishes⟩) taken
  · refine ⟨by simp [Pipeline.initial], by simp [Pipeline.initial], by simp [Pipeline.initial],
      by simp [Pipeline.initial, initial, Stream.empty], trivial,
      ⟨by simp [Pipeline.initial, initial], trivial⟩, by simp [Pipeline.initial, initial]⟩

end Traces

section Attacks

variable (rules : DetectionRules) (defaults : List Char → Stamp)
  (validationError : List Char → Str)
  (statementError : AttackEvent → ClassificationResult → Str → Str)

/-- What the two honeypots leave to the pipeline: the HTTP honeypot receives a
request, or the other publishes what sessions with the SSH honeypot are recorded
as; everything else happens behind them. -/
inductive FromHoneypots (honeypot : HTTPHoneypot) (port : Int) :
    Happening AttackEvent (List Char) ClassificationResult Str → Prop
  | request (stamp : Stamp) (request : Request) (error : Str) :
    FromHoneypots honeypot port (received honeypot stamp request error)
  | sessions (redis : Bool) (payloads : List (List Char))
      (records : List (LogRecord ClassificationResult Str))
      (written : ∀ payload ∈ payloads, ∃ callbacks, ∃ event ∈ Ssh.events port callbacks,
        event.toJsonStr = some payload) :
    FromHoneypots honeypot port (.elsewhere redis payloads records)
  | behind (happening : Happening AttackEvent (List Char) ClassificationResult Str)
      (silent : happening.emits = none) (nothing : happening.publishes = []) :
    FromHoneypots honeypot port happening

/-- A request of the run was recorded as this event, or a session was and its event
was published in the run. -/
def Observed (honeypot : HTTPHoneypot) (port : Int)
    (schedule : List (Happening AttackEvent (List Char) ClassificationResult Str))
    (event : AttackEvent) : Prop :=
  (∃ stamp request error, received honeypot stamp request error ∈ schedule ∧
    event ∈ (handleRequest honeypot stamp request (.ok ())).emitted) ∨
  ∃ redis payloads records payload callbacks, .elsewhere redis payloads records ∈ schedule ∧
    payload ∈ payloads ∧ event.toJsonStr = some payload ∧ event ∈ Ssh.events port callbacks

/-- An event of a request that can be written is read as it was, so its row is about
this request. -/
theorem request_read {honeypot : HTTPHoneypot} {stamp : Stamp} {request : Request}
    {event : AttackEvent} {payload : List Char}
    (member : event ∈ (handleRequest honeypot stamp request (.ok ())).emitted)
    (written : event.toJsonStr = some payload) : event.Survives := by
  obtain ⟨eventType, data, rfl, taken⟩ := handleRequest_emitted _ _ _ _ _ member
  rw [attackEvent_survives_iff _ _ _ _ _ taken, ← attackEvent_texts_iff _ _ _ _ _ taken]
  by_contra lone
  rw [(toJsonStr_none_iff _).mpr lone] at written
  contradiction

variable {rules defaults validationError statementError} in
/-- What is read of a payload is the event it was written from, if that survives;
two different events have different payloads. -/
theorem read_of_survivor {event read : AttackEvent} {payload : List Char}
    (survives : event.Survives) (written : event.toJsonStr = some payload)
    (parsed : (attackEvents rules defaults validationError statementError).parse payload =
      some read) : read = event := by
  obtain ⟨other, otherWritten, decoded⟩ :=
    survivor_read rules defaults validationError statementError survives
  rw [attackEvents_toJsonStr, written] at otherWritten
  obtain rfl := Option.some.inj otherWritten
  rw [Handling.parse, decoded] at parsed
  exact (Option.some.inj parsed).symm

/-- In every run of the pipeline behind the two honeypots, whatever fails, stops or
crashes, a row holds an event that a request or a session was recorded as, and a
classification of that event; no event has two rows. -/
theorem rows_are_observed (honeypot : HTTPHoneypot) (port : Int) (redis : Bool)
    (schedule : List (Happening AttackEvent (List Char) ClassificationResult Str))
    (arrivals : ∀ happening ∈ schedule, FromHoneypots honeypot port happening)
    (final : Pipeline AttackEvent (List Char) ClassificationResult Str)
    (reached : (attackEvents rules defaults validationError statementError).pipeline.run
      (.initial redis) schedule = some final) :
    (∀ row ∈ final.backend.table, Observed honeypot port schedule row.event ∧
      ∃ context, row.label = Detection.classify rules row.event context) ∧
      (final.backend.table.map fun row => row.event.id).Nodup := by
  have traced := traced_run redis schedule final reached
  refine ⟨fun row member => ?_, traced.backend.distinct⟩
  obtain ⟨⟨payload, written, parsed⟩, context, classified⟩ :=
    traced.backend.judicious.rows row member
  refine ⟨?_, context, classified⟩
  rcases written with ⟨happening, among, publishes⟩ | ⟨event, ⟨happening, among, emits⟩, written⟩
  · cases arrivals happening among with
    | request stamp request error => simp [received, Happening.publishes] at publishes
    | sessions redis payloads records written =>
      obtain ⟨callbacks, event, recorded, encoded⟩ := written payload publishes
      have same := read_of_survivor (ssh_survives port callbacks event recorded) encoded parsed
      subst same
      exact .inr ⟨redis, payloads, records, payload, callbacks, among, publishes, encoded, recorded⟩
    | behind _ silent nothing => simp [nothing] at publishes
  · rw [attackEvents_toJsonStr] at written
    cases arrivals happening among with
    | request stamp request error =>
      have recorded : event ∈ (handleRequest honeypot stamp request (.ok ())).emitted := by
        rw [← @requestLogged_emitted ClassificationResult Str honeypot stamp request error]
        exact Option.mem_toList.mpr emits
      have same := read_of_survivor (request_read recorded written) written parsed
      exact .inl ⟨stamp, request, error, among, same ▸ recorded⟩
    | sessions redis payloads records _ => simp [Happening.emits] at emits
    | behind _ silent nothing => simp [silent] at emits

end Attacks

/-- An emitted event that survives the queue is stored when nothing fails, with the
label of its first classification. -/
theorem delivery_stored {Event Payload Label Message : Type}
    (handling : Handling Event Payload Label Message) {event : Event} {payload : Payload}
    (written : handling.toJsonStr event = some payload)
    (read : handling.fromJsonStr payload = .ok event) (after : LogRecord Label Message) (now : ℚ) :
    ∃ final,
      handling.pipeline.run (.initial true) (.receive [] (some (event, after)) :: delivery now) =
        some final ∧
      final.backend.table = [{ event, label := firstLabel handling event now }] := by
  obtain ⟨own, reached, stored⟩ : ∃ final,
      (single handling event).pipeline.run (.initial true)
        (.receive [] (some ((), after)) :: delivery now) = some final ∧
      final.backend.table = [{ event := (), label := firstLabel handling event now }] :=
    ⟨_, rfl, rfl⟩
  have ran := (ofSingle handling written read).run_map true
    (.receive [] (some ((), after)) :: delivery now)
  rw [reached] at ran
  have same : (ofSingle handling written read).happening (.receive [] (some ((), after))) =
      .receive [] (some (event, after)) := by
    cases after <;> rfl
  rw [List.map_cons, same] at ran
  refine ⟨_, ran, ?_⟩
  change own.backend.table.map (AttackEventModel.map _ _) = _
  rw [stored]
  rfl

/-- A login is received and stored, and its row is traced back to the request it
came with. -/
theorem rows_are_observed_login :
    ∃ (honeypot : HTTPHoneypot) (stamp : Stamp)
      (final : Pipeline AttackEvent (List Char) ClassificationResult Str)
      (row : AttackEventModel AttackEvent ClassificationResult),
      let schedule := received honeypot stamp (loginWith "admin") [] :: delivery 0
      (attackEvents {} (fun _ => stamp) (fun _ => []) fun _ _ original => original).pipeline.run
        (.initial true) schedule = some final ∧
      final.backend.table = [row] ∧ Observed honeypot 22 schedule row.event ∧
      ∃ context, row.label = Detection.classify {} row.event context := by
  let honeypot : HTTPHoneypot := { reportedPort := 80, maxCredentialLengthRaw := none }
  let stamp : Stamp := someStamp
  obtain ⟨payload, written, decoded⟩ := survivor_read {} (fun _ => stamp) (fun _ => [])
    (fun _ _ original => original) (loginWith_survives honeypot stamp "admin")
  have isLogin : (loginWith "admin").IsLogin := by
    change normalizedPath (literal "/login") = loginPath
    decide
  have arrival := received_login honeypot stamp (loginWith "admin") [] isLogin rfl
    (formWith "admin") (by decide)
  obtain ⟨final, reached, stored⟩ := delivery_stored _ written decoded
    (loginRecord "http_honeypot.login_attempt" (loginWith "admin") 401
      [("email_length", .number (honeypot.extractCredentials (formWith "admin")).email.length),
        ("parsed", .flag (honeypot.extractCredentials (formWith "admin")).parsed)]) 0
  have ran : (attackEvents {} (fun _ => stamp) (fun _ => [])
      fun _ _ original => original).pipeline.run (.initial true)
        (received honeypot stamp (loginWith "admin") [] :: delivery 0) = some final := by
    rw [arrival]
    exact reached
  refine ⟨honeypot, stamp, final, _, ran, stored, ?_⟩
  refine (rows_are_observed {} (fun _ => stamp) (fun _ => []) (fun _ _ original => original)
    honeypot 22 true _ ?_ final ran).1 _ (by rw [stored]; exact List.mem_cons_self)
  intro happening member
  rcases List.mem_cons.mp member with rfl | later
  · exact .request stamp _ []
  · simp only [delivery, List.mem_cons, List.not_mem_nil, or_false] at later
    rcases later with rfl | rfl | rfl | rfl | rfl | rfl | rfl <;> exact .behind _ rfl rfl

end Honeywatch.Tasks
