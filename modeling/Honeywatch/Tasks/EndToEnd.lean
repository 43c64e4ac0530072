import Honeywatch.Tasks.Provenance
import Honeywatch.Tasks.Recovery

/-!
# From an emit to a row

Whatever an emit was given stays with one of its holders. It is with the emit
while that awaits an answer, then in the buffer or in the stream, then with the
worker, and at last in the table. Each holder lets go of it once the next one has
it, as long as four things hold: an answer that a task does not handle raises
out of no emit, what leaves the buffer is in the stream by then, a cancelled emit
and an end of the honeypots' process take away only what is in the stream (or, of
an emit, in the buffer), and the worker lets go of stored events only. So what the
worker stores when its calls are answered again is all that was emitted, but for
what still waits for Redis.
-/

namespace Honeywatch.Tasks

open Collector Cooperative Honeypot Redis Text Transition EventQueue

variable {Event Payload Label Message : Type} (handling : Handling Event Payload Label Message)

/-- The event is written, and read as it was. -/
def Faithful (event : Event) : Prop :=
  (handling.toJsonStr event).bind handling.parse = some event

/-- The event is among these entries. -/
def Published (event : Event) (entries : List Payload) : Prop :=
  ∃ payload ∈ entries, handling.toJsonStr event = some payload

/-- The condition on an answer: the task it is for handles it, and what it makes leave
the buffer is in the stream by then. -/
def Spared (memory : Queued Event Payload) (reply : RedisReply) :
    Option (Emission Event Payload Label Message) → Prop
  | some ⟨_, _, _, .suspended point⟩ =>
    unharmed memory point reply = true ∧
      ∀ event ∈ displaced memory point reply,
        Published handling event (memory.queue.entries ++ taskAppends point reply)
  | _ => True

/-- The condition on a cancellation: if it ends an emit, the event is in the buffer, or in
the stream by then. A flush that is cancelled leaves its head in the buffer. -/
def SparedByCancel (memory : Queued Event Payload) (executed : Bool) :
    Option (Emission Event Payload Label Message) → Prop
  | some ⟨.emitEvent event, _, _, .suspended point⟩ =>
    event ∈ memory.buffer.items ∨
      Published handling event (memory.queue.entries ++ cancelledAppends point executed)
  | _ => True

/-- The event of an emit that waits for Redis. -/
def Emission.waits : Emission Event Payload Label Message → Option Event
  | ⟨.emitEvent event, _, _, .suspended _⟩ => some event
  | _ => none

/-- The events that only the process of the honeypots may have. -/
def Pipeline.volatile (pipeline : Pipeline Event Payload Label Message) : List Event :=
  pipeline.memory.buffer.items ++ pipeline.emissions.filterMap Emission.waits

/-- The condition on what happens. An event that is emitted survives the queue, an
answer and a cancellation are as above, what the honeypots hold when their process ends
is in the stream, and the worker lets go of stored events only. -/
def Careful (pipeline : Pipeline Event Payload Label Message) :
    Happening Event Payload Label Message → Prop
  | .receive _ (some (event, _)) => Faithful handling event
  | .answer index reply _ => Spared handling pipeline.memory reply pipeline.emissions[index]?
  | .cancel index executed =>
    SparedByCancel handling pipeline.memory executed pipeline.emissions[index]?
  | .restartHoneypots _ _ =>
    ∀ event ∈ pipeline.volatile, Published handling event pipeline.memory.queue.entries
  | .stop => letsGoOfCommitted handling.parse handling.eventId pipeline.backend .stop = true
  | .crash => letsGoOfCommitted handling.parse handling.eventId pipeline.backend .crash = true
  | .reply reply _ =>
    letsGoOfCommitted handling.parse handling.eventId pipeline.backend (.reply (.redis reply)) =
      true
  | .store reply _ =>
    letsGoOfCommitted handling.parse handling.eventId pipeline.backend (.reply (.database reply)) =
      true
  | _ => True

instance [DecidableEq Event] [DecidableEq Payload] (memory : Queued Event Payload)
    (reply : RedisReply) (emission : Option (Emission Event Payload Label Message)) :
    Decidable (Spared handling memory reply emission) :=
  match emission with
  | some ⟨_, _, _, .suspended point⟩ =>
    inferInstanceAs (Decidable (_ ∧ ∀ event ∈ displaced memory point reply,
      ∃ payload ∈ memory.queue.entries ++ taskAppends point reply,
        handling.toJsonStr event = some payload))
  | some ⟨_, _, _, .finished _⟩ => inferInstanceAs (Decidable True)
  | none => inferInstanceAs (Decidable True)

instance [DecidableEq Event] [DecidableEq Payload] (memory : Queued Event Payload)
    (executed : Bool) (emission : Option (Emission Event Payload Label Message)) :
    Decidable (SparedByCancel handling memory executed emission) :=
  match emission with
  | some ⟨.emitEvent event, _, _, .suspended point⟩ =>
    inferInstanceAs (Decidable (event ∈ memory.buffer.items ∨
      ∃ payload ∈ memory.queue.entries ++ cancelledAppends point executed,
        handling.toJsonStr event = some payload))
  | some ⟨.periodicFlush, _, _, _⟩ => inferInstanceAs (Decidable True)
  | some ⟨.emitEvent _, _, _, .finished _⟩ => inferInstanceAs (Decidable True)
  | none => inferInstanceAs (Decidable True)

instance [DecidableEq Event] [DecidableEq Payload]
    (pipeline : Pipeline Event Payload Label Message)
    (happening : Happening Event Payload Label Message) :
    Decidable (Careful handling pipeline happening) :=
  match happening with
  | .receive _ (some (event, _)) =>
    inferInstanceAs (Decidable ((handling.toJsonStr event).bind handling.parse = some event))
  | .answer index reply _ =>
    inferInstanceAs (Decidable
      (Spared handling pipeline.memory reply pipeline.emissions[index]?))
  | .cancel index executed =>
    inferInstanceAs (Decidable
      (SparedByCancel handling pipeline.memory executed pipeline.emissions[index]?))
  | .restartHoneypots _ _ =>
    inferInstanceAs (Decidable (∀ event ∈ pipeline.volatile,
      ∃ payload ∈ pipeline.memory.queue.entries, handling.toJsonStr event = some payload))
  | .stop | .crash | .reply _ _ | .store _ _ => inferInstanceAs (Decidable (_ = true))
  | .receive _ none | .startFlushLoop | .elsewhere _ _ _ | .loseGroup | .start | .classify _ _
  | .awake => inferInstanceAs (Decidable True)

/-- The event was emitted. -/
def Emitted (past : List (Happening Event Payload Label Message)) (event : Event) : Prop :=
  ∃ happening ∈ past, happening.emits = some event

/-- The honeypots have the event or have had it and passed it on: an emit was given it and
was not cancelled, or it is in the buffer or in the stream. -/
def Pipeline.Holds (pipeline : Pipeline Event Payload Label Message) (event : Event) : Prop :=
  .emitEvent event ∈ pipeline.emissions.map Emission.task ∨
    Honeypot.Recorded handling.toJsonStr event pipeline.memory

/-- The holders between the handlers and the table are in order: the honeypot and
the worker see one stream, everything in it is within reach, an emit that is over
has left its event in the stream or in the buffer, and an event that was emitted
has a holder. -/
structure Sustained (past : List (Happening Event Payload Label Message))
    (pipeline : Pipeline Event Payload Label Message) : Prop where
  entries : pipeline.memory.queue.entries = pipeline.backend.stream.entries
  sound : Sound handling.parse handling.eventId pipeline.backend
  buffered : ∀ event ∈ pipeline.memory.buffer.items, Faithful handling event
  own : ∀ emission ∈ pipeline.emissions, ∀ event, emission.task = .emitEvent event →
    Faithful handling event
  awaits : ∀ emission ∈ pipeline.emissions, ∀ point, emission.progress = .suspended point →
    Awaits handling.toJsonStr emission.task point
  recorded : ∀ emission ∈ pipeline.emissions, ∀ event result, emission.task = .emitEvent event →
    emission.progress = .finished result →
    Honeypot.Recorded handling.toJsonStr event pipeline.memory
  faithful : ∀ event, Emitted past event → Faithful handling event
  held : ∀ event, Emitted past event → pipeline.Holds handling event

variable {handling}

/-- A faithful event is read back from its payload. -/
theorem Faithful.read {event : Event} (faithful : Faithful handling event) :
    ∃ payload, handling.toJsonStr event = some payload ∧ handling.parse payload = some event :=
  Option.bind_eq_some_iff.mp faithful

/-- It has a payload in the first place. -/
theorem Faithful.serializes {event : Event} (faithful : Faithful handling event) :
    (handling.toJsonStr event).isSome := by
  obtain ⟨payload, written, -⟩ := faithful.read
  simp [written]

/-- A recorded event stays recorded while the stream grows and the buffer leaves it
to the stream only. -/
theorem recorded_grown {memory after : Queued Event Payload} {event : Event} {more : List Payload}
    (recorded : Honeypot.Recorded handling.toJsonStr event memory)
    (entries : after.queue.entries = memory.queue.entries ++ more)
    (buffer : event ∈ memory.buffer.items → event ∈ after.buffer.items ∨
      Published handling event (memory.queue.entries ++ more)) :
    Honeypot.Recorded handling.toJsonStr event after := by
  rcases recorded with ⟨payload, written, stored⟩ | held
  · exact .inl ⟨payload, written, entries ▸ List.mem_append_left _ stored⟩
  · rcases buffer held with kept | published
    · exact .inr kept
    · obtain ⟨payload, stored, written⟩ := published
      exact .inl ⟨payload, written, entries ▸ stored⟩

/-- Entries that are appended one after the other come last, in this order, behind
all that was there. -/
theorem foldl_xadd_entries (payloads : List Payload) (stream : Stream Payload) :
    (payloads.foldl Stream.xadd stream).entries = stream.entries ++ payloads := by
  induction payloads generalizing stream with
  | nil => simp
  | cons payload rest inductionHypothesis =>
    rw [List.foldl_cons, inductionHypothesis]
    simp [Stream.xadd]

/-- Published entries are within reach, as they are undelivered. -/
theorem sound_published {state : State Payload Event Label} (payloads : List Payload)
    (sound : Sound handling.parse handling.eventId state) :
    Sound handling.parse handling.eventId
      { state with stream := payloads.foldl Stream.xadd state.stream } := by
  induction payloads generalizing state with
  | nil => exact sound
  | cons payload rest inductionHypothesis => exact inductionHypothesis (sound_publish payload sound)

/-- What is emitted by now was emitted before, or is emitted now; the step of the
induction over a schedule. -/
theorem emitted_now {past : List (Happening Event Payload Label Message)}
    {happening : Happening Event Payload Label Message} {event : Event}
    (emitted : Emitted (past ++ [happening]) event) :
    Emitted past event ∨ happening.emits = some event := by
  obtain ⟨earlier, member, emits⟩ := emitted
  rcases List.mem_append.mp member with before | now
  · exact .inl ⟨earlier, before, emits⟩
  · exact .inr (List.mem_singleton.mp now ▸ emits)

/-- A happening that emits nothing leaves what was emitted as it is. -/
theorem emitted_before {past : List (Happening Event Payload Label Message)}
    {happening : Happening Event Payload Label Message} {event : Event}
    (silent : happening.emits = none) (emitted : Emitted (past ++ [happening]) event) :
    Emitted past event :=
  (emitted_now emitted).resolve_right (by simp [silent])

/-- Where neither the honeypots nor the stream are touched, everything is as it was; only
what lies behind the stream has to be followed. -/
theorem Sustained.behind {past : List (Happening Event Payload Label Message)}
    {pipeline after : Pipeline Event Payload Label Message}
    {happening : Happening Event Payload Label Message}
    (sustained : Sustained handling past pipeline) (silent : happening.emits = none)
    (memory : after.memory = pipeline.memory) (emissions : after.emissions = pipeline.emissions)
    (entries : after.backend.stream.entries = pipeline.backend.stream.entries)
    (sound : Sound handling.parse handling.eventId after.backend) :
    Sustained handling (past ++ [happening]) after where
  entries := by rw [memory, entries, sustained.entries]
  sound := sound
  buffered := memory ▸ sustained.buffered
  own := emissions ▸ sustained.own
  awaits := emissions ▸ sustained.awaits
  recorded := by
    rw [memory, emissions]
    exact sustained.recorded
  faithful event emitted := sustained.faithful event (emitted_before silent emitted)
  held event emitted := by
    rw [Pipeline.Holds, memory, emissions]
    exact sustained.held event (emitted_before silent emitted)

/-- A move of the worker that publishes nothing and lets go of stored events only.
The side of the honeypots is as it was. -/
theorem sustained_backendMoves {past : List (Happening Event Payload Label Message)}
    {pipeline after : Pipeline Event Payload Label Message} {move : Move Payload Label}
    {records : List (LogRecord Label Message)}
    (happening : Happening Event Payload Label Message) (silent : happening.emits = none)
    (sustained : Sustained handling past pipeline) (adds : move.added = [])
    (safe : letsGoOfCommitted handling.parse handling.eventId pipeline.backend move = true)
    (taken : handling.backendMoves pipeline move records = some after) :
    Sustained handling (past ++ [happening]) after := by
  obtain ⟨backend, moved, rfl⟩ := Option.map_eq_some_iff.mp taken
  have same : backend.stream.entries = pipeline.backend.stream.entries := by
    rw [step_entries moved, adds, List.append_nil]
  exact sustained.behind silent rfl rfl same (sound_step _ _ move sustained.sound safe moved)

/-- An emit begins with an event that survives. It leaves stream and buffer alone,
and until it ends the emit itself holds the event. -/
theorem sustained_receives {past : List (Happening Event Payload Label Message)}
    {pipeline : Pipeline Event Payload Label Message} (before : List (LogRecord Label Message))
    (event : Event) (after : LogRecord Label Message)
    (sustained : Sustained handling past pipeline) (faithful : Faithful handling event) :
    Sustained handling (past ++ [.receive before (some (event, after))])
      (handling.receives pipeline before (some (event, after))) := by
  obtain ⟨kept, same, next, suspended, awaits⟩ := enter_awaits pipeline.memory (.emitEvent event)
    (fun other member => (sustained.buffered other member).serializes)
    (fun other own => Task.emitEvent.inj own ▸ faithful.serializes)
  have still {other : Event}
      (recorded : Honeypot.Recorded handling.toJsonStr other pipeline.memory) :
      Honeypot.Recorded handling.toJsonStr other
        (handling.receives pipeline before (some (event, after))).memory :=
    recorded_grown recorded (kept.trans (List.append_nil _).symm) fun held => .inl (same ▸ held)
  refine ⟨kept.trans sustained.entries, sustained.sound, ?_, ?_, ?_, ?_, ?_, ?_⟩
  · intro other member
    exact sustained.buffered other (same ▸ member)
  · intro emission member other own
    rcases List.mem_append.mp member with earlier | added
    · exact sustained.own emission earlier other own
    · obtain rfl := List.mem_singleton.mp added
      exact Task.emitEvent.inj own ▸ faithful
  · intro emission member point awaited
    rcases List.mem_append.mp member with earlier | added
    · exact sustained.awaits emission earlier point awaited
    · obtain rfl := List.mem_singleton.mp added
      obtain rfl := Progress.suspended.inj (suspended.symm.trans awaited)
      exact awaits
  · intro emission member other result own finished
    rcases List.mem_append.mp member with earlier | added
    · exact still (sustained.recorded emission earlier other result own finished)
    · obtain rfl := List.mem_singleton.mp added
      simp [suspended] at finished
  · intro other emitted
    rcases emitted_now emitted with earlier | emits
    · exact sustained.faithful other earlier
    · exact Option.some.inj emits ▸ faithful
  · intro other emitted
    rw [Pipeline.Holds, Handling.receives, List.map_append]
    rcases emitted_now emitted with earlier | emits
    · exact (sustained.held other earlier).imp (fun given => List.mem_append_left _ given) still
    · obtain rfl : event = other := Option.some.inj emits
      exact .inl (List.mem_append_right _ List.mem_cons_self)

/-- The flush loop is started. It has no event of its own, and wakes later, when it
will read from the buffer. -/
theorem sustained_startFlushLoop {past : List (Happening Event Payload Label Message)}
    {pipeline after : Pipeline Event Payload Label Message}
    (sustained : Sustained handling past pipeline)
    (taken : handling.pipeline.step pipeline .startFlushLoop = some after) :
    Sustained handling (past ++ [.startFlushLoop]) after := by
  obtain rfl := Option.some.inj taken
  refine ⟨sustained.entries, sustained.sound, sustained.buffered, ?_, ?_, ?_, ?_, ?_⟩
  · intro emission member event own
    rcases List.mem_append.mp member with earlier | added
    · exact sustained.own emission earlier event own
    · obtain rfl := List.mem_singleton.mp added
      simp at own
  · intro emission member point suspended
    rcases List.mem_append.mp member with earlier | added
    · exact sustained.awaits emission earlier point suspended
    · obtain rfl := List.mem_singleton.mp added
      obtain rfl := Progress.suspended.inj suspended
      rfl
  · intro emission member event result own finished
    rcases List.mem_append.mp member with earlier | added
    · exact sustained.recorded emission earlier event result own finished
    · obtain rfl := List.mem_singleton.mp added
      simp at own
  · exact fun event emitted => sustained.faithful event (emitted_before rfl emitted)
  · intro event emitted
    rw [Pipeline.Holds, List.map_append]
    exact (sustained.held event (emitted_before rfl emitted)).imp_left fun given =>
      List.mem_append_left _ given

/-- A task of the honeypot is answered, as it handles. The event of an emit that
ends is in the stream or in the buffer, and what leaves the buffer is in the stream.
-/
theorem sustained_answers {past : List (Happening Event Payload Label Message)}
    {pipeline after : Pipeline Event Payload Label Message} {index : Nat} {reply : RedisReply}
    {error : Str} (sustained : Sustained handling past pipeline)
    (careful : Careful handling pipeline (.answer index reply error))
    (taken : handling.answers pipeline index reply error = some after) :
    Sustained handling (past ++ [.answer index reply error]) after := by
  unfold Handling.answers at taken
  split at taken
  case h_2 => simp at taken
  case h_1 task flushed returns point found =>
    have among := List.mem_of_getElem? found
    have own := fun event given => sustained.own _ among event given
    have answered := resume_answered pipeline.memory task point reply
      (fun other member => (sustained.buffered other member).serializes)
      (fun event given => (own event given).serializes) (sustained.awaits _ among point rfl)
    simp only [Careful, Spared, found] at careful
    obtain ⟨handled, displaced⟩ := careful
    obtain rfl := Option.some.inj taken
    have still {event : Event}
        (recorded : Honeypot.Recorded handling.toJsonStr event pipeline.memory) :=
      recorded_grown recorded answered.entries fun held =>
        (answered.buffer.remains event held).imp_right fun leaves => displaced event leaves
    refine ⟨?_, sound_published _ sustained.sound, ?_, ?_, ?_, ?_, ?_, ?_⟩
    · rw [foldl_xadd_entries, ← sustained.entries]
      exact answered.entries
    · intro event member
      rcases answered.buffer.buffered_before event member with before | itself
      · exact sustained.buffered event before
      · exact own event itself
    · intro emission member event given
      rcases List.mem_or_eq_of_mem_set member with earlier | rfl
      · exact sustained.own emission earlier event given
      · exact own event given
    · intro emission member next awaited
      rcases List.mem_or_eq_of_mem_set member with earlier | rfl
      · exact sustained.awaits emission earlier next awaited
      · exact answered.awaits next awaited
    · intro emission member event result given finished
      rcases List.mem_or_eq_of_mem_set member with earlier | rfl
      · exact still (sustained.recorded emission earlier event result given finished)
      · cases result with
        | ok _ => exact answered.returned event given finished
        | error raised => simp [answered.raised raised finished] at handled
    · exact fun event emitted => sustained.faithful event (emitted_before rfl emitted)
    · intro event emitted
      obtain ⟨before, later, split, _, replaced⟩ := Coroutine.split_at _ _ _ found
      refine (sustained.held event (emitted_before rfl emitted)).imp (fun given => ?_) still
      rw [split, List.map_append, List.map_cons] at given
      simp only [replaced, List.map_append, List.map_cons]
      exact given

/-- A task is cancelled. An emit takes its event with it, which is in the buffer or in the
stream; the others keep theirs. -/
theorem sustained_cancels {past : List (Happening Event Payload Label Message)}
    {pipeline after : Pipeline Event Payload Label Message} {index : Nat} {executed : Bool}
    (sustained : Sustained handling past pipeline)
    (careful : Careful handling pipeline (.cancel index executed))
    (taken : pipeline.cancels index executed = some after) :
    Sustained handling (past ++ [.cancel index executed]) after := by
  unfold Pipeline.cancels at taken
  split at taken
  case h_2 => simp at taken
  case h_1 task flushed returns point found =>
    simp only [Careful, found] at careful
    obtain rfl := Option.some.inj taken
    refine ⟨?_, sound_published _ sustained.sound, sustained.buffered, ?_, ?_, ?_, ?_, ?_⟩
    · rw [foldl_xadd_entries, ← sustained.entries]
    · exact fun emission member => sustained.own emission (List.eraseIdx_subset member)
    · exact fun emission member => sustained.awaits emission (List.eraseIdx_subset member)
    · intro emission member event result own finished
      have before := List.eraseIdx_subset member
      exact recorded_grown (sustained.recorded emission before event result own finished) rfl .inl
    · exact fun event emitted => sustained.faithful event (emitted_before rfl emitted)
    · intro event emitted
      rcases sustained.held event (emitted_before rfl emitted) with given | recorded
      · obtain ⟨emission, member, own⟩ := List.mem_map.mp given
        obtain ⟨place, there⟩ := List.mem_iff_getElem?.mp member
        by_cases same : place = index
        · obtain rfl := Option.some.inj ((same ▸ there).symm.trans found)
          obtain rfl : task = .emitEvent event := own
          rcases careful with held | ⟨payload, stored, written⟩
          · exact .inr (.inr held)
          · exact .inr (.inl ⟨payload, written, stored⟩)
        · have kept := List.mem_eraseIdx_iff_getElem?.mpr ⟨place, same, there⟩
          exact .inl (List.mem_map.mpr ⟨emission, kept, own⟩)
      · exact .inr (recorded_grown recorded rfl .inl)

/-- The process of the honeypots ends. Every event it was given is in the stream: with an
emit that waits or in the buffer by the condition, with an emit that is over because that
has recorded it. -/
theorem sustained_restart {past : List (Happening Event Payload Label Message)}
    {pipeline after : Pipeline Event Payload Label Message} {redis : Bool}
    {records : List (LogRecord Label Message)} (sustained : Sustained handling past pipeline)
    (careful : Careful handling pipeline (.restartHoneypots redis records))
    (taken : handling.pipeline.step pipeline (.restartHoneypots redis records) = some after) :
    Sustained handling (past ++ [.restartHoneypots redis records]) after := by
  obtain rfl := Option.some.inj taken
  have left {event : Event} (member : event ∈ pipeline.volatile) :
      Honeypot.Recorded handling.toJsonStr event
        (pipeline.restartsHoneypots redis records).memory := by
    obtain ⟨payload, stored, written⟩ := careful event member
    exact .inl ⟨payload, written, stored⟩
  have recovered {event : Event}
      (recorded : Honeypot.Recorded handling.toJsonStr event pipeline.memory) :
      Honeypot.Recorded handling.toJsonStr event
        (pipeline.restartsHoneypots redis records).memory := by
    rcases recorded with stored | held
    · exact .inl stored
    · exact left (List.mem_append_left _ held)
  refine ⟨sustained.entries, sustained.sound, by simp [Pipeline.restartsHoneypots, Deque.empty],
    by simp [Pipeline.restartsHoneypots], by simp [Pipeline.restartsHoneypots],
    by simp [Pipeline.restartsHoneypots], ?_, ?_⟩
  · exact fun event emitted => sustained.faithful event (emitted_before rfl emitted)
  · intro event emitted
    right
    rcases sustained.held event (emitted_before rfl emitted) with given | recorded
    · obtain ⟨⟨task, flushed, returns, progress⟩, member, rfl⟩ := List.mem_map.mp given
      cases progress with
      | suspended point =>
        exact left (List.mem_append_right _ (List.mem_filterMap.mpr ⟨_, member, rfl⟩))
      | finished result => exact recovered (sustained.recorded _ member event result rfl rfl)
    · exact recovered recorded

/-- The other honeypot publishes. Further entries take nothing away, and what this
one holds is in its own memory. -/
theorem sustained_elsewhere {past : List (Happening Event Payload Label Message)}
    {pipeline after : Pipeline Event Payload Label Message} {redis : Bool}
    {payloads : List Payload} {records : List (LogRecord Label Message)}
    (sustained : Sustained handling past pipeline)
    (taken : handling.pipeline.step pipeline (.elsewhere redis payloads records) = some after) :
    Sustained handling (past ++ [.elsewhere redis payloads records]) after := by
  obtain rfl := Option.some.inj taken
  refine ⟨?_, sound_published payloads sustained.sound, sustained.buffered, sustained.own,
    sustained.awaits, ?_, ?_, ?_⟩
  · rw [foldl_xadd_entries, ← sustained.entries]
  · intro emission member event result own finished
    exact recorded_grown (sustained.recorded emission member event result own finished) rfl .inl
  · exact fun event emitted => sustained.faithful event (emitted_before rfl emitted)
  · exact fun event emitted => (sustained.held event (emitted_before rfl emitted)).imp_right
      fun recorded => recorded_grown recorded rfl .inl

/-- Classifying an event lets go of nothing, and neither does waking up. -/
theorem letsGoOfCommitted_classify {state : State Payload Event Label} {running redis : Bool}
    {batch : List (Nat × Payload)} {entry : Nat} {event : Event}
    (present : state.worker = some ⟨running, redis, .handling batch (.classifying entry event)⟩)
    (label : Label) :
    letsGoOfCommitted handling.parse handling.eventId state (.reply (.classified label)) =
      true := by
  simp [letsGoOfCommitted, letsGo, present]

/-- Waking up acknowledges nothing. The pause before another attempt keeps its
event. -/
theorem letsGoOfCommitted_awake (state : State Payload Event Label) :
    letsGoOfCommitted handling.parse handling.eventId state (.reply .awake) = true := by
  cases present : state.worker with
  | none => simp [letsGoOfCommitted, letsGo, present]
  | some worker =>
    obtain ⟨running, redis, activity⟩ := worker
    cases activity with
    | handling batch work => cases work <;> simp [letsGoOfCommitted, letsGo, present]
    | _ => simp [letsGoOfCommitted, letsGo, present]

/-- Nothing that happens leaves an emitted event without a holder. The cases are the
happenings; those that can take a holder away are the ones with a condition. -/
theorem sustained_step {past : List (Happening Event Payload Label Message)}
    {pipeline after : Pipeline Event Payload Label Message}
    {happening : Happening Event Payload Label Message}
    (sustained : Sustained handling past pipeline)
    (careful : Careful handling pipeline happening)
    (taken : handling.pipeline.step pipeline happening = some after) :
    Sustained handling (past ++ [happening]) after := by
  cases happening with
  | receive before emission =>
    obtain rfl := Option.some.inj taken
    cases emission with
    | none => exact sustained.behind rfl rfl rfl rfl sustained.sound
    | some emission => exact sustained_receives before emission.1 emission.2 sustained careful
  | startFlushLoop => exact sustained_startFlushLoop sustained taken
  | answer index reply error => exact sustained_answers sustained careful taken
  | cancel index executed => exact sustained_cancels sustained careful taken
  | restartHoneypots redis records => exact sustained_restart sustained careful taken
  | elsewhere redis payloads records => exact sustained_elsewhere sustained taken
  | classify now degraded =>
    simp only [Handling.pipeline, Handling.classifies] at taken
    split at taken
    case h_2 => simp at taken
    case h_1 running redis batch entry event present =>
      have kept (store : Detection.IPContextStore) :
          Sustained handling past { pipeline with store := store } := { sustained with }
      refine sustained_backendMoves _ rfl (kept _) rfl ?_ taken
      exact letsGoOfCommitted_classify present _
  | store reply error =>
    simp only [Handling.pipeline, Handling.stores] at taken
    split at taken
    case h_2 => simp at taken
    case h_1 => exact sustained_backendMoves _ rfl sustained rfl careful taken
  | stop | crash | reply _ _ =>
    simp only [Handling.pipeline] at taken
    exact sustained_backendMoves _ rfl sustained rfl careful taken
  | loseGroup | start =>
    simp only [Handling.pipeline] at taken
    exact sustained_backendMoves _ rfl sustained rfl (by simp [letsGoOfCommitted, letsGo]) taken
  | awake =>
    simp only [Handling.pipeline] at taken
    exact sustained_backendMoves _ rfl sustained rfl (letsGoOfCommitted_awake _) taken

/-- In every run under the condition, with failures, cancelled emits, and stops and crashes
of the honeypots and of the worker anywhere, an emitted event is still with its emit, or
in the buffer, or the worker stores it when its calls are answered from then on. -/
theorem emitted_is_stored (redis : Bool)
    (schedule : List (Happening Event Payload Label Message))
    (final : Pipeline Event Payload Label Message)
    (careful : handling.pipeline.Admitted (Careful handling) (.initial redis) schedule)
    (reached : handling.pipeline.run (.initial redis) schedule = some final)
    (classify : Event → Label) :
    ∃ rest, Settles (proceed handling.parse handling.eventId classify) final.backend rest ∧
      ∀ happening ∈ schedule, ∀ event, happening.emits = some event →
        (∃ emission ∈ final.emissions, emission.task = .emitEvent event ∧
          ∃ point, emission.progress = .suspended point) ∨
        event ∈ final.memory.buffer.items ∨
        committed handling.eventId rest.table (handling.eventId event) = true := by
  have begins : Sustained handling [] (.initial redis) := by
    refine ⟨rfl, ⟨?_, trivial⟩, ?_, ?_, ?_, ?_, ?_, ?_⟩ <;>
      simp [Pipeline.initial, initial, Stream.empty, Emitted]
  have sustained := handling.pipeline.admitted_history (Careful handling) (Sustained handling)
    (fun past state happening next kept careful taken => sustained_step kept careful taken)
    [] _ final schedule begins careful reached
  rw [List.nil_append] at sustained
  obtain ⟨rest, settled⟩ := recovery_ends handling.parse classify sustained.sound.orderly
  refine ⟨rest, settled, fun happening member event emits => ?_⟩
  have emitted : Emitted schedule event := ⟨happening, member, emits⟩
  -- What is recorded is in the buffer, or the worker can reach it.
  have settles (recorded : Honeypot.Recorded handling.toJsonStr event final.memory) :
      event ∈ final.memory.buffer.items ∨
        committed handling.eventId rest.table (handling.eventId event) = true := by
    rcases recorded with ⟨payload, written, stored⟩ | held
    · right
      obtain ⟨other, otherWritten, parsed⟩ := (sustained.faithful event emitted).read
      obtain rfl := Option.some.inj (written.symm.trans otherWritten)
      rw [rest_committed_iff classify sustained.sound.orderly settled]
      exact sustained.sound.reaches payload (sustained.entries ▸ stored) event parsed
    · exact .inl held
  rcases sustained.held event emitted with given | recorded
  · obtain ⟨emission, among, own⟩ := List.mem_map.mp given
    cases standing : emission.progress with
    | suspended point => exact .inl ⟨emission, among, own, point, standing⟩
    | finished result =>
      exact .inr (settles (sustained.recorded emission among event result own standing))
  · exact .inr (settles recorded)

/-- Events that are their own encoding. -/
def plain : Handling Nat Nat Unit Unit where
  toJsonStr := some
  fromJsonStr := .ok
  eventId event := numbered event
  protocol _ := .ssh
  sourceIp _ := []
  destinationPort _ := 22
  timeWindow := 600
  classify _ _ := ()
  statementError _ _ _ := ()

/-- Redis refuses an emit and accepts it at the second attempt; the worker commits the
event without hearing of it and crashes. The emit of another event is cancelled at its
append, which Redis executes, and then the process of the honeypots ends. -/
def refusedThenStored : List (Happening Nat Nat Unit Unit) :=
  [.receive [] (some (7, logInfo "http_honeypot.request" [])),
    .answer 0 (.failed .connectionError false) [], .answer 0 .answered [], .answer 0 .answered [],
    .answer 0 .answered [], .start, .reply .answered [], .reply .answered [], .classify 0 none,
    .store (.failed true) (.other []), .crash,
    .receive [] (some (8, logInfo "http_honeypot.request" [])), .cancel 1 true,
    .restartHoneypots false []]

/-- Both events have their rows once the worker has been started again: the first one's
was committed, the other one's entry is still to be read. -/
theorem emitted_is_stored_crash :
    ∃ final rest, plain.pipeline.run (.initial true) refusedThenStored = some final ∧
      Settles (proceed plain.parse plain.eventId fun _ => ()) final.backend rest ∧
      committed plain.eventId rest.table (plain.eventId 7) = true ∧
      committed plain.eventId rest.table (plain.eventId 8) = true := by
  have careful : plain.pipeline.Admitted (Careful plain) (.initial true) refusedThenStored := by
    have checked := (plain.pipeline.admits_iff
      (fun state happening => decide (Careful plain state happening)) (.initial true)
      refusedThenStored).mp (by decide +kernel)
    simpa only [decide_eq_true_eq] using checked
  obtain ⟨final, reached, finished⟩ : ∃ final,
      plain.pipeline.run (.initial true) refusedThenStored = some final ∧
      final.emissions = [] ∧ final.memory.buffer.items = [] := ⟨_, rfl, rfl, rfl⟩
  obtain ⟨rest, settled, stored⟩ :=
    emitted_is_stored true refusedThenStored final careful reached fun _ => ()
  have row (event : Nat)
      (emitted : ∃ happening ∈ refusedThenStored, happening.emits = some event) :
      committed plain.eventId rest.table (plain.eventId event) = true := by
    obtain ⟨happening, member, emits⟩ := emitted
    rcases stored happening member event emits with ⟨emission, among, -⟩ | held | row
    · simp [finished.1] at among
    · simp [finished.2] at held
    · exact row
  exact ⟨final, rest, reached, settled, row 7 ⟨_, List.mem_cons_self, rfl⟩,
    row 8 ⟨.receive [] (some (8, logInfo "http_honeypot.request" [])), by simp [refusedThenStored],
      rfl⟩⟩

end Honeywatch.Tasks
