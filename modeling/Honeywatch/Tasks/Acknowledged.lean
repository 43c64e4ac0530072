import Honeywatch.Db.Models
import Honeywatch.Detection.Classifier
import Honeywatch.Tasks.Delivery

/-!
# What an acknowledgement stands for

The runs of the worker with a record of the entries that Redis was told to
acknowledge, also where the worker never heard that it was. Whatever is
delivered, fails, is cancelled or crashes, an entry on record is malformed or its
event is committed with a classification. The worker knows as much of every
entry it has in hand: what its payload decodes to, and before an acknowledgement
that its row is in the table.
-/

namespace Honeywatch.Tasks

open Text Collector Redis Transition

variable {Payload Event Id Label : Type}

/-- The command reached Redis and was executed. -/
def executed : RedisReply → Bool
  | .answered => true
  | .failed _ executed => executed

/-- The entry that a move acknowledges. -/
def acknowledges (state : State Payload Event Label) : Move Payload Label → Option Nat
  | .reply (.redis reply) =>
    match state.worker.map EventWorker.activity with
    | some (.handling _ (.acknowledging entry _ _ _ .acking)) =>
      if executed reply then some entry else none
    | some (.handling _ (.rejecting entry .acking)) =>
      if executed reply then some entry else none
    | _ => none
  | _ => none

/-- A state with all entries acknowledged so far. -/
structure Recorded (Payload Event Label : Type) where
  state : State Payload Event Label
  acked : List Nat

variable [DecidableEq Id] (fromJsonStr : Payload → Option Event) (eventId : Event → Id)

/-- The worker with the record of its acknowledgements. -/
def recording : System (Recorded Payload Event Label) (Move Payload Label) where
  step recorded move :=
    ((system fromJsonStr eventId).step recorded.state move).map fun next =>
      { state := next, acked := (acknowledges recorded.state move).toList ++ recorded.acked }

/-- The entry is in the stream, and its payload decodes to this. -/
def DecodesTo (entries : List Payload) (entry : Nat) (event : Option Event) : Prop :=
  ∃ payload, entries[entry]? = some payload ∧ fromJsonStr payload = event

/-- What the worker knows of the entry in hand. -/
def Work.Known (entries : List Payload) (table : List (AttackEventModel Event Label)) :
    Work Event Label → Prop
  | .classifying entry event => DecodesTo fromJsonStr entries entry (some event)
  | .inserting entry event _ _ => DecodesTo fromJsonStr entries entry (some event)
  | .pausing entry event _ _ => DecodesTo fromJsonStr entries entry (some event)
  | .acknowledging entry event label _ _ =>
    DecodesTo fromJsonStr entries entry (some event) ∧ { event, label } ∈ table
  | .rejecting entry _ => DecodesTo fromJsonStr entries entry none

/-- What it knows of a batch: every entry has its payload in the stream. -/
def Delivered (entries : List Payload) (batch : List (Nat × Payload)) : Prop :=
  ∀ item ∈ batch, entries[item.1]? = some item.2

/-- What a worker's memory is true of. -/
def Known (entries : List Payload) (table : List (AttackEventModel Event Label)) :
    Option (EventWorker Payload Event Label) → Prop
  | none => True
  | some worker =>
    match worker.activity with
    | .handling batch work => Delivered entries batch ∧ work.Known fromJsonStr entries table
    | _ => True

/-- The entry is malformed, or its event is committed. -/
def Settled (entries : List Payload) (table : List (AttackEventModel Event Label)) (entry : Nat) :
    Prop :=
  DecodesTo fromJsonStr entries entry none ∨
    ∃ event label, DecodesTo fromJsonStr entries entry (some event) ∧ { event, label } ∈ table

/-- The worker's memory is true, and every acknowledged entry is settled. -/
structure Accounted (recorded : Recorded Payload Event Label) : Prop where
  known : Known fromJsonStr recorded.state.stream.entries recorded.state.table
    recorded.state.worker
  settled : ∀ entry ∈ recorded.acked,
    Settled fromJsonStr recorded.state.stream.entries recorded.state.table entry

section Memory

variable {fromJsonStr} (worker : EventWorker Payload Event Label) (entries : List Payload)
  (table : List (AttackEventModel Event Label)) (batch : List (Nat × Payload))

/-- At the head of the loop the worker remembers nothing that could be untrue, -/
theorem known_loopHead : Known fromJsonStr entries table (some worker.loopHead) := by
  cases client : worker.redis <;> simp [EventWorker.loopHead, client, Known]

/-- nor does it after a failure of the loop. -/
theorem known_consumeFailed (failure : RedisFailure) :
    Known fromJsonStr entries table (worker.consumeFailed failure) := by
  unfold EventWorker.consumeFailed
  split <;> exact trivial

/-- On the way to an acknowledgement it remembers the batch and the work, with a
client or while it waits for one. -/
theorem known_enterAck (work : AckPoint → Work Event Label) (delivered : Delivered entries batch)
    (known : ∀ point, (work point).Known fromJsonStr entries table) :
    Known fromJsonStr entries table (some (worker.enterAck batch work)) := by
  unfold EventWorker.enterAck
  split
  · exact ⟨delivered, known _⟩
  · exact ⟨delivered, known _⟩

/-- The next entry of a batch decodes to what the worker goes on with; a worker that
stops or has no batch left remembers nothing. -/
theorem known_advance (delivered : Delivered entries batch) :
    Known fromJsonStr entries table (worker.advance fromJsonStr batch) := by
  cases batch with
  | nil => exact known_loopHead worker entries table
  | cons first rest =>
    obtain ⟨entry, payload⟩ := first
    have stored : entries[entry]? = some payload := delivered (entry, payload) (by simp)
    have others : Delivered entries rest := fun item member =>
      delivered item (List.mem_cons_of_mem _ member)
    cases parsed : fromJsonStr payload with
    | none =>
      simp only [EventWorker.advance, parsed]
      exact known_enterAck worker entries table rest _ others fun _ => ⟨payload, stored, parsed⟩
    | some event =>
      simp only [EventWorker.advance, parsed]
      split
      · exact ⟨others, payload, stored, parsed⟩
      · exact trivial

/-- A failed attempt keeps the entry in hand with its event, or goes on with the
batch. -/
theorem known_attemptFailed (entry : Nat) (event : Event) (label : Label) (attempt : Nat)
    (delivered : Delivered entries batch)
    (decoded : DecodesTo fromJsonStr entries entry (some event)) :
    Known fromJsonStr entries table
      (worker.attemptFailed fromJsonStr batch entry event label attempt) := by
  unfold EventWorker.attemptFailed
  split
  · exact ⟨delivered, decoded⟩
  · exact known_advance worker entries table batch delivered

/-- A memory is true after a command that may fail if it is after either outcome, so
each of them is looked at on its own. -/
theorem known_outcome (failure : Option RedisFailure)
    {returned : Option (EventWorker Payload Event Label)}
    {raised : RedisFailure → Option (EventWorker Payload Event Label)}
    (normally : Known fromJsonStr entries table returned)
    (failing : ∀ failure, Known fromJsonStr entries table (raised failure)) :
    Known fromJsonStr entries table (outcome failure returned raised) := by
  cases failure with
  | none => exact normally
  | some failure => exact failing failure

end Memory

section Growth

variable {fromJsonStr} {entries grown : List Payload}
  {table longer : List (AttackEventModel Event Label)}

/-- The stream only grows at its end, so an entry keeps its payload, -/
theorem decodesTo_mono (more : entries <+: grown) {entry : Nat} {event : Option Event}
    (decoded : DecodesTo fromJsonStr entries entry event) :
    DecodesTo fromJsonStr grown entry event := by
  obtain ⟨payload, stored, same⟩ := decoded
  obtain ⟨added, rfl⟩ := more
  obtain ⟨inside, _⟩ := List.getElem?_eq_some_iff.mp stored
  exact ⟨payload, by rw [List.getElem?_append_left inside, stored], same⟩

/-- and a settled entry stays settled: its row is never removed. -/
theorem settled_mono (more : entries <+: grown) (rows : table ⊆ longer) {entry : Nat}
    (settled : Settled fromJsonStr entries table entry) :
    Settled fromJsonStr grown longer entry := by
  rcases settled with malformed | ⟨event, label, decoded, stored⟩
  · exact .inl (decodesTo_mono more malformed)
  · exact .inr ⟨event, label, decodesTo_mono more decoded, rows stored⟩

/-- Neither a further entry nor a further row makes a memory untrue, as all that is
remembered is that something is there. -/
theorem known_mono (more : entries <+: grown) (rows : table ⊆ longer)
    {worker : Option (EventWorker Payload Event Label)}
    (known : Known fromJsonStr entries table worker) :
    Known fromJsonStr grown longer worker := by
  cases worker with
  | none => exact trivial
  | some worker =>
    obtain ⟨running, redis, activity⟩ := worker
    cases activity with
    | handling batch work =>
      obtain ⟨delivered, inHand⟩ := known
      constructor
      · intro item member
        obtain ⟨added, rfl⟩ := more
        have stored := delivered item member
        obtain ⟨inside, _⟩ := List.getElem?_eq_some_iff.mp stored
        rw [List.getElem?_append_left inside, stored]
      · cases work with
        | classifying entry event => exact decodesTo_mono more inHand
        | inserting entry event label attempt => exact decodesTo_mono more inHand
        | pausing entry event label attempt => exact decodesTo_mono more inHand
        | acknowledging entry event label attempt point =>
          exact ⟨decodesTo_mono more inHand.1, rows inHand.2⟩
        | rejecting entry point => exact decodesTo_mono more inHand
    | _ => exact trivial

end Growth

/-- What an answered await leaves true: the stream keeps its entries and the
table its rows, the memory is true afterwards, and an entry that was
acknowledged is settled. -/
structure Keeps (state next : State Payload Event Label) (acked : Option Nat) : Prop where
  entries : next.stream.entries = state.stream.entries
  rows : state.table ⊆ next.table
  known : Known fromJsonStr next.stream.entries next.table next.worker
  settled : ∀ entry ∈ acked, Settled fromJsonStr next.stream.entries next.table entry

section Answer

variable {fromJsonStr eventId} {state next : State Payload Event Label}
  {worker : EventWorker Payload Event Label}

/-- A commit adds its row at the end of the table, and there is no other way in. -/
theorem commit_appends {table grown : List (AttackEventModel Event Label)}
    {row : AttackEventModel Event Label} (stored : commit eventId table row = some grown) :
    grown = table ++ [row] := by
  unfold commit at stored
  split at stored
  · simp at stored
  · exact (Option.some.inj stored).symm

/-- A failed attempt keeps what the worker remembers of the entry, or it is the last
one and the next entry is taken up. -/
theorem keeps_attemptFailed (batch : List (Nat × Payload)) (entry : Nat) (event : Event)
    (label : Label) (attempt : Nat)
    (activity : worker.activity = .handling batch (.inserting entry event label attempt))
    (known : Known fromJsonStr state.stream.entries state.table (some worker))
    (table : List (AttackEventModel Event Label)) (rows : state.table ⊆ table) :
    Keeps fromJsonStr state { state with
      table, worker := worker.attemptFailed fromJsonStr batch entry event label attempt } none := by
  simp only [Known, activity] at known
  obtain ⟨delivered, decoded⟩ := known
  have retry := known_attemptFailed worker state.stream.entries table batch entry event label
    attempt delivered decoded
  exact ⟨rfl, rows, retry, by simp⟩

/-- The insert of a row: its success is what an acknowledgement rests on, from here
to the end of the acknowledgement. -/
theorem keeps_stored (batch : List (Nat × Payload)) (entry : Nat) (event : Event) (label : Label)
    (attempt : Nat)
    (activity : worker.activity = .handling batch (.inserting entry event label attempt))
    (known : Known fromJsonStr state.stream.entries state.table (some worker))
    (table : List (AttackEventModel Event Label)) (rows : state.table ⊆ table)
    (row : { event, label } ∈ table) :
    Keeps fromJsonStr state { state with
      table
      worker := some (worker.enterAck batch (.acknowledging entry event label attempt)) } none := by
  simp only [Known, activity] at known
  obtain ⟨delivered, decoded⟩ := known
  exact ⟨rfl, rows, known_enterAck worker _ _ batch _ delivered fun _ => ⟨decoded, row⟩, by simp⟩

/-- The next read: what it delivers is in the stream, so the first entry decodes to
what the worker goes on with. -/
theorem keeps_reading (reply : RedisReply) :
    Keeps fromJsonStr state
      { state with
        stream := (xreadgroup state.stream reply).1
        worker :=
          match (xreadgroup state.stream reply).2 with
          | .ok batch => worker.advance fromJsonStr batch
          | .error failure =>
            if failure.isNoGroup then
              if worker.redis then some { worker with activity := .regrouping } else none
            else worker.consumeFailed failure } none := by
  obtain ⟨same, outcome⟩ := xreadgroup_reply fromJsonStr state.stream reply
  refine ⟨same, List.Subset.refl _, ?_, by simp⟩
  rcases outcome with ⟨batch, read, _, _, split⟩ | ⟨failure, read, _⟩
  · simp only [read]
    refine known_advance worker _ _ batch fun item member => ?_
    rw [same]
    exact state.stream.undelivered_stored item (split ▸ List.mem_append_left _ member)
  · simp only [read]
    split
    · split <;> exact trivial
    · exact known_consumeFailed worker _ _ failure

/-- A group command changes no entry and acknowledges nothing, whether it makes the
group or finds it. -/
theorem keeps_ensure (reply : RedisReply) {after : Option (EventWorker Payload Event Label)}
    (known : Known fromJsonStr state.stream.entries state.table after) :
    Keeps fromJsonStr state
      { state with stream := (ensureConsumerGroup state.stream reply).1, worker := after }
      none where
  entries := ensureConsumerGroup_entries ..
  rows := List.Subset.refl _
  known := by rwa [ensureConsumerGroup_entries]
  settled := by simp

/-- An acknowledgement of a settled entry, whether or not it was executed. A failure
may be reported of a command that Redis has executed all the same. -/
theorem keeps_xack (reply : RedisReply) (entry : Nat)
    {after : Option (EventWorker Payload Event Label)}
    (settled : Settled fromJsonStr state.stream.entries state.table entry)
    (known : Known fromJsonStr state.stream.entries state.table after) :
    Keeps fromJsonStr state
      { state with stream := (xack state.stream entry reply).1, worker := after }
      (if executed reply then some entry else none) where
  entries := xack_reply_entries ..
  rows := List.Subset.refl _
  known := by rwa [xack_reply_entries]
  settled := by
    intro other acked
    rw [xack_reply_entries]
    by_cases reached : executed reply
    · simp only [reached, if_true, Option.mem_def, Option.some.injEq] at acked
      exact acked ▸ settled
    · simp [reached] at acked

/-- An answer from elsewhere than Redis or PostgreSQL changes only the memory. -/
theorem keeps_memory {after : Option (EventWorker Payload Event Label)}
    (known : Known fromJsonStr state.stream.entries state.table after) :
    Keeps fromJsonStr state { state with worker := after } none :=
  ⟨rfl, List.Subset.refl _, known, by simp⟩

/-- The client of a worker that wants to acknowledge a stored event is back, or its
attempt has failed. Either way it still has the entry of this event in hand. -/
theorem keeps_reconnected (reply : RedisReply) (batch : List (Nat × Payload)) (entry : Nat)
    (event : Event) (label : Label) (attempt : Nat)
    (activity : worker.activity =
      .handling batch (.acknowledging entry event label attempt .connecting))
    (known : Known fromJsonStr state.stream.entries state.table (some worker)) :
    Keeps fromJsonStr state
      { state with
        stream := (ensureConsumerGroup state.stream reply).1
        worker := outcome (ensureConsumerGroup state.stream reply).2
          (if worker.redis then
            some { worker with
              activity := .handling batch (.acknowledging entry event label attempt .acking) }
          else worker.attemptFailed fromJsonStr batch entry event label attempt)
          fun _ => worker.attemptFailed fromJsonStr batch entry event label attempt } none := by
  simp only [Known, activity] at known
  obtain ⟨delivered, decoded, stored⟩ := known
  have retry := known_attemptFailed worker state.stream.entries state.table batch entry event
    label attempt delivered decoded
  refine keeps_ensure reply (known_outcome _ _ _ ?_ fun _ => retry)
  split
  · exact ⟨delivered, decoded, stored⟩
  · exact retry

/-- A stored event may be acknowledged: its row is in the table. If the command
fails, the event is attempted again with its row still there. -/
theorem keeps_acknowledged (reply : RedisReply) (batch : List (Nat × Payload)) (entry : Nat)
    (event : Event) (label : Label) (attempt : Nat)
    (activity : worker.activity =
      .handling batch (.acknowledging entry event label attempt .acking))
    (known : Known fromJsonStr state.stream.entries state.table (some worker)) :
    Keeps fromJsonStr state
      { state with
        stream := (xack state.stream entry reply).1
        worker := outcome (xack state.stream entry reply).2 (worker.advance fromJsonStr batch)
          fun _ => worker.attemptFailed fromJsonStr batch entry event label attempt }
      (if executed reply then some entry else none) := by
  simp only [Known, activity] at known
  obtain ⟨delivered, decoded, stored⟩ := known
  refine keeps_xack reply entry (.inr ⟨event, label, decoded, stored⟩) (known_outcome _ _ _ ?_ ?_)
  · exact known_advance worker _ _ batch delivered
  · intro failure
    exact known_attemptFailed worker _ _ batch entry event label attempt delivered decoded

/-- The client of a worker that rejects an entry is back, or the loop begins again;
the entry is malformed as before. -/
theorem keeps_reconnectedRejecting (reply : RedisReply) (batch : List (Nat × Payload))
    (entry : Nat)
    (activity : worker.activity = .handling batch (.rejecting entry .connecting))
    (known : Known fromJsonStr state.stream.entries state.table (some worker)) :
    Keeps fromJsonStr state
      { state with
        stream := (ensureConsumerGroup state.stream reply).1
        worker := outcome (ensureConsumerGroup state.stream reply).2
          (if worker.redis then
            some { worker with activity := .handling batch (.rejecting entry .acking) }
          else none)
          worker.consumeFailed } none := by
  simp only [Known, activity] at known
  obtain ⟨delivered, malformed⟩ := known
  refine keeps_ensure reply (known_outcome _ _ _ ?_ (known_consumeFailed worker _ _))
  split
  · exact ⟨delivered, malformed⟩
  · exact trivial

/-- A malformed entry may be acknowledged as it is, since it decodes to no event and
no row is owed for it. -/
theorem keeps_rejected (reply : RedisReply) (batch : List (Nat × Payload)) (entry : Nat)
    (activity : worker.activity = .handling batch (.rejecting entry .acking))
    (known : Known fromJsonStr state.stream.entries state.table (some worker)) :
    Keeps fromJsonStr state
      { state with
        stream := (xack state.stream entry reply).1
        worker := outcome (xack state.stream entry reply).2 (worker.advance fromJsonStr batch)
          worker.consumeFailed }
      (if executed reply then some entry else none) := by
  simp only [Known, activity] at known
  obtain ⟨delivered, malformed⟩ := known
  exact keeps_xack reply entry (.inl malformed) (known_outcome _ _ _
    (known_advance worker _ _ batch delivered) (known_consumeFailed worker _ _))

/-- Whatever ends an await, the memory stays true and what is acknowledged is
settled. -/
theorem answer_keeps (reply : Reply Label) (present : state.worker = some worker)
    (known : Known fromJsonStr state.stream.entries state.table (some worker))
    (answered : answer fromJsonStr eventId state worker reply = some next) :
    Keeps fromJsonStr state next (acknowledges state (.reply reply)) := by
  cases answered_of_answer answered with
  | started reply activity =>
    simp only [acknowledges, present, Option.map_some, activity]
    exact keeps_ensure reply (known_outcome _ _ _ (known_loopHead _ _ _) fun _ => trivial)
  | connected reply activity =>
    simp only [acknowledges, present, Option.map_some, activity]
    refine keeps_ensure reply (known_outcome _ _ _ ?_ (known_consumeFailed worker _ _))
    split <;> exact trivial
  | regrouped reply activity =>
    simp only [acknowledges, present, Option.map_some, activity]
    exact keeps_ensure reply
      (known_outcome _ _ _ (known_loopHead worker _ _) (known_consumeFailed worker _ _))
  | read reply activity =>
    simp only [acknowledges, present, Option.map_some, activity]
    exact keeps_reading reply
  | reconnected reply batch entry event label attempt activity =>
    simp only [acknowledges, present, Option.map_some, activity]
    exact keeps_reconnected reply batch entry event label attempt activity known
  | acknowledged reply batch entry event label attempt activity =>
    simp only [acknowledges, present, Option.map_some, activity]
    exact keeps_acknowledged reply batch entry event label attempt activity known
  | reconnectedRejecting reply batch entry activity =>
    simp only [acknowledges, present, Option.map_some, activity]
    exact keeps_reconnectedRejecting reply batch entry activity known
  | rejected reply batch entry activity =>
    simp only [acknowledges, present, Option.map_some, activity]
    exact keeps_rejected reply batch entry activity known
  | classified batch entry event label activity =>
    simp only [Known, activity] at known
    exact keeps_memory known
  | stored batch entry event label attempt table activity inserted =>
    have appended := commit_appends inserted
    exact keeps_stored batch entry event label attempt activity known table
      (appended ▸ List.subset_append_left _ _) (by simp [appended])
  | storedUnseen batch entry event label attempt table activity inserted =>
    exact keeps_attemptFailed batch entry event label attempt activity known table
      (commit_appends inserted ▸ List.subset_append_left _ _)
  | notStored reply batch entry event label attempt activity why =>
    exact keeps_attemptFailed batch entry event label attempt activity known state.table
      (List.Subset.refl _)
  | woken activity => exact keeps_memory (known_loopHead worker _ _)
  | retried batch entry event label attempt activity =>
    simp only [Known, activity] at known
    exact keeps_memory known

end Answer

/-- Every move keeps the account. A publish and a start add to it, a crash takes the
memory away, and an answer is one of the cases above, by the activity of the worker.
-/
theorem accounted_step (recorded next : Recorded Payload Event Label) (move : Move Payload Label)
    (accounted : Accounted fromJsonStr recorded)
    (taken : (recording fromJsonStr eventId).step recorded move = some next) :
    Accounted fromJsonStr next := by
  obtain ⟨state, acked⟩ := recorded
  obtain ⟨known, settled⟩ := accounted
  obtain ⟨after, stepped, rfl⟩ := Option.map_eq_some_iff.mp taken
  have calm (more : state.stream.entries <+: after.stream.entries)
      (rows : state.table ⊆ after.table)
      (memory : Known fromJsonStr after.stream.entries after.table after.worker)
      (silent : acknowledges state move = none) :
      Accounted fromJsonStr
        { state := after, acked := (acknowledges state move).toList ++ acked } := by
    refine ⟨memory, fun entry member => settled_mono more rows (settled entry ?_)⟩
    simpa [silent] using member
  cases present : state.worker with
  | none =>
    cases move with
    | publish payload =>
      simp only [system, Option.some.injEq] at stepped
      subst stepped
      exact calm (List.prefix_append _ _) (List.Subset.refl _) (by simp [present, Known]) rfl
    | loseGroup =>
      simp only [system, Option.some.injEq] at stepped
      subst stepped
      exact calm (List.prefix_refl _) (List.Subset.refl _) (by simp [present, Known]) rfl
    | start =>
      simp only [system, present, Option.some.injEq] at stepped
      subst stepped
      exact calm (List.prefix_refl _) (List.Subset.refl _) trivial rfl
    | stop => simp [system, present] at stepped
    | crash => simp [system, present] at stepped
    | reply reply => simp [system, present] at stepped
  | some worker =>
    cases move with
    | publish payload =>
      simp only [system, Option.some.injEq] at stepped
      subst stepped
      have more : state.stream.entries <+: (state.stream.xadd payload).entries :=
        List.prefix_append _ _
      exact calm more (List.Subset.refl _) (known_mono more (List.Subset.refl _) known) rfl
    | loseGroup =>
      simp only [system, Option.some.injEq] at stepped
      subst stepped
      exact calm (List.prefix_refl _) (List.Subset.refl _) known rfl
    | start => simp [system, present] at stepped
    | stop =>
      simp only [system, present, Option.some.injEq] at stepped
      subst stepped
      simp only [present] at known
      exact calm (List.prefix_refl _) (List.Subset.refl _) known rfl
    | crash =>
      simp only [system, present, Option.some.injEq] at stepped
      subst stepped
      exact calm (List.prefix_refl _) (List.Subset.refl _) trivial rfl
    | reply reply =>
      simp only [system, present] at stepped
      simp only [present] at known
      have keeps := answer_keeps reply present known stepped
      have more : state.stream.entries <+: after.stream.entries :=
        keeps.entries ▸ List.prefix_refl _
      refine ⟨keeps.known, fun entry member => ?_⟩
      rcases List.mem_append.mp member with now | before
      · exact keeps.settled entry (Option.mem_toList.mp now)
      · exact settled_mono more keeps.rows (settled entry before)

/-- The row that the worker inserts for a classified event. -/
def attackEventRow (row : AttackEventModel AttackEvent Detection.ClassificationResult) :
    Db.AttackEventModel :=
  { id := row.event.id
    timestamp := row.event.timestamp
    sourceIp := row.event.sourceIp
    sourcePort := row.event.sourcePort
    destinationPort := row.event.destinationPort
    protocol := row.event.protocol.value
    eventType := row.event.eventType
    attackType := some row.label.attackType.value
    severity := some row.label.severity.value
    rawData := row.event.rawData }

/-- A committed row holds what was decoded, and a classification. -/
structure Stores (row : Db.AttackEventModel) (event : AttackEvent) : Prop where
  id : row.id = event.id
  sourceIp : row.sourceIp = event.sourceIp
  sourcePort : row.sourcePort = event.sourcePort
  destinationPort : row.destinationPort = event.destinationPort
  protocol : row.protocol = event.protocol.value
  eventType : row.eventType = event.eventType
  rawData : row.rawData = event.rawData
  attackType : row.attackType ≠ none
  severity : row.severity ≠ none

/-- In every state that a worker reaches, whatever was published, delivered,
failed, stopped or crashed on the way, every acknowledged entry is one whose
payload does not decode, or its event's row is committed with the decoded fields
and a classification. -/
theorem acknowledged_is_committed (fromJsonStr : Payload → Option AttackEvent)
    (schedule : List (Move Payload Detection.ClassificationResult))
    (final : Recorded Payload AttackEvent Detection.ClassificationResult)
    (reached : (recording fromJsonStr AttackEvent.id).run { state := initial, acked := [] }
      schedule = some final) :
    ∀ entry ∈ final.acked, ∃ payload, final.state.stream.entries[entry]? = some payload ∧
      (fromJsonStr payload = none ∨
        ∃ event, fromJsonStr payload = some event ∧
          ∃ row ∈ final.state.table.map attackEventRow, Stores row event) := by
  have begins : Accounted fromJsonStr
      ({ state := initial, acked := [] } :
        Recorded Payload AttackEvent Detection.ClassificationResult) := ⟨trivial, by simp⟩
  have accounted := (recording fromJsonStr AttackEvent.id).run_invariant (Accounted fromJsonStr)
    (fun recorded move next kept =>
      accounted_step fromJsonStr AttackEvent.id recorded next move kept)
    _ final schedule begins reached
  intro entry acked
  rcases accounted.settled entry acked with
    ⟨payload, stored, malformed⟩ | ⟨event, label, ⟨payload, stored, decoded⟩, committed⟩
  · exact ⟨payload, stored, .inl malformed⟩
  · refine ⟨payload, stored, .inr ⟨event, decoded, _, List.mem_map_of_mem committed, ?_⟩⟩
    constructor <;> simp [attackEventRow]

/-- A well-formed entry and a malformed one. -/
def firstEvent : AttackEvent :=
  { id := someStamp.id
    timestamp := someStamp.timestamp
    sourceIp := literal "10.0.0.1"
    sourcePort := 4000
    destinationPort := 22
    protocol := .ssh
    eventType := literal "ssh_connection"
    rawData := [] }

def decodeFlag (flag : Bool) : Option AttackEvent := if flag then some firstEvent else none

/-- One batch with both entries; the first attempt to store the event fails. -/
def oneBatch : List (Move Bool Detection.ClassificationResult) :=
  [.publish true, .publish false, .start, .reply (.redis .answered), .reply (.redis .answered),
    .reply (.classified { attackType := .suspiciousRequest, severity := .low }),
    .reply (.database (.failed false)), .reply .awake, .reply (.database .answered),
    .reply (.redis .answered), .reply (.redis .answered)]

/-- Both entries of the batch are acknowledged, the malformed one without a row and
the other one with its row in the table. -/
theorem acknowledged_is_committed_batch :
    ∃ final, (recording decodeFlag AttackEvent.id).run { state := initial, acked := [] } oneBatch =
        some final ∧
      final.acked = [1, 0] ∧
      ∀ entry ∈ final.acked, ∃ payload, final.state.stream.entries[entry]? = some payload ∧
        (decodeFlag payload = none ∨
          ∃ event, decodeFlag payload = some event ∧
            ∃ row ∈ final.state.table.map attackEventRow, Stores row event) := by
  have reached : ∃ final, (recording decodeFlag AttackEvent.id).run
      { state := initial, acked := [] } oneBatch = some final ∧ final.acked = [1, 0] :=
    ⟨_, rfl, rfl⟩
  obtain ⟨final, reached, both⟩ := reached
  exact ⟨final, reached, both, acknowledged_is_committed decodeFlag oneBatch final reached⟩

end Honeywatch.Tasks
