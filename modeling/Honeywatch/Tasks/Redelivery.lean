import Honeywatch.Tasks.Recovery

/-!
# Processing an event whose row is committed

Insert and acknowledgement share one retry loop, and the primary key refuses a
second row. An event that is processed again, whatever the reason, therefore
fails its ten inserts one after the other. The table stays as it is, and the
entry is never acknowledged.
-/

namespace Honeywatch.Tasks

open Collector Redis Transition

variable {Payload Event Id Label : Type}

/-- The entry the worker is at. -/
def Work.entry : Work Event Label → Nat
  | .classifying entry _ => entry
  | .inserting entry _ _ _ => entry
  | .acknowledging entry _ _ _ _ => entry
  | .pausing entry _ _ _ => entry
  | .rejecting entry _ => entry

/-- The worker has yet to insert this event: it is at its classification or
before one of its inserts. -/
def Work.Storing (event : Event) : Work Event Label → Prop
  | .classifying _ own => own = event
  | .inserting _ own _ _ => own = event
  | .pausing _ own _ _ => own = event
  | .acknowledging _ _ _ _ _ => False
  | .rejecting _ _ => False

variable [DecidableEq Id] (fromJsonStr : Payload → Option Event) (eventId : Event → Id)

/-- Process one entry of a batch, with so many entries after it, while
PostgreSQL and Redis answer. It ends when the worker goes on to another entry. -/
def processing (classify : Event → Label) (entry later : Nat)
    (state : State Payload Event Label) : Option (State Payload Event Label) :=
  match state.worker with
  | none => none
  | some worker =>
    match worker.activity with
    | .handling batch work =>
      if batch.length = later ∧ work.entry = entry then proceed fromJsonStr eventId classify state
      else none
    | _ => none

/-- What is left to do for the entry. -/
def processingCost (entry later : Nat) (state : State Payload Event Label) : Nat :=
  match state.worker with
  | none => 0
  | some worker =>
    match worker.activity with
    | .handling batch work =>
      if batch.length = later ∧ work.entry = entry then work.cost else 0
    | _ => 0

/-- As long as the worker is at the entry, it runs and has yet to insert the
event; neither the table nor the stream has changed. -/
structure Unstored (event : Event) (entry later : Nat) (start state : State Payload Event Label) :
    Prop where
  table : state.table = start.table
  stream : state.stream = start.stream
  storing : ∀ worker batch work, state.worker = some worker →
    worker.activity = .handling batch work → batch.length = later → work.entry = entry →
      worker.running = true ∧ work.Storing event

section Step

variable {fromJsonStr eventId} {worker next : EventWorker Payload Event Label}

omit [DecidableEq Id] in
/-- Going on with a batch leaves fewer entries after the current one, as malformed
ones may be skipped on the way. -/
theorem advance_shorter (batch rest : List (Nat × Payload)) (work : Work Event Label)
    (advanced : worker.advance fromJsonStr batch = some next)
    (activity : next.activity = .handling rest work) : rest.length < batch.length := by
  cases batch with
  | nil =>
    have same := Option.some.inj advanced
    subst same
    cases client : worker.redis <;> simp [EventWorker.loopHead, client] at activity
  | cons first others =>
    obtain ⟨entry, payload⟩ := first
    have shorter : rest = others := by
      cases parsed : fromJsonStr payload with
      | none =>
        simp only [EventWorker.advance, parsed, Option.some.injEq] at advanced
        subst advanced
        cases client : worker.redis <;> simp [EventWorker.enterAck, client] at activity <;>
          exact activity.1.symm
      | some event =>
        simp only [EventWorker.advance, parsed] at advanced
        split at advanced
        · have same := Option.some.inj advanced
          subst same
          simp only [Activity.handling.injEq] at activity
          exact activity.1.symm
        · simp at advanced
    simp [shorter]

variable (worker) in
/-- The worker may go on to a cheaper await before the insert of the event; the
entry stays pending and the table as it is. -/
theorem unstored_goes_on {event : Event} {entry later : Nat}
    {start state : State Payload Event Label} (unstored : Unstored event entry later start state)
    (batch : List (Nat × Payload)) (work : Work Event Label) (bound : Nat)
    (running : worker.running = true) (storing : work.Storing event) (cheaper : work.cost < bound) :
    Unstored event entry later start
        { state with worker := some { worker with activity := .handling batch work } } ∧
      processingCost entry later
        { state with worker := some { worker with activity := .handling batch work } } < bound := by
  refine ⟨⟨unstored.table, unstored.stream, ?_⟩, ?_⟩
  · intro current rest other present moved _ _
    have same := Option.some.inj present
    subst same
    obtain ⟨rfl, rfl⟩ := Activity.handling.inj moved
    exact ⟨running, storing⟩
  · simp only [processingCost]
    split <;> omega

variable (fromJsonStr worker) in
/-- Going on with the batch ends the processing of the entry, which is then behind
the worker and never acknowledged by it. -/
theorem unstored_advance {event : Event} {entry : Nat}
    {start state : State Payload Event Label} (batch : List (Nat × Payload))
    (unstored : Unstored event entry batch.length start state) :
    Unstored event entry batch.length start
        { state with worker := worker.advance fromJsonStr batch } ∧
      processingCost entry batch.length
        { state with worker := worker.advance fromJsonStr batch } = 0 := by
  refine ⟨⟨unstored.table, unstored.stream, ?_⟩, ?_⟩
  · intro following rest work advanced moved same_length _
    have fewer := advance_shorter batch rest work advanced moved
    omega
  · cases advanced : worker.advance fromJsonStr batch with
    | none => simp [processingCost]
    | some following =>
      cases moved : following.activity with
      | handling rest work =>
        have fewer := advance_shorter batch rest work advanced moved
        have other : rest.length ≠ batch.length := by omega
        simp [processingCost, moved, other]
      | _ => simp [processingCost, moved]

variable (fromJsonStr eventId) in
/-- One step towards the insert of a committed event: the classification or the
pause ends, or the insert is refused and the attempts go on or are used up. -/
theorem processing_step (classify : Event → Label) (event : Event) (entry later : Nat)
    (start state : State Payload Event Label)
    (taken : committed eventId start.table (eventId event) = true)
    (unstored : Unstored event entry later start state) :
    processing fromJsonStr eventId classify entry later state = none ∨
      ∃ next, processing fromJsonStr eventId classify entry later state = some next ∧
        Unstored event entry later start next ∧
        processingCost entry later next < processingCost entry later state := by
  cases present : state.worker with
  | none => exact .inl (by simp [processing, present])
  | some worker =>
    cases activity : worker.activity with
    | handling batch work =>
      by_cases here : batch.length = later ∧ work.entry = entry
      · obtain ⟨running, storing⟩ :=
          unstored.storing worker batch work present activity here.1 here.2
        have up : worker.isUp = true := by simp [EventWorker.isUp, running]
        have moves : processing fromJsonStr eventId classify entry later state =
            proceed fromJsonStr eventId classify state := by
          simp [processing, present, activity, here]
        have weighs : processingCost entry later state = work.cost := by
          simp [processingCost, present, activity, here]
        have answers (reply : Reply Label)
            (chosen : nextReply classify state.stream worker.activity = some reply) :
            proceed fromJsonStr eventId classify state =
              answer fromJsonStr eventId state worker reply := by
          simp [proceed, nextMove, present, up, chosen, system]
        rw [moves, weighs]
        cases work with
        | classifying own_entry own =>
          have advanced := unstored_goes_on worker unstored batch
            (.inserting own_entry own (classify own) 0)
            (Work.cost (.classifying own_entry own : Work Event Label)) running storing
            (by simp [Work.cost, dbMaxRetries])
          refine .inr ⟨_, ?_, advanced⟩
          rw [answers (.classified (classify own)) (by simp [nextReply, activity])]
          simp [answer, activity]
        | pausing own_entry own label attempt =>
          have advanced := unstored_goes_on worker unstored batch
            (.inserting own_entry own label attempt)
            (Work.cost (.pausing own_entry own label attempt)) running storing
            (by simp [Work.cost])
          refine .inr ⟨_, ?_, advanced⟩
          rw [answers .awake (by simp [nextReply, activity])]
          simp [answer, activity]
        | inserting own_entry own label attempt =>
          have same : own = event := storing
          have refused : commit eventId state.table { event := own, label := label } = none := by
            simp [commit, unstored.table, taken, same]
          have fails : proceed fromJsonStr eventId classify state = some { state with
              worker := worker.attemptFailed fromJsonStr batch own_entry own label attempt } := by
            rw [answers (.database .answered) (by simp [nextReply, activity])]
            simp [answer, activity, refused]
          refine .inr ⟨_, fails, ?_⟩
          unfold EventWorker.attemptFailed
          split
          · exact unstored_goes_on worker unstored batch _ _ running storing
              (by simp only [Work.cost]; omega)
          · obtain ⟨rfl, _⟩ := here
            obtain ⟨still, ended⟩ := unstored_advance fromJsonStr worker batch unstored
            exact ⟨still, by simp [ended, Work.cost]⟩
        | acknowledging own_entry own label attempt point => exact absurd storing id
        | rejecting own_entry point => exact absurd storing id
      · exact .inl (by simp [processing, present, activity, here])
    | _ => exact .inl (by simp [processing, present, activity])

variable (fromJsonStr eventId) in
/-- The processing of a committed event ends, and it ends with the table and
the stream as they were. -/
theorem processing_ends (classify : Event → Label) (event : Event) (entry later : Nat)
    (state : State Payload Event Label)
    (taken : committed eventId state.table (eventId event) = true)
    (unstored : Unstored event entry later state state) :
    (∃ final, Settles (processing fromJsonStr eventId classify entry later) state final) ∧
      ∀ final, Settles (processing fromJsonStr eventId classify entry later) state final →
        final.table = state.table ∧ final.stream = state.stream := by
  have preserved : ∀ current middle, Unstored event entry later state current →
      processing fromJsonStr eventId classify entry later current = some middle →
      Unstored event entry later state middle ∧
        processingCost entry later middle < processingCost entry later current := by
    intro current middle kept moved
    rcases processing_step fromJsonStr eventId classify event entry later state current
      taken kept with rests | ⟨next, proceeds, still, cheaper⟩
    · simp [rests] at moved
    · exact Option.some.inj (proceeds.symm.trans moved) ▸ ⟨still, cheaper⟩
  constructor
  · exact Settles.exists_of_measure (Unstored event entry later state)
      (processingCost entry later) (fun current middle kept moved => (preserved _ _ kept moved).1)
      (fun current middle kept moved => (preserved _ _ kept moved).2) state unstored
  · intro final settled
    have still := settled.invariant (Unstored event entry later state)
      (fun current middle kept moved => (preserved _ _ kept moved).1) unstored
    exact ⟨still.table, still.stream⟩

end Step

/-- For every event whose row is committed and every pending entry that carries
it, wherever the worker is before an insert of it: while PostgreSQL and Redis
answer, the processing of the entry ends, the table is unchanged, and the entry
is still pending. -/
theorem committed_event_never_acknowledged (classify : Event → Label)
    (state : State Payload Event Label) (worker : EventWorker Payload Event Label)
    (batch : List (Nat × Payload)) (work : Work Event Label) (event : Event)
    (present : state.worker = some worker) (running : worker.running = true)
    (activity : worker.activity = .handling batch work) (storing : work.Storing event)
    (taken : committed eventId state.table (eventId event) = true)
    (delivered : work.entry ∈ state.stream.pending) :
    (∃ final,
      Settles (processing fromJsonStr eventId classify work.entry batch.length) state final) ∧
    ∀ final,
      Settles (processing fromJsonStr eventId classify work.entry batch.length) state final →
        final.table = state.table ∧ work.entry ∈ final.stream.pending := by
  have unstored : Unstored event work.entry batch.length state state := by
    refine ⟨rfl, rfl, ?_⟩
    intro current rest other found moved _ _
    have same : worker = current := Option.some.inj (present.symm.trans found)
    subst same
    obtain ⟨rfl, rfl⟩ := Activity.handling.inj (activity.symm.trans moved)
    exact ⟨running, storing⟩
  obtain ⟨ends, unchanged⟩ :=
    processing_ends fromJsonStr eventId classify event _ _ state taken unstored
  refine ⟨ends, fun final settled => ?_⟩
  obtain ⟨table, stream⟩ := unchanged final settled
  exact ⟨table, stream ▸ delivered⟩

/-- The worker after its first attempt, whose row is committed and whose
acknowledgement failed. -/
def unacknowledged : State Nat Nat Unit :=
  { stream := { entries := [7], group := some { lastDelivered := 1, pending := [0] },
                within := by simp }
    table := [{ event := 7, label := () }]
    worker := some { running := true, redis := true,
                     activity := .handling [] (.pausing 0 7 () 1) } }

/-- Its second attempt is still to come: the processing ends without an
acknowledgement. -/
theorem committed_event_never_acknowledged_retry :
    (∃ final, Settles (processing some id (fun _ => ()) 0 0) unacknowledged final) ∧
      ∀ final, Settles (processing some id (fun _ => ()) 0 0) unacknowledged final →
        final.table = unacknowledged.table ∧ 0 ∈ final.stream.pending :=
  committed_event_never_acknowledged some id (fun _ => ()) unacknowledged _ [] (.pausing 0 7 () 1)
    7 rfl rfl rfl rfl (by decide) (by decide)

/-- The first attempt of a run commits the row and loses the acknowledgement.
The nine attempts that follow are answered, and the entry stays pending. -/
theorem failed_ack_never_acknowledged :
    ∃ (schedule : List (Move Nat Unit)) (final : State Nat Nat Unit),
      (system some id).run initial schedule = some unacknowledged ∧
      Settles (processing some id (fun _ => ()) 0 0) unacknowledged final ∧
      committed id unacknowledged.table 7 = true ∧ 0 ∈ final.stream.pending := by
  have unstored : Unstored 7 0 0 unacknowledged unacknowledged := by
    refine ⟨rfl, rfl, ?_⟩
    intro worker batch work present activity _ _
    cases present
    cases activity
    exact ⟨rfl, rfl⟩
  obtain ⟨⟨final, settled⟩, unchanged⟩ :=
    processing_ends some id (fun _ => ()) 7 0 0 unacknowledged (by decide) unstored
  refine ⟨[.publish 7, .start, .reply (.redis .answered), .reply (.redis .answered),
    .reply (.classified ()), .reply (.database .answered),
    .reply (.redis (.failed .timeoutError false))], final, rfl, settled, by decide, ?_⟩
  rw [(unchanged final settled).2]
  decide

end Honeywatch.Tasks
