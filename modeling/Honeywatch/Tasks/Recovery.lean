import Honeywatch.Tasks.Delivery

/-!
# What a worker stores once everything answers

From some state on Redis and PostgreSQL answer every call, and a worker runs:
the current one, or a new one where the process has ended or was stopped. It
comes to rest when its reads yield nothing more. Then exactly the events that
were within reach at the start are committed. So every run whose moves let go
of committed events only can be recovered in full, and an event out of reach is
lost for good.
-/

namespace Honeywatch.Tasks

open Collector Redis Transition

variable {Payload Event Id Label : Type}

/-- The answer that ends an await when every call is answered. A read with
nothing to deliver blocks. -/
def nextReply (classify : Event → Label) (stream : Stream Payload) :
    Activity Payload Event Label → Option (Reply Label)
  | .starting => some (.redis .answered)
  | .connecting => some (.redis .answered)
  | .regrouping => some (.redis .answered)
  | .reading =>
    if stream.group.isSome ∧ stream.undelivered = [] then none else some (.redis .answered)
  | .sleeping => some .awake
  | .handling _ (.classifying _ event) => some (.classified (classify event))
  | .handling _ (.inserting _ _ _ _) => some (.database .answered)
  | .handling _ (.acknowledging _ _ _ _ _) => some (.redis .answered)
  | .handling _ (.pausing _ _ _ _) => some .awake
  | .handling _ (.rejecting _ _) => some (.redis .answered)

/-- The worker is on its way: it is between start and stop, or starting. -/
def EventWorker.isUp (worker : EventWorker Payload Event Label) : Bool :=
  worker.running ||
    match worker.activity with
    | .starting => true
    | _ => false

/-- The next move of a recovery. The process of a stopped worker ends. -/
def nextMove (classify : Event → Label) (state : State Payload Event Label) :
    Option (Move Payload Label) :=
  match state.worker with
  | none => some .start
  | some worker =>
    if worker.isUp then (nextReply classify state.stream worker.activity).map .reply
    else some .crash

variable [DecidableEq Id] (fromJsonStr : Payload → Option Event) (eventId : Event → Id)

/-- One step of a recovery. -/
def proceed (classify : Event → Label) (state : State Payload Event Label) :
    Option (State Payload Event Label) :=
  (nextMove classify state).bind ((system fromJsonStr eventId).step state)

/-- A recovery from this state comes to rest with every published well-formed
event in `attack_events`. -/
def Recovers (classify : Event → Label) (state : State Payload Event Label) : Prop :=
  ∃ final, Settles (proceed fromJsonStr eventId classify) state final ∧
    ∀ payload ∈ state.stream.entries, ∀ event, fromJsonStr payload = some event →
      committed eventId final.table (eventId event) = true

/-- What is left to do about one entry: at most ten inserts with their pauses,
and the acknowledgement. -/
def Work.cost : Work Event Label → Nat
  | .classifying _ _ => 40
  | .inserting _ _ _ attempt => 3 * (dbMaxRetries - attempt) + 5
  | .pausing _ _ _ next => 3 * (dbMaxRetries - next) + 6
  | .acknowledging _ _ _ _ _ => 1
  | .rejecting _ _ => 1

/-- What is left to do before the next read, with and without a group. -/
def Activity.cost (grouped : Bool) : Activity Payload Event Label → Nat
  | .starting => 20
  | .connecting => 9
  | .regrouping => 12
  | .reading => if grouped then 8 else 15
  | .sleeping => 16
  | .handling batch work => 16 + 50 * batch.length + work.cost

def workerCost (grouped : Bool) : Option (EventWorker Payload Event Label) → Nat
  | none => 60
  | some worker => if worker.isUp then worker.activity.cost grouped else 70

/-- What is left to do in a recovery; an undelivered entry weighs twice what it
does once it is in a batch. -/
def recoveryCost (state : State Payload Event Label) : Nat :=
  100 * state.stream.undelivered.length + workerCost state.stream.group.isSome state.worker

section Step

variable {fromJsonStr eventId} {state next : State Payload Event Label}
  {worker : EventWorker Payload Event Label}

variable (worker) in
/-- The head of the consume loop, with or without a client. -/
theorem cost_loopHead (grouped : Bool) (running : worker.running = true) :
    workerCost grouped (some worker.loopHead) ≤
      if grouped ∨ worker.redis = false then 9 else 15 := by
  cases client : worker.redis <;> cases grouped <;>
    simp [EventWorker.loopHead, client, workerCost, EventWorker.isUp, running, Activity.cost]

variable (fromJsonStr) in
/-- Going on with a batch costs less than the batch was weighed with, which is what
makes a recovery come to rest. -/
theorem cost_advance (grouped : Bool) (batch : List (Nat × Payload))
    (running : worker.running = true) (client : worker.redis = true) :
    workerCost grouped (worker.advance fromJsonStr batch) ≤ 15 + 50 * batch.length := by
  cases batch with
  | nil =>
    have bounded := cost_loopHead worker grouped running
    simp only [EventWorker.advance]
    split at bounded <;> omega
  | cons first rest =>
    obtain ⟨entry, payload⟩ := first
    cases parsed : fromJsonStr payload with
    | none =>
      simp [EventWorker.advance, parsed, EventWorker.enterAck, client, workerCost,
        EventWorker.isUp, running, Activity.cost, Work.cost]
      omega
    | some event =>
      simp [EventWorker.advance, parsed, running, workerCost, EventWorker.isUp, Activity.cost,
        Work.cost]
      omega

/-- A failed attempt costs less than the event did before it: there is one attempt
less, or the next entry of the batch. This is the step of the measure that makes a
recovery end. -/
theorem cost_attemptFailed (grouped : Bool) (batch : List (Nat × Payload)) (entry : Nat)
    (event : Event) (label : Label) (attempt : Nat) (running : worker.running = true)
    (client : worker.redis = true) :
    workerCost grouped (worker.attemptFailed fromJsonStr batch entry event label attempt) <
      16 + 50 * batch.length + (3 * (dbMaxRetries - attempt) + 5) := by
  unfold EventWorker.attemptFailed
  split
  · simp only [workerCost, EventWorker.isUp, running, Bool.true_or, if_true, Activity.cost,
      Work.cost]
    omega
  · have bounded := cost_advance fromJsonStr grouped batch running client
    omega

/-- The group exists once its creation is answered. -/
theorem answered_group (stream : Stream Payload) :
    (ensureConsumerGroup stream .answered).1.group.isSome = true := by
  simp [ensureConsumerGroup]

/-- A step of a recovery leaves less to do and brings nothing into reach that
was not. -/
structure Advances (fromJsonStr : Payload → Option Event) (eventId : Event → Id)
    (state next : State Payload Event Label) : Prop where
  back : ∀ id, Reaches fromJsonStr eventId next id → Reaches fromJsonStr eventId state id
  cheaper : recoveryCost next < recoveryCost state

/-- Where neither rows nor undelivered entries change, the events in memory and
the worker's cost decide. -/
theorem advances_of_hand {stream : Stream Payload}
    {after : Option (EventWorker Payload Event Label)}
    (undelivered : stream.undelivered = state.stream.undelivered)
    (held : ∀ event ∈ hand fromJsonStr after, event ∈ hand fromJsonStr state.worker)
    (cheaper : workerCost stream.group.isSome after <
      workerCost state.stream.group.isSome state.worker) :
    Advances fromJsonStr eventId state { state with stream := stream, worker := after } := by
  constructor
  · rintro id (stored | ⟨event, member, same⟩)
    · exact .inl stored
    · refine .inr ⟨event, ?_, same⟩
      simp only [undelivered, List.mem_append] at member ⊢
      exact member.imp_right (held event)
  · simp only [recoveryCost, undelivered]
    omega

/-- A worker that is up costs what its activity costs. -/
theorem up_cost (grouped : Bool) (up : worker.isUp = true) :
    workerCost grouped (some worker) = worker.activity.cost grouped := by
  simp [workerCost, up]

/-- A read takes entries into memory that were undelivered, or finds the group
missing. -/
theorem reading_advances (present : state.worker = some worker)
    (running : worker.running = true) (client : worker.redis = true)
    (activity : worker.activity = .reading)
    (deliverable : ¬ (state.stream.group.isSome ∧ state.stream.undelivered = [])) :
    ∃ next, answer fromJsonStr eventId state worker (.redis .answered) = some next ∧
      Advances fromJsonStr eventId state next := by
  have up : worker.isUp = true := by simp [EventWorker.isUp, running]
  have empty : hand fromJsonStr (some worker) = [] := by
    simp [hand, EventWorker.holds, activity]
  have grouped := state.stream.xreadgroup_isSome batchSize
  cases read : state.stream.xreadgroup batchSize with
  | none =>
    have ungrouped : state.stream.group.isSome = false := by simpa [read] using grouped.symm
    have missing : (RedisFailure.responseError (Text.literal "NOGROUP")).isNoGroup = true := by
      decide
    simp only [answer, activity, xreadgroup, read, missing, client, if_true]
    refine ⟨_, rfl, advances_of_hand rfl (by simp [hand, EventWorker.holds]) ?_⟩
    rw [present, up_cost _ up]
    simp [workerCost, EventWorker.isUp, running, activity, Activity.cost, ungrouped]
  | some result =>
    obtain ⟨after, batch⟩ := result
    obtain ⟨split, _, present_after, nothing⟩ := state.stream.xreadgroup_undelivered _ _ _ read
    have still : state.stream.group.isSome = true := by simpa [read] using grouped.symm
    have some_read : batch ≠ [] := by
      intro none_read
      rcases nothing none_read with zero | drained
      · simp [batchSize] at zero
      · exact deliverable ⟨still, drained⟩
    have positive : 0 < batch.length := List.length_pos_iff.mpr some_read
    simp only [answer, activity, xreadgroup, read]
    refine ⟨_, rfl, ?_, ?_⟩
    · rintro id (stored | ⟨event, member, same⟩)
      · exact .inl stored
      · refine .inr ⟨event, ?_, same⟩
        simp only [hand_advance worker batch running] at member
        simp only [present, empty, List.append_nil, split, wellFormed, List.filterMap_append,
          List.mem_append] at member ⊢
        exact member.symm
    · have bounded := cost_advance fromJsonStr true batch running client
      simp only [recoveryCost, present_after, split, List.length_append, present, up_cost _ up,
        activity, Activity.cost, still]
      simp only [if_true]
      omega

/-- An answered insert commits an event that was in memory; where the key is
taken, the attempts go on. -/
theorem inserting_advances (present : state.worker = some worker)
    (running : worker.running = true) (client : worker.redis = true)
    (batch : List (Nat × Payload)) (entry : Nat) (event : Event) (label : Label) (attempt : Nat)
    (activity : worker.activity = .handling batch (.inserting entry event label attempt)) :
    ∃ next, answer fromJsonStr eventId state worker (.database .answered) = some next ∧
      Advances fromJsonStr eventId state next := by
  have up : worker.isUp = true := by simp [EventWorker.isUp, running]
  have held : hand fromJsonStr (some worker) = event :: wellFormed fromJsonStr batch := by
    simp [hand, EventWorker.holds, activity, running, Work.events]
  cases inserted : commit eventId state.table { event, label } with
  | none =>
    simp only [answer, activity, inserted]
    refine ⟨_, rfl, advances_of_hand rfl ?_ ?_⟩
    · rw [present, held, hand_attemptFailed worker batch entry event label attempt running]
      intro other member
      split at member
      · exact member
      · exact List.mem_cons_of_mem _ member
    · rw [present, up_cost _ up, activity]
      exact cost_attemptFailed _ batch entry event label attempt running client
  | some table =>
    have grown := commit_some state.table table _ inserted
    simp only [answer, activity, inserted]
    refine ⟨_, rfl, ?_, ?_⟩
    · rintro id (stored | ⟨other, member, same⟩)
      · simp only [grown, Bool.or_eq_true, decide_eq_true_eq] at stored
        refine stored.imp_right fun own => ⟨event, ?_, own⟩
        simp [present, held]
      · refine .inr ⟨other, ?_, same⟩
        simp only [hand_enterAck worker batch _ running client] at member
        simpa [present, held, Work.events] using member
    · simp only [recoveryCost, present, up_cost _ up, activity, Activity.cost, Work.cost,
        EventWorker.enterAck, client, if_true]
      simp only [workerCost, EventWorker.isUp, running, Bool.true_or, if_true, Activity.cost,
        Work.cost]
      omega

/-- After the acknowledgement of an entry the worker goes on with its batch, which
is shorter, and delivers nothing anew. -/
theorem acking_advances (stream : Stream Payload) (present : state.worker = some worker)
    (running : worker.running = true) (client : worker.redis = true)
    (batch : List (Nat × Payload)) (work : Work Event Label)
    (activity : worker.activity = .handling batch work)
    (undelivered : stream.undelivered = state.stream.undelivered)
    (grouped : stream.group.isSome = state.stream.group.isSome) :
    Advances fromJsonStr eventId state
      { state with stream := stream, worker := worker.advance fromJsonStr batch } := by
  have up : worker.isUp = true := by simp [EventWorker.isUp, running]
  apply advances_of_hand undelivered
  · rw [hand_advance worker batch running, present]
    intro event member
    simpa [hand, EventWorker.holds, activity, running] using .inr member
  · have bounded := cost_advance fromJsonStr state.stream.group.isSome batch
      running client
    rw [present, up_cost _ up, activity, grouped]
    simp only [Activity.cost]
    omega

/-- Going on to a cheaper await for the same event advances a running worker: it
holds what it held. -/
theorem work_advances (present : state.worker = some worker) (running : worker.running = true)
    (batch : List (Nat × Payload)) (work next : Work Event Label)
    (activity : worker.activity = .handling batch work) (same : next.events = work.events)
    (cheaper : next.cost < work.cost) :
    Advances fromJsonStr eventId state
      { state with worker := some { worker with activity := .handling batch next } } := by
  have up : worker.isUp = true := by simp [EventWorker.isUp, running]
  apply advances_of_hand rfl
  · simp [present, hand, EventWorker.holds, activity, running, same]
  · rw [present, up_cost _ up, activity]
    simp only [workerCost, EventWorker.isUp, running, Bool.true_or, if_true, Activity.cost]
    omega

/-- A worker on its way that is not starting is running; only the start sets the
flag. -/
theorem running_of_up (up : worker.isUp = true) (elsewhere : worker.activity ≠ .starting) :
    worker.running = true := by
  cases running : worker.running with
  | true => rfl
  | false =>
    cases activity : worker.activity with
    | starting => exact absurd activity elsewhere
    | _ => simp [EventWorker.isUp, running, activity] at up

/-- The answer that a recovery gives lets go of nothing, since in a recovery every
call is answered and the worker runs. -/
theorem letsGo_chosen (classify : Event → Label) (reply : Reply Label)
    (present : state.worker = some worker)
    (reads : worker.activity = .reading → worker.running = true)
    (chosen : nextReply classify state.stream worker.activity = some reply) :
    letsGo fromJsonStr state (.reply reply) = [] := by
  cases activity : worker.activity with
  | reading =>
    simp only [nextReply, activity, Option.ite_none_left_eq_some, Option.some.injEq] at chosen
    obtain ⟨-, rfl⟩ := chosen
    simp [letsGo, present, activity, reads activity]
  | handling batch work =>
    cases work <;>
      simp only [nextReply, activity, Option.some.injEq] at chosen <;>
      subst chosen <;>
      simp [letsGo, present, activity]
  | _ =>
    simp only [nextReply, activity, Option.some.injEq] at chosen
    subst chosen
    simp [letsGo, present, activity]

/-- The answer to an await inside `_process_event`, or to the acknowledgement of a
malformed entry, advances a running worker. -/
theorem handling_advances (classify : Event → Label) (reply : Reply Label)
    (present : state.worker = some worker) (running : worker.running = true)
    (orderly : Orderly eventId state.table (some worker)) (batch : List (Nat × Payload))
    (work : Work Event Label) (activity : worker.activity = .handling batch work)
    (chosen : nextReply classify state.stream worker.activity = some reply) :
    ∃ next, answer fromJsonStr eventId state worker reply = some next ∧
      Advances fromJsonStr eventId state next := by
  cases work with
  | classifying entry event =>
    simp only [nextReply, activity, Option.some.injEq] at chosen
    subst chosen
    simp only [answer, activity]
    exact ⟨_, rfl, work_advances present running batch _ _ activity rfl
      (by simp [Work.cost, dbMaxRetries])⟩
  | inserting entry event label attempt =>
    have client : worker.redis = true := by
      simpa [Orderly, activity, running] using orderly
    simp only [nextReply, activity, Option.some.injEq] at chosen
    subst chosen
    exact inserting_advances present running client batch entry event label attempt activity
  | acknowledging entry event label attempt point =>
    have acked : worker.redis = true ∧ point = .acking ∧
        committed eventId state.table (eventId event) = true := by
      simpa only [Orderly, activity, running, forall_const] using orderly
    obtain ⟨client, rfl, _⟩ := acked
    simp only [nextReply, activity, Option.some.injEq] at chosen
    subst chosen
    simp only [answer, activity]
    exact ⟨_, rfl, acking_advances _ present running client batch _ activity
      (xack_reply_undelivered _ _ _) (by simp [xack])⟩
  | pausing entry event label attempt =>
    simp only [nextReply, activity, Option.some.injEq] at chosen
    subst chosen
    simp only [answer, activity]
    exact ⟨_, rfl, work_advances present running batch _ _ activity rfl (by simp [Work.cost])⟩
  | rejecting entry point =>
    have acked : worker.redis = true ∧ point = .acking := by
      simpa only [Orderly, activity, running, forall_const] using orderly
    obtain ⟨client, rfl⟩ := acked
    simp only [nextReply, activity, Option.some.injEq] at chosen
    subst chosen
    simp only [answer, activity]
    exact ⟨_, rfl, acking_advances _ present running client batch _ activity
      (xack_reply_undelivered _ _ _) (by simp [xack])⟩

variable (fromJsonStr) in
/-- The answer a recovery gives to an await of a running or starting worker
advances it. -/
theorem answered_advances (classify : Event → Label) (reply : Reply Label)
    (present : state.worker = some worker) (up : worker.isUp = true)
    (orderly : Orderly eventId state.table (some worker))
    (chosen : nextReply classify state.stream worker.activity = some reply) :
    ∃ next, answer fromJsonStr eventId state worker reply = some next ∧
      Advances fromJsonStr eventId state next := by
  have runs (elsewhere : worker.activity ≠ .starting) : worker.running = true :=
    running_of_up up elsewhere
  cases activity : worker.activity with
  | starting =>
    simp only [nextReply, activity, Option.some.injEq] at chosen
    subst chosen
    simp only [answer, activity]
    refine ⟨_, rfl, advances_of_hand (ensureConsumerGroup_undelivered _ _) ?_ ?_⟩
    · simp [ensureConsumerGroup, outcome]
    · have bounded := cost_loopHead { worker with running := true } true rfl
      simp only [activity] at bounded
      have before : worker.activity.cost state.stream.group.isSome = 20 := by
        rw [activity]
        rfl
      rw [present, up_cost _ up, before, answered_group]
      simp only [true_or, if_true] at bounded
      simp only [ensureConsumerGroup, outcome]
      omega
  | connecting =>
    have running := runs (by simp [activity])
    have client : worker.redis = true := by
      simpa [Orderly, activity, running] using orderly
    simp only [nextReply, activity, Option.some.injEq] at chosen
    subst chosen
    simp only [answer, activity]
    refine ⟨_, rfl, advances_of_hand (ensureConsumerGroup_undelivered _ _) ?_ ?_⟩
    · simp [ensureConsumerGroup, outcome, client, hand, EventWorker.holds]
    · rw [present, up_cost _ up, activity, answered_group]
      simp [ensureConsumerGroup, outcome, client, workerCost, EventWorker.isUp, running,
        Activity.cost]
  | regrouping =>
    have running := runs (by simp [activity])
    simp only [nextReply, activity, Option.some.injEq] at chosen
    subst chosen
    simp only [answer, activity]
    refine ⟨_, rfl, advances_of_hand (ensureConsumerGroup_undelivered _ _) ?_ ?_⟩
    · simp [ensureConsumerGroup, outcome]
    · have bounded := cost_loopHead worker true running
      rw [present, up_cost _ up, activity, answered_group]
      simp only [ensureConsumerGroup, outcome, Activity.cost]
      simp only [true_or, if_true] at bounded
      omega
  | reading =>
    have running := runs (by simp [activity])
    have client : worker.redis = true := by
      simpa [Orderly, activity, running] using orderly
    simp only [nextReply, activity] at chosen
    split at chosen
    · simp at chosen
    · next deliverable =>
      have same := Option.some.inj chosen
      subst same
      exact reading_advances present running client activity deliverable
  | sleeping =>
    have running := runs (by simp [activity])
    simp only [nextReply, activity, Option.some.injEq] at chosen
    subst chosen
    simp only [answer, activity]
    refine ⟨_, rfl, advances_of_hand rfl (by simp) ?_⟩
    have bounded := cost_loopHead worker state.stream.group.isSome running
    rw [present, up_cost _ up, activity]
    simp only [Activity.cost]
    split at bounded <;> omega
  | handling batch work =>
    exact handling_advances classify reply present (runs (by simp [activity])) orderly batch work
      activity chosen

variable (fromJsonStr) in
/-- A recovery is at rest only where a running worker's read has nothing to
deliver; any other step carries everything on and leaves less to do. -/
theorem proceed_cases (classify : Event → Label)
    (orderly : Orderly eventId state.table state.worker) :
    (proceed fromJsonStr eventId classify state = none ∧
        hand fromJsonStr state.worker = [] ∧ state.stream.undelivered = []) ∨
      ∃ next, proceed fromJsonStr eventId classify state = some next ∧
        Carries fromJsonStr eventId [] state next ∧ Advances fromJsonStr eventId state next := by
  cases present : state.worker with
  | none =>
    refine .inr ⟨_, by simp only [proceed, nextMove, present, system, Option.bind_some]; rfl,
      ?_, ?_⟩
    · exact carries_of_hand rfl rfl (by simp [present, hand]) (orderly_stopped _ rfl)
    · apply advances_of_hand rfl (by simp [hand, EventWorker.holds])
      simp [present, workerCost, EventWorker.isUp, Activity.cost]
  | some worker =>
    cases up : worker.isUp with
    | false =>
      have stopped : worker.running = false := by
        simp only [EventWorker.isUp, Bool.or_eq_false_iff] at up
        exact up.1
      refine .inr ⟨_, by
        simp only [proceed, nextMove, present, up, system, Option.bind_some, Bool.false_eq_true,
          if_false]
        rfl, ?_, ?_⟩
      · exact carries_of_hand rfl rfl
          (by simp [present, hand, EventWorker.holds, stopped]) trivial
      · apply advances_of_hand rfl (by simp [hand])
        simp [present, workerCost, up]
    | true =>
      cases chosen : nextReply classify state.stream worker.activity with
      | none =>
        refine .inl ⟨by simp [proceed, nextMove, present, up, chosen], ?_⟩
        cases activity : worker.activity with
        | reading =>
          simp only [nextReply, activity] at chosen
          split at chosen
          · next drained =>
            exact ⟨by simp [hand, EventWorker.holds, activity], drained.2⟩
          · simp at chosen
        | handling batch work => cases work <;> simp [nextReply, activity] at chosen
        | _ => simp [nextReply, activity] at chosen
      | some reply =>
        obtain ⟨next, answered, advances⟩ :=
          answered_advances fromJsonStr classify reply present up (present ▸ orderly) chosen
        have nothing : letsGo fromJsonStr state (.reply reply) = [] :=
          letsGo_chosen classify reply present
            (fun reads => running_of_up up (by simp [reads])) chosen
        refine .inr ⟨next, by simp [proceed, nextMove, present, up, chosen, system, answered], ?_,
          advances⟩
        exact nothing ▸ answer_carries reply present (present ▸ orderly) answered

end Step

section Rest

variable {fromJsonStr eventId} {state final : State Payload Event Label}

variable (fromJsonStr) in
/-- Every recovery comes to rest, with the same entries. What is left to do is a
number that each of its steps lowers. -/
theorem recovery_ends (classify : Event → Label)
    (orderly : Orderly eventId state.table state.worker) :
    ∃ final, Settles (proceed fromJsonStr eventId classify) state final := by
  refine Settles.exists_of_measure (fun state => Orderly eventId state.table state.worker)
    recoveryCost ?_ ?_ state orderly
  · intro state middle orderly moved
    rcases proceed_cases fromJsonStr classify orderly with
      ⟨rests, _⟩ | ⟨next, proceeds, carries, _⟩
    · simp [rests] at moved
    · exact Option.some.inj (proceeds.symm.trans moved) ▸ carries.orderly
  · intro state middle orderly moved
    rcases proceed_cases fromJsonStr classify orderly with
      ⟨rests, _⟩ | ⟨next, proceeds, _, advances⟩
    · simp [rests] at moved
    · exact Option.some.inj (proceeds.symm.trans moved) ▸ advances.cheaper

/-- At rest exactly the keys that were within reach are committed: nothing is
undelivered any more, and nothing is in hand. -/
theorem rest_committed_iff (classify : Event → Label)
    (orderly : Orderly eventId state.table state.worker)
    (settled : Settles (proceed fromJsonStr eventId classify) state final) (id : Id) :
    committed eventId final.table id = true ↔ Reaches fromJsonStr eventId state id := by
  induction settled with
  | rest state idle =>
    rcases proceed_cases fromJsonStr classify orderly with
      ⟨_, empty, drained⟩ | ⟨next, proceeds, _⟩
    · simp [Reaches, empty, drained, wellFormed]
    · simp [idle] at proceeds
  | step state middle final moved _ inductionHypothesis =>
    rcases proceed_cases fromJsonStr classify orderly with
      ⟨rests, _⟩ | ⟨next, proceeds, carries, advances⟩
    · simp [rests] at moved
    · have same : next = middle := Option.some.inj (proceeds.symm.trans moved)
      subst same
      rw [inductionHypothesis carries.orderly]
      constructor
      · exact advances.back id
      · rintro (stored | ⟨event, member, same⟩)
        · exact .inl (carries.rows id stored)
        · rcases carries.events event member with still | stored | none_gone
          · exact .inr ⟨event, still, same⟩
          · exact .inl (same ▸ stored)
          · simp at none_gone

/-- A recovery stores everything exactly when everything is within reach, so what a
crash has put out of reach is never stored. -/
theorem recovers_iff_reaches (classify : Event → Label)
    (orderly : Orderly eventId state.table state.worker) :
    Recovers fromJsonStr eventId classify state ↔
      ∀ payload ∈ state.stream.entries, ∀ event, fromJsonStr payload = some event →
        Reaches fromJsonStr eventId state (eventId event) := by
  obtain ⟨rest, settled⟩ := recovery_ends fromJsonStr classify orderly
  constructor
  · rintro ⟨final, reached, stored⟩ payload member event parsed
    exact (rest_committed_iff classify orderly reached _).mp (stored payload member event parsed)
  · intro reaches
    refine ⟨rest, settled, fun payload member event parsed => ?_⟩
    exact (rest_committed_iff classify orderly settled _).mpr (reaches payload member event parsed)

end Rest

/-- In every run of honeypots and one worker, with stops, crashes, restarts and
failures anywhere, whose moves let go of delivered events only once their rows
are committed, every state recovers in full. -/
theorem committed_before_letting_go_recovers (classify : Event → Label)
    (schedule : List (Move Payload Label)) (final : State Payload Event Label)
    (safe : (system fromJsonStr eventId).Admitted
      (fun state move => letsGoOfCommitted fromJsonStr eventId state move = true) initial schedule)
    (reached : (system fromJsonStr eventId).run initial schedule = some final) :
    Recovers fromJsonStr eventId classify final := by
  have initially : Sound fromJsonStr eventId (initial : State Payload Event Label) :=
    ⟨by simp [initial, Stream.empty], trivial⟩
  have sound := (system fromJsonStr eventId).admitted_invariant _ (Sound fromJsonStr eventId)
    (fun state move next sound safe taken => sound_step state next move sound safe taken)
    initial final schedule initially safe reached
  exact (recovers_iff_reaches classify sound.orderly).mpr sound.reaches

/-- A published event is stored and its worker crashes before the
acknowledgement; the restarted worker has nothing left to store. -/
theorem committed_before_letting_go_recovers_crash :
    ∃ final : State Nat Nat Unit, Recovers some id (fun _ => ()) final ∧
      final.stream.entries = [7] :=
  ⟨_, committed_before_letting_go_recovers some id (fun _ => ())
    [.publish 7, .start, .reply (.redis .answered), .reply (.redis .answered),
      .reply (.classified ()), .reply (.database .answered), .crash, .start] _
    ((System.admits_iff _ (letsGoOfCommitted some id) _ _).mp (by decide)) rfl, rfl⟩

/-- The worker crashes between the delivery of an entry and its insert. The
restarted worker reads new entries only: the event is never stored. -/
theorem crash_after_delivery_loses :
    ∃ (schedule : List (Move Nat Unit)) (final : State Nat Nat Unit),
      (system some id).run initial schedule = some final ∧
      ¬ Recovers some id (fun _ => ()) final := by
  refine ⟨[.publish 7, .start, .reply (.redis .answered), .reply (.redis .answered), .crash],
    { stream := { entries := [7], group := some { lastDelivered := 1, pending := [0] },
                  within := by simp }
      table := []
      worker := none }, rfl, fun recovered => ?_⟩
  have all_reached := (recovers_iff_reaches _ (by exact trivial)).mp recovered
  have reaches := all_reached 7 (by decide) 7 rfl
  simp [Reaches, committed, hand, Stream.undelivered, Stream.after, wellFormed] at reaches

end Honeywatch.Tasks
