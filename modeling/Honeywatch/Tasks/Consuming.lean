import Honeywatch.Collector.Consume
import Honeywatch.Tasks.Worker

/-!
# What the worker makes of a batch

The worker's model has the consume loop cut at its awaits and the processing of
every event in between; the generator's model runs the loop for any caller. On a
batch the two agree: a worker that runs and has a client stores what the
generator yields, in its order, and leaves the batch the way the generator does.
-/

namespace Honeywatch.Tasks

open Collector Redis Text Transition

variable {Event Id Label : Type}

/-- The event of an entry's fields; none when decoding them raises. -/
def decode (fromJsonStr : Str → Option Event) (data : List (Str × Str)) : Option Event :=
  (data.lookup (literal "event_json")).bind fromJsonStr

/-- The entries of a batch as the read returns them. -/
def returned (batch : List (Consume.Delivery Nat)) : List (Nat × List (Str × Str)) :=
  batch.map fun delivery => (delivery.entryId, delivery.data)

/-- A worker that runs and has a client. -/
def connected (activity : Activity (List (Str × Str)) Event Label) :
    EventWorker (List (Str × Str)) Event Label where
  running := true
  redis := true
  activity := activity

/-- Where the way out of a batch leads: the next read, the delay after a lost
connection, or the end of the process. -/
def afterBatch : Option RedisFailure → Option (EventWorker (List (Str × Str)) Event Label)
  | none => some (connected .reading)
  | some failure => (connected .reading).consumeFailed failure

/-- The rows of what the generator has yielded. -/
def rowsOf (classify : Event → Label) (yielded : List (Nat × Event)) :
    List (AttackEventModel Event Label) :=
  yielded.map fun delivered => { event := delivered.2, label := classify delivered.2 }

/-- The classification, the commit and the acknowledgement succeed. -/
def storing (label : Label) : List (Move (List (Str × Str)) Label) :=
  [.reply (.classified label), .reply (.database .answered), .reply (.redis .answered)]

/-- The answers to a worker that goes on with a batch: every event is stored, and
each acknowledgement of a malformed entry is answered as its delivery says. -/
def answersTo (fromJsonStr : Str → Option Event) (classify : Event → Label) :
    List (Consume.Delivery Nat) → List (Move (List (Str × Str)) Label)
  | [] => []
  | delivery :: rest =>
    match delivery.event fromJsonStr with
    | some event => storing (classify event) ++ answersTo fromJsonStr classify rest
    | none =>
      .reply (.redis delivery.xack) ::
        match delivery.ack with
        | none => answersTo fromJsonStr classify rest
        | some _ => []

section Advance

variable {fromJsonStr : Str → Option Event}
  (activity : Activity (List (Str × Str)) Event Label)

/-- After the last entry of a batch the loop begins again. -/
theorem advance_nil :
    (connected activity).advance (decode fromJsonStr) (returned []) = afterBatch none := rfl

/-- A well-formed entry is taken up. -/
theorem advance_event {delivery : Consume.Delivery Nat} {event : Event}
    (rest : List (Consume.Delivery Nat)) (decoded : delivery.event fromJsonStr = some event) :
    (connected activity).advance (decode fromJsonStr) (returned (delivery :: rest)) =
      some (connected (.handling (returned rest) (.classifying delivery.entryId event))) := by
  have same : decode fromJsonStr delivery.data = some event := decoded
  simp [returned, EventWorker.advance, same, connected]

/-- A malformed entry is acknowledged. -/
theorem advance_malformed {delivery : Consume.Delivery Nat}
    (rest : List (Consume.Delivery Nat)) (malformed : delivery.event fromJsonStr = none) :
    (connected activity).advance (decode fromJsonStr) (returned (delivery :: rest)) =
      some (connected (.handling (returned rest) (.rejecting delivery.entryId .acking))) := by
  have same : decode fromJsonStr delivery.data = none := malformed
  simp [returned, EventWorker.advance, same, EventWorker.enterAck, connected]

end Advance

section Batch

variable [DecidableEq Id] (fromJsonStr : Str → Option Event) (eventId : Event → Id)
  {state : State (List (Str × Str)) Event Label}

/-- The acknowledgement of a malformed entry is over: the worker goes on with the
batch, or what it raises leaves the batch. -/
theorem rejecting_answered (batch : List (Nat × List (Str × Str)))
    (delivery : Consume.Delivery Nat) (client : delivery.redis = true)
    (present : state.worker =
      some (connected (.handling batch (.rejecting delivery.entryId .acking)))) :
    ∃ stream, (system (decode fromJsonStr) eventId).step state (.reply (.redis delivery.xack)) =
      some { state with
        stream := stream
        worker :=
          match delivery.ack with
          | none =>
            (connected (.handling batch (.rejecting delivery.entryId .acking))).advance
              (decode fromJsonStr) batch
          | some failure => afterBatch (some failure) } := by
  refine ⟨(xack state.stream delivery.entryId delivery.xack).1, ?_⟩
  cases answer : delivery.xack with
  | answered =>
    simp [system, present, answer, Tasks.answer, connected, xack, outcome, Consume.Delivery.ack,
      Consume.connectUnlessConnected, client]
  | failed failure executed =>
    simp [system, present, answer, Tasks.answer, connected, xack, outcome, Consume.Delivery.ack,
      Consume.connectUnlessConnected, client, afterBatch, EventWorker.consumeFailed]

/-- A row commits no other key, so the events to come are as new to the table as
before. -/
theorem uncommitted_append (table : List (AttackEventModel Event Label))
    (row : AttackEventModel Event Label) (id : Id)
    (absent : committed eventId table id = false) (apart : eventId row.event ≠ id) :
    committed eventId (table ++ [row]) id = false := by
  unfold committed at absent ⊢
  rw [List.any_append, absent]
  simp [apart]

/-- An event that is new to the table is classified, stored and acknowledged, and
the worker goes on with the batch. -/
theorem event_stored (classify : Event → Label) (batch : List (Nat × List (Str × Str)))
    (entry : Nat) (event : Event)
    (present : state.worker = some (connected (.handling batch (.classifying entry event))))
    (fresh : committed eventId state.table (eventId event) = false) :
    ∃ activity stream,
      (system (decode fromJsonStr) eventId).run state (storing (classify event)) =
        some {
          stream := stream
          table := state.table ++ [{ event, label := classify event }]
          worker := (connected activity).advance (decode fromJsonStr) batch } := by
  refine ⟨.handling batch (.acknowledging entry event (classify event) 0 .acking),
    state.stream.xack entry, ?_⟩
  simp [storing, System.run, system, present, answer, connected, commit, fresh,
    EventWorker.enterAck, xack, outcome]

/-- Whatever the acknowledgements of malformed entries do, a worker that goes on
with a batch of new events stores exactly what the generator yields of it, and
then leaves the batch the way the generator does. -/
theorem worker_stores_yielded (classify : Event → Label) (batch : List (Consume.Delivery Nat))
    (state : State (List (Str × Str)) Event Label)
    (activity : Activity (List (Str × Str)) Event Label)
    (client : ∀ delivery ∈ batch, delivery.redis = true)
    (present : state.worker =
      (connected activity).advance (decode fromJsonStr) (returned batch))
    (distinct : ((Consume.deliver fromJsonStr batch).yielded.map
      fun delivered => eventId delivered.2).Nodup)
    (fresh : ∀ delivered ∈ (Consume.deliver fromJsonStr batch).yielded,
      committed eventId state.table (eventId delivered.2) = false) :
    ∃ stream, (system (decode fromJsonStr) eventId).run state
        (answersTo fromJsonStr classify batch) =
      some {
        stream := stream
        table := state.table ++ rowsOf classify (Consume.deliver fromJsonStr batch).yielded
        worker := afterBatch (Consume.deliver fromJsonStr batch).raised } := by
  induction batch generalizing state activity with
  | nil =>
    refine ⟨state.stream, ?_⟩
    rw [advance_nil] at present
    simp [answersTo, System.run, Consume.deliver, rowsOf, ← present]
  | cons delivery rest inductionHypothesis =>
    rw [List.forall_mem_cons] at client
    cases decoded : delivery.event fromJsonStr with
    | some event =>
      -- It is yielded, and the worker stores it before it goes on.
      have yields : Consume.deliver fromJsonStr (delivery :: rest) =
          (Consume.deliver fromJsonStr rest).after [(delivery.entryId, event)] := by
        simp [Consume.deliver, decoded]
      rw [yields] at distinct fresh ⊢
      rw [advance_event activity rest decoded] at present
      simp only [Consume.after_yielded, List.singleton_append, List.map_cons, List.nodup_cons,
        List.forall_mem_cons] at distinct fresh
      obtain ⟨next, stream, processed⟩ :=
        event_stored fromJsonStr eventId classify (returned rest) delivery.entryId event present
          fresh.1
      obtain ⟨last, remaining⟩ := inductionHypothesis
        ⟨stream, state.table ++ [{ event, label := classify event }],
          (connected next).advance (decode fromJsonStr) (returned rest)⟩
        next client.2 rfl distinct.2 (by
          intro delivered member
          refine uncommitted_append eventId _ _ _ (fresh.2 delivered member) fun same => ?_
          exact distinct.1 (List.mem_map.mpr ⟨delivered, member, same.symm⟩))
      refine ⟨last, ?_⟩
      simp only [answersTo, decoded]
      rw [System.run_append _ _ _ _ _ processed, remaining]
      simp [rowsOf]
    | none =>
      rw [advance_malformed activity rest decoded] at present
      obtain ⟨stream, rejected⟩ :=
        rejecting_answered fromJsonStr eventId (returned rest) delivery client.1 present
      cases raised : delivery.ack with
      | none =>
        -- The generator goes past it, and so does the worker.
        have passes : Consume.deliver fromJsonStr (delivery :: rest) =
            Consume.deliver fromJsonStr rest := by
          simp [Consume.deliver, decoded, raised]
        rw [passes] at distinct fresh ⊢
        rw [raised] at rejected
        obtain ⟨last, remaining⟩ := inductionHypothesis
          { state with
            stream := stream
            worker :=
              (connected (.handling (returned rest) (.rejecting delivery.entryId .acking))).advance
                (decode fromJsonStr) (returned rest) }
          _ client.2 rfl distinct fresh
        refine ⟨last, ?_⟩
        simp only [answersTo, decoded, raised]
        rw [System.run, rejected]
        exact remaining
      | some failure =>
        -- What the acknowledgement raises takes the rest of the batch with it.
        refine ⟨stream, ?_⟩
        simp only [answersTo, decoded, raised]
        rw [System.run, rejected]
        simp [System.run, Consume.deliver, decoded, raised, rowsOf]

/-- Where the refusals are harmless, that is every well-formed entry of the
batch, and the process does not end. -/
theorem worker_stores_wellFormed (classify : Event → Label)
    (batch : List (Consume.Delivery Nat)) (state : State (List (Str × Str)) Event Label)
    (activity : Activity (List (Str × Str)) Event Label)
    (client : ∀ delivery ∈ batch, delivery.redis = true)
    (present : state.worker =
      (connected activity).advance (decode fromJsonStr) (returned batch))
    (distinct : ((Consume.wellFormed fromJsonStr batch).map
      fun delivered => eventId delivered.2).Nodup)
    (fresh : ∀ delivered ∈ Consume.wellFormed fromJsonStr batch,
      committed eventId state.table (eventId delivered.2) = false)
    (harmless : Consume.RefusesLast fromJsonStr batch) :
    ∃ final, (system (decode fromJsonStr) eventId).run state
        (answersTo fromJsonStr classify batch) = some final ∧
      final.table = state.table ++ rowsOf classify (Consume.wellFormed fromJsonStr batch) ∧
      final.worker.isSome = true := by
  obtain ⟨whole, survived⟩ := (Consume.deliver_complete_iff batch).mpr harmless
  rw [← whole] at distinct fresh
  obtain ⟨stream, stored⟩ := worker_stores_yielded fromJsonStr eventId classify batch state
    activity client present distinct fresh
  refine ⟨_, stored, by rw [whole], ?_⟩
  cases raised : (Consume.deliver fromJsonStr batch).raised with
  | none => rfl
  | some failure => simp [afterBatch, EventWorker.consumeFailed, survived failure raised]

end Batch

end Honeywatch.Tasks
