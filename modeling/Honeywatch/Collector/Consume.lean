import Honeywatch.Collector.Failures
import Mathlib.Data.List.Infix

/-!
# Consuming batches with malformed entries

`EventQueue.consume` and `EventQueue.ack`. The generator hands the events of a
batch to its caller one after the other. An entry that cannot be decoded is
acknowledged on the spot, inside the except clause of the entry and inside the
try statement of the whole turn: what that acknowledgement raises is handled by
nobody before the turn is left, and with the turn the rest of the batch.

The client belongs to the queue, and the caller may close the queue or
reconnect it while it holds an event. Every turn and every acknowledgement
therefore finds it as it happens to be. Every await is answered by the
environment.
-/

namespace Honeywatch.Collector.Consume

open Text

variable {EntryId Event : Type}

/-- `_ensure_consumer_group`: what it raises. A group that exists is in order. -/
def ensureConsumerGroup : RedisReply → Option RedisFailure
  | .answered => none
  | .failed failure _ => if failure.isBusyGroup then none else some failure

/-- `if self._redis is None: await self.connect()`: what it raises. -/
def connectUnlessConnected (redis : Bool) (connect : RedisReply) : Option RedisFailure :=
  if redis then none else ensureConsumerGroup connect

/-- An entry of a batch with the fields it holds. Should it be acknowledged by
the generator, the acknowledgement finds the client and the answers given here. -/
structure Delivery (EntryId : Type) where
  entryId : EntryId
  data : List (Str × Str)
  redis : Bool
  connect : RedisReply
  xack : RedisReply

/-- One turn of the generator's loop: the client it finds, the answer to its
reconnect, what the read returns, and the answer to the new group after
`NOGROUP`. -/
structure Turn (EntryId : Type) where
  redis : Bool
  connect : RedisReply
  xreadgroup : Except RedisFailure (List (Delivery EntryId))
  regroup : RedisReply

/-- What a stretch of the generator has yielded, and the exception that left it. -/
structure Outcome (EntryId Event : Type) where
  yielded : List (EntryId × Event)
  raised : Option RedisFailure
deriving DecidableEq

/-- The outcome with more yielded in front. -/
def Outcome.after (yielded : List (EntryId × Event)) (outcome : Outcome EntryId Event) :
    Outcome EntryId Event :=
  { outcome with yielded := yielded ++ outcome.yielded }

/-- `ack` of this entry: what it raises. -/
def Delivery.ack (delivery : Delivery EntryId) : Option RedisFailure :=
  match connectUnlessConnected delivery.redis delivery.connect with
  | some failure => some failure
  | none =>
    match delivery.xack with
    | .answered => none
    | .failed failure _ => some failure

variable (fromJsonStr : Str → Option Event)

/-- `from_json_str(data["event_json"])`; none when either of them raises. -/
def Delivery.event (delivery : Delivery EntryId) : Option Event :=
  (delivery.data.lookup (literal "event_json")).bind fromJsonStr

/-- The loop over the entries of a batch. -/
def deliver : List (Delivery EntryId) → Outcome EntryId Event
  | [] => ⟨[], none⟩
  | delivery :: rest =>
    match delivery.event fromJsonStr with
    | some event => (deliver rest).after [(delivery.entryId, event)]
    | none =>
      match delivery.ack with
      | none => deliver rest
      | some failure => ⟨[], some failure⟩

/-- The outer try statement of a turn. -/
def Turn.run (turn : Turn EntryId) : Outcome EntryId Event :=
  match connectUnlessConnected turn.redis turn.connect with
  | some failure => ⟨[], some failure⟩
  | none =>
    match turn.xreadgroup with
    | .ok batch => deliver fromJsonStr batch
    | .error failure =>
      ⟨[], if failure.isNoGroup then ensureConsumerGroup turn.regroup else some failure⟩

/-- `consume` over its first turns. A lost connection leads to the next turn,
any other exception ends the generator. -/
def consume : List (Turn EntryId) → Outcome EntryId Event
  | [] => ⟨[], none⟩
  | turn :: rest =>
    let done := turn.run fromJsonStr
    match done.raised with
    | none => (consume rest).after done.yielded
    | some failure =>
      if failure.isConnectionLoss then (consume rest).after done.yielded else done

/-- The well-formed entries of a batch, in stream order. -/
def wellFormed (batch : List (Delivery EntryId)) : List (EntryId × Event) :=
  batch.filterMap fun delivery =>
    (delivery.event fromJsonStr).map fun event => (delivery.entryId, event)

/-- What the acknowledgement of a malformed entry raises. -/
def Delivery.refusal (delivery : Delivery EntryId) : Option RedisFailure :=
  match delivery.event fromJsonStr with
  | some _ => none
  | none => delivery.ack

/-- If an acknowledgement of a malformed entry fails, the first one that does
fails by a lost connection, and no well-formed entry follows it. -/
def RefusesLast (batch : List (Delivery EntryId)) : Prop :=
  ∀ earlier bad rest failure, batch = earlier ++ bad :: rest →
    (∀ delivery ∈ earlier, delivery.refusal fromJsonStr = none) →
    bad.refusal fromJsonStr = some failure →
    failure.isConnectionLoss = true ∧ ∀ delivery ∈ rest, delivery.event fromJsonStr = none

/-- With nothing yielded before, an outcome is itself. -/
@[simp] theorem after_nil (outcome : Outcome EntryId Event) : outcome.after [] = outcome := rfl

/-- What was yielded before and before that was yielded before. -/
@[simp] theorem after_after (first second : List (EntryId × Event))
    (outcome : Outcome EntryId Event) :
    (outcome.after second).after first = outcome.after (first ++ second) := by
  simp [Outcome.after]

/-- Earlier events do not change how it ends, -/
@[simp] theorem after_raised (yielded : List (EntryId × Event))
    (outcome : Outcome EntryId Event) : (outcome.after yielded).raised = outcome.raised := rfl

/-- and they come first. -/
@[simp] theorem after_yielded (yielded : List (EntryId × Event))
    (outcome : Outcome EntryId Event) :
    (outcome.after yielded).yielded = yielded ++ outcome.yielded := rfl

variable {fromJsonStr}

/-- Only a malformed entry is refused, and only where its acknowledgement fails. -/
theorem malformed_of_refusal {delivery : Delivery EntryId} {failure : RedisFailure}
    (refused : delivery.refusal fromJsonStr = some failure) :
    delivery.event fromJsonStr = none ∧ delivery.ack = some failure := by
  unfold Delivery.refusal at refused
  cases decoded : delivery.event fromJsonStr with
  | some event => simp [decoded] at refused
  | none =>
    rw [decoded] at refused
    exact ⟨rfl, refused⟩

/-- The well-formed entries of two batches are those of the one and then those of
the other. -/
theorem wellFormed_append (left right : List (Delivery EntryId)) :
    wellFormed fromJsonStr (left ++ right) =
      wellFormed fromJsonStr left ++ wellFormed fromJsonStr right :=
  List.filterMap_append

/-- The loop goes past an entry that is not refused, and yields it if it is
well-formed. -/
theorem deliver_cons {delivery : Delivery EntryId} (rest : List (Delivery EntryId))
    (accepted : delivery.refusal fromJsonStr = none) :
    deliver fromJsonStr (delivery :: rest) =
      (deliver fromJsonStr rest).after (wellFormed fromJsonStr [delivery]) := by
  cases decoded : delivery.event fromJsonStr with
  | some event => simp [deliver, wellFormed, decoded]
  | none =>
    have acked : delivery.ack = none := by simpa [Delivery.refusal, decoded] using accepted
    simp [deliver, wellFormed, decoded, acked]

/-- The loop goes past any number of entries that are not refused. The well-formed
ones among them are yielded in order, and what follows is handled as if the batch
began there. -/
theorem deliver_append (earlier rest : List (Delivery EntryId))
    (accepted : ∀ delivery ∈ earlier, delivery.refusal fromJsonStr = none) :
    deliver fromJsonStr (earlier ++ rest) =
      (deliver fromJsonStr rest).after (wellFormed fromJsonStr earlier) := by
  induction earlier with
  | nil => rfl
  | cons delivery others inductionHypothesis =>
    rw [List.forall_mem_cons] at accepted
    rw [List.cons_append, deliver_cons _ accepted.1, inductionHypothesis accepted.2, after_after,
      ← wellFormed_append, List.singleton_append]

/-- The loop ends with the first refusal, after it has yielded the well-formed
entries before it. -/
theorem deliver_refused {earlier rest : List (Delivery EntryId)} {bad : Delivery EntryId}
    {failure : RedisFailure}
    (accepted : ∀ delivery ∈ earlier, delivery.refusal fromJsonStr = none)
    (refused : bad.refusal fromJsonStr = some failure) :
    deliver fromJsonStr (earlier ++ bad :: rest) =
      ⟨wellFormed fromJsonStr earlier, some failure⟩ := by
  obtain ⟨malformed, unacked⟩ := malformed_of_refusal refused
  rw [deliver_append earlier _ accepted]
  simp [deliver, malformed, unacked, Outcome.after]

variable (fromJsonStr) in
/-- Either no entry of a batch is refused, or there is a first one that is; the loop
never reaches what is behind it. -/
theorem first_refusal (batch : List (Delivery EntryId)) :
    (∀ delivery ∈ batch, delivery.refusal fromJsonStr = none) ∨
      ∃ earlier bad rest failure, batch = earlier ++ bad :: rest ∧
        (∀ delivery ∈ earlier, delivery.refusal fromJsonStr = none) ∧
        bad.refusal fromJsonStr = some failure := by
  induction batch with
  | nil => exact .inl (by simp)
  | cons delivery others inductionHypothesis =>
    cases refused : delivery.refusal fromJsonStr with
    | some failure => exact .inr ⟨[], delivery, others, failure, rfl, by simp, refused⟩
    | none =>
      rcases inductionHypothesis with accepted | ⟨earlier, bad, rest, failure, split, before, here⟩
      · exact .inl (List.forall_mem_cons.mpr ⟨refused, accepted⟩)
      · refine .inr ⟨delivery :: earlier, bad, rest, failure, ?_, ?_, here⟩
        · rw [split, List.cons_append]
        · exact List.forall_mem_cons.mpr ⟨refused, before⟩

/-- Without well-formed entries every entry of a batch is malformed. -/
theorem wellFormed_eq_nil (batch : List (Delivery EntryId)) :
    wellFormed fromJsonStr batch = [] ↔
      ∀ delivery ∈ batch, delivery.event fromJsonStr = none := by
  simp [wellFormed, List.filterMap_eq_nil_iff]

/-- Whatever the acknowledgements do, the loop yields an initial part of the
well-formed entries, each of them once and in stream order. -/
theorem deliver_yields_first (batch : List (Delivery EntryId)) :
    (deliver fromJsonStr batch).yielded <+: wellFormed fromJsonStr batch := by
  rcases first_refusal fromJsonStr batch with
    accepted | ⟨earlier, bad, rest, failure, rfl, before, here⟩
  · have whole := deliver_append batch [] accepted
    rw [List.append_nil] at whole
    rw [whole]
    simp [deliver]
  · rw [deliver_refused before here, wellFormed_append]
    exact List.prefix_append _ _

/-- The batch is yielded in full and left without an exception that ends the
generator exactly when a refusal is harmless. -/
theorem deliver_complete_iff (batch : List (Delivery EntryId)) :
    (deliver fromJsonStr batch).yielded = wellFormed fromJsonStr batch ∧
        (∀ failure, (deliver fromJsonStr batch).raised = some failure →
          failure.isConnectionLoss = true) ↔
      RefusesLast fromJsonStr batch := by
  constructor
  · rintro ⟨whole, survived⟩ earlier bad rest failure rfl before here
    obtain ⟨malformed, -⟩ := malformed_of_refusal here
    rw [deliver_refused before here] at whole survived
    refine ⟨survived failure rfl, ?_⟩
    rw [wellFormed_append, List.self_eq_append_right] at whole
    exact fun delivery member =>
      (wellFormed_eq_nil _).mp whole delivery (List.mem_cons_of_mem _ member)
  · intro harmless
    rcases first_refusal fromJsonStr batch with
      accepted | ⟨earlier, bad, rest, failure, split, before, here⟩
    · have whole := deliver_append batch [] accepted
      rw [List.append_nil] at whole
      rw [whole]
      simp [deliver]
    · obtain ⟨lost, nothing_left⟩ := harmless earlier bad rest failure split before here
      obtain ⟨malformed, -⟩ := malformed_of_refusal here
      have dropped : wellFormed fromJsonStr (bad :: rest) = [] :=
        (wellFormed_eq_nil _).mpr (List.forall_mem_cons.mpr ⟨malformed, nothing_left⟩)
      subst split
      rw [deliver_refused before here, wellFormed_append, dropped, List.append_nil]
      refine ⟨rfl, ?_⟩
      rintro other ⟨⟩
      exact lost

/-- No exception ends the generator in this turn. -/
def Turn.Survives (fromJsonStr : Str → Option Event) (turn : Turn EntryId) : Prop :=
  ∀ failure, (turn.run fromJsonStr).raised = some failure → failure.isConnectionLoss = true

/-- The generator goes on after a turn that does not end it, with what that turn has
yielded in front. -/
theorem consume_survived {turn : Turn EntryId} (later : List (Turn EntryId))
    (survived : turn.Survives fromJsonStr) :
    consume fromJsonStr (turn :: later) =
      (consume fromJsonStr later).after (turn.run fromJsonStr).yielded := by
  cases ended : (turn.run fromJsonStr).raised with
  | none => simp [consume, ended]
  | some failure => simp [consume, ended, survived failure ended]

/-- The generator ends with any other turn: what the turn raises leaves it, and no
later turn is read. -/
theorem consume_ended {turn : Turn EntryId} (later : List (Turn EntryId))
    (ended : ¬ turn.Survives fromJsonStr) :
    consume fromJsonStr (turn :: later) = turn.run fromJsonStr ∧
      (turn.run fromJsonStr).raised ≠ none := by
  obtain ⟨failure, raised, unhandled⟩ : ∃ failure,
      (turn.run fromJsonStr).raised = some failure ∧ ¬ failure.isConnectionLoss = true := by
    simpa [Turn.Survives] using ended
  constructor
  · simp [consume, raised, unhandled]
  · simp [raised]

/-- The generator goes on after its first turns as long as none of them ended it, so
that a statement about one turn holds wherever it stands in a run. -/
theorem consume_append (before later : List (Turn EntryId))
    (survived : ∀ turn ∈ before, turn.Survives fromJsonStr) :
    consume fromJsonStr (before ++ later) =
      (consume fromJsonStr later).after (consume fromJsonStr before).yielded := by
  induction before with
  | nil => rfl
  | cons turn others inductionHypothesis =>
    rw [List.forall_mem_cons] at survived
    rw [List.cons_append, consume_survived _ survived.1, consume_survived _ survived.1,
      inductionHypothesis survived.2, after_after]
    rfl

/-- The generator is still running exactly when no turn ended it; a lost connection
and an empty read do not. -/
theorem consume_running_iff (turns : List (Turn EntryId)) :
    (consume fromJsonStr turns).raised = none ↔ ∀ turn ∈ turns, turn.Survives fromJsonStr := by
  induction turns with
  | nil => simp [consume]
  | cons turn others inductionHypothesis =>
    rw [List.forall_mem_cons]
    by_cases survived : turn.Survives fromJsonStr
    · rw [consume_survived others survived, after_raised, inductionHypothesis]
      exact (and_iff_right survived).symm
    · obtain ⟨same, raised⟩ := consume_ended others survived
      rw [same]
      exact iff_of_false raised fun both => survived both.1

/-- Everything that is yielded was delivered, in a batch of one of the turns. The
generator makes up no identifier. -/
theorem consume_delivered (turns : List (Turn EntryId)) (entryId : EntryId) (event : Event)
    (yielded : (entryId, event) ∈ (consume fromJsonStr turns).yielded) :
    ∃ turn ∈ turns, ∃ batch, turn.xreadgroup = .ok batch ∧
      ∃ delivery ∈ batch, delivery.entryId = entryId := by
  induction turns with
  | nil => simp [consume] at yielded
  | cons turn others inductionHypothesis =>
    have split : (entryId, event) ∈ (turn.run fromJsonStr).yielded ∨
        (entryId, event) ∈ (consume fromJsonStr others).yielded := by
      by_cases survived : turn.Survives fromJsonStr
      · rwa [consume_survived others survived, after_yielded, List.mem_append] at yielded
      · rw [(consume_ended others survived).1] at yielded
        exact .inl yielded
    rcases split with here | later
    · refine ⟨turn, by simp, ?_⟩
      unfold Turn.run at here
      split at here
      · simp at here
      · split at here
        · next batch returned =>
          have member := (deliver_yields_first batch).subset here
          obtain ⟨delivery, delivered, decoded⟩ := List.mem_filterMap.mp member
          obtain ⟨_, _, same⟩ := Option.map_eq_some_iff.mp decoded
          exact ⟨batch, returned, delivery, delivered, congrArg Prod.fst same⟩
        · simp at here
    · obtain ⟨found, member, delivered⟩ := inductionHypothesis later
      exact ⟨found, List.mem_cons_of_mem _ member, delivered⟩

variable (fromJsonStr) in
/-- In every run of the generator, for every batch that a read of it returns and
every way the acknowledgements of its malformed entries end: the generator
yields each well-formed entry of the batch once, in stream order, and goes on to
its later turns, exactly when the first acknowledgement that fails, if there is
one, fails by a lost connection and has no well-formed entry after it. -/
theorem batch_unharmed_iff (before : List (Turn EntryId)) (turn : Turn EntryId)
    (batch : List (Delivery EntryId))
    (running : (consume fromJsonStr before).raised = none)
    (connected : connectUnlessConnected turn.redis turn.connect = none)
    (returned : turn.xreadgroup = .ok batch) :
    (∀ later, consume fromJsonStr (before ++ turn :: later) =
        (consume fromJsonStr later).after
          ((consume fromJsonStr before).yielded ++ wellFormed fromJsonStr batch)) ↔
      RefusesLast fromJsonStr batch := by
  have looped : turn.run fromJsonStr = deliver fromJsonStr batch := by
    simp [Turn.run, connected, returned]
  have survived := (consume_running_iff before).mp running
  rw [← deliver_complete_iff, ← looped]
  constructor
  · intro unharmed
    have here := unharmed []
    rw [consume_append _ _ survived] at here
    by_cases goes_on : turn.Survives fromJsonStr
    · rw [consume_survived [] goes_on, after_after] at here
      have whole := congrArg Outcome.yielded here
      simp only [consume, after_yielded, List.append_nil, List.append_cancel_left_eq] at whole
      exact ⟨whole, goes_on⟩
    · obtain ⟨same, raised⟩ := consume_ended [] goes_on
      rw [same] at here
      exact absurd (congrArg Outcome.raised here) raised
  · rintro ⟨whole, goes_on⟩ later
    rw [consume_append _ _ survived, consume_survived later goes_on, after_after, whole]

/-- A well-formed entry. -/
def intact (entryId : Nat) : Delivery Nat where
  entryId := entryId
  data := [(literal "event_json", [])]
  redis := true
  connect := .answered
  xack := .answered

/-- An entry without its field, and how its acknowledgement is answered. -/
def fieldless (entryId : Nat) (xack : RedisReply) : Delivery Nat where
  entryId := entryId
  data := []
  redis := true
  connect := .answered
  xack := xack

/-- A turn whose read returns the batch. -/
def reading (batch : List (Delivery Nat)) : Turn Nat where
  redis := true
  connect := .answered
  xreadgroup := .ok batch
  regroup := .answered

/-- The acknowledgement between two well-formed entries succeeds, so the malformed
entry is gone and both neighbours are yielded. -/
theorem batch_unharmed_iff_acked :
    (consume some [reading [intact 0, fieldless 1 .answered, intact 2]]).yielded =
      [(0, []), (2, [])] := by
  have unharmed := (batch_unharmed_iff some []
    (reading [intact 0, fieldless 1 .answered, intact 2])
    [intact 0, fieldless 1 .answered, intact 2] rfl rfl rfl).mpr (by
      intro earlier bad rest failure split _ refused
      have accepted : ∀ delivery ∈ [intact 0, fieldless 1 .answered, intact 2],
          delivery.refusal some = none := by decide
      have member : bad ∈ [intact 0, fieldless 1 .answered, intact 2] := by simp [split]
      simp [accepted bad member] at refused)
  exact congrArg Outcome.yielded (unharmed [])

/-- A malformed entry before a well-formed one. When its acknowledgement times
out, the generator ends with the exception. When the connection is lost, the
generator goes on, but the well-formed entry is not among what it ever yields
unless a later read delivers it again. -/
theorem refused_entry_takes_the_rest :
    wellFormed some [fieldless 0 (.failed .timeoutError false), intact 1] = [(1, [])] ∧
    consume some [reading [fieldless 0 (.failed .timeoutError false), intact 1]] =
      ⟨[], some .timeoutError⟩ ∧
    ∀ later : List (Turn Nat),
      (∀ turn ∈ later, ∀ batch, turn.xreadgroup = .ok batch →
        ∀ delivery ∈ batch, delivery.entryId ≠ 1) →
      (1, []) ∉ (consume some
        (reading [fieldless 0 (.failed .connectionError false), intact 1] :: later)).yielded := by
  refine ⟨by decide, by decide, ?_⟩
  intro later undelivered yielded
  have skipped : consume some
      (reading [fieldless 0 (.failed .connectionError false), intact 1] :: later) =
        consume some later := rfl
  rw [skipped] at yielded
  obtain ⟨turn, member, batch, returned, delivery, delivered, same⟩ :=
    consume_delivered later 1 [] yielded
  exact undelivered turn member batch returned delivery delivered same

end Honeywatch.Collector.Consume
