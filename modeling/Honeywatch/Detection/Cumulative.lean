import Honeywatch.Detection.Backfill
import Honeywatch.Detection.IpContext

/-!
# The windowed count and the cumulative count

The worker classifies in the context of the store, which forgets: attempts leave
the window, keys expire, two attempts can share a member, and a failing Redis
answers nothing at all. `_IPContextBuilder` counts every event it sees. Over the
same events the second context bounds the first, and every type that depends on
the context asks for a number to be reached. So the backfill may overstate what
the worker said, but never understates it.
-/

namespace Honeywatch.Detection

open Text Redis Collector

/-- A call of `update_and_get`. Where Redis fails, it tells whether the
transaction was executed nevertheless. -/
structure Call where
  now : ℚ
  event : AttackEvent
  degraded : Option Bool

/-- `update_and_get` with any Redis: after a failure the context is empty. -/
def IPContextStore.answer (store : IPContextStore) (timeWindow : Int) (call : Call) :
    IPContextStore × IPContext :=
  let updated :=
    store.updateAndGet call.now call.event.sourceIp call.event.destinationPort timeWindow
  match call.degraded with
  | none => updated
  | some true => (updated.1, { recentAttempts := 0, distinctPorts := ∅ })
  | some false => (store, { recentAttempts := 0, distinctPorts := ∅ })

/-- `_IPContextBuilder` for the same event. -/
def IPContextBuilder.answer (builder : IPContextBuilder) (call : Call) :
    IPContextBuilder × IPContext :=
  builder.updateAndGet call.event.sourceIp call.event.destinationPort

/-- The store after these calls, the latest first. -/
def storeAfter (timeWindow : Int) : List Call → IPContextStore
  | [] => .empty
  | call :: earlier => ((storeAfter timeWindow earlier).answer timeWindow call).1

/-- The builder after the same events. -/
def builderAfter : List Call → IPContextBuilder
  | [] => {}
  | call :: earlier => ((builderAfter earlier).answer call).1

/-- The context that the worker classifies the latest event in. -/
def onlineContext (timeWindow : Int) (latest : Call) (earlier : List Call) : IPContext :=
  ((storeAfter timeWindow earlier).answer timeWindow latest).2

/-- The context that the backfill classifies it in. -/
def backfillContext (latest : Call) (earlier : List Call) : IPContext :=
  ((builderAfter earlier).answer latest).2

/-- The place of a type in the order in which the classifier tries them, the
first one highest. -/
def AttackType.priority : AttackType → Nat
  | .commandInjection => 5
  | .credentialAttack => 4
  | .bruteForce => 3
  | .portScan => 2
  | .httpScan => 1
  | .suspiciousRequest => 0

/-- What the store holds for any address, expired or not, is bounded by what the
builder has counted for it. -/
structure BoundedBy (store : IPContextStore) (builder : IPContextBuilder) : Prop where
  attempts : ∀ sourceIp, store.attempts.Holds (attemptsKey sourceIp) fun members =>
    members.card ≤ builder.attempts sourceIp
  ports : ∀ sourceIp, store.ports.Holds (portsKey sourceIp) fun members =>
    members ⊆ builder.ports sourceIp

/-- An attempt that replaces its own member or joins the set adds one at most. -/
theorem card_zadd_le (members : ZSet Attempt) (attempt : Attempt) (score : ℚ) :
    (insert (attempt, score) (members.filter fun other => other.1 ≠ attempt)).card ≤
      members.card + 1 :=
  (Finset.card_insert_le _ _).trans
    (Nat.add_le_add_right (Finset.card_filter_le _ _) 1)

/-- The transaction keeps the bound, and the context it answers is bounded. The
store forgets attempts and ports, the builder forgets none, and both add the same
event. -/
theorem updateAndGet_bounded {store : IPContextStore} {builder : IPContextBuilder}
    (bounded : BoundedBy store builder) (now : ℚ) (sourceIp : Str) (destinationPort : Int)
    (timeWindow : ℚ) :
    let online := store.updateAndGet now sourceIp destinationPort timeWindow
    let rebuilt := builder.updateAndGet sourceIp destinationPort
    BoundedBy online.1 rebuilt.1 ∧ online.2.recentAttempts ≤ rebuilt.2.recentAttempts ∧
      online.2.distinctPorts ⊆ rebuilt.2.distinctPorts := by
  intro online rebuilt
  have attempts : ((store.attempts.zadd now (attemptsKey sourceIp) { now, destinationPort }
      now).zremrangebyscore now (attemptsKey sourceIp) 0 (now - timeWindow)).Holds
      (attemptsKey sourceIp) fun members => members.card ≤ builder.attempts sourceIp + 1 := by
    apply Keyspace.Holds.zremrangebyscore
    · refine (bounded.attempts sourceIp).modify now ∅ _ ?_ ?_
      · exact Nat.zero_le _
      · intro members counted
        exact (card_zadd_le members _ _).trans (Nat.add_le_add_right counted 1)
    · intro members rest contained counted
      exact (Finset.card_le_card contained).trans counted
  have ports : (store.ports.sadd now (portsKey sourceIp) destinationPort).Holds
      (portsKey sourceIp) fun members =>
        members ⊆ insert destinationPort (builder.ports sourceIp) := by
    refine (bounded.ports sourceIp).modify now ∅ _ ?_ ?_
    · exact Finset.empty_subset _
    · intro members known
      exact Finset.insert_subset_insert _ known
  refine ⟨⟨?_, ?_⟩, ?_, ?_⟩
  · intro other
    by_cases same : other = sourceIp
    · subst same
      intro timed stored
      simpa only [rebuilt, IPContextBuilder.updateAndGet, Function.update_self] using
        attempts.expire now contextTtl timed stored
    · intro timed stored
      rw [updateAndGet_attempts_other _ _ _ _ same] at stored
      simpa only [rebuilt, IPContextBuilder.updateAndGet, Function.update_of_ne same] using
        bounded.attempts other timed stored
  · intro other
    by_cases same : other = sourceIp
    · subst same
      intro timed stored
      simpa only [rebuilt, IPContextBuilder.updateAndGet, Function.update_self] using
        ports.expire now contextTtl timed stored
    · intro timed stored
      rw [updateAndGet_ports_other _ _ _ _ same] at stored
      simpa only [rebuilt, IPContextBuilder.updateAndGet, Function.update_of_ne same] using
        bounded.ports other timed stored
  · simp only [rebuilt, IPContextBuilder.updateAndGet, Function.update_self]
    exact attempts.read now ∅ (Nat.zero_le _)
  · simp only [rebuilt, IPContextBuilder.updateAndGet, Function.update_self]
    exact ports.read now ∅ (Finset.empty_subset _)

/-- The same for a call that may fail: a degraded context is empty, so every other
one bounds it, whether the transaction was executed or not. -/
theorem answer_bounded {store : IPContextStore} {builder : IPContextBuilder}
    (bounded : BoundedBy store builder) (timeWindow : Int) (call : Call) :
    BoundedBy (store.answer timeWindow call).1 (builder.answer call).1 ∧
      (store.answer timeWindow call).2.recentAttempts ≤
        (builder.answer call).2.recentAttempts ∧
      (store.answer timeWindow call).2.distinctPorts ⊆ (builder.answer call).2.distinctPorts := by
  obtain ⟨updated, fewer, contained⟩ := updateAndGet_bounded bounded call.now
    call.event.sourceIp call.event.destinationPort timeWindow
  rcases outcome : call.degraded with _ | executed
  · simpa only [IPContextStore.answer, outcome] using ⟨updated, fewer, contained⟩
  · cases executed with
    | true =>
      simp only [IPContextStore.answer, outcome]
      exact ⟨updated, Nat.zero_le _, Finset.empty_subset _⟩
    | false =>
      simp only [IPContextStore.answer, outcome]
      refine ⟨⟨?_, ?_⟩, Nat.zero_le _, Finset.empty_subset _⟩
      · intro sourceIp timed stored
        refine (bounded.attempts sourceIp timed stored).trans ?_
        by_cases same : sourceIp = call.event.sourceIp
        · simp [IPContextBuilder.answer, IPContextBuilder.updateAndGet, same]
        · simp [IPContextBuilder.answer, IPContextBuilder.updateAndGet, same]
      · intro sourceIp timed stored
        refine (bounded.ports sourceIp timed stored).trans ?_
        by_cases same : sourceIp = call.event.sourceIp
        · simp [IPContextBuilder.answer, IPContextBuilder.updateAndGet, same]
        · simp [IPContextBuilder.answer, IPContextBuilder.updateAndGet, same]

/-- The bound holds after every sequence of calls, by an induction on them. -/
theorem after_bounded (timeWindow : Int) (calls : List Call) :
    BoundedBy (storeAfter timeWindow calls) (builderAfter calls) := by
  induction calls with
  | nil =>
    constructor
    · intro sourceIp timed stored
      cases stored
    · intro sourceIp timed stored
      cases stored
  | cons call earlier inductionHypothesis =>
    exact (answer_bounded inductionHypothesis timeWindow call).1

/-- More evidence gives a type at least as high. The tests that come first do not
look at the context, and the two that do are only more easily met by more of it. -/
theorem priority_mono (rules : DetectionRules) (event : AttackEvent) {less more : IPContext}
    (fewer : less.recentAttempts ≤ more.recentAttempts)
    (contained : less.distinctPorts ⊆ more.distinctPorts) :
    (determineAttackType rules event less).priority ≤
      (determineAttackType rules event more).priority := by
  have bruteForce : isBruteForce rules event less = true →
      isBruteForce rules event more = true := by
    simp only [isBruteForce]
    intro reached
    split at reached
    · cases reached
    · rename_i protocol
      rw [if_neg protocol, decide_eq_true_eq]
      exact (of_decide_eq_true reached).trans fewer
  have portScan : isPortScan rules less = true → isPortScan rules more = true := by
    simp only [isPortScan, decide_eq_true_eq]
    intro reached
    exact reached.trans (Finset.card_le_card contained)
  cases priority : hasPriority rules event with
  | true => rw [determine_of_priority rules event less more priority]
  | false =>
    rw [determine_without_priority rules event less priority,
      determine_without_priority rules event more priority]
    revert bruteForce portScan
    cases isBruteForce rules event less <;> cases isBruteForce rules event more <;>
      cases isPortScan rules less <;> cases isPortScan rules more <;>
      cases isHttpScan rules event <;> simp [AttackType.priority]

/-- The types before the brute force do not depend on the context, so the rebuilt
contexts of a backfill give them exactly where the worker would have. -/
theorem context_free_types (rules : DetectionRules) (event : AttackEvent)
    (left right : IPContext) (attackType : AttackType)
    (early : attackType = .commandInjection ∨ attackType = .credentialAttack) :
    determineAttackType rules event left = attackType ↔
      determineAttackType rules event right = attackType := by
  cases priority : hasPriority rules event with
  | true => rw [determine_of_priority rules event left right priority]
  | false =>
    rw [determine_without_priority rules event left priority,
      determine_without_priority rules event right priority]
    rcases early with rfl | rfl
    · repeat' split
      all_goals simp
    · repeat' split
      all_goals simp

/-- For every rule set, every time window and every sequence of calls, whatever
the clock reads and wherever Redis fails: at each event the context of the worker is
bounded by that of the backfill, the type of the backfill is at least as high as
the worker's, and both agree on every command injection and credential attack. -/
theorem backfill_never_underdetects (rules : DetectionRules) (timeWindow : Int) (latest : Call)
    (earlier : List Call) :
    let online := onlineContext timeWindow latest earlier
    let rebuilt := backfillContext latest earlier
    let worker := (classify rules latest.event online).attackType
    let backfill := (classify rules latest.event rebuilt).attackType
    online.recentAttempts ≤ rebuilt.recentAttempts ∧
      online.distinctPorts ⊆ rebuilt.distinctPorts ∧
      worker.priority ≤ backfill.priority ∧
      (worker = .commandInjection ↔ backfill = .commandInjection) ∧
      (worker = .credentialAttack ↔ backfill = .credentialAttack) := by
  intro online rebuilt worker backfill
  obtain ⟨_, fewer, contained⟩ :=
    answer_bounded (after_bounded timeWindow earlier) timeWindow latest
  refine ⟨fewer, contained, priority_mono rules latest.event fewer contained, ?_, ?_⟩
  · exact context_free_types rules latest.event online rebuilt _ (.inl rfl)
  · exact context_free_types rules latest.event online rebuilt _ (.inr rfl)

end Honeywatch.Detection
