import Honeywatch.Detection.Counting
import Honeywatch.Detection.Cumulative
import Mathlib.Algebra.BigOperators.Group.Finset.Piecewise
import Mathlib.Algebra.Order.BigOperators.Group.Finset
import Mathlib.Tactic.Linarith

/-!
# What the context store remembers

Every event renews the keys of its address, and nothing else does. So a key that is still
there belongs to an address that was active within the time to live, and the attempts under
it are from the window before the last event. What the store holds is bounded by the
events of the last hour and one window, however long it has been running.
-/

namespace Honeywatch.Detection

open Text Redis Collector

/-- The event of a call whose transaction was executed. -/
def Call.visit (call : Call) : Option Visit :=
  if call.degraded = some false then none else some { now := call.now, event := call.event }

/-- The events that reached the store. -/
def executed (calls : List Call) : List Visit := calls.filterMap Call.visit

/-- The events whose keys have not expired. -/
def remembered (now : ℚ) (visits : List Visit) : List Visit :=
  visits.filter fun visit => decide (now ≤ visit.now + contextTtl)

/-- A call that fails before its transaction leaves the store alone, and one that fails
afterwards does not. -/
theorem storeAfter_eq (rules : DetectionRules) (calls : List Call) :
    storeAfter rules.attackTypes.bruteForce.timeWindow calls = stored rules (executed calls) := by
  induction calls with
  | nil => rfl
  | cons call earlier inductionHypothesis =>
    rw [storeAfter, inductionHypothesis, executed]
    obtain ⟨now, event, degraded⟩ := call
    match degraded with
    | none => rfl
    | some true => rfl
    | some false => rfl

/-- The calls that were executed are among the calls, so none of them is before the
clock begins, -/
theorem executed_started {calls : List Call} (started : ∀ call ∈ calls, 0 ≤ call.now) :
    ∀ visit ∈ executed calls, 0 ≤ visit.now := by
  intro visit member
  obtain ⟨call, inside, executes⟩ := List.mem_filterMap.mp member
  simp only [Call.visit, Option.ite_none_left_eq_some, Option.some.injEq] at executes
  obtain ⟨-, rfl⟩ := executes
  exact started call inside

/-- and they are in the order of the clock, as leaving out calls changes no order.
-/
theorem executed_ordered {calls : List Call}
    (ordered : calls.Pairwise fun later sooner => sooner.now ≤ later.now) :
    (executed calls).Pairwise fun later sooner => sooner.now ≤ later.now := by
  refine List.Pairwise.filterMap _ (fun later sooner before visit one other two => ?_) ordered
  simp only [Call.visit, Option.ite_none_left_eq_some, Option.some.injEq] at one two
  obtain ⟨-, rfl⟩ := one
  obtain ⟨-, rfl⟩ := two
  exact before

/-- An update leaves the keys of no address alone, and those of every other address.
-/
theorem updateAndGet_elsewhere (store : IPContextStore) (now : ℚ) (sourceIp : Str)
    (destinationPort : Int) (timeWindow : ℚ) (key : Str) :
    (key ≠ attemptsKey sourceIp →
      (store.updateAndGet now sourceIp destinationPort timeWindow).1.attempts key =
        store.attempts key) ∧
    (key ≠ portsKey sourceIp →
      (store.updateAndGet now sourceIp destinationPort timeWindow).1.ports key =
        store.ports key) := by
  constructor
  · intro elsewhere
    simp only [IPContextStore.updateAndGet, Keyspace.expire_of_ne _ _ _ elsewhere,
      Keyspace.zremrangebyscore_of_ne _ _ _ _ elsewhere, Keyspace.zadd,
      Keyspace.modify_of_ne _ _ _ _ elsewhere]
  · intro elsewhere
    simp only [IPContextStore.updateAndGet, Keyspace.expire_of_ne _ _ _ elsewhere, Keyspace.sadd,
      Keyspace.modify_of_ne _ _ _ _ elsewhere]

/-- A key that belongs to no address holds nothing. No command of the store writes
under it, from the empty store on. -/
theorem stored_elsewhere (rules : DetectionRules) (visits : List Visit) (key : Str) :
    ((∀ sourceIp, key ≠ attemptsKey sourceIp) → (stored rules visits).attempts key = none) ∧
      ((∀ sourceIp, key ≠ portsKey sourceIp) → (stored rules visits).ports key = none) := by
  induction visits with
  | nil => exact ⟨fun _ => rfl, fun _ => rfl⟩
  | cons visit earlier inductionHypothesis =>
    have updated := updateAndGet_elsewhere (stored rules earlier) visit.now visit.event.sourceIp
      visit.event.destinationPort rules.attackTypes.bruteForce.timeWindow key
    exact ⟨fun nobody => (updated.1 (nobody _)).trans (inductionHypothesis.1 nobody),
      fun nobody => (updated.2 (nobody _)).trans (inductionHypothesis.2 nobody)⟩

section

variable {rules : DetectionRules} {visits : List Visit} {now : ℚ}

/-- The key of an address is there as long as its last event is remembered: each
event sets the expiry anew, and the latest one has the latest expiry. -/
theorem live_heldFor_iff {Value : Type} (contents : ℚ → List Visit → Value)
    {keys : Keyspace Str Value} {key sourceIp : Str}
    (holds : keys key = heldFor contents (comingFrom sourceIp visits))
    (ordered : visits.Pairwise fun later sooner => sooner.now ≤ later.now) :
    (keys.live now key).isSome = true ↔
      ∃ visit ∈ remembered now visits, visit.event.sourceIp = sourceIp := by
  have mine : (comingFrom sourceIp visits).Pairwise fun later sooner => sooner.now ≤ later.now :=
    ordered.sublist List.filter_sublist
  have known : (∃ visit ∈ remembered now visits, visit.event.sourceIp = sourceIp) ↔
      ∃ visit ∈ comingFrom sourceIp visits, now ≤ visit.now + contextTtl := by
    simp only [remembered, comingFrom, List.mem_filter, decide_eq_true_eq]
    constructor
    · rintro ⟨visit, ⟨member, fresh⟩, own⟩
      exact ⟨visit, ⟨member, own⟩, fresh⟩
    · rintro ⟨visit, ⟨member, own⟩, fresh⟩
      exact ⟨visit, ⟨member, fresh⟩, own⟩
  rw [known]
  cases events : comingFrom sourceIp visits with
  | nil =>
    rw [events] at holds
    simp [Keyspace.live, holds, heldFor]
  | cons latest rest =>
    rw [events] at holds mine
    have sooner := (List.pairwise_cons.mp mine).1
    have fresh : (keys.live now key).isSome = true ↔ now ≤ latest.now + contextTtl := by
      by_cases expired : now ≤ latest.now + contextTtl
      · simp [Keyspace.live, holds, heldFor, Option.filter, expired]
      · simp [Keyspace.live, holds, heldFor, Option.filter, expired]
    rw [fresh]
    constructor
    · exact fun renewed => ⟨latest, List.mem_cons_self, renewed⟩
    · rintro ⟨visit, member, renewed⟩
      rcases List.mem_cons.mp member with rfl | earlier
      · exact renewed
      · exact renewed.trans (add_le_add_left (sooner visit earlier) contextTtl)

/-- The attempts of an address are at most its events of the time to live and one
window. The set is trimmed only by an event of the address, and lives on after its
last one. -/
theorem card_attemptsOf_le (started : ∀ visit ∈ visits, 0 ≤ visit.now)
    (ordered : visits.Pairwise fun later sooner => sooner.now ≤ later.now) (sourceIp : Str) :
    ((stored rules visits).attemptsOf now sourceIp).card ≤
      ((within now (contextTtl + rules.attackTypes.bruteForce.timeWindow) visits).filter
        fun visit => decide (visit.event.sourceIp = sourceIp)).length := by
  have holds := (stored_spec rules visits started ordered sourceIp).1
  have order : (within now (contextTtl + rules.attackTypes.bruteForce.timeWindow) visits).filter
      (fun visit => decide (visit.event.sourceIp = sourceIp)) =
      within now (contextTtl + rules.attackTypes.bruteForce.timeWindow)
        (comingFrom sourceIp visits) := by
    simp only [within, comingFrom, List.filter_filter, Bool.and_comm]
  rw [order]
  cases events : comingFrom sourceIp visits with
  | nil =>
    rw [events] at holds
    simp [IPContextStore.attemptsOf, Keyspace.live, holds, heldFor]
  | cons latest rest =>
    rw [events] at holds
    by_cases renewed : now ≤ latest.now + contextTtl
    · have held : (stored rules visits).attemptsOf now sourceIp =
          asAttempts (within latest.now rules.attackTypes.bruteForce.timeWindow
            (unbroken (latest :: rest))) := by
        simp [IPContextStore.attemptsOf, Keyspace.live, holds, heldFor, Option.filter, renewed]
      rw [held, asAttempts]
      refine (List.toFinset_card_le _).trans ?_
      rw [List.length_map]
      refine ((unbroken_sublist (latest :: rest)).filter _).length_le.trans ?_
      refine (List.monotone_filter_right _ fun visit inside => ?_).length_le
      rw [decide_eq_true_eq] at inside ⊢
      linarith
    · simp [IPContextStore.attemptsOf, Keyspace.live, holds, heldFor, Option.filter, renewed]

end

/-- The parts of some addresses are together at most the whole, as an event has one
source. -/
theorem sum_comingFrom_le (visits : List Visit) (addresses : Finset Str) :
    ∑ sourceIp ∈ addresses,
      (visits.filter fun visit => decide (visit.event.sourceIp = sourceIp)).length ≤
        visits.length := by
  induction visits with
  | nil => simp
  | cons visit rest inductionHypothesis =>
    have first (sourceIp : Str) :
        ((visit :: rest).filter fun visit => decide (visit.event.sourceIp = sourceIp)).length =
          (if visit.event.sourceIp = sourceIp then 1 else 0) +
            (rest.filter fun visit => decide (visit.event.sourceIp = sourceIp)).length := by
      by_cases own : visit.event.sourceIp = sourceIp
      · simp [own, Nat.add_comm]
      · simp [own]
    have once : ∑ sourceIp ∈ addresses, (if visit.event.sourceIp = sourceIp then 1 else 0) ≤ 1 := by
      rw [Finset.sum_ite_eq]
      split <;> simp
    simp only [first, Finset.sum_add_distrib, List.length_cons]
    omega

/-- For every sequence of calls by one clock that does not run backwards, wherever Redis
fails, and at any time: a key is there exactly when it is one of the two keys of an address
with an event that is no older than the time to live, and the attempts of all addresses
together are at most the events of the time to live and one window. -/
theorem context_store_forgets (rules : DetectionRules) (calls : List Call)
    (started : ∀ call ∈ calls, 0 ≤ call.now)
    (ordered : calls.Pairwise fun later sooner => sooner.now ≤ later.now) (now : ℚ) :
    let store := storeAfter rules.attackTypes.bruteForce.timeWindow calls
    let visits := executed calls
    (∀ key, (store.attempts.live now key).isSome = true ↔
      ∃ visit ∈ remembered now visits, key = attemptsKey visit.event.sourceIp) ∧
      (∀ key, (store.ports.live now key).isSome = true ↔
        ∃ visit ∈ remembered now visits, key = portsKey visit.event.sourceIp) ∧
      ∀ addresses : Finset Str, ∑ sourceIp ∈ addresses, (store.attemptsOf now sourceIp).card ≤
        (within now (contextTtl + rules.attackTypes.bruteForce.timeWindow) visits).length := by
  intro store visits
  have startedVisits : ∀ visit ∈ visits, 0 ≤ visit.now := executed_started started
  have orderedVisits := executed_ordered ordered
  have same : store = stored rules visits := storeAfter_eq rules calls
  have spec := stored_spec rules visits startedVisits orderedVisits
  have elsewhere := stored_elsewhere rules visits
  rw [same]
  refine ⟨fun key => ?_, fun key => ?_, fun addresses => ?_⟩
  · by_cases somebody : ∃ sourceIp, key = attemptsKey sourceIp
    · obtain ⟨sourceIp, rfl⟩ := somebody
      rw [live_heldFor_iff _ (spec sourceIp).1 orderedVisits]
      simp only [attemptsKey_inj, eq_comm]
    · have somebody := not_exists.mp somebody
      refine iff_of_false ?_ (by rintro ⟨visit, -, mine⟩; exact somebody _ mine)
      simp [Keyspace.live, (elsewhere key).1 somebody]
  · by_cases somebody : ∃ sourceIp, key = portsKey sourceIp
    · obtain ⟨sourceIp, rfl⟩ := somebody
      rw [live_heldFor_iff _ (spec sourceIp).2 orderedVisits]
      simp only [portsKey_inj, eq_comm]
    · have somebody := not_exists.mp somebody
      refine iff_of_false ?_ (by rintro ⟨visit, -, mine⟩; exact somebody _ mine)
      simp [Keyspace.live, (elsewhere key).2 somebody]
  · exact (Finset.sum_le_sum fun sourceIp _ =>
      card_attemptsOf_le startedVisits orderedVisits sourceIp).trans (sum_comingFrom_le _ addresses)

/-- A connection of another address. -/
def neighbour : AttackEvent := { connection 22 with sourceIp := literal "10.0.0.2" }

/-- Two calls of one address, of which the second is executed but not answered, and two
of another one, of which the second fails before its transaction. -/
def fourCalls : List Call :=
  [{ now := 3000, event := neighbour, degraded := some false },
    { now := 2000, event := neighbour, degraded := none },
    { now := 1000, event := connection 22, degraded := some true },
    { now := 0, event := connection 22, degraded := none }]

/-- At 5000 seconds the first address is forgotten and the second one is not; at 5700 it
is, too, for its failed call has renewed nothing. The attempts that are left at 5000 are
no more than the two events of the time to live and one window. -/
theorem context_store_forgets_neighbour :
    let store := storeAfter 600 fourCalls
    (store.attempts.live 5000 (attemptsKey (connection 22).sourceIp)).isSome = false ∧
      (store.attempts.live 5000 (attemptsKey neighbour.sourceIp)).isSome = true ∧
      (store.attempts.live 5700 (attemptsKey neighbour.sourceIp)).isSome = false ∧
      ∑ sourceIp ∈ {(connection 22).sourceIp, neighbour.sourceIp},
        (store.attemptsOf 5000 sourceIp).card ≤ 2 := by
  have started : ∀ call ∈ fourCalls, 0 ≤ call.now := by decide +kernel
  have ordered : fourCalls.Pairwise fun later sooner => sooner.now ≤ later.now := by
    decide +kernel
  obtain ⟨early, -, bounded⟩ := context_store_forgets {} fourCalls started ordered 5000
  obtain ⟨late, -⟩ := context_store_forgets {} fourCalls started ordered 5700
  refine ⟨?_, (early _).mpr (by decide +kernel), ?_, (bounded _).trans (by decide +kernel)⟩
  · rw [Bool.eq_false_iff]
    intro there
    have known := (early _).mp there
    revert known
    decide +kernel
  · rw [Bool.eq_false_iff]
    intro there
    have known := (late _).mp there
    revert known
    decide +kernel

end Honeywatch.Detection
