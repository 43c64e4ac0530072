import Honeywatch.Detection.Classifier
import Honeywatch.Redis.Keyspace

/-!
# The context of a source address

`IPContextStore.update_and_get`: a sorted set of attempts and a set of ports for
each source address, both renewed by every event of the address. The attempts
are trimmed to the time window of the caller; the ports never are. They go only
when the address is silent for longer than the time to live of the keys.

The store is followed over a whole timeline of processed events. What it holds
for an address is a function of the address's current session: its events since
its last silence of that length.
-/

namespace Honeywatch.Detection

open Text Redis Collector

/-- The member `f"{now}:{destination_port}"` of the sorted set. -/
structure Attempt where
  now : ℚ
  destinationPort : Int
deriving DecidableEq

/-- `CONTEXT_TTL`. -/
def contextTtl : ℚ := 3600

/-- `ATTEMPTS_KEY_PREFIX` with an address. -/
def attemptsKey (sourceIp : Str) : Str := literal "honeywatch:ipctx:attempts:" ++ sourceIp

/-- `PORTS_KEY_PREFIX` with an address. -/
def portsKey (sourceIp : Str) : Str := literal "honeywatch:ipctx:ports:" ++ sourceIp

/-- The keys of the store, those of sorted sets and those of sets. -/
structure IPContextStore where
  attempts : Keyspace Str (ZSet Attempt)
  ports : Keyspace Str (Finset Int)

/-- Nothing stored. -/
def IPContextStore.empty : IPContextStore :=
  { attempts := fun _ => none, ports := fun _ => none }

/-- No key is both a sorted set's and a set's, so keeping them apart loses
nothing. -/
theorem keys_apart (left right : Str) : attemptsKey left ≠ portsKey right := by
  intro same
  have heads := congrArg (List.take 18) same
  simp only [attemptsKey, portsKey] at heads
  rw [List.take_append_of_le_length (by decide), List.take_append_of_le_length (by decide)] at heads
  exact absurd heads (by decide)

/-- `update_and_get` with a working Redis: one transaction over both keys. -/
def IPContextStore.updateAndGet (store : IPContextStore) (now : ℚ) (sourceIp : Str)
    (destinationPort : Int) (timeWindow : ℚ) : IPContextStore × IPContext :=
  let windowStart := now - timeWindow
  let attemptsKey := attemptsKey sourceIp
  let portsKey := portsKey sourceIp
  let attempts :=
    (store.attempts.zadd now attemptsKey { now, destinationPort } now).zremrangebyscore now
      attemptsKey 0 windowStart
  let recentAttempts := attempts.zcard now attemptsKey
  let ports := store.ports.sadd now portsKey destinationPort
  let distinctPorts := ports.smembers now portsKey
  ({ attempts := attempts.expire now attemptsKey contextTtl
     ports := ports.expire now portsKey contextTtl }, { recentAttempts, distinctPorts })

/-- Two addresses have two keys of attempts, -/
theorem attemptsKey_inj {left right : Str} : attemptsKey left = attemptsKey right ↔ left = right :=
  List.append_right_inj _

/-- and two keys of ports. -/
theorem portsKey_inj {left right : Str} : portsKey left = portsKey right ↔ left = right :=
  List.append_right_inj _

/-- An update leaves the attempts of other addresses as they are, as the keys of two
addresses differ. -/
theorem updateAndGet_attempts_other (store : IPContextStore) (now : ℚ) {sourceIp other : Str}
    (destinationPort : Int) (timeWindow : ℚ) (apart : other ≠ sourceIp) :
    (store.updateAndGet now sourceIp destinationPort timeWindow).1.attempts (attemptsKey other) =
      store.attempts (attemptsKey other) := by
  have elsewhere : attemptsKey other ≠ attemptsKey sourceIp := mt attemptsKey_inj.mp apart
  simp only [IPContextStore.updateAndGet, Keyspace.expire_of_ne _ _ _ elsewhere,
    Keyspace.zremrangebyscore_of_ne _ _ _ _ elsewhere, Keyspace.zadd,
    Keyspace.modify_of_ne _ _ _ _ elsewhere]

/-- And so it leaves their ports. -/
theorem updateAndGet_ports_other (store : IPContextStore) (now : ℚ) {sourceIp other : Str}
    (destinationPort : Int) (timeWindow : ℚ) (apart : other ≠ sourceIp) :
    (store.updateAndGet now sourceIp destinationPort timeWindow).1.ports (portsKey other) =
      store.ports (portsKey other) := by
  have elsewhere : portsKey other ≠ portsKey sourceIp := mt portsKey_inj.mp apart
  simp only [IPContextStore.updateAndGet, Keyspace.expire_of_ne _ _ _ elsewhere, Keyspace.sadd,
    Keyspace.modify_of_ne _ _ _ _ elsewhere]

/-- The attempts of an address at a time. -/
def IPContextStore.attemptsOf (store : IPContextStore) (now : ℚ) (sourceIp : Str) : ZSet Attempt :=
  ((store.attempts.live now (attemptsKey sourceIp)).map Timed.value).getD ∅

/-- The ports of an address at a time. -/
def IPContextStore.portsOf (store : IPContextStore) (now : ℚ) (sourceIp : Str) : Finset Int :=
  ((store.ports.live now (portsKey sourceIp)).map Timed.value).getD ∅

/-- The attempts after a new one has joined and the window has moved on. -/
def trimmed (now timeWindow : ℚ) (destinationPort : Int) (attempts : ZSet Attempt) : ZSet Attempt :=
  (insert (({ now, destinationPort } : Attempt), now)
    (attempts.filter fun other => other.1 ≠ { now, destinationPort })).filter
      fun attempt => ¬ (0 ≤ attempt.2 ∧ attempt.2 ≤ now - timeWindow)

/-- The new attempt is never trimmed: its score is the present, and a window of
positive length reaches it. -/
theorem mem_trimmed_self (now timeWindow : ℚ) (destinationPort : Int) (attempts : ZSet Attempt)
    (window : 0 < timeWindow) :
    (({ now, destinationPort } : Attempt), now) ∈
      trimmed now timeWindow destinationPort attempts := by
  simp only [trimmed, Finset.mem_filter, Finset.mem_insert_self, true_and, not_and, not_le]
  intro _
  exact sub_lt_self now window

/-- What an update stores and returns, for a window of positive length. The trim
cannot reach the event that has just been added, so the set is not empty when its
expiry is set. -/
theorem updateAndGet_spec (store : IPContextStore) (now : ℚ) (sourceIp : Str)
    (destinationPort : Int) (timeWindow : ℚ) (window : 0 < timeWindow) :
    let attempts := trimmed now timeWindow destinationPort (store.attemptsOf now sourceIp)
    let ports := insert destinationPort (store.portsOf now sourceIp)
    store.updateAndGet now sourceIp destinationPort timeWindow =
      ({ attempts := Function.update store.attempts (attemptsKey sourceIp)
           (some { value := attempts, expiry := some (now + contextTtl) })
         ports := Function.update store.ports (portsKey sourceIp)
           (some { value := ports, expiry := some (now + contextTtl) }) },
        { recentAttempts := attempts.card, distinctPorts := ports }) := by
  intro attempts ports
  have kept :=
    mem_trimmed_self now timeWindow destinationPort (store.attemptsOf now sourceIp) window
  have nonempty : attempts ≠ ∅ := Finset.ne_empty_of_mem kept
  have added := store.attempts.live_modify now (attemptsKey sourceIp) ∅
    fun members => insert (({ now, destinationPort } : Attempt), now)
      (members.filter fun other => other.1 ≠ { now, destinationPort })
  obtain ⟨removed, held⟩ := Keyspace.zremrangebyscore_of_live _ now _ 0 (now - timeWindow) _
    attempts added rfl nonempty
  have known := store.ports.live_modify now (portsKey sourceIp) ∅
    fun members => insert destinationPort members
  have renewed_attempts := Keyspace.expire_of_live _ now _ contextTtl _ held
  have renewed_ports := Keyspace.expire_of_live _ now _ contextTtl _ known
  simp only [IPContextStore.updateAndGet, Keyspace.zcard, Keyspace.smembers, Keyspace.zadd,
    Keyspace.sadd, held, known, renewed_attempts, renewed_ports, Option.map_some, Option.getD_some]
  simp only [removed]
  simp only [Keyspace.modify, Function.update_idem]
  rfl

/-- An event and the time at which the worker classifies it. -/
structure Visit where
  now : ℚ
  event : AttackEvent

/-- The events processed so far, the latest first. Their times come from one
clock, which counts from the epoch and does not run backwards. -/
structure Timeline where
  latest : Visit
  earlier : List Visit
  started : ∀ visit ∈ latest :: earlier, 0 ≤ visit.now
  ordered : (latest :: earlier).Pairwise fun later sooner => sooner.now ≤ later.now

/-- `EventWorker._classify_event` with a working Redis. -/
def classifyEvent (rules : DetectionRules) (store : IPContextStore) (visit : Visit) :
    IPContextStore × ClassificationResult :=
  let (store, context) := store.updateAndGet visit.now visit.event.sourceIp
    visit.event.destinationPort rules.attackTypes.bruteForce.timeWindow
  (store, classify rules visit.event context)

/-- The store after these events, the latest first. -/
def stored (rules : DetectionRules) : List Visit → IPContextStore
  | [] => .empty
  | visit :: earlier => (classifyEvent rules (stored rules earlier) visit).1

/-- The events of one address. -/
def comingFrom (sourceIp : Str) (visits : List Visit) : List Visit :=
  visits.filter fun visit => decide (visit.event.sourceIp = sourceIp)

/-- The latest of these events, back to the first pause in which keys expire. -/
def unbroken : List Visit → List Visit
  | [] => []
  | [visit] => [visit]
  | visit :: previous :: earlier =>
    if visit.now ≤ previous.now + contextTtl then visit :: unbroken (previous :: earlier)
    else [visit]

/-- The current session of an address. -/
def session (sourceIp : Str) (visits : List Visit) : List Visit :=
  unbroken (comingFrom sourceIp visits)

/-- The events of the last so many seconds. -/
def within (now timeWindow : ℚ) (visits : List Visit) : List Visit :=
  visits.filter fun visit => decide (now - timeWindow < visit.now)

/-- The attempts of these events in a sorted set: one for each time and port. -/
def asAttempts (visits : List Visit) : ZSet Attempt :=
  (visits.map fun visit =>
    (({ now := visit.now, destinationPort := visit.event.destinationPort } : Attempt),
      visit.now)).toFinset

/-- The destination ports of these events. -/
def portsOf (visits : List Visit) : Finset Int :=
  (visits.map fun visit => visit.event.destinationPort).toFinset

/-- A session's events are events of the address, so what holds of all its calls
holds of them. -/
theorem unbroken_subset (visits : List Visit) : unbroken visits ⊆ visits := by
  induction visits with
  | nil => exact List.Subset.refl _
  | cons visit earlier inductionHypothesis =>
    cases earlier with
    | nil => exact List.Subset.refl _
    | cons previous rest =>
      simp only [unbroken]
      split
      · exact List.cons_subset_cons _ inductionHypothesis
      · simp

/-- Trimming the attempts of a session for a later event leaves those of the
window that ends with it. The window's start only moves forward, so what was
trimmed before is outside it. -/
theorem trimmed_asAttempts (timeWindow previous : ℚ) (visit : Visit) (visits : List Visit)
    (window : 0 < timeWindow) (later : previous ≤ visit.now)
    (started : ∀ other ∈ visits, 0 ≤ other.now) :
    trimmed visit.now timeWindow visit.event.destinationPort
        (asAttempts (within previous timeWindow visits)) =
      asAttempts (within visit.now timeWindow (visit :: visits)) := by
  have own : visit.now - timeWindow < visit.now := sub_lt_self _ window
  ext ⟨attempt, score⟩
  simp only [trimmed, asAttempts, within, Finset.mem_filter, Finset.mem_insert, List.mem_toFinset,
    List.mem_map, List.mem_filter, decide_eq_true_eq, List.mem_cons, Prod.mk.injEq, ne_eq]
  constructor
  · rintro ⟨⟨rfl, rfl⟩ | ⟨⟨other, ⟨member, _⟩, rfl, rfl⟩, _⟩, untrimmed⟩
    · exact ⟨visit, ⟨.inl rfl, own⟩, rfl, rfl⟩
    · refine ⟨other, ⟨.inr member, ?_⟩, rfl, rfl⟩
      exact lt_of_not_ge fun expired => untrimmed ⟨started other member, expired⟩
  · rintro ⟨other, ⟨rfl | member, recent⟩, rfl, rfl⟩
    · exact ⟨.inl ⟨rfl, rfl⟩, fun expired => absurd expired.2 (not_le_of_gt own)⟩
    · refine ⟨?_, fun expired => absurd expired.2 (not_le_of_gt recent)⟩
      by_cases same : ({ now := other.now, destinationPort := other.event.destinationPort } :
          Attempt) = { now := visit.now, destinationPort := visit.event.destinationPort }
      · exact .inl ⟨same, congrArg Attempt.now same⟩
      · refine .inr ⟨⟨other, ⟨member, ?_⟩, rfl, rfl⟩, same⟩
        exact lt_of_le_of_lt (sub_le_sub_right later _) recent

/-- What a key of the store holds after these events of its address. -/
def heldFor {Value : Type} (contents : ℚ → List Visit → Value) : List Visit → Option (Timed Value)
  | [] => none
  | latest :: earlier =>
    some { value := contents latest.now (unbroken (latest :: earlier))
           expiry := some (latest.now + contextTtl) }

/-- What a key of an address still holds at its next event is the contents of
its session so far, and the event joins exactly that session. -/
theorem live_heldFor {Element : Type} (contents : ℚ → List Visit → Finset Element)
    (fresh : ∀ now, contents now [] = ∅) (keys : Keyspace Str (Finset Element)) (key : Str)
    (mine : List Visit) (visit : Visit) (holds : keys key = heldFor contents mine)
    (ordered : ∀ other ∈ mine, other.now ≤ visit.now) :
    ∃ prior previous, unbroken (visit :: mine) = visit :: prior ∧ prior ⊆ mine ∧
      previous ≤ visit.now ∧
      ((keys.live visit.now key).map Timed.value).getD ∅ = contents previous prior := by
  cases mine with
  | nil =>
    refine ⟨[], visit.now, rfl, List.Subset.refl _, le_refl _, ?_⟩
    simp [Keyspace.live, holds, heldFor, fresh]
  | cons previous rest =>
    by_cases renewed : visit.now ≤ previous.now + contextTtl
    · refine ⟨unbroken (previous :: rest), previous.now, by simp [unbroken, renewed],
        unbroken_subset _, ordered previous (by simp), ?_⟩
      simp [Keyspace.live, holds, heldFor, Option.filter, renewed]
    · refine ⟨[], visit.now, by simp [unbroken, renewed], by simp, le_refl _, ?_⟩
      simp [Keyspace.live, holds, heldFor, Option.filter, renewed, fresh]

/-- An update of the context stores the session with the event, and returns it. What
the keys held before is the session without it, or has expired. -/
theorem updateAndGet_session (rules : DetectionRules) (store : IPContextStore) (visit : Visit)
    (mine : List Visit) (started : ∀ other ∈ mine, 0 ≤ other.now)
    (ordered : ∀ other ∈ mine, other.now ≤ visit.now)
    (attempts : store.attempts (attemptsKey visit.event.sourceIp) =
      heldFor (fun now visits =>
        asAttempts (within now rules.attackTypes.bruteForce.timeWindow visits)) mine)
    (ports : store.ports (portsKey visit.event.sourceIp) =
      heldFor (fun _ visits => portsOf visits) mine) :
    let attempts := asAttempts (within visit.now rules.attackTypes.bruteForce.timeWindow
      (unbroken (visit :: mine)))
    let ports := portsOf (unbroken (visit :: mine))
    store.updateAndGet visit.now visit.event.sourceIp visit.event.destinationPort
        rules.attackTypes.bruteForce.timeWindow =
      ({ attempts := Function.update store.attempts (attemptsKey visit.event.sourceIp)
           (some { value := attempts, expiry := some (visit.now + contextTtl) })
         ports := Function.update store.ports (portsKey visit.event.sourceIp)
           (some { value := ports, expiry := some (visit.now + contextTtl) }) },
        { recentAttempts := attempts.card, distinctPorts := ports }) := by
  have window : (0 : ℚ) < rules.attackTypes.bruteForce.timeWindow := by
    exact_mod_cast rules.attackTypes.bruteForce.someWindow
  obtain ⟨prior, previous, joined, contained, sooner, held⟩ := live_heldFor
    (fun now visits => asAttempts (within now rules.attackTypes.bruteForce.timeWindow visits))
    (fun _ => rfl) store.attempts _ mine visit attempts ordered
  obtain ⟨same, _, joined_ports, _, _, known⟩ := live_heldFor (fun _ visits => portsOf visits)
    (fun _ => rfl) store.ports _ mine visit ports ordered
  have one_prior : same = prior :=
    (List.cons.inj (joined_ports.symm.trans joined)).2
  have stores := updateAndGet_spec store visit.now visit.event.sourceIp
    visit.event.destinationPort _ window
  simp only [IPContextStore.attemptsOf, held, IPContextStore.portsOf, known, one_prior] at stores
  rw [trimmed_asAttempts _ previous visit prior window sooner
    fun other member => started other (contained member)] at stores
  have grown : insert visit.event.destinationPort (Detection.portsOf prior) =
      Detection.portsOf (visit :: prior) := by
    simp [Detection.portsOf]
  rw [grown] at stores
  simpa only [joined] using stores

/-- The store holds, for every address, the attempts of its session in the
window that ended with its last event, and all ports of its session. -/
theorem stored_spec (rules : DetectionRules) (visits : List Visit)
    (started : ∀ visit ∈ visits, 0 ≤ visit.now)
    (ordered : visits.Pairwise fun later sooner => sooner.now ≤ later.now) (sourceIp : Str) :
    (stored rules visits).attempts (attemptsKey sourceIp) =
      heldFor (fun now visits =>
        asAttempts (within now rules.attackTypes.bruteForce.timeWindow visits))
        (comingFrom sourceIp visits) ∧
    (stored rules visits).ports (portsKey sourceIp) =
      heldFor (fun _ visits => portsOf visits) (comingFrom sourceIp visits) := by
  induction visits generalizing sourceIp with
  | nil => exact ⟨rfl, rfl⟩
  | cons visit earlier inductionHypothesis =>
    have sooner := List.pairwise_cons.mp ordered
    have before (ip : Str) := inductionHypothesis
      (fun other member => started other (List.mem_cons_of_mem _ member)) sooner.2 ip
    have from_earlier (ip : Str) : ∀ other ∈ comingFrom ip earlier, other ∈ earlier :=
      fun other member => List.mem_of_mem_filter member
    have updated := updateAndGet_session rules (stored rules earlier) visit
      (comingFrom visit.event.sourceIp earlier)
      (fun other member =>
        started other (List.mem_cons_of_mem _ (from_earlier _ other member)))
      (fun other member => sooner.1 other (from_earlier _ other member))
      (before visit.event.sourceIp).1 (before visit.event.sourceIp).2
    simp only [stored, classifyEvent, updated]
    by_cases same : visit.event.sourceIp = sourceIp
    · subst same
      simp [comingFrom, heldFor]
    · have others : comingFrom sourceIp (visit :: earlier) = comingFrom sourceIp earlier := by
        simp [comingFrom, same]
      have elsewhere : attemptsKey sourceIp ≠ attemptsKey visit.event.sourceIp :=
        fun equal => same (attemptsKey_inj.mp equal).symm
      have elsewhere_too : portsKey sourceIp ≠ portsKey visit.event.sourceIp :=
        fun equal => same (portsKey_inj.mp equal).symm
      rw [Function.update_of_ne elsewhere, Function.update_of_ne elsewhere_too, others]
      exact before sourceIp

/-- The type the worker gives to the latest event of a timeline. -/
def Timeline.attackType (rules : DetectionRules) (timeline : Timeline) : AttackType :=
  (classifyEvent rules (stored rules timeline.earlier) timeline.latest).2.attackType

/-- The session that the latest event belongs to. -/
def Timeline.session (timeline : Timeline) : List Visit :=
  Detection.session timeline.latest.event.sourceIp (timeline.latest :: timeline.earlier)

/-- The context that the latest event is classified in: one attempt for each
time and port at which the address did anything within the window, and the ports
of its session, however long that lasts. -/
def Timeline.context (rules : DetectionRules) (timeline : Timeline) : IPContext :=
  { recentAttempts := (asAttempts (within timeline.latest.now
      rules.attackTypes.bruteForce.timeWindow timeline.session)).card
    distinctPorts := portsOf timeline.session }

/-- `update_and_get` answers this context for the latest event. With it the
detections are stated over the calls of an address and not over the keys of Redis.
-/
theorem Timeline.updateAndGet_eq (rules : DetectionRules) (timeline : Timeline) :
    ((stored rules timeline.earlier).updateAndGet timeline.latest.now
        timeline.latest.event.sourceIp timeline.latest.event.destinationPort
        rules.attackTypes.bruteForce.timeWindow).2 = timeline.context rules := by
  have sooner := List.pairwise_cons.mp timeline.ordered
  have from_earlier : ∀ other ∈ comingFrom timeline.latest.event.sourceIp timeline.earlier,
      other ∈ timeline.earlier := fun other member => List.mem_of_mem_filter member
  have started : ∀ other ∈ timeline.earlier, 0 ≤ other.now :=
    fun other member => timeline.started other (List.mem_cons_of_mem _ member)
  obtain ⟨attempts, ports⟩ := stored_spec rules timeline.earlier started sooner.2
    timeline.latest.event.sourceIp
  have updated := updateAndGet_session rules (stored rules timeline.earlier) timeline.latest
    (comingFrom timeline.latest.event.sourceIp timeline.earlier)
    (fun other member => started other (from_earlier other member))
    (fun other member => sooner.1 other (from_earlier other member)) attempts ports
  have joined : timeline.session = unbroken (timeline.latest ::
      comingFrom timeline.latest.event.sourceIp timeline.earlier) := by
    simp [Timeline.session, Detection.session, comingFrom]
  simp only [updated, Timeline.context, joined]

/-- The latest event is classified in this context. -/
theorem Timeline.classifyEvent_eq (rules : DetectionRules) (timeline : Timeline) :
    (classifyEvent rules (stored rules timeline.earlier) timeline.latest).2 =
      classify rules timeline.latest.event (timeline.context rules) := by
  simp only [classifyEvent, timeline.updateAndGet_eq]

/-- The worker classifies the latest event in the context of its timeline. -/
theorem Timeline.attackType_eq (rules : DetectionRules) (timeline : Timeline) :
    timeline.attackType rules =
      (classify rules timeline.latest.event (timeline.context rules)).attackType := by
  rw [Timeline.attackType, timeline.classifyEvent_eq]

end Honeywatch.Detection
