import Honeywatch.Detection.Cumulative
import Honeywatch.Redis.Mixed

/-!
# Source addresses apart

The contexts of all addresses lie in one database, under keys that are built from
the addresses themselves. The transaction of an event reads and writes the two
keys of its own address, and no key belongs to two addresses or to both kinds of
value. So the events of an address are classified as if no others came, and the
others change nothing that is held for it.

The store of the other modules keeps the two kinds of keys apart from the start. In a
database that only the worker writes under these keys no command is refused, and the
transactions over it answer what the store answers, along every sequence of events.
-/

namespace Honeywatch.Detection

open Text Redis Collector

/-- What a key of the database holds. -/
inductive Contents
  | attempts (members : ZSet Attempt)
  | ports (members : Finset Int)
  | other

/-- The sorted sets of attempts. -/
def attemptsKind : Kind Contents (ZSet Attempt) where
  inject := .attempts
  project
    | .attempts members => some members
    | _ => none
  project_inject _ := rfl
  inject_project value part projected := by
    cases value with
    | attempts members =>
      cases projected
      rfl
    | ports members => cases projected
    | other => cases projected

/-- The sets of ports. -/
def portsKind : Kind Contents (Finset Int) where
  inject := .ports
  project
    | .ports members => some members
    | _ => none
  project_inject _ := rfl
  inject_project value part projected := by
    cases value with
    | attempts members => cases projected
    | ports members =>
      cases projected
      rfl
    | other => cases projected

/-- `update_and_get` as one transaction. Every command is executed, whatever the
others answer; none where `execute` raises for one that was refused. -/
def updateAndGet (now : ℚ) (sourceIp : Str) (destinationPort : Int) (timeWindow : ℚ) :
    StateM (Keyspace Str Contents) (Option IPContext) := do
  let windowStart := now - timeWindow
  let attemptsKey := attemptsKey sourceIp
  let portsKey := portsKey sourceIp
  let added ← attemptsKind.command now attemptsKey
    (Command.zadd now attemptsKey { now, destinationPort } now)
  let removed ← attemptsKind.command now attemptsKey
    (Command.zremrangebyscore now attemptsKey 0 windowStart)
  let counted ← attemptsKind.command now attemptsKey (Command.zcard now attemptsKey)
  let joined ← portsKind.command now portsKey (Command.sadd now portsKey destinationPort)
  let listed ← portsKind.command now portsKey (Command.smembers now portsKey)
  Command.expire now attemptsKey contextTtl
  Command.expire now portsKey contextTtl
  return do
    let _ ← added
    let _ ← removed
    let recentAttempts ← counted
    let _ ← joined
    let distinctPorts ← listed
    return { recentAttempts, distinctPorts }

/-- `IPContext()`. -/
def IPContext.fresh : IPContext := { recentAttempts := 0, distinctPorts := ∅ }

/-- `_classify_event` with any Redis. -/
def classifyCall (rules : DetectionRules) (call : Call) :
    StateM (Keyspace Str Contents) ClassificationResult :=
  let update := updateAndGet call.now call.event.sourceIp call.event.destinationPort
    rules.attackTypes.bruteForce.timeWindow
  match call.degraded with
  | none => do
    let context ← update
    return classify rules call.event (context.getD .fresh)
  | some true => do
    let _ ← update
    return classify rules call.event .fresh
  | some false => return classify rules call.event .fresh

/-- The keys of an address. -/
def contextArea (sourceIp : Str) : Set Str := {attemptsKey sourceIp, portsKey sourceIp}

/-- The address that a call is for. -/
def Call.sourceIp (call : Call) : Str := call.event.sourceIp

/-- The keys of two addresses are four different keys, since their prefixes differ
or what follows the prefix does. -/
theorem contextArea_apart (one other : Str) (differ : one ≠ other) :
    contextArea one ⊆ (contextArea other)ᶜ := by
  rintro key (rfl | rfl) (same | same)
  · exact differ (attemptsKey_inj.mp same)
  · exact keys_apart one other same
  · exact keys_apart other one same.symm
  · exact differ (portsKey_inj.mp same)

/-- A command on the attempts of an address stays within the keys of this address,
-/
theorem attempts_confined {Answer : Type} (now : ℚ) (sourceIp : Str)
    {act : StateM (Keyspace Str (ZSet Attempt)) Answer}
    (confined : Confined {attemptsKey sourceIp} act) :
    Confined (contextArea sourceIp) (attemptsKind.command now (attemptsKey sourceIp) act) :=
  (attemptsKind.confined_command now _ confined).mono
    (Set.singleton_subset_iff.mpr (Set.mem_insert _ _))

/-- and so does one on its ports. -/
theorem ports_confined {Answer : Type} (now : ℚ) (sourceIp : Str)
    {act : StateM (Keyspace Str (Finset Int)) Answer}
    (confined : Confined {portsKey sourceIp} act) :
    Confined (contextArea sourceIp) (portsKind.command now (portsKey sourceIp) act) :=
  (portsKind.confined_command now _ confined).mono
    (Set.singleton_subset_iff.mpr (Set.mem_insert_of_mem _ rfl))

/-- The transaction is confined to the keys of its address: each of its commands
names one of the two. -/
theorem updateAndGet_confined (now : ℚ) (sourceIp : Str) (destinationPort : Int)
    (timeWindow : ℚ) :
    Confined (contextArea sourceIp) (updateAndGet now sourceIp destinationPort timeWindow) := by
  unfold updateAndGet
  apply Confined.bind
  · exact attempts_confined now sourceIp (Command.confined_zadd ..)
  intro added
  apply Confined.bind
  · exact attempts_confined now sourceIp (Command.confined_zremrangebyscore ..)
  intro removed
  apply Confined.bind
  · exact attempts_confined now sourceIp (Command.confined_zcard ..)
  intro counted
  apply Confined.bind
  · exact ports_confined now sourceIp (Command.confined_sadd ..)
  intro joined
  apply Confined.bind
  · exact ports_confined now sourceIp (Command.confined_smembers ..)
  intro listed
  apply Confined.bind
  · exact (Command.confined_expire ..).mono (Set.singleton_subset_iff.mpr (Set.mem_insert _ _))
  intro _
  apply Confined.bind
  · exact (Command.confined_expire ..).mono
      (Set.singleton_subset_iff.mpr (Set.mem_insert_of_mem _ rfl))
  intro _
  exact Confined.pure _ _

/-- So is the classification of an event, with a Redis that fails as well as with
one that answers. -/
theorem classifyCall_confined (rules : DetectionRules) (call : Call) :
    Confined (contextArea call.sourceIp) (classifyCall rules call) := by
  have update := updateAndGet_confined call.now call.event.sourceIp call.event.destinationPort
    rules.attackTypes.bruteForce.timeWindow
  unfold classifyCall
  cases call.degraded with
  | none =>
    apply Confined.bind update
    intro context
    exact Confined.pure _ _
  | some executed =>
    cases executed with
    | true =>
      apply Confined.bind update
      intro _
      exact Confined.pure _ _
    | false => exact Confined.pure _ _

/-- The store that shows the contexts only. -/
def contexts (keys : Keyspace Str Contents) : IPContextStore :=
  { attempts := attemptsKind.view keys, ports := portsKind.view keys }

/-- The two keys of an address hold what the worker puts there, or nothing. -/
structure WellTyped (keys : Keyspace Str Contents) (sourceIp : Str) : Prop where
  attempts : attemptsKind.Holds keys (attemptsKey sourceIp)
  ports : portsKind.Holds keys (portsKey sourceIp)

/-- A command on the attempts of an address is not refused; it changes the
attempts as it says and leaves the ports alone. -/
theorem attempts_step {Answer : Type} {keys : Keyspace Str Contents} {sourceIp : Str}
    (typed : WellTyped keys sourceIp) (now : ℚ)
    {act : StateM (Keyspace Str (ZSet Attempt)) Answer}
    (confined : Confined {attemptsKey sourceIp} act) :
    let done := (attemptsKind.command now (attemptsKey sourceIp) act).run keys
    done.1 = some (act.run (contexts keys).attempts).1 ∧ WellTyped done.2 sourceIp ∧
      contexts done.2 =
        { contexts keys with attempts := (act.run (contexts keys).attempts).2 } := by
  intro done
  obtain ⟨answer, view⟩ :=
    attemptsKind.command_view now (attemptsKey sourceIp) confined (typed.attempts.fits now)
  have alien := Kind.view_command_of_apart portsKind (fun _ => rfl) typed.attempts now confined
  refine ⟨answer, ⟨typed.attempts.command now act, ?_⟩, ?_⟩
  · intro timed stored
    have frame := (attemptsKind.confined_command now (attemptsKey sourceIp) confined).frame keys
      (keys_apart sourceIp sourceIp).symm
    exact typed.ports timed (frame ▸ stored)
  · exact congrArg₂ IPContextStore.mk view alien

/-- A command on the ports likewise: the key holds a set, so it is answered, and the
rest of the keyspace is as it was. -/
theorem ports_step {Answer : Type} {keys : Keyspace Str Contents} {sourceIp : Str}
    (typed : WellTyped keys sourceIp) (now : ℚ)
    {act : StateM (Keyspace Str (Finset Int)) Answer}
    (confined : Confined {portsKey sourceIp} act) :
    let done := (portsKind.command now (portsKey sourceIp) act).run keys
    done.1 = some (act.run (contexts keys).ports).1 ∧ WellTyped done.2 sourceIp ∧
      contexts done.2 = { contexts keys with ports := (act.run (contexts keys).ports).2 } := by
  intro done
  obtain ⟨answer, view⟩ :=
    portsKind.command_view now (portsKey sourceIp) confined (typed.ports.fits now)
  have alien := Kind.view_command_of_apart attemptsKind (fun _ => rfl) typed.ports now confined
  refine ⟨answer, ⟨?_, typed.ports.command now act⟩, ?_⟩
  · intro timed stored
    have frame := (portsKind.confined_command now (portsKey sourceIp) confined).frame keys
      (keys_apart sourceIp sourceIp)
    exact typed.attempts timed (frame ▸ stored)
  · exact congrArg₂ IPContextStore.mk alien view

/-- Renewing the two keys renews the attempts and the ports, and no key changes its
type by it. -/
theorem renew_step {keys : Keyspace Str Contents} {sourceIp : Str}
    (typed : WellTyped keys sourceIp) (now ttl : ℚ) :
    contexts ((keys.expire now (attemptsKey sourceIp) ttl).expire now (portsKey sourceIp) ttl) =
      { attempts := (contexts keys).attempts.expire now (attemptsKey sourceIp) ttl
        ports := (contexts keys).ports.expire now (portsKey sourceIp) ttl } := by
  have still := typed.ports.expire now (attemptsKey sourceIp) ttl
  have attempts := Kind.view_expire_of_apart attemptsKind (fun _ => rfl) still now ttl
  have ports := Kind.view_expire_of_apart portsKind (fun _ => rfl) typed.attempts now ttl
  apply congrArg₂ IPContextStore.mk
  · rw [attempts, attemptsKind.view_expire]
    rfl
  · rw [portsKind.view_expire, ports]
    rfl

/-- Nothing is refused in such a database: the transaction answers and leaves
what the store does. -/
theorem updateAndGet_contexts {keys : Keyspace Str Contents} {sourceIp : Str}
    (typed : WellTyped keys sourceIp) (now : ℚ) (destinationPort : Int) (timeWindow : ℚ) :
    let update := (updateAndGet now sourceIp destinationPort timeWindow).run keys
    let store := (contexts keys).updateAndGet now sourceIp destinationPort timeWindow
    update.1 = some store.2 ∧ contexts update.2 = store.1 ∧ WellTyped update.2 sourceIp := by
  intro update store
  obtain ⟨added, typed₁, after₁⟩ := attempts_step typed now
    (Command.confined_zadd now (attemptsKey sourceIp) ({ now, destinationPort } : Attempt) now)
  obtain ⟨removed, typed₂, after₂⟩ := attempts_step typed₁ now
    (Command.confined_zremrangebyscore now (attemptsKey sourceIp) 0 (now - timeWindow))
  obtain ⟨counted, typed₃, after₃⟩ := attempts_step typed₂ now
    (Command.confined_zcard now (attemptsKey sourceIp))
  obtain ⟨joined, typed₄, after₄⟩ := ports_step typed₃ now
    (Command.confined_sadd now (portsKey sourceIp) destinationPort)
  obtain ⟨listed, typed₅, after₅⟩ := ports_step typed₄ now
    (Command.confined_smembers now (portsKey sourceIp))
  have renewed := renew_step typed₅ now contextTtl
  simp only [after₅, after₄, after₃, after₂, after₁] at counted listed renewed
  refine ⟨?_, renewed, ?_⟩
  · simp only [update, updateAndGet, run_bind, added, removed, counted, joined, listed]
    rfl
  · exact ⟨(typed₅.attempts.expire _ _ _).expire _ _ _, (typed₅.ports.expire _ _ _).expire _ _ _⟩

/-- The other addresses stay as they are, since what is confined to the keys of one
changes none of theirs. -/
theorem wellTyped_of_confined {Answer : Type} {one other : Str}
    {operation : StateM (Keyspace Str Contents) Answer}
    (confined : Confined (contextArea one) operation) {keys : Keyspace Str Contents}
    (typed : WellTyped keys other) (differ : other ≠ one) :
    WellTyped (operation.run keys).2 other := by
  have outside : contextArea other ⊆ (contextArea one)ᶜ :=
    contextArea_apart other one differ
  have kept := confined.frame keys
  constructor
  · intro timed stored
    exact typed.attempts timed (kept (outside (Set.mem_insert _ _)) ▸ stored)
  · intro timed stored
    exact typed.ports timed (kept (outside (Set.mem_insert_of_mem _ rfl)) ▸ stored)

/-- In a database that only the worker writes these keys of, an event is
classified in the context of the store, and leaves what the store does. -/
theorem classifyCall_contexts (rules : DetectionRules) {keys : Keyspace Str Contents}
    (typed : ∀ sourceIp, WellTyped keys sourceIp) (call : Call) :
    let done := (classifyCall rules call).run keys
    let answered := (contexts keys).answer rules.attackTypes.bruteForce.timeWindow call
    done.1 = classify rules call.event answered.2 ∧ contexts done.2 = answered.1 ∧
      ∀ sourceIp, WellTyped done.2 sourceIp := by
  intro done answered
  obtain ⟨context, after, own⟩ := updateAndGet_contexts (typed call.event.sourceIp) call.now
    call.event.destinationPort rules.attackTypes.bruteForce.timeWindow
  have others : ∀ sourceIp, WellTyped ((updateAndGet call.now call.event.sourceIp
      call.event.destinationPort rules.attackTypes.bruteForce.timeWindow).run keys).2
        sourceIp := by
    intro sourceIp
    by_cases same : sourceIp = call.event.sourceIp
    · exact same ▸ own
    · exact wellTyped_of_confined (updateAndGet_confined ..) (typed sourceIp) same
  simp only [done, answered, classifyCall, IPContextStore.answer, Int.cast_natCast]
  cases call.degraded with
  | none =>
    simp only [run_bind, context, Option.getD_some]
    exact ⟨rfl, after, others⟩
  | some executed =>
    cases executed with
    | true =>
      simp only [run_bind]
      exact ⟨rfl, after, others⟩
    | false => exact ⟨rfl, rfl, typed⟩

/-- The store after some calls is built from the earliest one on, which lets a
sequence of tasks be compared with it. -/
theorem storeAfter_eq_foldr (timeWindow : Int) (calls : List Call) :
    storeAfter timeWindow calls =
      calls.foldr (fun call store => (store.answer timeWindow call).1) .empty := by
  induction calls with
  | nil => rfl
  | cons call earlier inductionHypothesis =>
    rw [storeAfter, inductionHypothesis, List.foldr_cons]

/-- After some calls the database shows the store after the same calls, and it is still
one that only the worker writes. -/
theorem runTasks_contexts (rules : DetectionRules) (calls : List Call)
    {keys : Keyspace Str Contents} (typed : ∀ sourceIp, WellTyped keys sourceIp) :
    let final := ((runTasks (classifyCall rules) calls).run keys).2
    contexts final = calls.foldl
        (fun store call => (store.answer rules.attackTypes.bruteForce.timeWindow call).1)
        (contexts keys) ∧
      ∀ sourceIp, WellTyped final sourceIp := by
  induction calls generalizing keys with
  | nil => exact ⟨rfl, typed⟩
  | cons call rest inductionHypothesis =>
    obtain ⟨-, after, still⟩ := classifyCall_contexts rules typed call
    obtain ⟨shown, kept⟩ := inductionHypothesis still
    rw [after] at shown
    exact ⟨shown, kept⟩

/-- The classification of an event in the database that the worker has written from the
start is the one in the context of the store: what is proved of the store holds of the
transactions over the keys. -/
theorem classifyCall_online (rules : DetectionRules) (latest : Call) (earlier : List Call) :
    let keys := ((runTasks (classifyCall rules) earlier.reverse).run fun _ => none).2
    ((classifyCall rules latest).run keys).1 = classify rules latest.event
      (onlineContext rules.attackTypes.bruteForce.timeWindow latest earlier) := by
  intro keys
  have fresh (sourceIp : Str) : WellTyped (fun _ => none) sourceIp := by
    constructor
    · intro timed stored
      cases stored
    · intro timed stored
      cases stored
  obtain ⟨shown, typed⟩ := runTasks_contexts rules earlier.reverse fresh
  have stored : contexts keys = storeAfter rules.attackTypes.bruteForce.timeWindow earlier := by
    rw [shown, List.foldl_reverse, storeAfter_eq_foldr]
    rfl
  rw [(classifyCall_contexts rules typed latest).1, stored]
  rfl

/-- For every rule set, every address and any two runs of the worker over any
databases that hold the same for the address, with the same calls for the
address, at the same times and with the same outcomes, and with any other calls
in between: the events of the address are classified the same, and the databases
hold the same for the address afterwards, value and expiry. -/
theorem addresses_apart (rules : DetectionRules) (sourceIp : Str)
    (keys others : Keyspace Str Contents) (calls alike : List Call)
    (held : Set.EqOn keys others (contextArea sourceIp))
    (same : ownedBy Call.sourceIp sourceIp calls = ownedBy Call.sourceIp sourceIp alike) :
    answersTo Call.sourceIp sourceIp ((runTasks (classifyCall rules) calls).run keys).1 =
        answersTo Call.sourceIp sourceIp ((runTasks (classifyCall rules) alike).run others).1 ∧
      Set.EqOn ((runTasks (classifyCall rules) calls).run keys).2
        ((runTasks (classifyCall rules) alike).run others).2 (contextArea sourceIp) :=
  answered_alike (classifyCall_confined rules) contextArea_apart sourceIp same held

/-- A connection from an address at a time. -/
def connectionFrom (sourceIp : Str) (now : ℚ) : Call :=
  { now
    event :=
      { id := someStamp.id
        timestamp := someStamp.timestamp
        sourceIp
        sourcePort := 4000
        destinationPort := 22
        protocol := .ssh
        eventType := literal "ssh_connection"
        rawData := [] }
    degraded := none }

/-- A neighbour's connection in between makes no difference to two connections,
neither in what they are answered nor in what is stored for them. -/
theorem addresses_apart_neighbour :
    let own := literal "10.0.0.1"
    let calls := [connectionFrom own 1, connectionFrom (literal "10.0.0.2") 2, connectionFrom own 3]
    let alone := [connectionFrom own 1, connectionFrom own 3]
    answersTo Call.sourceIp own ((runTasks (classifyCall {}) calls).run fun _ => none).1 =
        answersTo Call.sourceIp own ((runTasks (classifyCall {}) alone).run fun _ => none).1 ∧
      Set.EqOn ((runTasks (classifyCall {}) calls).run fun _ => none).2
        ((runTasks (classifyCall {}) alone).run fun _ => none).2 (contextArea own) := by
  have differ : literal "10.0.0.2" ≠ literal "10.0.0.1" := by decide
  apply addresses_apart
  · exact Set.eqOn_refl _ _
  · simp [ownedBy, Call.sourceIp, connectionFrom, differ]

end Honeywatch.Detection
