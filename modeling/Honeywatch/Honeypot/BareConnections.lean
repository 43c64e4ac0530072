import Honeywatch.Detection.ShippedRules
import Honeywatch.Honeypot.Connection

/-!
# Connections without a password attempt

Such a connection leaves one kind of event, whose data are built by hand. They
have the user name under a key of its own, which no predicate of the classifier
reads. So the type and the severity come from the context alone, whatever the
client called itself and however long it stayed.
-/

namespace Honeywatch.Honeypot.Ssh

open Text Json Collector Detection

/-- The type that the context leaves for an SSH event without credentials. -/
def bareType (rules : DetectionRules) (context : IPContext) : AttackType :=
  if rules.attackTypes.bruteForce.protocol = literal "ssh" ∧
      rules.attackTypes.bruteForce.minAttempts ≤ context.recentAttempts then .bruteForce
  else if isPortScan rules context then .portScan
  else .suspiciousRequest

/-- What no predicate over the data can match: an event over SSH without the keys
of an attempt. -/
structure Bare (event : AttackEvent) : Prop where
  protocol : event.protocol = .ssh
  eventType : event.eventType = literal "ssh_connection"
  username : event.getStr "username" = none
  password : event.getStr "password" = none

/-- The predicates of higher priority read nothing of a bare event, so they are
false of it under all rules. -/
theorem Bare.plain {event : AttackEvent} (bare : Bare event) (rules : DetectionRules) :
    hasPriority rules event = false := by
  have injection : isCommandInjection rules event = false := by
    simp [isCommandInjection, bare.protocol]
  have credential : isCredentialAttack rules event = false := by
    simp [isCredentialAttack, bare.protocol, bare.username, bare.password]
  rw [hasPriority, injection, credential, Bool.or_false]

/-- The others read the context only, since a bare event has no user, no password,
no path and no body. -/
theorem Bare.determined {event : AttackEvent} (bare : Bare event) (rules : DetectionRules)
    (context : IPContext) : determineAttackType rules event context = bareType rules context := by
  rw [determine_without_priority rules event context (bare.plain rules)]
  have attempts : isBruteForce rules event context =
      decide (rules.attackTypes.bruteForce.protocol = literal "ssh" ∧
        rules.attackTypes.bruteForce.minAttempts ≤ context.recentAttempts) := by
    have value : Protocol.ssh.value = literal "ssh" := rfl
    unfold isBruteForce
    rw [bare.protocol, value, Bool.decide_and]
    by_cases same : literal "ssh" = rules.attackTypes.bruteForce.protocol
    · simp [← same]
    · simp [same, Ne.symm same]
  have scan : isHttpScan rules event = false := by simp [isHttpScan, bare.protocol]
  rw [attempts, scan]
  simp [bareType]

/-- Without an attempt a callback emits a bare event or nothing; the loss of the
connection is the only one that emits at all. -/
theorem callback_bare (port : Int) (server : SSHHoneypotServer) (next : Callback)
    (unattempted : next.isAttempt = false) :
    ∀ event ∈ (callback port server next).2, Bare event := by
  intro event emitted
  cases next with
  | connectionMade peername clientVersion => cases emitted
  | beginAuth username => cases emitted
  | validatePassword username password clientVersion connectionDuration stamp =>
    simp [Callback.isAttempt] at unattempted
  | connectionLost connectionDuration stamp runningLoop =>
    simp only [callback] at emitted
    split at emitted
    · cases emitted
    · split at emitted
      · obtain rfl := Option.some.inj emitted
        exact ⟨rfl, rfl, rfl, rfl⟩
      · cases emitted

/-- Without a password callback a connection emits nothing but its own event. By
induction over the callbacks. -/
theorem eventsFrom_bare (port : Int) (server : SSHHoneypotServer) (callbacks : List Callback)
    (unattempted : ∀ call ∈ callbacks, call.isAttempt = false) :
    ∀ event ∈ eventsFrom port server callbacks, Bare event := by
  induction callbacks generalizing server with
  | nil => simp [eventsFrom]
  | cons next rest inductionHypothesis =>
    rw [List.forall_mem_cons] at unattempted
    rw [eventsFrom, List.forall_mem_append]
    refine ⟨?_, inductionHypothesis _ unattempted.2⟩
    intro event member
    exact callback_bare port server next unattempted.1 event (Option.mem_toList.mp member)

/-- For every rule set, every context and every sequence of callbacks without a
password attempt: each event of it is an `ssh_connection` that is classified
neither as a credential attack nor as a command injection, and the events of any
other such sequence, on any port, get the same type and severity. -/
theorem bare_connections_alike (rules : DetectionRules) (context : IPContext) (port : Int)
    (callbacks : List Callback) (unattempted : ∀ call ∈ callbacks, call.isAttempt = false) :
    ∀ event ∈ events port callbacks,
      event.eventType = literal "ssh_connection" ∧
      (classify rules event context).attackType ≠ .credentialAttack ∧
      (classify rules event context).attackType ≠ .commandInjection ∧
      ∀ (otherPort : Int) (others : List Callback),
        (∀ call ∈ others, call.isAttempt = false) →
        ∀ other ∈ events otherPort others,
          classify rules other context = classify rules event context := by
  intro event emitted
  have bare := eventsFrom_bare port .init callbacks unattempted event emitted
  have type : (classify rules event context).attackType = bareType rules context :=
    bare.determined rules context
  have low : bareType rules context ≠ .credentialAttack ∧
      bareType rules context ≠ .commandInjection := by
    unfold bareType
    repeat' split
    all_goals simp
  refine ⟨bare.eventType, type ▸ low.1, type ▸ low.2, ?_⟩
  intro otherPort others silent other otherEmitted
  have alike := eventsFrom_bare otherPort .init others silent other otherEmitted
  simp only [classify, bare.determined, alike.determined]

/-- A client that names a listed user and leaves without a password. -/
def rootProbe : List Callback :=
  [.connectionMade (some ("10.0.0.1".toList, 4711)) none, .beginAuth "root".toList,
    .connectionLost .zero someStamp true]

/-- The shipped rules list the user name, and it is no credential attack: without an
attempt the name is not in the event. -/
theorem bare_connections_alike_root :
    ∃ event ∈ events 22 rootProbe,
      (classify shippedRules event
        { recentAttempts := 1, distinctPorts := {22} }).attackType ≠ .credentialAttack :=
  ⟨_, List.mem_singleton_self _,
    (bare_connections_alike shippedRules _ 22 rootProbe (by decide) _
      (List.mem_singleton_self _)).2.1⟩

end Honeywatch.Honeypot.Ssh
