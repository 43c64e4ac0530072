import Honeywatch.Detection.IpContext
import Mathlib.Tactic.NormNum

/-!
# What the context-dependent attack types say about an address

`brute_force` should mean authentication attempts over the rule's protocol
within the rule's window, and `port_scan` different ports within its own window.
The attempts of the context count every event of the address in its session,
which starts at the last silence of more than an hour, whatever protocol and type
they have; its ports go back to the start of the session. So both types
are assigned without the behaviour they name, exactly when the context alone
reaches the rule's number.
-/

namespace Honeywatch.Detection

open Text Collector

/-- An authentication attempt over a protocol: the honeypots report a login by
these two event types. -/
def isAuthAttempt (protocol : Str) (event : AttackEvent) : Bool :=
  decide (event.protocol.value = protocol) &&
    (decide (event.eventType = literal "ssh_login_attempt") ||
      decide (event.eventType = literal "http_login_attempt"))

/-- All events of the latest event's address in the last so many seconds, that
event included. -/
def Timeline.recent (timeline : Timeline) (timeWindow : ℚ) : List Visit :=
  (comingFrom timeline.latest.event.sourceIp (timeline.latest :: timeline.earlier)).filter
    fun visit => decide (timeline.latest.now - timeWindow ≤ visit.now)

/-- The authentication attempts of the address within the rule's window. -/
def Timeline.authAttempts (rules : DetectionRules) (timeline : Timeline) : Nat :=
  (timeline.recent rules.attackTypes.bruteForce.timeWindow).countP
    fun visit => isAuthAttempt rules.attackTypes.bruteForce.protocol visit.event

/-- The different ports of the address within the rule's window. -/
def Timeline.recentPorts (rules : DetectionRules) (timeline : Timeline) : Finset Int :=
  portsOf (timeline.recent rules.attackTypes.portScan.timeWindow)

/-- For every rule set and every timeline, `brute_force` is sound for the latest
event exactly when a type of higher priority matches, the event is over another
protocol than the rule's, all that the address did within the window and since
its last silence of more than an hour, of any protocol and type, stays below the
rule's number, or the authentication attempts within the window alone reach it.

The hour is the time to live of the keys: an event from before a longer silence
is no longer counted by the store, even where the window of the rule is longer. -/
theorem brute_force_sound_iff (rules : DetectionRules) (timeline : Timeline) :
    (timeline.attackType rules = .bruteForce →
      rules.attackTypes.bruteForce.minAttempts ≤ timeline.authAttempts rules) ↔
    hasPriority rules timeline.latest.event = true ∨
      timeline.latest.event.protocol.value ≠ rules.attackTypes.bruteForce.protocol ∨
      (asAttempts (within timeline.latest.now rules.attackTypes.bruteForce.timeWindow
        timeline.session)).card < rules.attackTypes.bruteForce.minAttempts ∨
      rules.attackTypes.bruteForce.minAttempts ≤ timeline.authAttempts rules := by
  rw [timeline.attackType_eq, bruteForce_iff]
  cases hasPriority rules timeline.latest.event with
  | true => simp
  | false =>
    by_cases protocol :
        timeline.latest.event.protocol.value = rules.attackTypes.bruteForce.protocol
    · simp only [isBruteForce, protocol, ne_eq, not_true_eq_false, if_false, decide_eq_true_eq,
        true_and, Bool.false_eq_true, false_or]
      rw [imp_iff_not_or, not_le]
      rfl
    · simp [isBruteForce, protocol]

/-- For every rule set and every timeline, `port_scan` is sound for the latest
event exactly when a type of higher priority or `brute_force` matches, all ports
of the session stay below the rule's number, or the ports of the rule's own
window reach it. -/
theorem port_scan_sound_iff (rules : DetectionRules) (timeline : Timeline) :
    (timeline.attackType rules = .portScan →
      rules.attackTypes.portScan.minDistinctPorts ≤ (timeline.recentPorts rules).card) ↔
    hasPriority rules timeline.latest.event = true ∨
      isBruteForce rules timeline.latest.event (timeline.context rules) = true ∨
      (portsOf timeline.session).card < rules.attackTypes.portScan.minDistinctPorts ∨
      rules.attackTypes.portScan.minDistinctPorts ≤ (timeline.recentPorts rules).card := by
  rw [timeline.attackType_eq, portScan_iff]
  cases hasPriority rules timeline.latest.event with
  | true => simp
  | false =>
    cases isBruteForce rules timeline.latest.event (timeline.context rules) with
    | true => simp
    | false =>
      simp only [isPortScan, decide_eq_true_eq, true_and, Bool.false_eq_true, false_or]
      rw [imp_iff_not_or, not_le]
      rfl

/-- An event of an address that only opens connections. -/
def connection (destinationPort : Int) : AttackEvent :=
  { id := ⟨0, by decide⟩
    timestamp := { year := 2025, month := 1, day := 1, hour := 0, minute := 0, second := 0,
                   microsecond := 0, valid := by decide }
    sourceIp := literal "10.0.0.1"
    sourcePort := 4000
    destinationPort := destinationPort
    protocol := .ssh
    eventType := literal "ssh_connection"
    rawData := [] }

/-- Five connections without a login, one each second, to one port. -/
def fiveConnections : Timeline :=
  { latest := ⟨5, connection 22⟩
    earlier := [⟨4, connection 22⟩, ⟨3, connection 22⟩, ⟨2, connection 22⟩, ⟨1, connection 22⟩]
    started := by norm_num
    ordered := by simp; norm_num }

/-- Three connections to three ports, half an hour apart. -/
def slowConnections : Timeline :=
  { latest := ⟨3600, connection 23⟩
    earlier := [⟨1800, connection 80⟩, ⟨0, connection 22⟩]
    started := by simp
    ordered := by norm_num }

/-- Five connections without a single login are a `brute_force`. -/
theorem connections_are_brute_force :
    fiveConnections.attackType {} = .bruteForce ∧ fiveConnections.authAttempts {} = 0 := by
  decide +kernel

/-- One port in the last five minutes, or the last half hour, is a `port_scan`. -/
theorem slow_connections_are_port_scan :
    slowConnections.attackType {} = .portScan ∧ (slowConnections.recentPorts {}).card = 1 := by
  decide +kernel

end Honeywatch.Detection
