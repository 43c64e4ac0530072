import Honeywatch.Detection.ShippedRules
import Honeywatch.Honeypot.Survival

/-!
# The ports that events can have

Each honeypot reports one port for all of its events, whatever port a scanner
tries, and there are two honeypots. The shipped rules ask for three ports. So an
address that has reached everything there is to reach is never a port scanner.
-/

namespace Honeywatch.Honeypot

open Text Collector Detection

/-- The ports of `HoneypotSettings`. -/
structure HoneypotSettings where
  sshPort : Int := 2222
  sshPublicPort : Option Int := none
  httpPort : Int := 8080
  httpPublicPort : Option Int := none

/-- `ssh_reported_port`. -/
def HoneypotSettings.sshReportedPort (settings : HoneypotSettings) : Int :=
  settings.sshPublicPort.getD settings.sshPort

/-- `http_reported_port`. -/
def HoneypotSettings.httpReportedPort (settings : HoneypotSettings) : Int :=
  settings.httpPublicPort.getD settings.httpPort

/-- The `HTTPHoneypot` of these settings. -/
def HoneypotSettings.httpHoneypot (settings : HoneypotSettings)
    (maxCredentialLengthRaw : Option Int) : Http.HTTPHoneypot :=
  { reportedPort := settings.httpReportedPort, maxCredentialLengthRaw }

/-- An event that one of the honeypots passes to `emit_event`. -/
inductive Reported (settings : HoneypotSettings) : AttackEvent → Prop
  | ssh (callbacks : List Ssh.Callback) (event : AttackEvent)
      (member : event ∈ Ssh.events settings.sshReportedPort callbacks) : Reported settings event
  | http (maxCredentialLengthRaw : Option Int) (stamp : Stamp) (request : Http.Request)
      (outcome : Except Raised Unit) (event : AttackEvent)
      (member : event ∈ (Http.handleRequest (settings.httpHoneypot maxCredentialLengthRaw) stamp
        request outcome).emitted) : Reported settings event

/-- The ports of the two honeypots. -/
def HoneypotSettings.reportedPorts (settings : HoneypotSettings) : Finset Int :=
  {settings.sshReportedPort, settings.httpReportedPort}

/-- Every callback of a connection reports the honeypot's port, not the one it
listens on. -/
theorem ssh_port (port : Int) (callbacks : List Ssh.Callback) :
    ∀ event ∈ Ssh.events port callbacks, event.destinationPort = port := by
  apply Ssh.eventsFrom_induction port _ callbacks (fun event => event.destinationPort = port)
    Ssh.init_textual
  intro server next _ event emitted
  cases next with
  | connectionMade peername clientVersion => cases emitted
  | beginAuth username => cases emitted
  | validatePassword username password clientVersion connectionDuration stamp =>
    obtain rfl := Option.some.inj emitted
    rfl
  | connectionLost connectionDuration stamp runningLoop =>
    simp only [Ssh.callback] at emitted
    split at emitted
    · cases emitted
    · split at emitted
      · obtain rfl := Option.some.inj emitted
        rfl
      · cases emitted

/-- No event has another port than the two public ones, of whichever honeypot it is.
-/
theorem Reported.port {settings : HoneypotSettings} {event : AttackEvent}
    (reported : Reported settings event) : event.destinationPort ∈ settings.reportedPorts := by
  cases reported with
  | ssh callbacks _ member =>
    rw [ssh_port _ callbacks event member]
    exact Finset.mem_insert_self _ _
  | http maxCredentialLengthRaw stamp request outcome _ member =>
    obtain ⟨eventType, data, rfl, _⟩ := handleRequest_emitted _ stamp request outcome event
      member
    exact Finset.mem_insert_of_mem (Finset.mem_singleton_self _)

/-- Of all that the honeypots report, an address has produced events at every
port that any of them reports within the window of the rule, and the next one is
left to the port scan by the types before it. -/
structure ScansEveryPort (settings : HoneypotSettings) (timeline : Timeline) : Prop where
  reported : ∀ visit ∈ timeline.latest :: timeline.earlier, Reported settings visit.event
  everyPort : ∀ event, Reported settings event → ∃ visit ∈ timeline.earlier,
    visit.event.sourceIp = timeline.latest.event.sourceIp ∧
      visit.event.destinationPort = event.destinationPort ∧
      timeline.latest.now - shippedRules.attackTypes.portScan.timeWindow ≤ visit.now
  plain : hasPriority shippedRules timeline.latest.event = false
  few : isBruteForce shippedRules timeline.latest.event (timeline.context shippedRules) = false

/-- The context of an address never has more than the two ports, however long it
goes on. -/
theorem context_ports (settings : HoneypotSettings) (rules : DetectionRules) (timeline : Timeline)
    (reported : ∀ visit ∈ timeline.latest :: timeline.earlier, Reported settings visit.event) :
    (timeline.context rules).distinctPorts.card ≤ 2 := by
  have contained : (timeline.context rules).distinctPorts ⊆ settings.reportedPorts := by
    intro port member
    obtain ⟨visit, joined, rfl⟩ := List.mem_map.mp (List.mem_toFinset.mp member)
    have known := List.mem_of_mem_filter (unbroken_subset _ joined)
    exact (reported visit known).port
  exact (Finset.card_le_card contained).trans Finset.card_le_two

/-- A connection that is closed at once. -/
def sshProbe (settings : HoneypotSettings) : AttackEvent :=
  let server := Ssh.SSHHoneypotServer.init.connectionMade (some ("10.0.0.1".toList, 4000)) none
  server.attackEvent settings.sshReportedPort someStamp "ssh_connection"
    (server.connectionData .zero)

/-- A request for the start page. -/
def startPage : Http.Request :=
  { method := literal "GET", path := literal "/", remote := some (literal "10.0.0.1") }

def httpProbe (settings : HoneypotSettings) : AttackEvent :=
  (settings.httpHoneypot none).attackEvent someStamp startPage "http_request"
    (Http.requestEventData startPage)

/-- The SSH honeypot reports its own port: a connection that is made and lost, -/
theorem sshProbe_reported (settings : HoneypotSettings) :
    Reported settings (sshProbe settings) := by
  apply Reported.ssh [.connectionMade (some ("10.0.0.1".toList, 4000)) none,
    .connectionLost .zero someStamp true]
  exact List.mem_singleton_self _

/-- and the HTTP honeypot reports its own: a request for the start page. -/
theorem httpProbe_reported (settings : HoneypotSettings) :
    Reported settings (httpProbe settings) := by
  apply Reported.http none someStamp startPage (.ok ())
  have elsewhere : Http.normalizedPath startPage.path ≠ Http.loginPath := by decide
  simp only [Http.handleRequest, elsewhere, if_false, Http.emitThenRespond]
  exact List.mem_singleton_self _

/-- Both honeypots in two seconds, and one of them again. -/
def scanOf (settings : HoneypotSettings) : Timeline where
  latest := ⟨2, httpProbe settings⟩
  earlier := [⟨1, sshProbe settings⟩, ⟨0, httpProbe settings⟩]
  started := by simp
  ordered := by simp

/-- A client that probes both honeypots in turn has scanned every port there is, and
still has seen two. -/
theorem scanOf_scans (settings : HoneypotSettings) :
    ScansEveryPort settings (scanOf settings) where
  reported := by
    intro visit member
    rcases List.mem_cons.mp member with rfl | earlier
    · exact httpProbe_reported settings
    · rcases List.mem_cons.mp earlier with rfl | first
      · exact sshProbe_reported settings
      · obtain rfl := List.mem_singleton.mp first
        exact httpProbe_reported settings
  everyPort := by
    intro event reported
    rcases Finset.mem_insert.mp reported.port with port | port
    · exact ⟨⟨1, sshProbe settings⟩, by simp [scanOf], rfl, port.symm,
        by simp [scanOf, shippedRules]; norm_num⟩
    · exact ⟨⟨0, httpProbe settings⟩, by simp [scanOf], rfl,
        (Finset.mem_singleton.mp port).symm, by simp [scanOf, shippedRules]; norm_num⟩
  plain := by rfl
  few := by rfl

/-- Whatever the settings are, an address can reach every port that the
honeypots report within the window, and the next event is a port scan for no
such address. -/
theorem port_scan_never_detected (settings : HoneypotSettings) :
    (∃ timeline, ScansEveryPort settings timeline) ∧
      ∀ timeline, ScansEveryPort settings timeline →
        timeline.attackType shippedRules ≠ .portScan := by
  constructor
  · exact ⟨scanOf settings, scanOf_scans settings⟩
  · intro timeline scans detected
    rw [timeline.attackType_eq, portScan_iff] at detected
    obtain ⟨_, _, enough⟩ := detected
    have three : 3 ≤ (timeline.context shippedRules).distinctPorts.card := of_decide_eq_true enough
    have two := context_ports settings shippedRules timeline scans.reported
    omega

/-- Under the default settings both ports within two seconds are a suspicious request. -/
theorem both_ports_are_suspicious :
    ScansEveryPort {} (scanOf {}) ∧
      (scanOf {}).attackType shippedRules = .suspiciousRequest := by
  constructor
  · exact scanOf_scans {}
  · decide +kernel

end Honeywatch.Honeypot
