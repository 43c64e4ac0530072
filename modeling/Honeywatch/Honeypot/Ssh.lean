import Honeywatch.Collector.Events

/-!
# The SSH honeypot

The callbacks of `SSHHoneypotServer`, one instance for each connection. Every
callback changes the instance before its first await, so a connection is the
sequence of its callbacks. The library hands over text only. The time since the
connection began is an input of the callbacks that read the clock.
-/

namespace Honeywatch.Honeypot.Ssh

open Text Json Collector

/-- An `SSHHoneypotServer`; `connected` tells whether `_conn` is set. -/
structure SSHHoneypotServer where
  attempts : Nat
  peerAddr : Option (Str × Int)
  clientVersion : Str
  connected : Bool
  username : Str

/-- `__init__`. -/
def SSHHoneypotServer.init : SSHHoneypotServer :=
  { attempts := 0, peerAddr := none, clientVersion := [], connected := false, username := [] }

/-- The callbacks, with what the connection object knows when they run.
`runningLoop` tells whether `connection_lost` finds an event loop. -/
inductive Callback
  | connectionMade (peername : Option (List Char × Int)) (clientVersion : Option (List Char))
  | beginAuth (username : List Char)
  | validatePassword (username password : List Char) (clientVersion : Option (List Char))
      (connectionDuration : Decimal) (stamp : Stamp)
  | connectionLost (connectionDuration : Decimal) (stamp : Stamp) (runningLoop : Bool)

/-- `conn.get_extra_info(name, default)`. -/
def extraInfo (value : Option (List Char)) (default : Str) : Str :=
  match value with
  | some chars => ofChars chars
  | none => default

/-- `self._peer_addr[0] if self._peer_addr else "0.0.0.0"`. -/
def SSHHoneypotServer.sourceIp (server : SSHHoneypotServer) : Str :=
  match server.peerAddr with
  | some address => address.1
  | none => literal "0.0.0.0"

/-- `self._peer_addr[1] if self._peer_addr else 0`. -/
def SSHHoneypotServer.sourcePort (server : SSHHoneypotServer) : Int :=
  match server.peerAddr with
  | some address => address.2
  | none => 0

/-- The `AttackEvent` that a callback builds around its data. -/
def SSHHoneypotServer.attackEvent (server : SSHHoneypotServer) (port : Int) (stamp : Stamp)
    (eventType : String) (rawData : Dict) : AttackEvent :=
  { id := stamp.id
    timestamp := stamp.timestamp
    sourceIp := server.sourceIp
    sourcePort := server.sourcePort
    destinationPort := port
    protocol := .ssh
    eventType := literal eventType
    rawData }

/-- `connection_made`. -/
def SSHHoneypotServer.connectionMade (server : SSHHoneypotServer)
    (peername : Option (List Char × Int)) (clientVersion : Option (List Char)) :
    SSHHoneypotServer :=
  { server with
    connected := true
    peerAddr :=
      match peername with
      | some address => some (ofChars address.1, address.2)
      | none => server.peerAddr
    clientVersion := extraInfo clientVersion [] }

/-- `begin_auth`. -/
def SSHHoneypotServer.beginAuth (server : SSHHoneypotServer) (username : List Char) :
    SSHHoneypotServer :=
  { server with username := ofChars username }

/-- `validate_password` up to its emit. -/
def SSHHoneypotServer.attempted (server : SSHHoneypotServer) (clientVersion : Option (List Char)) :
    SSHHoneypotServer :=
  { server with
    attempts := server.attempts + 1
    clientVersion :=
      if server.connected then extraInfo clientVersion server.clientVersion
      else server.clientVersion }

/-- `raw_data` of an attempt. -/
def SSHHoneypotServer.attemptData (server : SSHHoneypotServer) (username password : List Char)
    (connectionDuration : Decimal) : SSHEventData :=
  { username := ofChars username
    password := ofChars password
    clientVersion := server.clientVersion
    connectionDuration
    authSuccess := false }

/-- `raw_data` of a connection without an attempt. -/
def SSHHoneypotServer.connectionData (server : SSHHoneypotServer) (connectionDuration : Decimal) :
    Dict :=
  [(literal "client_version", .str server.clientVersion),
    (literal "connection_duration", .float connectionDuration),
    (literal "auth_attempts", .int 0),
    (literal "connection_username", .str server.username)]

/-- A callback: the instance after it and the event it passes to `emit_event`. -/
def callback (port : Int) (server : SSHHoneypotServer) :
    Callback → SSHHoneypotServer × Option AttackEvent
  | .connectionMade peername clientVersion => (server.connectionMade peername clientVersion, none)
  | .beginAuth username => (server.beginAuth username, none)
  | .validatePassword username password clientVersion connectionDuration stamp =>
    let attempted := server.attempted clientVersion
    (attempted, some
      (attempted.attackEvent port stamp "ssh_login_attempt"
        (attempted.attemptData username password connectionDuration).modelDump))
  | .connectionLost connectionDuration stamp runningLoop =>
    (server,
      if server.attempts ≠ 0 then none
      else if runningLoop then
        some (server.attackEvent port stamp "ssh_connection"
          (server.connectionData connectionDuration))
      else none)

/-- The events of a connection from the given instance on. -/
def eventsFrom (port : Int) (server : SSHHoneypotServer) : List Callback → List AttackEvent
  | [] => []
  | next :: rest =>
    (callback port server next).2.toList ++ eventsFrom port (callback port server next).1 rest

/-- The events of a connection. -/
def events (port : Int) (callbacks : List Callback) : List AttackEvent :=
  eventsFrom port .init callbacks

/-- Everything the instance holds is text. -/
structure SSHHoneypotServer.Textual (server : SSHHoneypotServer) : Prop where
  peerAddr : ∀ address ∈ server.peerAddr, WellFormed address.1
  clientVersion : WellFormed server.clientVersion
  username : WellFormed server.username

/-- A new instance holds no text that came from outside. -/
theorem init_textual : SSHHoneypotServer.init.Textual where
  peerAddr := by simp [SSHHoneypotServer.init]
  clientVersion := wellFormed_nil
  username := wellFormed_nil

/-- What `get_extra_info` returns is text, or the default. -/
theorem extraInfo_wellFormed (value : Option (List Char)) (default : Str)
    (textual : WellFormed default) : WellFormed (extraInfo value default) := by
  cases value with
  | none => exact textual
  | some chars => exact ofChars_wellFormed chars

/-- Every callback leaves text: what the client sends is decoded before the
callback, and the instance keeps nothing else. -/
theorem callback_textual (port : Int) (server : SSHHoneypotServer) (next : Callback)
    (textual : server.Textual) : (callback port server next).1.Textual := by
  cases next with
  | connectionMade peername clientVersion =>
    refine ⟨?_, extraInfo_wellFormed clientVersion [] wellFormed_nil, textual.username⟩
    cases peername with
    | none => exact textual.peerAddr
    | some address =>
      rintro _ ⟨rfl⟩
      exact ofChars_wellFormed address.1
  | beginAuth username =>
    exact ⟨textual.peerAddr, textual.clientVersion, ofChars_wellFormed username⟩
  | validatePassword username password clientVersion connectionDuration stamp =>
    refine ⟨textual.peerAddr, ?_, textual.username⟩
    show WellFormed (if server.connected then extraInfo clientVersion server.clientVersion
      else server.clientVersion)
    split
    · exact extraInfo_wellFormed clientVersion _ textual.clientVersion
    · exact textual.clientVersion
  | connectionLost connectionDuration stamp runningLoop => exact textual

/-- So is the address of the client. -/
theorem sourceIp_wellFormed (server : SSHHoneypotServer) (textual : server.Textual) :
    WellFormed server.sourceIp := by
  unfold SSHHoneypotServer.sourceIp
  cases known : server.peerAddr with
  | none => exact ofChars_wellFormed _
  | some address => exact textual.peerAddr address known

/-- An instance is seen at every event of a connection, and it holds text; the rule
by which a property of one callback becomes one of a connection. -/
theorem eventsFrom_induction (port : Int) (server : SSHHoneypotServer) (callbacks : List Callback)
    (property : AttackEvent → Prop) (textual : server.Textual)
    (each : ∀ (server : SSHHoneypotServer) (next : Callback), server.Textual →
      ∀ event ∈ (callback port server next).2, property event) :
    ∀ event ∈ eventsFrom port server callbacks, property event := by
  induction callbacks generalizing server with
  | nil => simp [eventsFrom]
  | cons next rest inductionHypothesis =>
    intro event member
    rcases List.mem_append.mp member with now | later
    · exact each server next textual event (Option.mem_toList.mp now)
    · exact inductionHypothesis _ (callback_textual port server next textual) event later

end Honeywatch.Honeypot.Ssh
