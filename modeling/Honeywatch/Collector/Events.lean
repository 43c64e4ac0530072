import Honeywatch.Foundation.Json
import Mathlib.Algebra.Group.Nat.Defs

/-!
# Attack events

`AttackEvent` with the data it carries. A honeypot fills `raw_data` from
`SSHEventData` or `HTTPEventData`, or builds it directly. Strings are strings of
code points, which need not be text.
-/

namespace Honeywatch.Collector

open Text Json

/-- `uuid.UUID`. -/
abbrev Uuid := Fin (2 ^ 128)

/-- The number of days of a month in the Gregorian calendar. -/
def daysInMonth (year month : Nat) : Nat :=
  if month = 2 then
    if year % 4 = 0 ∧ (year % 100 ≠ 0 ∨ year % 400 = 0) then 29 else 28
  else if month = 4 ∨ month = 6 ∨ month = 9 ∨ month = 11 then 30
  else 31

/-- A `datetime` in UTC. -/
structure DateTime where
  year : Nat
  month : Nat
  day : Nat
  hour : Nat
  minute : Nat
  second : Nat
  microsecond : Nat
  valid : (1 ≤ year ∧ year ≤ 9999) ∧ (1 ≤ month ∧ month ≤ 12) ∧
    (1 ≤ day ∧ day ≤ daysInMonth year month) ∧ hour < 24 ∧ minute < 60 ∧ second < 60 ∧
    microsecond < 1000000
deriving DecidableEq

/-- `Literal["ssh", "http"]`. -/
inductive Protocol
  | ssh
  | http
deriving DecidableEq, Repr

def Protocol.value : Protocol → Str
  | .ssh => literal "ssh"
  | .http => literal "http"

/-- A `dict[str, object]`, in insertion order. -/
abbrev Dict := List (Str × Value Str)

/-- `AttackEvent`. -/
structure AttackEvent where
  id : Uuid
  timestamp : DateTime
  sourceIp : Str
  sourcePort : Int
  destinationPort : Int
  protocol : Protocol
  eventType : Str
  rawData : Dict

/-- What the default factories of `AttackEvent` yield for the next event. -/
structure Stamp where
  id : Uuid
  timestamp : DateTime

/-- There are identifiers. -/
theorem uuid_pos : 0 < 2 ^ 128 := by decide

/-- A stamp for examples. -/
def someStamp : Stamp where
  id := ⟨0, uuid_pos⟩
  timestamp :=
    { year := 2025, month := 2, day := 1, hour := 0, minute := 0, second := 0
      microsecond := 0, valid := by decide }

/-- `raw_data.get(key)` where it is a string. -/
def AttackEvent.getStr (event : AttackEvent) (key : String) : Option Str :=
  match Json.get event.rawData (literal key) with
  | some (.str value) => some value
  | _ => none

/-- `SSHEventData`. -/
structure SSHEventData where
  username : Str
  password : Str
  clientVersion : Str := []
  connectionDuration : Decimal := .zero
  authSuccess : Bool := false

/-- `SSHEventData.model_dump`. -/
def SSHEventData.modelDump (data : SSHEventData) : Dict :=
  [(literal "username", .str data.username),
    (literal "password", .str data.password),
    (literal "client_version", .str data.clientVersion),
    (literal "connection_duration", .float data.connectionDuration),
    (literal "auth_success", .bool data.authSuccess)]

/-- `HTTPEventData`; `headers` is a `dict[str, str]`. -/
structure HTTPEventData where
  method : Str
  path : Str
  headers : List (Str × Str) := []
  userAgent : Str := []
  bodyPreview : Option Str := none
  statusCode : Int := 200
  email : Option Str := none
  password : Option Str := none

/-- A `str | None`. -/
def optionalStr : Option Str → Value Str
  | none => .null
  | some text => .str text

/-- An optional text is read as it was stored; a stored null is read as nothing. -/
theorem AttackEvent.getStr_optionalStr {event : AttackEvent} {key : String} {text : Option Str}
    (stored : Json.get event.rawData (literal key) = some (optionalStr text)) :
    event.getStr key = text := by
  rw [AttackEvent.getStr, stored]
  cases text with
  | none => rfl
  | some value => rfl

/-- `HTTPEventData.model_dump`. -/
def HTTPEventData.modelDump (data : HTTPEventData) : Dict :=
  [(literal "method", .str data.method),
    (literal "path", .str data.path),
    (literal "headers", .obj (data.headers.map fun header => (header.1, .str header.2))),
    (literal "user_agent", .str data.userAgent),
    (literal "body_preview", optionalStr data.bodyPreview),
    (literal "status_code", .int data.statusCode),
    (literal "email", optionalStr data.email),
    (literal "password", optionalStr data.password)]

end Honeywatch.Collector
