import Honeywatch.Collector.Encoding
import Honeywatch.Honeypot.EmitTotal
import Honeywatch.Honeypot.Http
import Honeywatch.Honeypot.Ssh

/-!
# Which events survive the queue

The framework hands header bytes over as UTF-8 with surrogate escapes, and a
header that is no UTF-8 puts lone surrogates into the event. An event of the
HTTP honeypot survives the queue exactly when everything it records of the
request is text: its method, path and address, the headers it keeps, and the
user agent. Bodies are decoded with replacement and do no harm. An event of the
SSH honeypot always survives.
-/

namespace Honeywatch.Honeypot

open Text Json Utf8 FormEncoding Collector Http

/-- Headers as the framework hands them over. -/
def handedOver (rawHeaders : List (List Byte × List Byte)) : List (Str × Str) :=
  rawHeaders.map fun header =>
    (decodeSurrogateEscape header.1, decodeSurrogateEscape header.2)

/-- A header whose value is not overwritten by a later one of the same name. -/
def Kept (rawHeaders : List (List Byte × List Byte)) (header : List Byte × List Byte) : Prop :=
  ∃ before after, rawHeaders = before ++ header :: after ∧
    ∀ later ∈ after, decodeSurrogateEscape later.1 ≠ decodeSurrogateEscape header.1

/-- The header names the user agent. -/
def namesUserAgent (header : List Byte × List Byte) : Bool :=
  decide (lower (decodeSurrogateEscape header.1) = literal "user-agent")

/-- What the handlers record of a request is text. -/
structure RecordsText (request : Request) (rawHeaders : List (List Byte × List Byte)) : Prop where
  method : WellFormed request.method
  path : WellFormed request.path
  remote : ∀ address ∈ request.remote, WellFormed address
  headers : ∀ header, Kept rawHeaders header →
    (decodeStrict header.1).isSome ∧ (decodeStrict header.2).isSome
  userAgent : ∀ header ∈ rawHeaders.find? namesUserAgent, (decodeStrict header.2).isSome

/-- The data of a handler: the request as it is, and the body as text. -/
structure TakenFrom (request : Request) (data : HTTPEventData) : Prop where
  method : data.method = request.method
  path : data.path = request.path
  headers : data.headers = headerDict request.headers
  userAgent : data.userAgent = userAgent request.headers
  bodyPreview : ∀ text ∈ data.bodyPreview, WellFormed text
  email : ∀ text ∈ data.email, WellFormed text
  password : ∀ text ∈ data.password, WellFormed text

/-- The preview is decoded with replacement, so it has no lone surrogates, and no
body makes its event unfit for the queue. -/
theorem bodyPreview_wellFormed (body : List Byte) :
    ∀ text ∈ bodyPreviewFromBytes body, WellFormed text := by
  unfold bodyPreviewFromBytes
  split
  · simp
  · rintro _ ⟨rfl⟩
    exact ofChars_wellFormed _

/-- A decoded value has none either, whether or not it is kept. -/
theorem nonEmpty_wellFormed (chars : List Char) : ∀ text ∈ nonEmpty chars, WellFormed text := by
  unfold nonEmpty
  split
  · simp
  · rintro _ ⟨rfl⟩
    exact ofChars_wellFormed _

/-- Whatever a handler emits, its data are taken from the request, through all
branches of the handlers. -/
theorem handleRequest_emitted (honeypot : HTTPHoneypot) (stamp : Stamp) (request : Request)
    (outcome : Except Raised Unit) (event : AttackEvent)
    (member : event ∈ (handleRequest honeypot stamp request outcome).emitted) :
    ∃ eventType data, event = honeypot.attackEvent stamp request eventType data ∧
      TakenFrom request data := by
  have only : ∀ eventType data response,
      event ∈ (emitThenRespond (honeypot.attackEvent stamp request eventType data) outcome
        response).emitted → TakenFrom request data →
      ∃ eventType data, event = honeypot.attackEvent stamp request eventType data ∧
        TakenFrom request data :=
    fun eventType data response emitted taken =>
      ⟨eventType, data, List.mem_singleton.mp emitted, taken⟩
  unfold handleRequest at member
  split at member
  · unfold handleLogin at member
    split at member
    · simp at member
    · split at member
      · exact only _ _ _ member ⟨rfl, rfl, rfl, rfl, by simp [formEventData],
          by simp [formEventData], by simp [formEventData]⟩
      · split at member
        · simp at member
        · exact only _ _ _ member ⟨rfl, rfl, rfl, rfl, bodyPreview_wellFormed _,
            nonEmpty_wellFormed _, nonEmpty_wellFormed _⟩
  · refine only _ _ _ member ⟨rfl, rfl, rfl, rfl, ?_, by simp [requestEventData],
      by simp [requestEventData]⟩
    intro text taken
    obtain ⟨body, _, preview⟩ := Option.bind_eq_some_iff.mp taken
    exact bodyPreview_wellFormed body text preview

/-- The strings of a dictionary of strings are its keys and values, and all of them
have to be text. -/
theorem fieldTexts_headers (headers : List (Str × Str)) :
    (∀ text ∈ Value.fieldTexts (headers.map fun header => (header.1, Value.str header.2)),
      WellFormed text) ↔ ∀ header ∈ headers, WellFormed header.1 ∧ WellFormed header.2 := by
  induction headers with
  | nil => simp [Value.fieldTexts]
  | cons header rest inductionHypothesis =>
    simp only [List.map_cons, Value.fieldTexts, Value.texts, List.cons_append, List.nil_append,
      List.forall_mem_cons, inductionHypothesis, and_assoc]

/-- The headers of a request are an object of plain strings. -/
theorem keyedFields_headers (headers : List (Str × Str)) :
    Value.KeyedFields (headers.map fun header => (header.1, Value.str header.2)) := by
  induction headers with
  | nil => trivial
  | cons header rest inductionHypothesis => exact ⟨trivial, inductionHypothesis⟩

/-- An optional text adds no other texts to the object. -/
theorem optionalStr_texts (text : Option Str) (textual : ∀ value ∈ text, WellFormed value) :
    ∀ value ∈ (optionalStr text).texts, WellFormed value := by
  cases text with
  | none => simp [optionalStr, Value.texts]
  | some value => simpa [optionalStr, Value.texts] using textual

/-- It nests no object, so there is no key in it that could clash. -/
theorem optionalStr_keyed (text : Option Str) : (optionalStr text).Keyed := by
  cases text <;> trivial

/-- The data of an event are a dictionary of dictionaries, with every key once in
each. -/
theorem modelDump_keyed (data : HTTPEventData) (distinct : (data.headers.map Prod.fst).Nodup) :
    (data.modelDump.map Prod.fst).Nodup ∧ Value.KeyedFields data.modelDump := by
  constructor
  · simp only [HTTPEventData.modelDump, List.map_cons, List.map_nil]
    decide
  · refine ⟨trivial, trivial, ⟨?_, keyedFields_headers _⟩, trivial, optionalStr_keyed _, trivial,
      optionalStr_keyed _, optionalStr_keyed _, trivial⟩
    rwa [List.map_map]

/-- The address is the one of the transport, or a literal where there is none, which
is text. -/
theorem sourceIp_wellFormed_iff (request : Request) :
    WellFormed request.sourceIp ↔ ∀ address ∈ request.remote, WellFormed address := by
  unfold Request.sourceIp
  match request.remote with
  | none => simp [literal_wellFormed]
  | some [] => simp [literal_wellFormed]
  | some (point :: rest) => simp

/-- The strings of an event are text exactly when what it takes from the request
is. -/
theorem attackEvent_texts_iff (honeypot : HTTPHoneypot) (stamp : Stamp) (request : Request)
    (eventType : String) (data : HTTPEventData) (taken : TakenFrom request data) :
    (∀ text ∈ (honeypot.attackEvent stamp request eventType data).texts, WellFormed text) ↔
      (∀ address ∈ request.remote, WellFormed address) ∧ WellFormed request.method ∧
        WellFormed request.path ∧
        (∀ header ∈ headerDict request.headers, WellFormed header.1 ∧ WellFormed header.2) ∧
        WellFormed (userAgent request.headers) := by
  have preview := optionalStr_texts data.bodyPreview taken.bodyPreview
  have email := optionalStr_texts data.email taken.email
  have password := optionalStr_texts data.password taken.password
  rw [← sourceIp_wellFormed_iff, ← fieldTexts_headers, ← taken.headers, ← taken.method,
    ← taken.path, ← taken.userAgent]
  simp only [AttackEvent.texts, HTTPHoneypot.attackEvent, HTTPEventData.modelDump,
    Value.fieldTexts, Value.texts, List.forall_mem_cons, List.forall_mem_append, List.append_nil,
    literal_wellFormed, true_and]
  tauto

/-- An event survives exactly when what it takes from the request is text. All else
in it is text that the honeypot has made or decoded itself. -/
theorem attackEvent_survives_iff (honeypot : HTTPHoneypot) (stamp : Stamp) (request : Request)
    (eventType : String) (data : HTTPEventData) (taken : TakenFrom request data) :
    (honeypot.attackEvent stamp request eventType data).Survives ↔
      (∀ address ∈ request.remote, WellFormed address) ∧ WellFormed request.method ∧
        WellFormed request.path ∧
        (∀ header ∈ headerDict request.headers, WellFormed header.1 ∧ WellFormed header.2) ∧
        WellFormed (userAgent request.headers) := by
  have distinct : (data.headers.map Prod.fst).Nodup := taken.headers ▸ ofItems_distinct _
  have keyed := modelDump_keyed data distinct
  rw [survives_iff (honeypot.attackEvent stamp request eventType data) keyed.1 keyed.2,
    attackEvent_texts_iff honeypot stamp request eventType data taken]

/-- The headers that a dictionary keeps are text exactly when the bytes of those
that are not overwritten are UTF-8. -/
theorem headerDict_wellFormed_iff (rawHeaders : List (List Byte × List Byte)) :
    (∀ header ∈ headerDict (handedOver rawHeaders), WellFormed header.1 ∧ WellFormed header.2) ↔
      ∀ header, Kept rawHeaders header →
        (decodeStrict header.1).isSome ∧ (decodeStrict header.2).isSome := by
  constructor
  · rintro textual header ⟨before, after, rfl, unset⟩
    rw [← surrogateEscape_wellFormed_iff, ← surrogateEscape_wellFormed_iff]
    refine textual (decodeSurrogateEscape header.1, decodeSurrogateEscape header.2)
      ((mem_ofItems_iff _ _).mpr ⟨handedOver before, handedOver after, ?_, ?_⟩)
    · simp [handedOver]
    · intro later member
      obtain ⟨raw, among, rfl⟩ := List.mem_map.mp member
      exact unset raw among
  · intro utf8 header member
    obtain ⟨before, after, split, unset⟩ := (mem_ofItems_iff _ _).mp member
    obtain ⟨rawBefore, rawRest, rfl, _, rest⟩ := List.map_eq_append_iff.mp split
    obtain ⟨raw, rawAfter, rfl, rfl, rfl⟩ := List.map_eq_cons_iff.mp rest
    rw [surrogateEscape_wellFormed_iff, surrogateEscape_wellFormed_iff]
    exact utf8 raw ⟨rawBefore, rawAfter, rfl, fun later among =>
      unset _ (List.mem_map.mpr ⟨later, among, rfl⟩)⟩

/-- The first header of the name decides: a value that is not valid UTF-8 is handed
over with lone surrogates in it, and an absent one is a literal. -/
theorem userAgent_wellFormed_iff (rawHeaders : List (List Byte × List Byte)) :
    WellFormed (userAgent (handedOver rawHeaders)) ↔
      ∀ header ∈ rawHeaders.find? namesUserAgent, (decodeStrict header.2).isSome := by
  have found : (handedOver rawHeaders).find? (fun header =>
      decide (lower header.1 = literal "user-agent")) =
      (rawHeaders.find? namesUserAgent).map fun header =>
        (decodeSurrogateEscape header.1, decodeSurrogateEscape header.2) := by
    rw [handedOver, List.find?_map]
    rfl
  rw [userAgent, found]
  cases rawHeaders.find? namesUserAgent with
  | none => simp
  | some header => simp [surrogateEscape_wellFormed_iff]

/-- The record of an attempt is text as long as the instance is: user and password
come decoded. -/
theorem attempt_survives (server : Ssh.SSHHoneypotServer) (textual : server.Textual) (port : Int)
    (stamp : Stamp) (username password : List Char) (connectionDuration : Decimal) :
    (server.attackEvent port stamp "ssh_login_attempt"
      (server.attemptData username password connectionDuration).modelDump).Survives := by
  have address := Ssh.sourceIp_wellFormed server textual
  refine (survives_iff _ ?_ ?_).mpr ?_
  · simp only [Ssh.SSHHoneypotServer.attackEvent, SSHEventData.modelDump, List.map_cons,
      List.map_nil]
    decide
  · exact (⟨trivial, trivial, trivial, trivial, trivial, trivial⟩ :
      True ∧ True ∧ True ∧ True ∧ True ∧ True)
  · simp only [AttackEvent.texts, Ssh.SSHHoneypotServer.attackEvent, SSHEventData.modelDump,
      Ssh.SSHHoneypotServer.attemptData, Value.fieldTexts, Value.texts, List.forall_mem_cons,
      List.forall_mem_append, List.append_nil, literal_wellFormed, ofChars_wellFormed, address,
      textual.clientVersion, true_and]
    simp

/-- The record of a connection is text as long as the instance is; it adds a
duration only. -/
theorem connection_survives (server : Ssh.SSHHoneypotServer) (textual : server.Textual)
    (port : Int) (stamp : Stamp) (connectionDuration : Decimal) :
    (server.attackEvent port stamp "ssh_connection"
      (server.connectionData connectionDuration)).Survives := by
  have address := Ssh.sourceIp_wellFormed server textual
  refine (survives_iff _ ?_ ?_).mpr ?_
  · simp only [Ssh.SSHHoneypotServer.attackEvent, Ssh.SSHHoneypotServer.connectionData,
      List.map_cons, List.map_nil]
    decide
  · exact (⟨trivial, trivial, trivial, trivial, trivial⟩ : True ∧ True ∧ True ∧ True ∧ True)
  · simp only [AttackEvent.texts, Ssh.SSHHoneypotServer.attackEvent,
      Ssh.SSHHoneypotServer.connectionData, Value.fieldTexts, Value.texts, List.forall_mem_cons,
      List.forall_mem_append, List.append_nil, literal_wellFormed, address, textual.clientVersion,
      textual.username, true_and]
    simp

/-- The event of a callback survives as long as the instance holds text, which every
callback keeps up. -/
theorem callback_survives (port : Int) (server : Ssh.SSHHoneypotServer) (next : Ssh.Callback)
    (textual : server.Textual) :
    ∀ event ∈ (Ssh.callback port server next).2, event.Survives := by
  intro event member
  have after := Ssh.callback_textual port server next textual
  cases next with
  | connectionMade peername clientVersion => simp [Ssh.callback] at member
  | beginAuth username => simp [Ssh.callback] at member
  | validatePassword username password clientVersion connectionDuration stamp =>
    obtain ⟨rfl⟩ := member
    exact attempt_survives _ after port stamp username password connectionDuration
  | connectionLost connectionDuration stamp runningLoop =>
    simp only [Ssh.callback] at member
    split at member
    · simp at member
    · split at member
      · obtain ⟨rfl⟩ := member
        exact connection_survives server textual port stamp connectionDuration
      · simp at member

/-- Every event of the SSH honeypot survives the queue. -/
theorem ssh_survives (port : Int) (callbacks : List Ssh.Callback) :
    ∀ event ∈ Ssh.events port callbacks, event.Survives :=
  Ssh.eventsFrom_induction port .init callbacks AttackEvent.Survives Ssh.init_textual
    (callback_survives port)

/-- For every request with any header bytes, the event that the HTTP honeypot
emits survives the queue exactly when what it records of the request is text;
and for every sequence of callbacks, every event that the SSH honeypot emits
survives. -/
theorem queue_encoding_survives (honeypot : HTTPHoneypot) (stamp : Stamp) (request : Request)
    (rawHeaders : List (List Byte × List Byte)) (outcome : Except Raised Unit) (port : Int)
    (callbacks : List Ssh.Callback) :
    (∀ event ∈ (handleRequest honeypot stamp { request with headers := handedOver rawHeaders }
      outcome).emitted, event.Survives ↔ RecordsText request rawHeaders) ∧
      ∀ event ∈ Ssh.events port callbacks, event.Survives := by
  refine ⟨fun event member => ?_, ssh_survives port callbacks⟩
  obtain ⟨eventType, data, rfl, taken⟩ := handleRequest_emitted _ _ _ _ _ member
  rw [attackEvent_survives_iff _ _ _ _ _ taken, headerDict_wellFormed_iff, userAgent_wellFormed_iff]
  constructor
  · rintro ⟨remote, method, path, headers, userAgent⟩
    exact ⟨method, path, remote, headers, userAgent⟩
  · rintro ⟨method, path, remote, headers, userAgent⟩
    exact ⟨remote, method, path, headers, userAgent⟩

/-- A request with a header in UTF-8, and the event it leaves: its bytes decode
strictly, so nothing in it is escaped. -/
theorem queue_encoding_survives_plain :
    ∃ (honeypot : HTTPHoneypot) (stamp : Stamp) (request : Request)
      (rawHeaders : List (List Byte × List Byte)),
      rawHeaders = [([0x58], [0xC3, 0xA9])] ∧
      ∃ event, (handleRequest honeypot stamp { request with headers := handedOver rawHeaders }
        (.ok ())).emitted = [event] ∧ event.Survives := by
  let stamp : Stamp := someStamp
  let honeypot : HTTPHoneypot := { reportedPort := 80, maxCredentialLengthRaw := none }
  let request : Request := { method := literal "GET", path := literal "/" }
  refine ⟨honeypot, stamp, request, [([0x58], [0xC3, 0xA9])], rfl, _, rfl, ?_⟩
  refine ((queue_encoding_survives honeypot stamp request _ (.ok ()) 22 []).1 _
    List.mem_cons_self).mpr
    ⟨literal_wellFormed _, literal_wellFormed _, by simp [request], ?_, by decide⟩
  rintro header ⟨before, after, only, _⟩
  have member : header ∈ [(([0x58], [0xC3, 0xA9]) : List Byte × List Byte)] := by simp [only]
  rw [List.mem_singleton.mp member]
  decide

/-- A request for `/` with the header byte 0xFF: its event cannot be encoded, and
emitting it raises and leaves no trace. -/
theorem invalid_header_loses_event :
    ∃ (honeypot : HTTPHoneypot) (stamp : Stamp) (request : Request) (event : AttackEvent),
      (handleRequest honeypot stamp { request with headers := handedOver [([0x58], [0xFF])] }
        (.error .serializationError)).emitted = [event] ∧
      event.toJsonStr = none ∧ ¬ event.Survives ∧
      ∃ final : Queued AttackEvent (List Char),
        (Honeypot.honeypot (EventQueue.publish AttackEvent.toJsonStr)).complete
          { buffer := .empty, queue := { redis := true, entries := [], record := [] }
            evicted := [] }
          (.emitEvent event) [] = some (final, .error .serializationError) ∧
        final.queue.entries = [] ∧ final.buffer.items = [] := by
  let stamp : Stamp := someStamp
  let honeypot : HTTPHoneypot := { reportedPort := 80, maxCredentialLengthRaw := none }
  let request : Request := { method := literal "GET", path := literal "/" }
  let sent : Request := { request with headers := handedOver [([0x58], [0xFF])] }
  obtain ⟨event, emitted⟩ : ∃ event,
      (handleRequest honeypot stamp sent (.error .serializationError)).emitted = [event] := ⟨_, rfl⟩
  obtain ⟨eventType, data, built, taken⟩ := handleRequest_emitted honeypot stamp sent _ event
    (emitted ▸ List.mem_singleton.mpr rfl)
  have lone : ¬ ∀ text ∈ event.texts, WellFormed text := by
    rw [built, attackEvent_texts_iff honeypot stamp sent eventType data taken]
    intro textual
    have utf8 := (headerDict_wellFormed_iff [([0x58], [0xFF])]).mp textual.2.2.2.1
      ([0x58], [0xFF]) ⟨[], [], rfl, by simp⟩
    exact absurd utf8.2 (by decide)
  have unencodable : event.toJsonStr = none := (toJsonStr_none_iff event).mpr lone
  refine ⟨honeypot, stamp, request, event, emitted, unencodable, fun survives => ?_,
    unserializable_raises AttackEvent.toJsonStr event unencodable []⟩
  obtain ⟨payload, encoded, _⟩ := survives stamp
  exact nomatch unencodable.symm.trans encoded

end Honeywatch.Honeypot
