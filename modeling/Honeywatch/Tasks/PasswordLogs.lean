import Honeywatch.Honeypot.LoginLogs
import Honeywatch.Tasks.Likeness

/-!
# Passwords and the logs

The pipeline over attack events, and two of its runs on logins that differ in
their passwords. Clocks, generated ids and everything Redis and PostgreSQL answer
are the same in both. The records are then the same as well, but for the result
of a classification, which two records at the level `DEBUG` tell, and for the
text of an error of the statement, which renders the row.
-/

namespace Honeywatch.Tasks

open Collector Detection Honeypot Http Text Utf8 FormEncoding

section Handling

variable (rules : DetectionRules) (defaults : List Char → Stamp)
  (validationError : List Char → Str)
  (statementError : AttackEvent → ClassificationResult → Str → Str)

/-- Attack events: what a payload without an id or a timestamp gets, and the texts of
the errors of validation and of statements, are given. -/
def attackEvents : Handling AttackEvent (List Char) ClassificationResult Str where
  toJsonStr := AttackEvent.toJsonStr
  fromJsonStr payload :=
    match fromJsonStr (defaults payload) payload with
    | some event => .ok event
    | none => .error (validationError payload)
  eventId := AttackEvent.id
  protocol := AttackEvent.protocol
  sourceIp := AttackEvent.sourceIp
  destinationPort := AttackEvent.destinationPort
  timeWindow := rules.attackTypes.bruteForce.timeWindow
  classify := Detection.classify rules
  statementError := statementError

/-- The serialization of the events is the one of the collector. -/
theorem attackEvents_toJsonStr :
    (attackEvents rules defaults validationError statementError).toJsonStr =
      AttackEvent.toJsonStr := by
  dsimp only [attackEvents]

/-- An event that survives the queue is read again from what it is written to, so
its twin is read wherever it is. -/
theorem survivor_read {event : AttackEvent} (survives : event.Survives) :
    ∃ payload,
      (attackEvents rules defaults validationError statementError).toJsonStr event = some payload ∧
      (attackEvents rules defaults validationError statementError).fromJsonStr payload =
        .ok event := by
  obtain ⟨payload, written, _⟩ := survives ⟨event.id, event.timestamp⟩
  obtain ⟨other, otherWritten, read⟩ := survives (defaults payload)
  have same : payload = other := Option.some.inj (written.symm.trans otherWritten)
  rw [← same] at read
  rw [attackEvents_toJsonStr]
  refine ⟨payload, written, ?_⟩
  simp only [attackEvents, read]

/-- Twins are handled alike. -/
def twins : Likeness (attackEvents rules defaults validationError statementError) where
  Alike own twin := own = twin ∨ Twins own twin
  refl _ := .inl rfl
  eventId := by
    rintro own twin (rfl | alike)
    · rfl
    · exact alike.id
  protocol := by
    rintro own twin (rfl | alike)
    · rfl
    · exact alike.protocol
  sourceIp := by
    rintro own twin (rfl | alike)
    · rfl
    · exact alike.sourceIp
  destinationPort := by
    rintro own twin (rfl | alike)
    · rfl
    · exact alike.destinationPort
  toJsonStr := by
    rintro own twin (same | alike)
    · exact .inl same
    · right
      rcases alike.queued with unwritten | ⟨survives, twinSurvives⟩
      · left
        rw [attackEvents_toJsonStr]
        exact unwritten
      · right
        obtain ⟨left, written, read⟩ :=
          survivor_read rules defaults validationError statementError survives
        obtain ⟨right, twinWritten, twinRead⟩ :=
          survivor_read rules defaults validationError statementError twinSurvives
        exact ⟨left, right, written, twinWritten, read, twinRead⟩

end Handling

/-- A request arrives. -/
def received (honeypot : HTTPHoneypot) (stamp : Stamp) (request : Request) (error : Str) :
    Happening AttackEvent (List Char) ClassificationResult Str :=
  let logged := requestLogged honeypot stamp request error
  .receive logged.before logged.emitted

/-- What happens is the same, or it is a login with one password or another. -/
inductive SameButPassword (honeypot : HTTPHoneypot) :
    Happening AttackEvent (List Char) ClassificationResult Str →
      Happening AttackEvent (List Char) ClassificationResult Str → Prop
  | same (happening : Happening AttackEvent (List Char) ClassificationResult Str) :
    SameButPassword honeypot happening happening
  | login (stamp : Stamp) {request twin : Request} (differ : DifferInPassword request twin)
      (error : Str) :
    SameButPassword honeypot (received honeypot stamp request error)
      (received honeypot stamp twin error)

section Delivered

variable {Event Payload Label Message : Type}

/-- A single event that survives the queue, handled as by the given handling. -/
def single (handling : Handling Event Payload Label Message) (event : Event) :
    Handling Unit Unit Label Message where
  toJsonStr _ := some ()
  fromJsonStr _ := .ok ()
  eventId _ := handling.eventId event
  protocol _ := handling.protocol event
  sourceIp _ := handling.sourceIp event
  destinationPort _ := handling.destinationPort event
  timeWindow := handling.timeWindow
  classify _ := handling.classify event
  statementError _ := handling.statementError event

/-- A handling of one event has the window of the whole one. -/
theorem single_timeWindow (handling : Handling Event Payload Label Message) (event : Event) :
    handling.timeWindow = (single handling event).timeWindow := rfl

def ofSingle (handling : Handling Event Payload Label Message) {event : Event} {payload : Payload}
    (written : handling.toJsonStr event = some payload)
    (read : handling.fromJsonStr payload = .ok event) :
    Renaming (single handling event) handling where
  event _ := event
  payload _ := payload
  label := id
  message := id
  toJsonStr _ := written
  fromJsonStr _ := read
  eventId _ := rfl
  protocol _ := rfl
  sourceIp _ := rfl
  destinationPort _ := rfl
  timeWindow := single_timeWindow handling event
  classify _ _ := rfl
  statementError _ _ _ := rfl

/-- The emitted event is published, and a worker starts, reads, classifies, stores
and acknowledges it, all at the first attempt. -/
def delivery (now : ℚ) : List (Happening Event Payload Label Message) :=
  [.answer 0 .answered [], .start, .reply .answered [], .reply .answered [], .classify now none,
    .store .answered (.other []), .reply .answered []]

/-- The classification of the first event of all. -/
def firstLabel (handling : Handling Event Payload Label Message) (event : Event) (now : ℚ) :
    Label :=
  handling.classify event
    (IPContextStore.empty.updateAndGet now (handling.sourceIp event)
      (handling.destinationPort event) handling.timeWindow).2

/-- What is logged of the delivery. -/
def deliveryLog (handling : Handling Event Payload Label Message) (event : Event)
    (after : LogRecord Label Message) (now : ℚ) : List (LogRecord Label Message) :=
  [logDebug "event_queue.published"
      [("event_id", .id (handling.eventId event)), ("entry_id", .number 0)],
    after,
    logInfo "worker.starting" [],
    logInfo "event_queue.consumer_group_created" [],
    logInfo "event_queue.connected" [],
    logInfo "worker.started" [],
    .classification
      { event := "classifier.classified"
        fields := [("event_id", .id (handling.eventId event))] }
      (firstLabel handling event now),
    ackedRecord 0,
    .classification
      { event := "worker.event_processed"
        fields :=
          [("event_id", .id (handling.eventId event)), ("entry_id", .number 0),
            ("protocol", .text (handling.protocol event).value)] }
      (firstLabel handling event now)]

/-- Read as one of the whole handling, a log of the single event is the same log,
record for record. -/
theorem ofSingle_records (handling : Handling Event Payload Label Message) {event : Event}
    {payload : Payload} (written : handling.toJsonStr event = some payload)
    (read : handling.fromJsonStr payload = .ok event) (log : List (LogRecord Label Message)) :
    (ofSingle handling written read).records log = log := by
  have kept : (ofSingle handling written read).record = id := by
    funext record
    cases record <;> rfl
  rw [Renaming.records, kept, List.map_id]

/-- An event that survives the queue leaves these records when nothing fails, from
the handler's to that of the row. -/
theorem delivery_logged (handling : Handling Event Payload Label Message) {event : Event}
    {payload : Payload} (written : handling.toJsonStr event = some payload)
    (read : handling.fromJsonStr payload = .ok event) (after : LogRecord Label Message) (now : ℚ) :
    ∃ final,
      handling.pipeline.run (.initial true) (.receive [] (some (event, after)) :: delivery now) =
        some final ∧ final.log = deliveryLog handling event after now := by
  obtain ⟨own, reached, logged⟩ : ∃ final,
      (single handling event).pipeline.run (.initial true)
        (.receive [] (some ((), after)) :: delivery now) = some final ∧
      final.log = deliveryLog handling event after now := ⟨_, rfl, rfl⟩
  have ran := (ofSingle handling written read).run_map true
    (.receive [] (some ((), after)) :: delivery now)
  rw [reached] at ran
  have same : (ofSingle handling written read).happening (.receive [] (some ((), after))) =
      .receive [] (some (event, after)) := by
    cases after <;> rfl
  rw [List.map_cons, same] at ran
  exact ⟨_, ran, (ofSingle_records handling written read own.log).trans logged⟩

end Delivered

section Logins

variable (rules : DetectionRules) (defaults : List Char → Stamp)
  (validationError : List Char → Str)
  (statementError : AttackEvent → ClassificationResult → Str → Str)

/-- Two logins with different passwords are handled alike: the handler's records are
the same, and the event of one is a twin of the other's. -/
theorem SameButPassword.happensAlike {honeypot : HTTPHoneypot}
    {own twin : Happening AttackEvent (List Char) ClassificationResult Str}
    (same : SameButPassword honeypot own twin) :
    (twins rules defaults validationError statementError).HappensAlike own twin := by
  cases same with
  | same => exact .same own
  | login stamp differ error =>
    obtain ⟨before, emits⟩ :=
      @DifferInPassword.logged_alike ClassificationResult Str _ _ differ honeypot stamp error
    simp only [received, before]
    rcases emits with ⟨silent, twinSilent⟩ | ⟨event, twinEvent, after, emitted, twinEmitted, alike⟩
    · rw [silent, twinSilent]
      exact .same _
    · rw [emitted, twinEmitted]
      have handledAlike : (twins rules defaults validationError statementError).Alike event
          twinEvent := Or.inr alike
      exact .receive _ handledAlike after

/-- A login within the limit is received with the event of its body, and its record
tells the length of the email only. -/
theorem received_login (honeypot : HTTPHoneypot) (stamp : Stamp) (request : Request) (error : Str)
    (login : request.IsLogin) (post : request.method = literal "POST") (body : List Byte)
    (read : readBodyLimited request = some body) :
    received honeypot stamp request error =
      .receive (bodyReadFailed request.interrupted error)
        (some (honeypot.attackEvent stamp request "http_login_attempt"
            (loginEventData honeypot request body),
          loginRecord "http_honeypot.login_attempt" request 401
            [("email_length", .number (honeypot.extractCredentials body).email.length),
              ("parsed", .flag (honeypot.extractCredentials body).parsed)])) := by
  have normalized : normalizedPath request.path = loginPath := login
  have allowed : loginAllowedMethods.contains request.method = true := by
    rw [post]
    decide
  have notGet : request.method ≠ literal "GET" := by
    rw [post]
    decide
  simp only [received, requestLogged, loginLogged, normalized, allowed, notGet, read, if_true,
    if_false, Bool.not_true, Bool.false_eq_true]

end Logins

/-- The form of a login with this password, in ASCII. -/
def formWith (password : String) : List Byte :=
  ("email=a&password=" ++ password).toList.map asciiByte

/-- A login with this password. -/
def loginWith (password : String) : Request :=
  { method := literal "POST", path := literal "/login", chunks := [formWith password] }

/-- Two logins of the example differ in the password and in nothing else; the
passwords have the same length. -/
theorem loginWith_differ : DifferInPassword (loginWith "admin") (loginWith "other") where
  login := by
    unfold Request.IsLogin
    decide
  post := rfl
  same := rfl
  chunks := by decide
  forms _ := by
    have form : decodeStrict (formWith "admin") = some "email=a&password=admin".toList := by decide
    have other : decodeStrict (formWith "other") = some "email=a&password=other".toList := by decide
    unfold FormsAlike
    simp only [loginWith, List.flatten_cons, List.flatten_nil, List.append_nil, form, other]
    exact .cons (.inl rfl) (.cons (.inr ⟨"admin".toList, "other".toList, rfl, rfl⟩) .nil)

section Results

variable (rules : DetectionRules) (defaults : List Char → Stamp)
  (validationError : List Char → Str)
  (statementError : AttackEvent → ClassificationResult → Str → Str)

/-- In two runs on the same happenings, with logins that differ in the password,
the same is logged, up to the results of classifications and the texts of
statement errors. Above `DEBUG` only the texts of statement errors remain. -/
theorem password_logged_nowhere (honeypot : HTTPHoneypot) (redis : Bool)
    (schedule other : List (Happening AttackEvent (List Char) ClassificationResult Str))
    (same : List.Forall₂ (SameButPassword honeypot) schedule other)
    (final : Pipeline AttackEvent (List Char) ClassificationResult Str)
    (reached :
      (attackEvents rules defaults validationError statementError).pipeline.run (.initial redis)
        schedule = some final) :
    ∃ twin,
      (attackEvents rules defaults validationError statementError).pipeline.run (.initial redis)
        other = some twin ∧
      ∀ logLevel,
        (written logLevel final.log).map LogRecord.erase =
          (written logLevel twin.log).map LogRecord.erase ∧
        (Level.debug.value < logLevel →
          List.Forall₂ LogRecord.SameButStatement (written logLevel final.log)
            (written logLevel twin.log)) := by
  obtain ⟨twin, twinReached, alike⟩ := Likeness.logs_alike
    (same.imp fun _ _ => SameButPassword.happensAlike rules defaults validationError statementError)
    redis reached
  refine ⟨twin, twinReached, fun logLevel => ⟨?_, fun above => ?_⟩⟩
  · exact written_erase logLevel alike.symm
  · exact written_above_debug above alike.symm

end Results

/-- Redis is away for all attempts at the first event, and it is buffered. -/
def refusals : List (Happening AttackEvent (List Char) ClassificationResult Str) :=
  let refused := .answer 0 (.failed .connectionError false) (literal "refused")
  let slept := .answer 0 .answered []
  [refused, slept, refused, slept, refused, slept, refused, slept, refused]

/-- The two logins go through refused publications into the buffer, and the logs are
the same. -/
theorem password_logged_nowhere_refused :
    ∃ (honeypot : HTTPHoneypot) (stamp : Stamp)
      (own twin : Pipeline AttackEvent (List Char) ClassificationResult Str),
      let handling := attackEvents {} (fun _ => stamp) (fun _ => []) fun _ _ original => original
      handling.pipeline.run (.initial false)
        (received honeypot stamp (loginWith "admin") [] :: refusals) = some own ∧
      handling.pipeline.run (.initial false)
        (received honeypot stamp (loginWith "other") [] :: refusals) = some twin ∧
      (written Level.info.value own.log).map LogRecord.erase =
        (written Level.info.value twin.log).map LogRecord.erase ∧
      List.Forall₂ LogRecord.SameButStatement (written Level.info.value own.log)
        (written Level.info.value twin.log) := by
  let honeypot : HTTPHoneypot := { reportedPort := 80, maxCredentialLengthRaw := none }
  let stamp : Stamp := someStamp
  obtain ⟨own, reached⟩ : ∃ own,
      (attackEvents {} (fun _ => stamp) (fun _ => []) fun _ _ original => original).pipeline.run
        (.initial false) (received honeypot stamp (loginWith "admin") [] :: refusals) =
          some own := ⟨_, rfl⟩
  have same : List.Forall₂ (SameButPassword honeypot)
      (received honeypot stamp (loginWith "admin") [] :: refusals)
      (received honeypot stamp (loginWith "other") [] :: refusals) :=
    .cons (.login stamp loginWith_differ []) (List.forall₂_same.mpr fun move _ => .same move)
  obtain ⟨twin, twinReached, alike⟩ :=
    password_logged_nowhere {} (fun _ => stamp) (fun _ => []) (fun _ _ original => original)
      honeypot false _ _ same own reached
  obtain ⟨erased, above⟩ := alike Level.info.value
  exact ⟨honeypot, stamp, own, twin, reached, twinReached, erased, above (by decide)⟩

/-- The event of such a login can be serialized, whatever the password is, since all
that it takes from the request is text. -/
theorem loginWith_survives (honeypot : HTTPHoneypot) (stamp : Stamp) (password : String) :
    (honeypot.attackEvent stamp (loginWith password) "http_login_attempt"
      (loginEventData honeypot (loginWith password) (formWith password))).Survives := by
  rw [attackEvent_survives_iff _ _ _ _ _ (loginEventData_taken honeypot _ _)]
  refine ⟨by simp [loginWith], literal_wellFormed _, literal_wellFormed _, ?_,
    literal_wellFormed ""⟩
  simp [loginWith, headerDict, Json.ofItems]

/-- A login with this password that nothing fails for leaves the records of a
delivery. -/
theorem loginWith_logged (rules : DetectionRules) (defaults : List Char → Stamp)
    (validationError : List Char → Str)
    (statementError : AttackEvent → ClassificationResult → Str → Str) (honeypot : HTTPHoneypot)
    (stamp : Stamp) (password : String)
    (read : readBodyLimited (loginWith password) = some (formWith password)) (now : ℚ) :
    ∃ final after,
      (attackEvents rules defaults validationError statementError).pipeline.run (.initial true)
        (received honeypot stamp (loginWith password) [] :: delivery now) = some final ∧
      final.log = deliveryLog (attackEvents rules defaults validationError statementError)
        (honeypot.attackEvent stamp (loginWith password) "http_login_attempt"
          (loginEventData honeypot (loginWith password) (formWith password))) after now := by
  obtain ⟨payload, written, decoded⟩ := survivor_read rules defaults validationError statementError
    (loginWith_survives honeypot stamp password)
  have isLogin : (loginWith password).IsLogin := by
    change normalizedPath (literal "/login") = loginPath
    decide
  rw [received_login honeypot stamp (loginWith password) [] isLogin rfl (formWith password) read]
  obtain ⟨final, reached, logged⟩ := delivery_logged _ written decoded _ now
  exact ⟨final, _, reached, logged⟩

/-- A listed password is classified otherwise than one that is not, and the records
at the level `DEBUG` tell. -/
theorem classification_logged :
    ∃ (rules : DetectionRules) (honeypot : HTTPHoneypot) (stamp : Stamp)
      (own twin : Pipeline AttackEvent (List Char) ClassificationResult Str),
      let handling := attackEvents rules (fun _ => stamp) (fun _ => []) fun _ _ original => original
      DifferInPassword (loginWith "admin") (loginWith "other") ∧
      handling.pipeline.run (.initial true)
        (received honeypot stamp (loginWith "admin") [] :: delivery 0) = some own ∧
      handling.pipeline.run (.initial true)
        (received honeypot stamp (loginWith "other") [] :: delivery 0) = some twin ∧
      written Level.debug.value own.log ≠ written Level.debug.value twin.log := by
  let rules : DetectionRules :=
    { attackTypes := { credentialAttack := { passwords := [literal "admin"] } } }
  let honeypot : HTTPHoneypot := { reportedPort := 80, maxCredentialLengthRaw := none }
  let stamp : Stamp := someStamp
  obtain ⟨own, after, reached, logged⟩ := loginWith_logged rules (fun _ => stamp) (fun _ => [])
    (fun _ _ original => original) honeypot stamp "admin" (by decide) 0
  obtain ⟨twin, twinAfter, twinReached, twinLogged⟩ := loginWith_logged rules (fun _ => stamp)
    (fun _ => []) (fun _ _ original => original) honeypot stamp "other" (by decide) 0
  refine ⟨rules, honeypot, stamp, own, twin, loginWith_differ, reached, twinReached, ?_⟩
  have everything (log : List (LogRecord ClassificationResult Str)) :
      written Level.debug.value log = log :=
    List.filter_eq_self.mpr fun record _ => decide_eq_true (record.level.debug_le)
  intro same
  rw [everything, everything, logged, twinLogged] at same
  simp only [deliveryLog, List.cons.injEq, LogRecord.classification.injEq] at same
  have label := congrArg ClassificationResult.attackType same.2.2.2.2.2.2.1.2
  have listed := (credentialAttack_iff rules
    (honeypot.attackEvent stamp (loginWith "admin") "http_login_attempt"
      (loginEventData honeypot (loginWith "admin") (formWith "admin")))
    (IPContextStore.empty.updateAndGet 0 (loginWith "admin").sourceIp 80
      rules.attackTypes.bruteForce.timeWindow).2).mpr (by decide)
  have unlisted := mt (credentialAttack_iff rules
    (honeypot.attackEvent stamp (loginWith "other") "http_login_attempt"
      (loginEventData honeypot (loginWith "other") (formWith "other")))
    (IPContextStore.empty.updateAndGet 0 (loginWith "other").sourceIp 80
      rules.attackTypes.bruteForce.timeWindow).2).mp (by decide)
  exact unlisted (label.symm.trans listed)

end Honeywatch.Tasks
