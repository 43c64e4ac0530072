import Honeywatch.Collector.Logging
import Honeywatch.Honeypot.Recording
import Honeywatch.Honeypot.Survival
import Mathlib.Data.List.Forall2

/-!
# What the HTTP handlers log

A handler logs what it refuses, or emits an event and logs one record when the
emit has returned. Of a login the record tells the length of the email and
whether the body was text. Two logins that differ in the password only therefore
leave the same records, around events with the same fate in the queue.
-/

namespace Honeywatch.Honeypot.Http

open Text Utf8 FormEncoding Collector

variable {Label Message : Type}

/-- What a handler logs first, and the event it emits with what it logs then. -/
structure Logged (Label Message : Type) where
  before : List (LogRecord Label Message)
  emitted : Option (AttackEvent × LogRecord Label Message)

/-- A record of `_handle_login`. -/
def loginRecord (event : String) (request : Request) (status : Int)
    (others : List (String × Field)) : LogRecord Label Message :=
  logInfo event
    ([("method", .text request.method), ("path", .text loginPath), ("status", .number status)] ++
      others)

/-- The record of a body that cannot be read; `error` is the text of the reason. -/
def bodyReadFailed (failed : Bool) (error : Str) : List (LogRecord Label Message) :=
  if failed then [logDebug "http_honeypot.body_read_failed" [("error", .text error)]] else []

variable (honeypot : HTTPHoneypot) (stamp : Stamp) (request : Request) (error : Str)

/-- `_handle_login`, with its records. -/
def loginLogged : Logged Label Message :=
  if !loginAllowedMethods.contains request.method then
    { before := [loginRecord "http_honeypot.login_method_not_allowed" request 405 []]
      emitted := none }
  else if request.method = literal "GET" then
    { before := []
      emitted :=
        some (honeypot.attackEvent stamp request "http_request" (formEventData request),
          loginRecord "http_honeypot.login_form" request 200 []) }
  else
    match readBodyLimited request with
    | none =>
      { before := [loginRecord "http_honeypot.login_payload_too_large" request 413 []]
        emitted := none }
    | some rawBody =>
      let submission := honeypot.extractCredentials rawBody
      { before := bodyReadFailed request.interrupted error
        emitted :=
          some (honeypot.attackEvent stamp request "http_login_attempt"
              (loginEventData honeypot request rawBody),
            loginRecord "http_honeypot.login_attempt" request 401
              [("email_length", .number submission.email.length),
                ("parsed", .flag submission.parsed)]) }

/-- `_handle_request`, with its records. -/
def requestLogged : Logged Label Message :=
  if normalizedPath request.path = loginPath then loginLogged honeypot stamp request error
  else
    { before := bodyReadFailed request.read.isNone error
      emitted :=
        some (honeypot.attackEvent stamp request "http_request" (requestEventData request),
          logInfo "http_honeypot.request"
            [("source_ip", .text request.sourceIp), ("method", .text request.method),
              ("path", .text request.path),
              ("user_agent", .text ((userAgent request.headers).take 100)),
              ("status", .number (determineResponse request.method request.path).1)]) }

/-- The events are those of the handlers; the log records come beside them and
decide nothing. -/
theorem requestLogged_emitted (outcome : Except Raised Unit) :
    ((requestLogged honeypot stamp request error : Logged Label Message).emitted.map
      Prod.fst).toList = (handleRequest honeypot stamp request outcome).emitted := by
  unfold requestLogged handleRequest
  split
  · unfold loginLogged handleLogin
    split
    · rfl
    · split
      · rfl
      · cases readBodyLimited request <;> rfl
  · rfl

/-- The same field, or both a password. -/
def FieldsAlike (field twin : List Char) : Prop :=
  field = twin ∨ ∃ value other, field = "password=".toList ++ value ∧
    twin = "password=".toList ++ other

/-- The bodies are forms with the same fields but for the values of passwords, or
neither is text. -/
def FormsAlike (body twin : List Byte) : Prop :=
  match decodeStrict body, decodeStrict twin with
  | some form, some other => List.Forall₂ FieldsAlike (split '&' form) (split '&' other)
  | none, none => True
  | _, _ => False

/-- The requests are a POST to the login twice, with the password as the only
difference; the bodies come in chunks of the same lengths. -/
structure DifferInPassword (request twin : Request) : Prop where
  login : request.IsLogin
  post : request.method = literal "POST"
  same : twin = { request with read := twin.read, chunks := twin.chunks }
  chunks : request.chunks.map List.length = twin.chunks.map List.length
  forms : request.interrupted = false → FormsAlike request.chunks.flatten twin.chunks.flatten

/-- The fields of a form that has been split at its ampersands. -/
def submitted (fields : List (List Char)) : List (List Char × List Char) :=
  (fields.filter fun field => decide (field ≠ [])).map fun field =>
    (fieldText (splitFirst '=' field).1, fieldText (splitFirst '=' field).2)

/-- The first field of a name wins, and a later one of the same name is not looked
at. -/
theorem firstValue_cons (field : List Char × List Char) (rest : List (List Char × List Char))
    (name : String) :
    firstValue (field :: rest) name =
      if field.1 = name.toList then field.2 else firstValue rest name := by
  unfold firstValue
  by_cases named : field.1 = name.toList
  · simp only [List.find?_cons, named, decide_true, if_true]
  · simp only [List.find?_cons, named, decide_false, if_false]

/-- The first email of a form is that of its first field, if it is an email, and
otherwise that of the rest; empty fields are no fields. -/
theorem email_cons (field : List Char) (rest : List (List Char)) :
    firstValue (submitted (field :: rest)) "email" =
      if field ≠ [] ∧ fieldText (splitFirst '=' field).1 = "email".toList then
        fieldText (splitFirst '=' field).2
      else firstValue (submitted rest) "email" := by
  by_cases empty : field = []
  · rw [if_neg fun both => both.1 empty]
    simp [submitted, empty]
  · have kept : submitted (field :: rest) =
        (fieldText (splitFirst '=' field).1, fieldText (splitFirst '=' field).2) ::
          submitted rest := by
      simp [submitted, empty]
    rw [kept, firstValue_cons]
    simp only [ne_eq, empty, not_false_eq_true, true_and]

/-- A password is not an email, so its field can be left out of the search for one.
-/
theorem email_cons_password (value : List Char) (rest : List (List Char)) :
    firstValue (submitted (("password=".toList ++ value) :: rest)) "email" =
      firstValue (submitted rest) "email" := by
  have name : (splitFirst '=' ("password=".toList ++ value)).1 = "password".toList := by
    simp [splitFirst]
  have other : fieldText "password".toList ≠ "email".toList := by decide
  rw [email_cons, name, if_neg fun named => other named.2]

/-- The first email of fields that are alike is the same; the induction is on the
fields. -/
theorem email_of_fields {fields others : List (List Char)}
    (alike : List.Forall₂ FieldsAlike fields others) :
    firstValue (submitted fields) "email" = firstValue (submitted others) "email" := by
  induction alike with
  | nil => rfl
  | cons head tail inductionHypothesis =>
    rcases head with same | ⟨value, other, password, otherPassword⟩
    · rw [same, email_cons, email_cons, inductionHypothesis]
    · rw [password, otherPassword, email_cons_password, email_cons_password, inductionHypothesis]

/-- Forms that are alike are submitted with the same email, and both are parsed or
neither is. -/
theorem submission_alike (honeypot : HTTPHoneypot) {body twin : List Byte}
    (alike : FormsAlike body twin) :
    (honeypot.extractCredentials body).email = (honeypot.extractCredentials twin).email ∧
      (honeypot.extractCredentials body).parsed = (honeypot.extractCredentials twin).parsed := by
  unfold FormsAlike at alike
  unfold HTTPHoneypot.extractCredentials
  cases form : decodeStrict body with
  | none =>
    cases other : decodeStrict twin with
    | none => exact ⟨rfl, rfl⟩
    | some text => simp [form, other] at alike
  | some text =>
    cases other : decodeStrict twin with
    | none => simp [form, other] at alike
    | some otherText =>
      rw [form, other] at alike
      exact ⟨congrArg (List.take honeypot.maxCredentialLength) (email_of_fields alike), rfl⟩

/-- A body is like itself, whether or not it can be decoded. -/
theorem formsAlike_refl (body : List Byte) : FormsAlike body body := by
  unfold FormsAlike
  cases decodeStrict body with
  | none => trivial
  | some form => exact List.forall₂_same.mpr fun field _ => .inl rfl

/-- Events that a log cannot tell apart: only what `raw_data` says may differ, and
both survive the queue or neither is written to it. -/
structure Twins (own twin : AttackEvent) : Prop where
  id : own.id = twin.id
  protocol : own.protocol = twin.protocol
  sourceIp : own.sourceIp = twin.sourceIp
  destinationPort : own.destinationPort = twin.destinationPort
  queued : (own.toJsonStr = none ∧ twin.toJsonStr = none) ∨ (own.Survives ∧ twin.Survives)

/-- What a login records of its request is taken from the request, and its texts
have no lone surrogates. -/
theorem loginEventData_taken (honeypot : HTTPHoneypot) (request : Request) (body : List Byte) :
    TakenFrom request (loginEventData honeypot request body) :=
  ⟨rfl, rfl, rfl, rfl, bodyPreview_wellFormed body, nonEmpty_wellFormed _, nonEmpty_wellFormed _⟩

/-- What a login leaves in the queue does not depend on its body, apart from the
credentials and the preview. -/
theorem login_twins (honeypot : HTTPHoneypot) (stamp : Stamp) (request : Request)
    (body other : List Byte) :
    Twins
      (honeypot.attackEvent stamp request "http_login_attempt"
        (loginEventData honeypot request body))
      (honeypot.attackEvent stamp request "http_login_attempt"
        (loginEventData honeypot request other)) := by
  have texts := attackEvent_texts_iff honeypot stamp request "http_login_attempt" _
    (loginEventData_taken honeypot request body)
  have otherTexts := attackEvent_texts_iff honeypot stamp request "http_login_attempt" _
    (loginEventData_taken honeypot request other)
  have survives := attackEvent_survives_iff honeypot stamp request "http_login_attempt" _
    (loginEventData_taken honeypot request body)
  have otherSurvives := attackEvent_survives_iff honeypot stamp request "http_login_attempt" _
    (loginEventData_taken honeypot request other)
  refine ⟨rfl, rfl, rfl, rfl, ?_⟩
  rw [toJsonStr_none_iff, toJsonStr_none_iff, texts, otherTexts, survives, otherSurvives, and_self,
    and_self]
  exact (Classical.em _).symm

namespace DifferInPassword

variable {request twin : Request} (differ : DifferInPassword request twin)

include differ

/-- Both bodies are within the limit or neither is. -/
theorem tooLarge_iff : request.BodyTooLarge ↔ twin.BodyTooLarge := by
  rw [Request.BodyTooLarge, Request.BodyTooLarge, differ.chunks, differ.same]

/-- Both bodies are read, and what is read is alike, or both are over the limit,
since they have the same length. -/
theorem read_alike :
    (readBodyLimited request = none ∧ readBodyLimited twin = none) ∨
      ∃ body other, readBodyLimited request = some body ∧ readBodyLimited twin = some other ∧
        FormsAlike body other := by
  by_cases large : request.BodyTooLarge
  · left
    exact ⟨(readBodyLimited_none_iff request).mpr large,
      (readBodyLimited_none_iff twin).mpr (differ.tooLarge_iff.mp large)⟩
  · right
    obtain ⟨body, read⟩ := Option.ne_none_iff_exists'.mp
      (mt (readBodyLimited_none_iff request).mp large)
    obtain ⟨other, twinRead⟩ := Option.ne_none_iff_exists'.mp
      (mt (readBodyLimited_none_iff twin).mp (mt differ.tooLarge_iff.mpr large))
    refine ⟨body, other, read, twinRead, ?_⟩
    have interrupted : twin.interrupted = request.interrupted := by rw [differ.same]
    rw [readBodyLimited_some read, readBodyLimited_some twinRead, interrupted]
    cases interrupted : request.interrupted with
    | true => exact formsAlike_refl []
    | false => exact differ.forms interrupted

/-- Both are logged alike, and the event of one is a twin of the other's. What the
records tell of the form is what both forms share. -/
theorem logged_alike (honeypot : HTTPHoneypot) (stamp : Stamp) (error : Str) :
    let own : Logged Label Message := requestLogged honeypot stamp request error
    let other : Logged Label Message := requestLogged honeypot stamp twin error
    own.before = other.before ∧
      ((own.emitted = none ∧ other.emitted = none) ∨
        ∃ event twinEvent after, own.emitted = some (event, after) ∧
          other.emitted = some (twinEvent, after) ∧ Twins event twinEvent) := by
  have login : normalizedPath request.path = loginPath := differ.login
  have allowed : loginAllowedMethods.contains request.method = true := by
    rw [differ.post]
    decide
  have notGet : request.method ≠ literal "GET" := by
    rw [differ.post]
    decide
  have alike := differ.read_alike
  rw [differ.same] at alike ⊢
  simp only [requestLogged, loginLogged, login, allowed, notGet, if_true, if_false, Bool.not_true,
    Bool.false_eq_true]
  rcases alike with ⟨refused, twinRefused⟩ | ⟨body, other, read, twinRead, forms⟩
  · rw [refused, twinRefused]
    exact ⟨rfl, .inl ⟨rfl, rfl⟩⟩
  · obtain ⟨email, parsed⟩ := submission_alike honeypot forms
    rw [read, twinRead]
    refine ⟨rfl, .inr ⟨_, _, _, rfl, ?_, login_twins honeypot stamp request body other⟩⟩
    rw [email, parsed]
    rfl

end DifferInPassword

end Honeywatch.Honeypot.Http
