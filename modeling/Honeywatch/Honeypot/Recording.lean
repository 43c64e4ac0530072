import Honeywatch.Honeypot.Http

/-!
# Every answered request is recorded

A request is recorded when exactly one event is emitted for it, with the method
and the path of the request and the status that is sent. Only a login whose body
is too large goes without an event. The handlers meet this for every request,
except that the login refuses other methods than GET and POST without an event,
and that an emit which raises turns the response into an internal server error.
-/

namespace Honeywatch.Honeypot.Http

open Text Json Utf8 FormEncoding Collector

/-- The status that is sent. The framework answers a handler that raises with an
internal server error. -/
def Answer.status (answer : Answer) : Int :=
  match answer.result with
  | .ok response => response.status
  | .error _ => 500

/-- The request is for the login, by any of its spellings. -/
def Request.IsLogin (request : Request) : Prop := normalizedPath request.path = loginPath

/-- The body exceeds the limit, by its declared length or by what is received. -/
def Request.BodyTooLarge (request : Request) : Prop :=
  (∃ declared, request.contentLength = some declared ∧ (maxBodySize : Int) < declared) ∨
    maxBodySize < (request.chunks.map List.length).sum

/-- A POST to the login whose body is too large. -/
def Request.TooLargeLogin (request : Request) : Prop :=
  request.IsLogin ∧ request.method = literal "POST" ∧ request.BodyTooLarge

/-- The event tells the method, the path and the status. -/
structure Tells (request : Request) (status : Int) (event : AttackEvent) : Prop where
  method : event.getStr "method" = some request.method
  path : event.getStr "path" = some request.path
  statusCode : Json.get event.rawData (literal "status_code") = some (.int status)

/-- The answer to a request is on record as it should be. -/
def Recorded (request : Request) (answer : Answer) : Prop :=
  (request.TooLargeLogin → answer.emitted = [] ∧ answer.status = 413) ∧
    (¬ request.TooLargeLogin →
      ∃ event, answer.emitted = [event] ∧ Tells request answer.status event)

/-- Reading fails exactly when the chunks go over the limit, wherever in a chunk
that happens and whether or not the reading is interrupted later. -/
theorem readChunks_none_iff (interrupted : Bool) (total : Nat) (kept : List Byte)
    (chunks : List (List Byte)) (within : total ≤ maxBodySize) :
    readChunks interrupted total kept chunks = none ↔
      maxBodySize < total + (chunks.map List.length).sum := by
  induction chunks generalizing total kept with
  | nil =>
    cases interrupted <;> simp [readChunks, within]
  | cons chunk rest inductionHypothesis =>
    rw [readChunks]
    by_cases exceeds : maxBodySize < total + chunk.length
    · simp only [exceeds, if_true, List.map_cons, List.sum_cons, true_iff]
      omega
    · rw [if_neg exceeds, inductionHypothesis _ _ (Nat.le_of_not_lt exceeds)]
      simp only [List.map_cons, List.sum_cons, Nat.add_assoc]

/-- The reader returns nothing exactly for a body that is declared or received too
large. -/
theorem readBodyLimited_none_iff (request : Request) :
    readBodyLimited request = none ↔ request.BodyTooLarge := by
  have received := readChunks_none_iff request.interrupted 0 [] request.chunks (Nat.zero_le _)
  rw [Nat.zero_add] at received
  unfold readBodyLimited Request.BodyTooLarge
  cases declared : request.contentLength with
  | none => simp [received]
  | some length =>
    by_cases exceeds : (maxBodySize : Int) < length
    · simp [exceeds]
    · simp [exceeds, received]

/-- What is read of a body within the limit: all of it, or nothing where the reading
was interrupted. -/
theorem readChunks_some {interrupted : Bool} {total : Nat} {kept body : List Byte}
    {chunks : List (List Byte)} (read : readChunks interrupted total kept chunks = some body) :
    body = if interrupted then [] else kept ++ chunks.flatten := by
  induction chunks generalizing total kept with
  | nil =>
    cases interrupted with
    | true => simpa [readChunks] using read.symm
    | false => simpa [readChunks] using read.symm
  | cons chunk rest inductionHypothesis =>
    rw [readChunks, Option.ite_none_left_eq_some] at read
    rw [inductionHypothesis read.2, List.flatten_cons, List.append_assoc]

/-- Otherwise it returns what was received, or nothing of it where the client broke
off. -/
theorem readBodyLimited_some {request : Request} {body : List Byte}
    (read : readBodyLimited request = some body) :
    body = if request.interrupted then [] else request.chunks.flatten := by
  unfold readBodyLimited at read
  cases declared : request.contentLength with
  | none =>
    rw [declared] at read
    exact readChunks_some read
  | some length =>
    rw [declared] at read
    exact readChunks_some (Option.ite_none_left_eq_some.mp read).2

/-- Whatever else it holds, an event tells what its data says of the request; method
and path are in the data. -/
theorem attackEvent_tells (honeypot : HTTPHoneypot) (stamp : Stamp) (request : Request)
    (eventType : String) (data : HTTPEventData) (method : data.method = request.method)
    (path : data.path = request.path) :
    Tells request data.statusCode (honeypot.attackEvent stamp request eventType data) where
  method := by
    rw [← method]
    rfl
  path := by
    rw [← path]
    rfl
  statusCode := rfl

/-- An event tells one status only. -/
theorem Tells.status_unique {request : Request} {first second : Int} {event : AttackEvent}
    (one : Tells request first event) (other : Tells request second event) : first = second := by
  have same := one.statusCode.symm.trans other.statusCode
  injection same with value
  injection value

/-- No path is answered with an internal server error. -/
theorem determineResponse_status (method path : Str) : (determineResponse method path).1 ≠ 500 := by
  unfold determineResponse
  repeat' split
  all_goals decide

/-- An event emitted with the status of the response is true exactly when the
emit returns. -/
theorem emitThenRespond_recorded_iff (request : Request) (event : AttackEvent)
    (outcome : Except Raised Unit) (response : Response)
    (tells : Tells request response.status event) (regular : response.status ≠ 500) :
    (∃ recorded, (emitThenRespond event outcome response).emitted = [recorded] ∧
      Tells request (emitThenRespond event outcome response).status recorded) ↔
      outcome = .ok () := by
  cases outcome with
  | ok returned => simpa [emitThenRespond, Answer.status, Except.map] using tells
  | error raised =>
    simp only [emitThenRespond, Answer.status, Except.map, List.cons.injEq, and_true,
      exists_eq_left', reduceCtorEq, iff_false]
    intro failed
    exact regular (tells.status_unique failed)

variable (honeypot : HTTPHoneypot) (stamp : Stamp) (request : Request)
  (outcome : Except Raised Unit)

/-- The login emits nothing for a body that is too large and tells of every other
allowed request. -/
theorem handleLogin_recorded_iff (login : request.IsLogin) :
    Recorded request (handleLogin honeypot stamp request outcome) ↔
      request.method ∈ loginAllowedMethods ∧ (request.TooLargeLogin ∨ outcome = .ok ()) := by
  unfold handleLogin
  by_cases allowed : request.method ∈ loginAllowedMethods
  · have contained : loginAllowedMethods.contains request.method = true :=
      List.contains_iff_mem.mpr allowed
    simp only [contained, allowed, Bool.not_true, Bool.false_eq_true, if_false, true_and]
    by_cases get : request.method = literal "GET"
    · have regular : ¬ request.TooLargeLogin := fun large =>
        absurd (get.symm.trans large.2.1) (by decide)
      simp only [get, if_true, Recorded, regular, false_implies, not_false_eq_true, true_implies,
        true_and, false_or]
      exact emitThenRespond_recorded_iff request _ outcome _
        (attackEvent_tells honeypot stamp request _ (formEventData request) rfl rfl) (by decide)
    · have post : request.method = literal "POST" := by
        simpa [loginAllowedMethods, get] using allowed
      simp only [get, if_false]
      cases readBody : readBodyLimited request with
      | none =>
        have large : request.TooLargeLogin :=
          ⟨login, post, (readBodyLimited_none_iff request).mp readBody⟩
        simp [Recorded, large, Answer.status, respond]
      | some rawBody =>
        have regular : ¬ request.TooLargeLogin := by
          intro large
          have refused := (readBodyLimited_none_iff request).mpr large.2.2
          rw [readBody] at refused
          contradiction
        simp only [Recorded, regular, false_implies, not_false_eq_true, true_implies, true_and,
          false_or]
        exact emitThenRespond_recorded_iff request _ outcome _
          (attackEvent_tells honeypot stamp request _ (loginEventData honeypot request rawBody)
            rfl rfl) (by decide)
  · have regular : ¬ request.TooLargeLogin := fun large =>
      allowed (large.2.1 ▸ by decide)
    simp [allowed, Recorded, regular]

/-- For every request, a handled request is recorded as it should be exactly
when a request for the login has an allowed method and the emit, where the
handler makes one, returns. -/
theorem request_recorded_iff :
    Recorded request (handleRequest honeypot stamp request outcome) ↔
      (normalizedPath request.path = loginPath → request.method ∈ loginAllowedMethods) ∧
        (request.TooLargeLogin ∨ outcome = .ok ()) := by
  unfold handleRequest
  by_cases login : normalizedPath request.path = loginPath
  · simp only [login, if_true, true_implies]
    exact handleLogin_recorded_iff honeypot stamp request outcome login
  · have regular : ¬ request.TooLargeLogin := fun large => login large.1
    simp only [login, if_false, Recorded, regular, false_implies, not_false_eq_true, true_implies,
      true_and, false_or]
    exact emitThenRespond_recorded_iff request _ outcome _
      (attackEvent_tells honeypot stamp request _ (requestEventData request) rfl rfl)
      (determineResponse_status request.method request.path)

/-- `PUT /login` is answered 405 and leaves no event: the branch of that answer
returns before the event is made. -/
theorem put_login_unrecorded :
    ∃ (honeypot : HTTPHoneypot) (stamp : Stamp) (request : Request),
      (handleRequest honeypot stamp request (.ok ())).emitted = [] ∧
      (handleRequest honeypot stamp request (.ok ())).status = 405 ∧
      ¬ Recorded request (handleRequest honeypot stamp request (.ok ())) := by
  let honeypot : HTTPHoneypot := { reportedPort := 80, maxCredentialLengthRaw := some 256 }
  let stamp : Stamp := someStamp
  let request : Request := { method := literal "PUT", path := literal "/login" }
  have silent : (handleRequest honeypot stamp request (.ok ())).emitted = [] := by decide
  have refused : (handleRequest honeypot stamp request (.ok ())).status = 405 := by decide
  refine ⟨honeypot, stamp, request, silent, refused, fun recorded => ?_⟩
  by_cases large : request.TooLargeLogin
  · exact absurd large.2.1 (by decide)
  · obtain ⟨event, emitted, _⟩ := recorded.2 large
    rw [silent] at emitted
    contradiction

end Honeywatch.Honeypot.Http
