import Honeywatch.Api.Authentication
import Honeywatch.Frontend.LoginScreen

/-!
# The application in front of the API

Every request carries the credentials that were stored when it was made, and the API
answers it by these. The application is followed together with what its requests under
way were sent with.

A login that is accepted is one of the configured user, and its credentials stay as
they are while a page is shown. So behind an API that keeps its settings no request of a
page is ever answered with 401, as long as the application is not loaded anew while a
login is under way: the credentials of that login are stored already.
-/

namespace Honeywatch.Frontend.App

open Text Transition Config
open Api (Failure HTTPBasicCredentials btoa setCredentials authUser authorization DecodesBasic)

structure Session where
  app : State
  /-- The credentials of the calls under way, in the order of the calls. -/
  sent : List Str
  /-- The credentials of the login under way. -/
  trying : Option Str

def Session.start (credentials : Credentials) : Session :=
  { app := App.start credentials, sent := [], trying := none }

/-- The calls that a move adds carry what is stored. -/
def Session.requests (session : Session) (next : State) : List Str :=
  match session.app.credentials with
  | none => session.sent
  | some credentials =>
    session.sent ++ List.replicate (next.calls.length - session.app.calls.length) credentials

def Session.after (session : Session) (move : Move) (next : State) : Session :=
  match move with
  | .submit username password =>
    { app := next, sent := session.sent, trying := setCredentials username password }
  | .loginAnswer _ => { app := next, sent := session.sent, trying := none }
  | .answer index _ =>
    { app := next, sent := session.sent.eraseIdx index, trying := session.trying }
  | .reload => { app := next, sent := [], trying := none }
  | .effects | .call _ =>
    { app := next, sent := session.requests next, trying := session.trying }
  | .navigate _ | .logout => { session with app := next }

def sessions : System Session Move where
  step session move := (step btoa session.app move).map (session.after move)

/-- The answers that a response of the API comes out as. Whatever the response, it may
fail to arrive or to parse. -/
def Replies (response : Except Failure Str) : Answer Unit → Prop
  | .success _ => ∃ user, response = .ok user
  | .unauthorized => ∃ detail headers, response = .error (.httpException 401 detail headers)
  | .refused _ _ | .thrown _ => True

/-- Requests are answered by what they were sent with, and the application is not loaded
anew while a login is under way. -/
def Answered (respond : Str → Except Failure Str) (session : Session) : Move → Prop
  | .loginAnswer answer =>
    ∀ credentials, session.trying = some credentials → Replies (respond credentials) answer
  | .answer index answer =>
    ∀ credentials, session.sent[index]? = some credentials →
      Replies (respond credentials) answer
  | .reload => session.app.signingIn = false
  | _ => True

instance (response : Except Failure Str) (answer : Answer Unit) :
    Decidable (Replies response answer) :=
  match answer, response with
  | .success _, .ok user => isTrue ⟨user, rfl⟩
  | .success _, .error _ => isFalse nofun
  | .unauthorized, .error (.httpException status detail headers) =>
    decidable_of_iff (status = 401) (by simp [Replies])
  | .unauthorized, .ok _ | .unauthorized, .error .unicodeEncodeError => isFalse nofun
  | .refused _ _, _ | .thrown _, _ => isTrue trivial

instance (respond : Str → Except Failure Str) (session : Session) (move : Move) :
    Decidable (Answered respond session move) :=
  match move with
  | .loginAnswer answer =>
    inferInstanceAs (Decidable
      (∀ credentials ∈ session.trying, Replies (respond credentials) answer))
  | .answer index answer =>
    inferInstanceAs
      (Decidable (∀ credentials ∈ session.sent[index]?, Replies (respond credentials) answer))
  | .reload => inferInstanceAs (Decidable (session.app.signingIn = false))
  | .submit _ _ | .navigate _ | .logout | .effects | .call _ => isTrue trivial

/-- Only credentials that are let in are behind a page and its calls. -/
structure SignedIn (good : Str → Prop) (session : Session) : Prop where
  exclusive : Exclusive session.app
  mounted : session.app.mounting = true → session.app.authed = true
  shown : session.app.authed = true → session.app.credentials.isSome = true
  stored : session.app.signingIn = false →
    ∀ credentials, session.app.credentials = some credentials → good credentials
  trying : session.app.signingIn = true → ∃ username password credentials,
    setCredentials username password = some credentials ∧
      session.trying = some credentials ∧ session.app.credentials = some credentials
  sent : ∀ credentials ∈ session.sent, good credentials
  aligned : session.sent.length = session.app.calls.length
  caught : session.app.caught = []

/-- A page that is loaded with credentials that the API accepts, or with none, shows
the pages to nobody else. -/
theorem start_signedIn {good : Str → Prop} (credentials : Credentials)
    (accepted : ∀ stored, credentials = some stored → good stored) :
    SignedIn good (Session.start credentials) where
  exclusive := start_exclusive credentials
  mounted := id
  shown := id
  stored _ := accepted
  trying := nofun
  sent := nofun
  aligned := rfl
  caught := rfl

/-- With credentials stored, calls are made. -/
theorem call_stored {state : State} {credentials : Str} (caller : Caller)
    (stored : state.credentials = some credentials) :
    state.call caller = { state with calls := state.calls ++ [caller] } := by
  simp [State.call, stored]

/-- While credentials are stored, a request only adds itself to those under way; it
discards nothing. -/
theorem calls_stored {credentials : Str} (callers : List Caller) (state : State)
    (stored : state.credentials = some credentials) :
    callers.foldl State.call state = { state with calls := state.calls ++ callers } := by
  induction callers generalizing state with
  | nil => simp
  | cons caller rest inductionHypothesis =>
    rw [List.foldl_cons, call_stored caller stored,
      inductionHypothesis { state with calls := state.calls ++ [caller] } stored]
    simp

section Step

variable {good : Str → Prop} {session : Session}

/-- Nobody signs in while a page is shown. -/
theorem SignedIn.idle (signedIn : SignedIn good session) (shown : session.app.authed = true) :
    session.app.signingIn = false := by
  by_contra waiting
  rw [signedIn.exclusive (by simpa using waiting)] at shown
  cases shown

/-- The credentials behind a page. -/
theorem SignedIn.behind (signedIn : SignedIn good session) (shown : session.app.authed = true) :
    ∃ credentials, session.app.credentials = some credentials ∧ good credentials := by
  obtain ⟨credentials, stored⟩ := Option.isSome_iff_exists.mp (signedIn.shown shown)
  exact ⟨credentials, stored, signedIn.stored (signedIn.idle shown) credentials stored⟩

/-- Calls of a page are sent with good credentials. Each one reads what is stored
when it is made, and behind a page that is what was let in. -/
theorem SignedIn.calls (signedIn : SignedIn good session) (shown : session.app.authed = true)
    (callers : List Caller) (mounting : Bool)
    (mounted : mounting = true → session.app.authed = true) :
    let next := callers.foldl State.call { session.app with mounting }
    SignedIn good { session with app := next, sent := session.requests next } := by
  obtain ⟨credentials, stored, accepted⟩ := signedIn.behind shown
  have made := calls_stored callers { session.app with mounting } stored
  intro next
  have same : next = { session.app with mounting, calls := session.app.calls ++ callers } := made
  rw [same, Session.requests, stored]
  exact
    { exclusive := signedIn.exclusive
      mounted := mounted
      shown := signedIn.shown
      stored := signedIn.stored
      trying := signedIn.trying
      sent := by
        intro carried member
        rcases List.mem_append.mp member with before | added
        · exact signedIn.sent carried before
        · rw [List.eq_of_mem_replicate added]
          exact accepted
      aligned := by simp [signedIn.aligned]
      caught := signedIn.caught }

/-- An answer to a page's call is no 401, since it was sent with good credentials
and the API answers honestly. -/
theorem SignedIn.answered {respond : Str → Except Failure Str} (signedIn : SignedIn good session)
    (welcome : ∀ credentials, good credentials → ∀ detail headers,
      respond credentials ≠ .error (.httpException 401 detail headers))
    {index : Nat} {caller : Caller} {answer : Answer Unit}
    (pending : session.app.calls[index]? = some caller)
    (honest : Answered respond session (.answer index answer)) : answer ≠ .unauthorized := by
  rintro rfl
  have within : index < session.sent.length := by
    rw [signedIn.aligned]
    exact (List.getElem?_eq_some_iff.mp pending).1
  have carried := List.getElem?_eq_getElem within
  obtain ⟨detail, headers, refused⟩ := honest _ carried
  exact welcome _ (signedIn.sent _ (List.getElem_mem within)) detail headers refused

/-- Nobody is signed in, and nothing is stored. Calls that are still under way keep
the credentials they were sent with. -/
theorem SignedIn.signedOut (signedIn : SignedIn good session) {next : State}
    (mounted : next.mounting = true → next.authed = true) (hidden : next.authed = false)
    (idle : next.signingIn = false) (cleared : next.credentials = none)
    (calls : next.calls = session.app.calls) (caught : next.caught = session.app.caught)
    (trying : Option Str) : SignedIn good { app := next, sent := session.sent, trying } where
  exclusive _ := hidden
  mounted
  shown shown := by rw [hidden] at shown; cases shown
  stored _ credentials stored := by rw [cleared] at stored; cases stored
  trying waits := by rw [idle] at waits; cases waits
  sent := signedIn.sent
  aligned := calls ▸ signedIn.aligned
  caught := caught.trans signedIn.caught

/-- A login begins. Its credentials are stored before they are tried, and no page is shown
meanwhile; what cannot be encoded changes nothing. -/
theorem submit_signedIn (signedIn : SignedIn good session) {username password : Str} {app : State}
    (moved : step btoa session.app (.submit username password) = some app) :
    SignedIn good (session.after (.submit username password) app) := by
  have exclusive := step_exclusive signedIn.exclusive moved
  simp only [step] at moved
  split_ifs at moved with closed
  simp only [Bool.or_eq_true, not_or, Bool.not_eq_true] at closed
  cases encoded : btoa (username ++ literal ":" ++ password) with
  | none =>
    simp only [encoded, Option.some.injEq] at moved
    subst moved
    exact { signedIn with
      trying := fun waits => absurd waits (by simp [Session.after, closed.2]) }
  | some credentials =>
    simp only [encoded, Option.some.injEq] at moved
    subst moved
    exact
      { signedIn with
        exclusive := exclusive
        shown := fun _ => rfl
        stored := fun idle => by cases idle
        trying := fun _ => ⟨username, password, credentials, encoded, encoded, rfl⟩ }

/-- The login ends. With a success its credentials are good ones and stay; otherwise they
are discarded, and nobody is signed in. -/
theorem loginAnswer_signedIn {respond : Str → Except Failure Str}
    (genuine : ∀ username password credentials user,
      setCredentials username password = some credentials →
      respond credentials = .ok user → good credentials)
    (signedIn : SignedIn good session) {answer : Answer Unit} {app : State}
    (honest : Answered respond session (.loginAnswer answer))
    (moved : step btoa session.app (.loginAnswer answer) = some app) :
    SignedIn good (session.after (.loginAnswer answer) app) := by
  have exclusive := step_exclusive signedIn.exclusive moved
  simp only [step] at moved
  split_ifs at moved with idle
  obtain ⟨username, password, credentials, typed, trying, stored⟩ :=
    signedIn.trying (by simpa using idle)
  have hidden := signedIn.exclusive (by simpa using idle)
  cases answer with
  | success body =>
    cases moved
    obtain ⟨user, letIn⟩ := honest credentials trying
    have accepted := genuine username password credentials user typed letIn
    exact
      { signedIn with
        exclusive := exclusive
        mounted := fun _ => rfl
        shown := fun _ => by simp [Session.after, login, stored]
        stored := by
          intro _ other same
          rw [show credentials = other from Option.some.inj (stored.symm.trans same)] at accepted
          exact accepted
        trying := fun waits => by cases waits }
  | unauthorized | refused _ _ | thrown _ =>
    cases moved
    apply signedIn.signedOut
    · exact signedIn.mounted
    · exact hidden
    all_goals rfl

/-- Another page is shown to whom a page was shown already; its calls are made when
it is mounted. -/
theorem navigate_signedIn (signedIn : SignedIn good session) {view : View} {app : State}
    (moved : step btoa session.app (.navigate view) = some app) :
    SignedIn good (session.after (.navigate view) app) := by
  simp only [step] at moved
  split_ifs at moved with hidden same
  · cases moved
    exact signedIn
  · have shown : session.app.authed = true := by simpa using hidden
    cases moved
    exact { signedIn with mounted := fun _ => shown }

/-- A logout discards the credentials. Calls that are under way keep theirs, and
their answers find the login page. -/
theorem logout_signedIn (signedIn : SignedIn good session) {app : State}
    (moved : step btoa session.app .logout = some app) :
    SignedIn good (session.after .logout app) := by
  simp only [step] at moved
  split_ifs at moved with hidden
  cases moved
  have idle := signedIn.idle (by simpa using hidden)
  apply signedIn.signedOut
  · intro mounting
    cases mounting
  · rfl
  · exact idle
  all_goals rfl

/-- An answer to a call takes the call away with its credentials. It is no 401, so the
stored ones stay. -/
theorem answer_signedIn {respond : Str → Except Failure Str}
    (welcome : ∀ credentials, good credentials → ∀ detail headers,
      respond credentials ≠ .error (.httpException 401 detail headers))
    (signedIn : SignedIn good session) {index : Nat} {answer : Answer Unit} {app : State}
    (honest : Answered respond session (.answer index answer))
    (moved : step btoa session.app (.answer index answer) = some app) :
    SignedIn good (session.after (.answer index answer) app) := by
  simp only [step] at moved
  cases pending : session.app.calls[index]? with
  | none => simp [pending] at moved
  | some caller =>
    have accepted := signedIn.answered welcome pending honest
    have within : index < session.app.calls.length := (List.getElem?_eq_some_iff.mp pending).1
    have aligned : (session.sent.eraseIdx index).length =
        (session.app.calls.eraseIdx index).length := by
      rw [List.length_eraseIdx_of_lt within,
        List.length_eraseIdx_of_lt (signedIn.aligned ▸ within), signedIn.aligned]
    have sent : ∀ credentials ∈ session.sent.eraseIdx index, good credentials :=
      fun credentials member => signedIn.sent credentials (List.mem_of_mem_eraseIdx member)
    rw [pending] at moved
    cases answer with
    | unauthorized => exact absurd rfl accepted
    | success _ | refused _ _ | thrown _ =>
      cases moved
      exact { signedIn with sent := sent, aligned := aligned }

/-- A move that is answered honestly keeps the credentials good. The cases are the
moves, and a lemma above settles each of them that touches what is stored or sent.
-/
theorem step_signedIn {respond : Str → Except Failure Str}
    (genuine : ∀ username password credentials user,
      setCredentials username password = some credentials →
      respond credentials = .ok user → good credentials)
    (welcome : ∀ credentials, good credentials → ∀ detail headers,
      respond credentials ≠ .error (.httpException 401 detail headers))
    {move : Move} {next : Session} (signedIn : SignedIn good session)
    (honest : Answered respond session move) (taken : sessions.step session move = some next) :
    SignedIn good next := by
  obtain ⟨app, moved, rfl⟩ := Option.map_eq_some_iff.mp taken
  cases move with
  | submit username password => exact submit_signedIn signedIn moved
  | loginAnswer answer => exact loginAnswer_signedIn genuine signedIn honest moved
  | navigate view => exact navigate_signedIn signedIn moved
  | logout => exact logout_signedIn signedIn moved
  | effects =>
    simp only [step] at moved
    split_ifs at moved with mounting
    cases moved
    exact signedIn.calls (signedIn.mounted mounting) session.app.view.effects false
      fun mounting => by cases mounting
  | call caller =>
    simp only [step] at moved
    split_ifs at moved with possible
    cases moved
    simp only [Bool.and_eq_true, decide_eq_true_eq] at possible
    exact signedIn.calls (screen_eq_page.mp possible.1).1 [caller] session.app.mounting
      signedIn.mounted
  | answer index answer => exact answer_signedIn welcome signedIn honest moved
  | reload =>
    cases moved
    exact start_signedIn session.app.credentials (signedIn.stored honest)

end Step

/-- The credentials of the configured user, while the API lets them in. -/
def Configured (security : Str → Except Failure HTTPBasicCredentials) (settings : APISettings)
    (credentials : Str) : Prop :=
  setCredentials settings.authUser settings.authPassword = some credentials ∧
    authUser security settings (authorization credentials) = .ok settings.authUser

/-- In every run of the application behind an API of fixed settings, started with nothing
stored or with the credentials of the configured user and not loaded anew while a login
is under way, only the configured user sees a page: the credentials stored and those of
every call under way are the configured ones, and no caller has been refused. -/
theorem only_configured_user_sees_pages (security : Str → Except Failure HTTPBasicCredentials)
    (decodes : DecodesBasic security) (settings : APISettings) (credentials : Credentials)
    (initially : ∀ stored, credentials = some stored → Configured security settings stored)
    (schedule : List Move) (session : Session)
    (answered : sessions.Admitted
      (Answered fun credentials => authUser security settings (authorization credentials))
      (Session.start credentials) schedule)
    (reached : sessions.run (Session.start credentials) schedule = some session) :
    (∀ view, session.app.screen = .page view →
      ∃ stored, session.app.credentials = some stored ∧ Configured security settings stored) ∧
      (∀ carried ∈ session.sent, Configured security settings carried) ∧
      session.app.caught = [] := by
  have genuine : ∀ username password credentials user,
      setCredentials username password = some credentials →
      authUser security settings (authorization credentials) = .ok user →
      Configured security settings credentials := by
    intro username password credentials user typed letIn
    obtain ⟨same, input, -⟩ :=
      (Api.authUser_setCredentials_iff decodes typed user).mp letIn
    exact ⟨by rw [← typed, setCredentials, setCredentials, input], same ▸ letIn⟩
  have welcome : ∀ credentials, Configured security settings credentials → ∀ detail headers,
      authUser security settings (authorization credentials) ≠
        .error (.httpException 401 detail headers) := by
    intro credentials configured detail headers refused
    rw [configured.2] at refused
    cases refused
  have signedIn := sessions.admitted_invariant _ (SignedIn (Configured security settings))
    (fun session move next signedIn honest taken =>
      step_signedIn genuine welcome signedIn honest taken)
    (Session.start credentials) session schedule (start_signedIn credentials initially)
    answered reached
  exact ⟨fun view page => signedIn.behind (screen_eq_page.mp page).1, signedIn.sent,
    signedIn.caught⟩

/-- A wrong password, the right one, and the first answers of the dashboard. -/
def visitApi : List Move :=
  [.submit (literal "admin") (literal "wrong"), .loginAnswer .unauthorized,
    .submit (literal "admin") (literal "changeme"), .loginAnswer (.success ()), .effects,
    .answer 0 (.success ()), .answer 3 (.thrown none), .navigate .events]

/-- The configured user signs in, and the list of events is on the screen, with
every answer taken by a mounted page. -/
theorem only_configured_user_sees_pages_admin : ∃ session,
    sessions.run (Session.start none) visitApi = some session ∧
      session.app.screen = .page .events ∧ session.app.caught = [] := by
  refine ⟨_, rfl, rfl, ?_⟩
  exact (only_configured_user_sees_pages Api.httpBasic Api.httpBasic_decodes
    { host := literal "0.0.0.0", port := 8000, authUser := literal "admin"
      authPassword := literal "changeme" } none nofun visitApi _
    (by simpa using (System.admits_iff _
      (fun session move => decide (Answered _ session move)) _ _).mp (by decide)) rfl).2.2

end Honeywatch.Frontend.App
