import Honeywatch.Frontend.App

/-!
# Back to the login page

A response 401 discards the stored credentials, and its error stays with the caller:
the flag of `App` is not among the things a caller can change. So a 401 that reaches a
page leaves that page on the screen, with every further call failing, until the user
logs out or loads the application anew.
-/

namespace Honeywatch.Frontend.App

open Text Transition

variable {btoa : Str → Option Str} {state next : State}

/-- No 401 reaches a call while a page is shown, and a login succeeds while what it has
stored is still there. -/
def Accepted (state : State) : Move → Prop
  | .answer _ .unauthorized => state.screen = .loginPage
  | .loginAnswer (.success _) => state.credentials.isSome = true
  | _ => True

/-- A login is under way only on the login page. -/
def Exclusive (state : State) : Prop := state.signingIn = true → state.authed = false

/-- A page is on the screen exactly when the flag is set; which one, the view says.
So everything about what is shown is a matter of two fields of the state. -/
theorem screen_eq_page {view : View} :
    state.screen = .page view ↔ state.authed = true ∧ state.view = view := by
  unfold State.screen
  cases state.authed <;> simp

/-- Otherwise the login page is. -/
theorem screen_eq_login : state.screen = .loginPage ↔ state.authed = false := by
  unfold State.screen
  cases state.authed <;> simp

/-- The pages are behind the login exactly when the flag is never set without
credentials. This is the form in which the moves are checked. -/
theorem guarded_iff : Guarded state ↔ (state.authed = true → state.credentials.isSome = true) := by
  simp only [Guarded, screen_eq_page]
  exact ⟨fun guarded authed => guarded state.view ⟨authed, rfl⟩,
    fun guarded view shown => guarded shown.1⟩

/-- What the guard is about: the flag, what is stored, and a login under way. -/
def State.vital (state : State) : Bool × Credentials × Bool :=
  (state.authed, state.credentials, state.signingIn)

/-- The three fields that decide about the screen and about what may change it. -/
theorem vital_eq {authed : Bool} {credentials : Credentials} {signingIn : Bool} :
    state.vital = (authed, credentials, signingIn) ↔
      state.authed = authed ∧ state.credentials = credentials ∧ state.signingIn = signingIn := by
  simp [State.vital]

/-- A call leaves all of this as it is. -/
theorem call_vital (state : State) (caller : Caller) : (state.call caller).vital = state.vital := by
  cases stored : state.credentials <;> simp [State.call, State.authError, State.vital, stored]

/-- The requests that a page sends when it is shown change none of them, however
many components send one. By induction over the callers. -/
theorem calls_vital (callers : List Caller) (state : State) :
    (callers.foldl State.call state).vital = state.vital := by
  induction callers generalizing state with
  | nil => rfl
  | cons caller rest inductionHypothesis =>
    rw [List.foldl_cons, inductionHypothesis, call_vital]

/-- What a move does to it. -/
inductive Step (state : State) : Move → State → Prop
  | kept {move : Move} {next : State} (accepted : Accepted state move)
      (same : next.vital = state.vital) : Step state move next
  | submitted (username password encoded : Str) {next : State}
      (loginPage : state.authed = false) (vital : next.vital = (false, some encoded, true)) :
      Step state (.submit username password) next
  | loggedIn (body : Unit) {next : State} (waiting : state.signingIn = true)
      (vital : next.vital = (true, state.credentials, false)) :
      Step state (.loginAnswer (.success body)) next
  | failed (answer : Answer Unit) {next : State} (waiting : state.signingIn = true)
      (accepted : Accepted state (.loginAnswer answer))
      (vital : next.vital = (state.authed, none, false)) : Step state (.loginAnswer answer) next
  | loggedOut {next : State} (shown : state.authed = true)
      (vital : next.vital = (false, none, state.signingIn)) : Step state .logout next
  | rejected (index : Nat) {next : State}
      (vital : next.vital = (state.authed, none, state.signingIn)) :
      Step state (.answer index .unauthorized) next
  | restarted {next : State}
      (vital : next.vital = (isAuthenticated state.credentials, state.credentials, false)) :
      Step state .reload next

/-- Every move is one of these, each with its guard and with what it changes, so
that no proof has to unfold the step. -/
theorem step_cases {move : Move} (taken : step btoa state move = some next) :
    Step state move next := by
  cases move with
  | submit username password =>
    simp only [step] at taken
    split_ifs at taken with closed
    have loginPage : state.authed = false := by
      simp only [Bool.or_eq_true, not_or, Bool.not_eq_true] at closed
      exact closed.1
    cases encoded : btoa (username ++ literal ":" ++ password) with
    | none =>
      simp only [encoded, Option.some.injEq] at taken
      exact .kept trivial (taken ▸ rfl)
    | some text =>
      simp only [encoded, Option.some.injEq] at taken
      refine .submitted username password text loginPage ?_
      rw [← taken, State.vital, loginPage]
  | loginAnswer answer =>
    simp only [step] at taken
    split_ifs at taken with idle
    have waiting : state.signingIn = true := by simpa using idle
    cases answer with
    | success body =>
      cases taken
      exact .loggedIn body waiting rfl
    | unauthorized | refused _ _ | thrown _ =>
      cases taken
      exact .failed _ waiting trivial rfl
  | navigate view =>
    simp only [step] at taken
    split_ifs at taken
    · cases taken
      exact .kept trivial rfl
    · cases taken
      exact .kept trivial rfl
  | logout =>
    simp only [step] at taken
    split_ifs at taken with hidden
    cases taken
    exact .loggedOut (by simpa using hidden) rfl
  | effects =>
    simp only [step] at taken
    split_ifs at taken
    cases taken
    exact .kept trivial (calls_vital _ _)
  | call caller =>
    simp only [step] at taken
    split_ifs at taken
    cases taken
    exact .kept trivial (call_vital state caller)
  | answer index answer =>
    simp only [step] at taken
    split at taken
    · cases taken
    · cases answer with
      | unauthorized =>
        cases taken
        exact .rejected index rfl
      | success _ | refused _ _ | thrown _ =>
        cases taken
        exact .kept trivial rfl
  | reload =>
    cases taken
    exact .restarted rfl

/-- A login under way stays on the login page: there is no way to the pages but its
answer. -/
theorem step_exclusive {move : Move} (exclusive : Exclusive state)
    (taken : step btoa state move = some next) : Exclusive next := by
  intro waits
  cases step_cases taken with
  | kept accepted same =>
    obtain ⟨authed, -, signingIn⟩ := vital_eq.mp same
    rw [authed]
    exact exclusive (signingIn ▸ waits)
  | submitted username password encoded loginPage vital => exact (vital_eq.mp vital).1
  | loggedIn body waiting vital =>
    rw [(vital_eq.mp vital).2.2] at waits
    cases waits
  | failed answer waiting accepted vital =>
    rw [(vital_eq.mp vital).2.2] at waits
    cases waits
  | loggedOut shown vital => exact (vital_eq.mp vital).1
  | rejected index vital =>
    obtain ⟨authed, -, signingIn⟩ := vital_eq.mp vital
    rw [authed]
    exact exclusive (signingIn ▸ waits)
  | restarted vital =>
    rw [(vital_eq.mp vital).2.2] at waits
    cases waits

/-- A move keeps the guard exactly when it is accepted. Only a 401 discards
credentials behind the back of `App`, and only a login that lost its own shows a
page without any. -/
theorem step_guarded {move : Move} (exclusive : Exclusive state) (guarded : Guarded state)
    (taken : step btoa state move = some next) : Guarded next ↔ Accepted state move := by
  rw [guarded_iff] at guarded ⊢
  cases step_cases taken with
  | kept accepted same =>
    obtain ⟨authed, credentials, -⟩ := vital_eq.mp same
    rw [authed, credentials]
    exact iff_of_true guarded accepted
  | submitted username password encoded loginPage vital =>
    rw [(vital_eq.mp vital).1]
    exact iff_of_true nofun trivial
  | loggedIn body waiting vital =>
    obtain ⟨authed, credentials, -⟩ := vital_eq.mp vital
    rw [authed, credentials]
    exact imp_iff_right rfl
  | failed answer waiting accepted vital =>
    rw [(vital_eq.mp vital).1, exclusive waiting]
    exact iff_of_true nofun accepted
  | loggedOut shown vital =>
    rw [(vital_eq.mp vital).1]
    exact iff_of_true nofun trivial
  | rejected index vital =>
    obtain ⟨authed, credentials, -⟩ := vital_eq.mp vital
    rw [authed, credentials, Accepted, screen_eq_login]
    simp
  | restarted vital =>
    obtain ⟨authed, credentials, -⟩ := vital_eq.mp vital
    rw [authed, credentials]
    exact iff_of_true id trivial

/-- A page that is loaded sets the flag from the stored credentials, so it begins
guarded, -/
theorem start_guarded (credentials : Credentials) : Guarded (start credentials) :=
  guarded_iff.mpr id

/-- and with nobody signing in. -/
theorem start_exclusive (credentials : Credentials) : Exclusive (start credentials) := nofun

/-- Pages without credentials are left by logging out or starting anew only, as
nothing else writes the flag while a page is shown. -/
theorem stranded_step {move : Move} (shown : state.authed = true)
    (discarded : state.credentials = none) (exclusive : Exclusive state)
    (stays : move ≠ .logout ∧ move ≠ .reload) (taken : step btoa state move = some next) :
    next.authed = true ∧ next.credentials = none := by
  have idle : state.signingIn = false := by
    by_contra waiting
    rw [exclusive (by simpa using waiting)] at shown
    cases shown
  cases step_cases taken with
  | kept accepted same =>
    obtain ⟨authed, credentials, -⟩ := vital_eq.mp same
    exact ⟨authed.trans shown, credentials.trans discarded⟩
  | submitted username password encoded loginPage vital => rw [loginPage] at shown; cases shown
  | loggedIn body waiting vital => rw [idle] at waiting; cases waiting
  | failed answer waiting accepted vital => rw [idle] at waiting; cases waiting
  | loggedOut shown vital => exact absurd rfl stays.1
  | rejected index vital =>
    obtain ⟨authed, credentials, -⟩ := vital_eq.mp vital
    exact ⟨authed.trans shown, credentials⟩
  | restarted vital => exact absurd rfl stays.2

/-- Whatever answers, timers and users do besides, such a page stays, settled or
not. The induction is on the schedule, by the step above. -/
theorem stranded_run (schedule : List Move) {final : State} (shown : state.authed = true)
    (discarded : state.credentials = none) (exclusive : Exclusive state)
    (stays : ∀ move ∈ schedule, move ≠ .logout ∧ move ≠ .reload)
    (reached : (system btoa).run state schedule = some final) : ¬Guarded final := by
  have admitted := (system btoa).admitted_of_moves
    (fun move => move ≠ .logout ∧ move ≠ .reload) state schedule stays
  obtain ⟨authed, credentials, -⟩ := (system btoa).admitted_invariant _
    (fun state => state.authed = true ∧ state.credentials = none ∧ Exclusive state)
    (fun state move next held stay taken =>
      have stranded := stranded_step held.1 held.2.1 held.2.2 stay taken
      ⟨stranded.1, stranded.2, step_exclusive held.2.2 taken⟩)
    state final schedule ⟨shown, discarded, exclusive⟩ admitted reached
  rw [guarded_iff, authed, credentials]
  exact fun guarded => Bool.false_ne_true (guarded rfl)

/-- In every run of the application a page behind the login is shown only while
credentials are stored, in every state on the way, exactly when no 401 reaches a call
while a page is shown and no login succeeds after its credentials have been discarded.
In such a run the login page is on the screen after every 401. -/
theorem pages_behind_login_iff (btoa : Str → Option Str) (credentials : Credentials)
    (schedule : List Move) (state : State)
    (reached : (system btoa).run (start credentials) schedule = some state) :
    ((system btoa).Always Guarded (start credentials) schedule ↔
      (system btoa).Admitted Accepted (start credentials) schedule) ∧
      ((system btoa).Admitted Accepted (start credentials) schedule →
        ∀ before index after middle next,
          schedule = before ++ .answer index .unauthorized :: after →
          (system btoa).run (start credentials) before = some middle →
          step btoa middle (.answer index .unauthorized) = some next →
            next.screen = .loginPage) := by
  have guarded_run := (system btoa).always_iff_admitted Accepted Exclusive Guarded
    (fun state move next exclusive taken => step_exclusive exclusive taken)
    (fun state move next exclusive guarded taken => step_guarded exclusive guarded taken)
    (start credentials) state schedule (start_exclusive credentials)
    (start_guarded credentials) reached
  refine ⟨guarded_run, ?_⟩
  intro admitted before index after middle next split run taken
  have accepted : middle.screen = .loginPage :=
    ((system btoa).admitted_iff Accepted (start credentials) schedule).mp admitted
      before _ after middle split run
  rw [screen_eq_login] at accepted ⊢
  cases step_cases taken with
  | kept kept same => rw [(vital_eq.mp same).1, accepted]
  | rejected index vital => rw [(vital_eq.mp vital).1, accepted]

/-- A user logs in, the dashboard asks, is answered once, and the user logs out. -/
def visit : List Move :=
  [.submit (literal "admin") (literal "secret"), .loginAnswer (.success ()), .effects,
    .answer 0 (.success ()), .logout]

/-- A visit in which no answer takes the credentials away from under a page: every
page in it is behind the login. -/
theorem pages_behind_login_iff_visit :
    (system some).Always Guarded (start none) visit := by
  refine (pages_behind_login_iff some none visit _ rfl).1.mpr ?_
  refine ⟨trivial, fun waiting first => ⟨?_, fun shown second => ⟨trivial, fun asked third =>
    ⟨trivial, fun answered fourth => ⟨trivial, fun _ _ => trivial⟩⟩⟩⟩⟩
  cases first
  rfl

/-- The stored credentials are out of date: all eight calls of the dashboard come back
with 401, and with nothing pending the dashboard stays on the screen. -/
theorem dashboard_after_rejection : ∃ state : State,
    (system some).run (start (some (literal "YWRtaW46b2xk")))
        (.effects :: List.replicate 8 (.answer 0 .unauthorized)) = some state ∧
      Settled state ∧ state.screen = .page .dashboard ∧ ¬Guarded state := by
  refine ⟨_, rfl, ⟨rfl, rfl, rfl⟩, rfl, fun guarded => ?_⟩
  have stored := guarded .dashboard rfl
  cases stored

end Honeywatch.Frontend.App
