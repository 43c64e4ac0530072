import Honeywatch.Foundation.Transition
import Honeywatch.Frontend.Dashboard

/-!
# The application

`App` shows the login page or one of the pages behind it, by a flag of its own. The
credentials are in `localStorage`, where the API client keeps them. The flag is read
from there once, when the application starts; afterwards a login that succeeds sets it
and the logout button clears it.

The pages call the API when they are mounted, on their timers and on what the user
does. Every caller deals with its errors by itself, and none of them has a way to the
flag.
-/

namespace Honeywatch.Frontend.App

open Text Transition

inductive View
  | dashboard | events
  deriving DecidableEq

/-- Who calls `fetchWithAuth`: a hook of the dashboard, `useEventList`, or the effect
of the event list that looks up countries. -/
inductive Caller
  | hook (hook : Dashboard.Hook)
  | eventList
  | ipGeo

/-- The page that a caller is part of. -/
def Caller.page : Caller → View
  | hook _ => .dashboard
  | eventList | ipGeo => .events

/-- What a caller does with an `AuthError`. -/
inductive Catch
  /-- The message goes to the hook's own `error`. -/
  | setError
  /-- Thrown again out of `load`, which nothing awaits. -/
  | rethrow
  /-- The address has no country. -/
  | fallback
  deriving DecidableEq

def Caller.catch : Caller → Catch
  | hook _ => .setError
  | eventList => .rethrow
  | ipGeo => .fallback

/-- The calls that the effects of a page make when it is mounted. -/
def View.effects : View → List Caller
  | .dashboard => Dashboard.Hook.all.map .hook
  | .events => [.eventList]

/-- What is on the screen. -/
inductive Screen
  | loginPage
  | page (view : View)
  deriving DecidableEq

structure State where
  credentials : Credentials
  authed : Bool
  view : View
  /-- The effects of the page are yet to run. -/
  mounting : Bool
  /-- `login` waits for its response. -/
  signingIn : Bool
  calls : List Caller
  /-- What has become of the `AuthError`s. -/
  caught : List Catch

/-- A start of the application, with what is stored. -/
def start (credentials : Credentials) : State :=
  { credentials, authed := isAuthenticated credentials, view := .dashboard
    mounting := isAuthenticated credentials, signingIn := false, calls := [], caught := [] }

/-- `App`. -/
def State.screen (state : State) : Screen :=
  if !state.authed then .loginPage else .page state.view

/-- The error reaches its caller, and ends there. -/
def State.authError (state : State) (caller : Caller) : State :=
  { state with caught := state.caught ++ [caller.catch] }

/-- `fetchWithAuth` is called: without credentials there is no request. -/
def State.call (state : State) (caller : Caller) : State :=
  match state.credentials with
  | none => state.authError caller
  | some _ => { state with calls := state.calls ++ [caller] }

inductive Move
  | submit (username password : Str)
  | loginAnswer (answer : Answer Unit)
  | navigate (view : View)
  | logout
  /-- The effects of the page that has been mounted. -/
  | effects
  /-- A timer, or what the user has done, or an effect after an answer. -/
  | call (caller : Caller)
  | answer (index : Nat) (answer : Answer Unit)
  | reload

/-- `btoa` is `none` where it throws. -/
def step (btoa : Str → Option Str) (state : State) : Move → Option State
  | .submit username password =>
    if state.authed || state.signingIn then none
    else
      match btoa (username ++ literal ":" ++ password) with
      | none => some state
      | some encoded => some { state with credentials := some encoded, signingIn := true }
  | .loginAnswer answer =>
    if !state.signingIn then none
    else
      let answered := { state with
        credentials := login state.credentials answer, signingIn := false }
      match answer with
      | .success _ => some { answered with authed := true, mounting := true }
      | _ => some answered
  | .navigate view =>
    if !state.authed then none
    else if view = state.view then some state
    else some { state with view, mounting := true }
  | .logout =>
    if !state.authed then none
    else some { state with credentials := none, authed := false, mounting := false }
  | .effects =>
    if state.mounting then
      some (state.view.effects.foldl State.call { state with mounting := false })
    else none
  | .call caller =>
    if state.screen = .page caller.page && !state.mounting then some (state.call caller) else none
  | .answer index answer =>
    match state.calls[index]? with
    | none => none
    | some caller =>
      let answered := { state with
        credentials := fetchWithAuth state.credentials answer
        calls := state.calls.eraseIdx index }
      match answer with
      | .unauthorized => some (answered.authError caller)
      | _ => some answered
  | .reload => some (start state.credentials)

def system (btoa : Str → Option Str) : System State Move where
  step := step btoa

/-- No effect and no promise is pending. -/
structure Settled (state : State) : Prop where
  mounted : state.mounting = false
  signedIn : state.signingIn = false
  answered : state.calls = []

/-- A page behind the login is shown only if credentials are stored. -/
def Guarded (state : State) : Prop :=
  ∀ view, state.screen = .page view → state.credentials.isSome = true

end Honeywatch.Frontend.App
