import Honeywatch.Honeypot.Connection

/-!
# The limit of the password attempts

What `asyncssh` calls on one connection, and what `validate_password` does once
its emit is over: it compares the attempts with `ssh_max_auth_attempts`, records
that they have reached it, and returns `False` as before. The library reports a
failure to the client, which may send a further password. Nothing of this ends
the connection; only the client or the login timeout does.
-/

namespace Honeywatch.Honeypot.Ssh

open Transition Text Json Collector

/-- One connection: its instance, how far it has come, the events it has passed
to `emit_event`, the `attempts` of its `max_attempts_reached` records, and what
`validate_password` has returned. -/
structure Session where
  server : SSHHoneypotServer
  phase : Phase
  emitted : List AttackEvent
  maxAttemptsReached : List Nat
  validated : List Bool

/-- The library calls a callback, with the outcome of the emit if it makes one;
or the connection ends, by the client or by the login timeout. -/
inductive SessionMove
  | calls (callback : Callback) (outcome : Except Raised Unit)
  | ends (connectionDuration : Decimal) (stamp : Stamp)

/-- The move is a password that the client sends. -/
def SessionMove.isPassword : SessionMove → Bool
  | .calls callback _ => callback.isAttempt
  | .ends _ _ => false

/-- `validate_password` behind its emit, with the attempts counted by then. -/
def Session.validate (session : Session) (maxAuthAttempts : Int) : Session :=
  { session with
    maxAttemptsReached :=
      if maxAuthAttempts ≤ session.server.attempts then
        session.maxAttemptsReached ++ [session.server.attempts]
      else session.maxAttemptsReached
    validated := session.validated ++ [false] }

/-- A callback runs up to its emit. -/
def Session.call (port : Int) (session : Session) (callback : Callback) (phase : Phase) :
    Session :=
  let called := Ssh.callback port session.server callback
  { session with
    server := called.1
    phase
    emitted := session.emitted ++ called.2.toList }

/-- One connection of a honeypot. -/
def session (port maxAuthAttempts : Int) : System Session SessionMove where
  step session move :=
    match move with
    | .calls callback outcome =>
      if session.phase.admits callback then
        let called := session.call port callback .made
        match callback.isAttempt, outcome with
        | true, .ok _ => some (called.validate maxAuthAttempts)
        | _, _ => some called
      else none
    | .ends connectionDuration stamp =>
      if session.phase = .made then
        some (session.call port (.connectionLost connectionDuration stamp true) .lost)
      else none

/-- A connection that has been accepted. -/
def Session.accepted : Session :=
  { server := .init, phase := .accepted, emitted := [], maxAttemptsReached := []
    validated := [] }

/-- The attempts that the connection has left. -/
def Session.loginAttempts (session : Session) : Nat :=
  session.emitted.countP (ofType "ssh_login_attempt")

/-- A session has one event more for each password callback, -/
theorem call_loginAttempts (port : Int) (session : Session) (callback : Callback)
    (phase : Phase) :
    (session.call port callback phase).loginAttempts =
      session.loginAttempts + if callback.isAttempt then 1 else 0 := by
  simp only [Session.loginAttempts, Session.call, List.countP_append, callback_attempt]

/-- and so the counter of its instance goes with it. The limit is compared with this
counter. -/
theorem call_attempts (port : Int) (session : Session) (callback : Callback) (phase : Phase) :
    (session.call port callback phase).server.attempts =
      session.server.attempts + if callback.isAttempt then 1 else 0 :=
  callback_attempts port session.server callback

variable {port maxAuthAttempts : Int} {before after : Session} {move : SessionMove}

/-- A move changes the instance and the events by its callback. What comes behind
the emit of an attempt leaves both alone. -/
theorem session_step (taken : (session port maxAuthAttempts).step before move = some after) :
    after.loginAttempts = before.loginAttempts + (if move.isPassword then 1 else 0) ∧
      after.server.attempts = before.server.attempts + (if move.isPassword then 1 else 0) := by
  cases move with
  | calls callback outcome =>
    simp only [session] at taken
    split at taken
    · have counted := call_loginAttempts port before callback .made
      have started := call_attempts port before callback .made
      split at taken
      · obtain rfl := Option.some.inj taken
        exact ⟨counted, started⟩
      · obtain rfl := Option.some.inj taken
        exact ⟨counted, started⟩
    · cases taken
  | ends connectionDuration stamp =>
    simp only [session] at taken
    split at taken
    · obtain rfl := Option.some.inj taken
      exact ⟨call_loginAttempts port before _ .lost, call_attempts port before _ .lost⟩
    · cases taken

/-- Every password that is sent leaves an event, and the counter of the instance
counts it. -/
theorem session_attempts (schedule : List SessionMove) (start final : Session)
    (reached : (session port maxAuthAttempts).run start schedule = some final) :
    final.loginAttempts = start.loginAttempts + schedule.countP SessionMove.isPassword ∧
      final.server.attempts =
        start.server.attempts + schedule.countP SessionMove.isPassword := by
  induction schedule generalizing start with
  | nil =>
    have same : start = final := Option.some.inj reached
    subst same
    exact ⟨rfl, rfl⟩
  | cons move rest inductionHypothesis =>
    obtain ⟨next, taken, remaining⟩ := (System.run_cons_iff _ start final move rest).mp reached
    obtain ⟨counted, started⟩ := session_step taken
    obtain ⟨left, tried⟩ := inductionHypothesis next remaining
    rw [List.countP_cons]
    exact ⟨by omega, by omega⟩

/-- For every limit and every sequence of callbacks that `asyncssh` can produce on
one connection, however the emits end: the connection leaves at most as many
`ssh_login_attempt` events as the limit allows exactly when the client sends at
most as many passwords before the connection ends. -/
theorem attempts_within_limit_iff (port maxAuthAttempts : Int) (schedule : List SessionMove)
    (final : Session)
    (reached : (session port maxAuthAttempts).run .accepted schedule = some final) :
    (final.loginAttempts : Int) ≤ maxAuthAttempts ↔
      (schedule.countP SessionMove.isPassword : Int) ≤ maxAuthAttempts := by
  have counted := (session_attempts schedule .accepted final reached).1
  have none_before : Session.accepted.loginAttempts = 0 := rfl
  rw [none_before, Nat.zero_add] at counted
  rw [counted]

/-- A client that sends the same password again and again, and then leaves. -/
def guesses (count : Nat) : List SessionMove :=
  .calls (.connectionMade (some ("10.0.0.1".toList, 4711)) none) (.ok ()) ::
    .calls (.beginAuth "root".toList) (.ok ()) ::
      List.replicate count
          (.calls (.validatePassword "root".toList "123456".toList none .zero someStamp) (.ok ())) ++
        [.ends .zero someStamp]

/-- Two guesses stay within a limit of two. -/
theorem attempts_within_limit_iff_two :
    ∃ final, (session 22 2).run .accepted (guesses 2) = some final ∧
      ((final.loginAttempts : Int) ≤ 2 ↔
        ((guesses 2).countP SessionMove.isPassword : Int) ≤ 2) :=
  ⟨_, rfl, attempts_within_limit_iff 22 2 (guesses 2) _ rfl⟩

/-- With the default limit of ten, the eleventh password is an eleventh event. The
limit has been recorded twice by then. -/
theorem eleventh_attempt_recorded :
    ∃ final, (session 22 10).run .accepted (guesses 11) = some final ∧
      final.loginAttempts = 11 ∧ final.maxAttemptsReached = [10, 11] :=
  ⟨_, rfl, by decide, by decide⟩

end Honeywatch.Honeypot.Ssh
