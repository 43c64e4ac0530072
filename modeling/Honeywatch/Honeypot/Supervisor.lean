import Honeywatch.Foundation.Transition

/-!
# Honeypots that are started again

`run_honeypot_with_restart` over the `start` and the `stop` of either honeypot,
cut at its awaits. A crash of `start` is followed by a delay and another call of
it on the same object, without a `stop` in between. So what an earlier call has
created is still there: the flush loop goes on, while its place in `_flush_task`
is taken by the next one, and `stop` ends the last one only.

Whether an await returns, raises or is cancelled is left to the environment. A
flush loop never returns, but it may raise.
-/

namespace Honeywatch.Honeypot

open Transition

/-- `MAX_CONSECUTIVE_CRASHES`. -/
def maxConsecutiveCrashes : Nat := 5

/-- The honeypots of `run_all_honeypots`. -/
inductive Service
  | ssh
  | http
deriving DecidableEq, Repr

/-- The awaits of `start`: of `SSHHoneypot` the first two, of `HTTPHoneypot` the
others. -/
inductive StartPoint
  | createServer
  | waitClosed
  | setup
  | siteStart
  | forever
deriving DecidableEq, Repr

/-- The awaits of `stop`: of `stop_flush_loop`, of `SSHHoneypot` and of
`HTTPHoneypot`. -/
inductive StopPoint
  | flushTask
  | serverClosed
  | siteStop
  | runnerCleanup
deriving DecidableEq, Repr

/-- Where `run_honeypot_with_restart` stands. A task that was created waits for
its first turn. -/
inductive Standing
  | scheduled
  | starting (point : StartPoint)
  | delaying
  | stopping (point : StopPoint)
  | ended
deriving DecidableEq, Repr

/-- The task of `run_honeypot_with_restart` and its honeypot: which of `_server`,
`_runner` and `_site` are set, and the flush loops, numbered as they were
created, of which some are alive. -/
structure Supervisor where
  service : Service
  standing : Standing
  consecutiveCrashes : Nat
  server : Bool
  runner : Bool
  site : Bool
  flushTask : Option Nat
  created : Nat
  living : List Nat
deriving DecidableEq, Repr

/-- What happens to it: its task takes its first turn or its delay is over, and
the host keys can be had or not; an await returns or raises; the task is
cancelled; a flush loop raises. -/
inductive Turn
  | enter (hostKeys : Bool)
  | returns
  | raises
  | cancelled
  | loopRaises (loop : Nat)
deriving DecidableEq, Repr

/-- A honeypot whose task has just been created. -/
def Supervisor.initial (service : Service) : Supervisor :=
  { service, standing := .scheduled, consecutiveCrashes := 0, server := false, runner := false
    site := false, flushTask := none, created := 0, living := [] }

namespace Supervisor

/-- `start_flush_loop`. -/
def startFlushLoop (supervisor : Supervisor) : Supervisor :=
  { supervisor with
    flushTask := some supervisor.created
    created := supervisor.created + 1
    living := supervisor.living ++ [supervisor.created] }

/-- `stop` behind `stop_flush_loop`. -/
def stopServer (supervisor : Supervisor) : Supervisor :=
  match supervisor.service with
  | .ssh =>
    { supervisor with
      standing := if supervisor.server then .stopping .serverClosed else .ended }
  | .http =>
    { supervisor with
      standing :=
        if supervisor.site then .stopping .siteStop
        else if supervisor.runner then .stopping .runnerCleanup
        else .ended }

/-- `stop` up to its first await. A loop that has raised raises again where it is
awaited, and `stop` with it. -/
def stop (supervisor : Supervisor) : Supervisor :=
  match supervisor.flushTask with
  | none => supervisor.stopServer
  | some loop =>
    if loop ∈ supervisor.living then { supervisor with standing := .stopping .flushTask }
    else { supervisor with standing := .ended }

/-- The except clause for a crash. -/
def crashed (supervisor : Supervisor) : Supervisor :=
  let consecutiveCrashes := supervisor.consecutiveCrashes + 1
  if maxConsecutiveCrashes ≤ consecutiveCrashes then { supervisor with consecutiveCrashes }.stop
  else { supervisor with consecutiveCrashes, standing := .delaying }

/-- Whether `start` comes to `start_flush_loop`: the host keys are needed first. -/
def startsLoop (supervisor : Supervisor) (hostKeys : Bool) : Bool :=
  match supervisor.service with
  | .ssh => hostKeys
  | .http => true

/-- `start` up to its first await. -/
def start (supervisor : Supervisor) (hostKeys : Bool) : Supervisor :=
  if supervisor.startsLoop hostKeys then
    match supervisor.service with
    | .ssh => { supervisor.startFlushLoop with standing := .starting .createServer }
    | .http => { supervisor.startFlushLoop with runner := true, standing := .starting .setup }
  else supervisor.crashed

/-- The flush loop that `stop` has cancelled is over. -/
def loopOver (supervisor : Supervisor) : Supervisor :=
  { supervisor with
    living := supervisor.living.filter fun loop => decide (supervisor.flushTask ≠ some loop) }

/-- One turn of the task or of a flush loop. A cancellation during the delay
leaves the task at once, since it strikes inside of an except clause; one that
strikes while `stop` awaits the flush loop is taken for the end of the loop. -/
def step (supervisor : Supervisor) (turn : Turn) : Option Supervisor :=
  match supervisor.standing, turn with
  | .scheduled, .enter hostKeys | .delaying, .enter hostKeys => some (supervisor.start hostKeys)
  | .scheduled, .cancelled | .delaying, .cancelled => some { supervisor with standing := .ended }
  | .starting .createServer, .returns =>
    some { supervisor with server := true, standing := .starting .waitClosed }
  | .starting .waitClosed, .returns => some supervisor.stop
  | .starting .setup, .returns =>
    some { supervisor with site := true, standing := .starting .siteStart }
  | .starting .siteStart, .returns => some { supervisor with standing := .starting .forever }
  | .starting .forever, .returns | .starting .forever, .raises => none
  | .starting _, .raises => some supervisor.crashed
  | .starting _, .cancelled => some supervisor.stop
  | .stopping .flushTask, .returns => some supervisor.loopOver.stopServer
  | .stopping .flushTask, .raises => some { supervisor.loopOver with standing := .ended }
  | .stopping .flushTask, .cancelled => some supervisor
  | .stopping .serverClosed, .returns =>
    some { supervisor with server := false, standing := .ended }
  | .stopping .siteStop, .returns =>
    some { supervisor with
      standing := if supervisor.runner then .stopping .runnerCleanup else .ended }
  | .stopping _, .returns | .stopping _, .raises | .stopping _, .cancelled =>
    some { supervisor with standing := .ended }
  | standing, .loopRaises loop =>
    if loop ∈ supervisor.living ∧
        ¬ (standing = .stopping .flushTask ∧ supervisor.flushTask = some loop) then
      some { supervisor with living := supervisor.living.erase loop }
    else none
  | _, _ => none

/-- The supervisor of one honeypot, whatever happens. -/
def system : System Supervisor Turn where
  step := step

/-- What a turn can do, for the proofs about every turn. -/
inductive Took (supervisor : Supervisor) : Turn → Supervisor → Prop
  | entered (hostKeys : Bool)
      (waiting : supervisor.standing = .scheduled ∨ supervisor.standing = .delaying) :
      Took supervisor (.enter hostKeys) (supervisor.start hostKeys)
  | abandoned (waiting : supervisor.standing = .scheduled ∨ supervisor.standing = .delaying) :
      Took supervisor .cancelled { supervisor with standing := .ended }
  | advanced (point later : StartPoint) (server site : Bool)
      (starting : supervisor.standing = .starting point) :
      Took supervisor .returns { supervisor with server, site, standing := .starting later }
  | closed (starting : supervisor.standing = .starting .waitClosed) :
      Took supervisor .returns supervisor.stop
  | crashed (point : StartPoint) (starting : supervisor.standing = .starting point) :
      Took supervisor .raises supervisor.crashed
  | cancelled (point : StartPoint) (starting : supervisor.standing = .starting point) :
      Took supervisor .cancelled supervisor.stop
  | loopOver (stopping : supervisor.standing = .stopping .flushTask) :
      Took supervisor .returns supervisor.loopOver.stopServer
  | loopFailed (stopping : supervisor.standing = .stopping .flushTask) :
      Took supervisor .raises { supervisor.loopOver with standing := .ended }
  | swallowed (stopping : supervisor.standing = .stopping .flushTask) :
      Took supervisor .cancelled supervisor
  | stopped (turn : Turn) (point : StopPoint) (server : Bool) (standing : Standing)
      (stopping : supervisor.standing = .stopping point) (beyond : point ≠ .flushTask)
      (after : standing = .ended ∨ standing = .stopping .runnerCleanup) :
      Took supervisor turn { supervisor with server, standing }
  | loopRaised (loop : Nat) (living : loop ∈ supervisor.living) :
      Took supervisor (.loopRaises loop)
        { supervisor with living := supervisor.living.erase loop }

variable {supervisor next : Supervisor}

/-- An await that returns goes on with `start` or `stop`. The server that closes and
the loop that has ended lead to `stop`, and the site's end to the runner. -/
theorem took_of_returns (taken : supervisor.step .returns = some next) :
    supervisor.Took .returns next := by
  cases standing : supervisor.standing with
  | starting point =>
    cases point with
    | createServer | setup | siteStart =>
      simp only [step, standing, Option.some.injEq] at taken
      exact taken ▸ .advanced _ _ _ _ standing
    | waitClosed =>
      simp only [step, standing, Option.some.injEq] at taken
      exact taken ▸ .closed standing
    | forever => simp [step, standing] at taken
  | stopping point =>
    cases point with
    | flushTask =>
      simp only [step, standing, Option.some.injEq] at taken
      exact taken ▸ .loopOver standing
    | serverClosed | runnerCleanup =>
      simp only [step, standing, Option.some.injEq] at taken
      exact taken ▸ .stopped _ _ _ _ standing (by simp) (.inl rfl)
    | siteStop =>
      simp only [step, standing, Option.some.injEq] at taken
      refine taken ▸ .stopped _ _ _ _ standing (by simp) ?_
      split
      · exact .inr rfl
      · exact .inl rfl
  | scheduled | delaying | ended => simp [step, standing] at taken

/-- An await that raises is a crash of `start`, or the end of `stop`. The sleep without
end is not among them: nothing but a cancellation ends it. -/
theorem took_of_raises (taken : supervisor.step .raises = some next) :
    supervisor.Took .raises next := by
  cases standing : supervisor.standing with
  | starting point =>
    cases point with
    | createServer | waitClosed | setup | siteStart =>
      simp only [step, standing, Option.some.injEq] at taken
      exact taken ▸ .crashed _ standing
    | forever => simp [step, standing] at taken
  | stopping point =>
    cases point with
    | flushTask =>
      simp only [step, standing, Option.some.injEq] at taken
      exact taken ▸ .loopFailed standing
    | serverClosed | siteStop | runnerCleanup =>
      simp only [step, standing, Option.some.injEq] at taken
      exact taken ▸ .stopped _ _ _ _ standing (by simp) (.inl rfl)
  | scheduled | delaying | ended => simp [step, standing] at taken

/-- A cancellation ends the task where it waits, and leads to `stop` out of `start`.
The await of the flush loop swallows it; behind that one it ends `stop`. -/
theorem took_of_cancelled (taken : supervisor.step .cancelled = some next) :
    supervisor.Took .cancelled next := by
  cases standing : supervisor.standing with
  | scheduled =>
    simp only [step, standing, Option.some.injEq] at taken
    exact taken ▸ .abandoned (.inl standing)
  | delaying =>
    simp only [step, standing, Option.some.injEq] at taken
    exact taken ▸ .abandoned (.inr standing)
  | starting point =>
    simp only [step, standing, Option.some.injEq] at taken
    exact taken ▸ .cancelled point standing
  | stopping point =>
    cases point with
    | flushTask =>
      simp only [step, standing, Option.some.injEq] at taken
      exact taken ▸ .swallowed standing
    | serverClosed | siteStop | runnerCleanup =>
      simp only [step, standing, Option.some.injEq] at taken
      exact taken ▸ .stopped _ _ _ _ standing (by simp) (.inl rfl)
  | ended => simp [step, standing] at taken

/-- Every turn of a supervisor is one of the listed ones. The cases are the turns
and where the supervisor stands, so no invariant of it has to unfold the step again.
-/
theorem took_of_step {turn : Turn} (taken : supervisor.step turn = some next) :
    supervisor.Took turn next := by
  cases turn with
  | enter hostKeys =>
    cases standing : supervisor.standing with
    | scheduled =>
      simp only [step, standing, Option.some.injEq] at taken
      exact taken ▸ .entered hostKeys (.inl standing)
    | delaying =>
      simp only [step, standing, Option.some.injEq] at taken
      exact taken ▸ .entered hostKeys (.inr standing)
    | starting _ | stopping _ | ended => simp [step, standing] at taken
  | returns => exact took_of_returns taken
  | raises => exact took_of_raises taken
  | cancelled => exact took_of_cancelled taken
  | loopRaises loop =>
    simp only [step] at taken
    split at taken
    · rename_i raised
      obtain rfl := Option.some.inj taken
      exact .loopRaised loop raised.1
    · cases taken

end Supervisor

end Honeywatch.Honeypot
