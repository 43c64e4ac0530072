import Honeywatch.Honeypot.Supervisor

/-!
# The flush loops of a honeypot

A honeypot has one place for its flush loop. A crash after `start_flush_loop`
leaves the loop alive, and neither the next `start` nor a cancellation of the
delay ends it. Where it has ended by itself by then, or where `start` crashes
before it comes to the loop again, there is one loop at most, and none in the end.
-/

namespace Honeywatch.Honeypot

open Transition

namespace Supervisor

/-- At most one flush loop is alive, and none once the task has ended. -/
def AtMostOneLoop (supervisor : Supervisor) : Prop :=
  supervisor.living.length ≤ 1 ∧ (supervisor.standing = .ended → supervisor.living = [])

/-- When the delay after a crash is over or cancelled, the crashed `start` has
left no flush loop alive, unless the next one crashes before it comes to its own. -/
def LeavesNoLoop (supervisor : Supervisor) (turn : Turn) : Prop :=
  match supervisor.standing, turn with
  | .delaying, .enter hostKeys =>
    supervisor.startsLoop hostKeys = true → supervisor.living = []
  | .delaying, .cancelled => supervisor.living = []
  | _, _ => True

/-- No loop is alive, or the one in `_flush_task` is, alone. -/
def Slotted (supervisor : Supervisor) : Prop :=
  supervisor.living = [] ∨
    ∃ loop, supervisor.flushTask = some loop ∧ supervisor.living = [loop]

/-- What may be alive where the task stands. -/
def Tidy (supervisor : Supervisor) : Prop :=
  match supervisor.standing with
  | .starting _ | .delaying | .stopping .flushTask => supervisor.Slotted
  | _ => supervisor.living = []

variable {supervisor next : Supervisor}

/-- One slot holds one loop. -/
theorem Slotted.length_le (slotted : supervisor.Slotted) : supervisor.living.length ≤ 1 := by
  rcases slotted with none | ⟨loop, _, one⟩
  · simp [none]
  · simp [one]

/-- A tidy supervisor has its only loop in the slot, whatever phase it is in, -/
theorem Tidy.slotted (tidy : supervisor.Tidy) : supervisor.Slotted := by
  unfold Tidy at tidy
  split at tidy
  · exact tidy
  · exact tidy
  · exact tidy
  · exact .inl tidy

/-- and so at most one loop, and none once it has ended. -/
theorem Tidy.atMostOneLoop (tidy : supervisor.Tidy) : supervisor.AtMostOneLoop := by
  refine ⟨tidy.slotted.length_le, fun ended => ?_⟩
  simpa only [Tidy, ended] using tidy

/-- Stopping the server without a loop leaves none behind, for either service; what
is closed there starts nothing. -/
theorem stopServer_tidy (none : supervisor.living = []) : supervisor.stopServer.Tidy := by
  unfold stopServer
  cases supervisor.service with
  | ssh =>
    cases supervisor.server with
    | true => exact none
    | false => exact none
  | http =>
    cases supervisor.site with
    | true => exact none
    | false =>
      cases supervisor.runner with
      | true => exact none
      | false => exact none

/-- `stop` cancels the one loop that may be alive, which is the one that the
attribute holds. -/
theorem stop_tidy (slotted : supervisor.Slotted) : supervisor.stop.Tidy := by
  obtain ⟨service, standing, crashes, server, runner, site, flushTask, created, living⟩ :=
    supervisor
  cases flushTask with
  | none =>
    rcases slotted with none | ⟨loop, taken, _⟩
    · exact stopServer_tidy none
    · cases taken
  | some loop =>
    unfold stop
    dsimp only
    split
    · exact slotted
    · rename_i dead
      rcases slotted with none | ⟨other, taken, one⟩
      · exact none
      · obtain rfl : loop = other := Option.some.inj taken
        have alone : living = [loop] := one
        rw [alone] at dead
        exact absurd (List.mem_singleton_self loop) dead

/-- A crash does not start a loop. The loop of the crashed server is still in the
slot. -/
theorem crashed_tidy (slotted : supervisor.Slotted) : supervisor.crashed.Tidy := by
  unfold crashed
  dsimp only
  split
  · exact stop_tidy slotted
  · exact slotted

/-- A loop that is started where there is none is the only one. -/
theorem startFlushLoop_slotted (none : supervisor.living = []) :
    supervisor.startFlushLoop.Slotted :=
  .inr ⟨supervisor.created, rfl, by simp [startFlushLoop, none]⟩

/-- A start is tidy if it finds no loop where it starts one. This is the condition
that a restart without a stop breaks. -/
theorem start_tidy (slotted : supervisor.Slotted) (hostKeys : Bool)
    (none : supervisor.startsLoop hostKeys = true → supervisor.living = []) :
    (supervisor.start hostKeys).Tidy := by
  unfold start
  split
  · rename_i starts
    have started := startFlushLoop_slotted (none starts)
    cases supervisor.service with
    | ssh => exact started
    | http => exact started
  · exact crashed_tidy slotted

/-- The loop that was cancelled was the only one. -/
theorem loopOver_living (slotted : supervisor.Slotted) : supervisor.loopOver.living = [] := by
  rcases slotted with none | ⟨loop, slot, one⟩
  · simp [loopOver, none]
  · simp [loopOver, slot, one]

/-- A loop that ends leaves the slot empty, or was none of those living, and no new
one comes by it. -/
theorem erase_slotted (slotted : supervisor.Slotted) (loop : Nat) :
    ({ supervisor with living := supervisor.living.erase loop } : Supervisor).Slotted := by
  rcases slotted with none | ⟨other, slot, one⟩
  · exact .inl (by simp [none])
  · by_cases same : loop = other
    · exact .inl (by simp [one, same])
    · exact .inr ⟨other, slot, by simp [one, Ne.symm same]⟩

/-- A loop that raises leaves fewer alive, and the attribute may go on holding the
task that has ended. -/
theorem loopRaises_tidy (tidy : supervisor.Tidy) (loop : Nat) :
    ({ supervisor with living := supervisor.living.erase loop } : Supervisor).Tidy := by
  have erased := erase_slotted tidy.slotted loop
  revert tidy
  unfold Tidy
  cases supervisor.standing with
  | starting point => exact fun _ => erased
  | delaying => exact fun _ => erased
  | scheduled => exact fun none => by simp [none]
  | ended => exact fun none => by simp [none]
  | stopping point =>
    cases point with
    | flushTask => exact fun _ => erased
    | serverClosed | siteStop | runnerCleanup => exact fun none => by simp [none]

/-- A turn that leaves no loop behind keeps a supervisor tidy. The cases are the
turns; only a start with a loop still alive could make it two. -/
theorem step_tidy (turn : Turn) (tidy : supervisor.Tidy)
    (leaves : supervisor.LeavesNoLoop turn) (taken : supervisor.step turn = some next) :
    next.Tidy := by
  have slotted := tidy.slotted
  cases took_of_step taken with
  | entered hostKeys waiting =>
    refine start_tidy slotted hostKeys ?_
    rcases waiting with scheduled | delaying
    · intro _
      simpa only [Tidy, scheduled] using tidy
    · simpa only [LeavesNoLoop, delaying] using leaves
  | abandoned waiting =>
    have none : supervisor.living = [] := by
      rcases waiting with scheduled | delaying
      · simpa only [Tidy, scheduled] using tidy
      · simpa only [LeavesNoLoop, delaying] using leaves
    exact none
  | advanced point later server site starting => exact slotted
  | closed starting => exact stop_tidy slotted
  | crashed point starting => exact crashed_tidy slotted
  | cancelled point starting => exact stop_tidy slotted
  | loopOver stopping => exact stopServer_tidy (loopOver_living slotted)
  | loopFailed stopping => exact loopOver_living slotted
  | swallowed stopping => exact tidy
  | stopped turn point server standing stopping beyond after =>
    have none : supervisor.living = [] := by
      cases point with
      | flushTask => exact absurd rfl beyond
      | serverClosed | siteStop | runnerCleanup => simpa only [Tidy, stopping] using tidy
    rcases after with rfl | rfl
    · exact none
    · exact none
  | loopRaised loop living => exact loopRaises_tidy tidy loop

/-- Where no loop is left behind, every state of a run is tidy. -/
theorem run_tidy (service : Service) {turns : List Turn} {final : Supervisor}
    (admitted : system.Admitted LeavesNoLoop (initial service) turns)
    (reached : system.run (initial service) turns = some final) : final.Tidy :=
  system.admitted_invariant LeavesNoLoop Tidy
    (fun _ turn _ tidy leaves taken => step_tidy turn tidy leaves taken)
    (initial service) final turns rfl admitted reached

/-- A turn that leaves a loop behind makes a second one, or ends the task with
one alive. -/
theorem leavesNoLoop_of_atMostOneLoop (turn : Turn)
    (after : ∀ next, supervisor.step turn = some next → next.AtMostOneLoop) :
    supervisor.LeavesNoLoop turn := by
  unfold LeavesNoLoop
  split
  · rename_i standing hostKeys delaying
    intro starts
    have entered := after (supervisor.start hostKeys) (by simp only [step, delaying])
    have one_more : (supervisor.start hostKeys).living =
        supervisor.living ++ [supervisor.created] := by
      unfold start
      rw [if_pos starts]
      cases supervisor.service with
      | ssh => rfl
      | http => rfl
    have few := entered.1
    rw [one_more, List.length_append, List.length_singleton] at few
    exact List.length_eq_zero_iff.mp (by omega)
  · rename_i standing delaying
    have ended := after { supervisor with standing := .ended } (by simp only [step, delaying])
    exact ended.2 rfl
  · trivial

/-- For either honeypot and everything that happens to it: at most one flush loop
is alive in every state, and none once the task has ended, exactly when, at
every end of a delay, by time or by cancellation, the crashed `start` has left no
loop alive, unless the next `start` crashes before it comes to its own. -/
theorem at_most_one_loop_iff (service : Service) (turns : List Turn) :
    (∀ before after supervisor, turns = before ++ after →
        system.run (initial service) before = some supervisor → supervisor.AtMostOneLoop) ↔
      system.Admitted LeavesNoLoop (initial service) turns := by
  constructor
  · intro always
    rw [System.admitted_iff]
    intro before turn after supervisor split reached
    refine leavesNoLoop_of_atMostOneLoop turn fun next taken => ?_
    refine always (before ++ [turn]) after next (by simp [split]) ?_
    rw [System.run_append system _ _ _ _ reached]
    exact (system.run_cons_iff supervisor next turn []).mpr ⟨next, taken, rfl⟩
  · rintro admitted before after supervisor rfl reached
    exact (run_tidy service admitted.first reached).atMostOneLoop

/-- The port is taken: the first `start` raises where it binds, and the second one
makes a second loop. -/
theorem taken_port_doubles_loop :
    (system.run (initial .http) [.enter true, .returns, .raises, .enter true]).map living =
        some [0, 1] ∧
      (system.run (initial .http) [.enter true, .returns, .raises, .cancelled]).map
        (fun supervisor => (supervisor.standing, supervisor.living)) = some (.ended, [0]) := by
  decide

end Supervisor

end Honeywatch.Honeypot
