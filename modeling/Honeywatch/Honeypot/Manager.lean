import Honeywatch.Honeypot.Supervisor
import Mathlib.Logic.Function.Basic

/-!
# The honeypot process

`run_all_honeypots`: one task for each honeypot, and a wait for the shutdown
signal. Nothing waits for the tasks themselves. When both honeypots have given
up, the process goes on waiting without them.
-/

namespace Honeywatch.Honeypot

open Transition

/-- Where `run_all_honeypots` stands: it connects the queue, waits for the signal,
waits for its tasks, closes the queue, or is over. -/
inductive ManagerPhase
  | connecting
  | waiting
  | gathering
  | closing
  | returned
  | raised
deriving DecidableEq, Repr

/-- `run_all_honeypots`: its phase, `shutdown_event`, the tasks, and which of them
have a cancellation before them. -/
structure Manager where
  phase : ManagerPhase
  shutdown : Bool
  tasks : Service → Supervisor
  cancelling : Service → Bool

/-- What happens to the process. -/
inductive Occurrence
  | connected
  | connectFailed
  | signal
  | turn (service : Service) (turn : Turn)
  | awakes
  | gathered
  | closed
  | closeFailed
deriving DecidableEq, Repr

namespace Manager

def initial : Manager :=
  { phase := .connecting, shutdown := false, tasks := Supervisor.initial
    cancelling := fun _ => false }

/-- The task has not ended. -/
def running (manager : Manager) (service : Service) : Bool :=
  decide ((manager.tasks service).standing ≠ .ended)

/-- A turn of one task; it is cancelled only when a cancellation is before it. -/
def takeTurn (manager : Manager) (service : Service) (turn : Turn) : Option Manager :=
  if turn = .cancelled ∧ manager.cancelling service = false then none
  else
    ((manager.tasks service).step turn).map fun next =>
      { manager with
        tasks := Function.update manager.tasks service next
        cancelling :=
          if turn = .cancelled then Function.update manager.cancelling service false
          else manager.cancelling }

def step (manager : Manager) (occurrence : Occurrence) : Option Manager :=
  match manager.phase, occurrence with
  | .connecting, .connected => some { manager with phase := .waiting }
  | .connecting, .connectFailed => some { manager with phase := .raised }
  | .waiting, .signal | .gathering, .signal | .closing, .signal =>
    some { manager with shutdown := true }
  | .waiting, .turn service turn | .gathering, .turn service turn =>
    manager.takeTurn service turn
  | .waiting, .awakes =>
    if manager.shutdown then
      some { manager with phase := .gathering, cancelling := manager.running }
    else none
  | .gathering, .gathered =>
    if manager.running .ssh || manager.running .http then none
    else some { manager with phase := .closing }
  | .closing, .closed => some { manager with phase := .returned }
  | .closing, .closeFailed => some { manager with phase := .raised }
  | _, _ => none

/-- The process, whatever happens. -/
def system : System Manager Occurrence where
  step := step

/-- The tasks are there, and the function has neither returned nor raised. -/
def Working (manager : Manager) : Prop :=
  manager.phase ≠ .connecting ∧ manager.phase ≠ .returned ∧ manager.phase ≠ .raised

end Manager

namespace Supervisor

/-- `start` is running or will be called again. -/
def Retrying (supervisor : Supervisor) : Prop :=
  match supervisor.standing with
  | .scheduled | .starting _ | .delaying => True
  | .stopping _ | .ended => False

/-- The turn is the fifth crash of `start`, or its normal return. -/
def GivesUp (supervisor : Supervisor) (turn : Turn) : Prop :=
  match supervisor.standing, turn with
  | .scheduled, .enter hostKeys | .delaying, .enter hostKeys =>
    supervisor.startsLoop hostKeys = false ∧
      maxConsecutiveCrashes ≤ supervisor.consecutiveCrashes + 1
  | .starting .waitClosed, .returns => True
  | .starting _, .raises => maxConsecutiveCrashes ≤ supervisor.consecutiveCrashes + 1
  | _, _ => False

instance (supervisor : Supervisor) : Decidable supervisor.Retrying :=
  match standing : supervisor.standing with
  | .scheduled | .starting _ | .delaying => isTrue (by simp [Retrying, standing])
  | .stopping _ | .ended => isFalse (by simp [Retrying, standing])

instance (supervisor : Supervisor) (turn : Turn) : Decidable (supervisor.GivesUp turn) :=
  match standing : supervisor.standing, turn with
  | .scheduled, .enter hostKeys | .delaying, .enter hostKeys =>
    decidable_of_iff (supervisor.startsLoop hostKeys = false ∧
      maxConsecutiveCrashes ≤ supervisor.consecutiveCrashes + 1) (by simp only [GivesUp, standing])
  | .starting point, .returns =>
    decidable_of_iff (point = .waitClosed) (by cases point <;> simp [GivesUp, standing])
  | .starting point, .raises =>
    decidable_of_iff (maxConsecutiveCrashes ≤ supervisor.consecutiveCrashes + 1)
      (by cases point <;> simp only [GivesUp, standing])
  | .scheduled, .returns | .scheduled, .raises | .scheduled, .cancelled
  | .scheduled, .loopRaises _ | .delaying, .returns | .delaying, .raises | .delaying, .cancelled
  | .delaying, .loopRaises _ | .starting _, .enter _ | .starting _, .cancelled
  | .starting _, .loopRaises _ | .stopping _, _ | .ended, _ =>
    isFalse (by simp [GivesUp, standing])

variable {supervisor next : Supervisor}

/-- A crash before the fifth is followed by another start. -/
theorem crashed_retrying (early : supervisor.consecutiveCrashes + 1 < maxConsecutiveCrashes) :
    supervisor.crashed.Retrying := by
  unfold crashed
  dsimp only
  rw [if_neg (Nat.not_le.mpr early)]
  trivial

/-- A honeypot goes on until it gives up or is cancelled. After an exception it
pauses and starts again while crashes are left. -/
theorem step_retrying {turn : Turn} (retrying : supervisor.Retrying)
    (goesOn : ¬ supervisor.GivesUp turn) (uncancelled : turn ≠ .cancelled)
    (taken : supervisor.step turn = some next) : next.Retrying := by
  cases took_of_step taken with
  | entered hostKeys waiting =>
    unfold start
    split
    · cases supervisor.service with
      | ssh => trivial
      | http => trivial
    · rename_i keyless
      refine crashed_retrying (Nat.not_le.mp fun last => goesOn ?_)
      rcases waiting with scheduled | delaying
      · simpa only [GivesUp, scheduled] using ⟨Bool.not_eq_true _ ▸ keyless, last⟩
      · simpa only [GivesUp, delaying] using ⟨Bool.not_eq_true _ ▸ keyless, last⟩
  | abandoned waiting => exact absurd rfl uncancelled
  | advanced point later server site starting => trivial
  | closed starting => exact absurd (by simp only [GivesUp, starting]) goesOn
  | crashed point starting =>
    refine crashed_retrying (Nat.not_le.mp fun last => goesOn ?_)
    cases point <;> simpa only [GivesUp, starting] using last
  | cancelled point starting => exact absurd rfl uncancelled
  | loopOver stopping => simp only [Retrying, stopping] at retrying
  | loopFailed stopping => simp only [Retrying, stopping] at retrying
  | swallowed stopping => exact retrying
  | stopped turn point server standing stopping beyond after =>
    simp only [Retrying, stopping] at retrying
  | loopRaised loop living => exact retrying

/-- Its awaits return until it has ended. -/
def Ends (supervisor : Supervisor) : Prop :=
  ∃ count final, system.run supervisor (List.replicate count .returns) = some final ∧
    final.standing = .ended

/-- A supervisor whose next state ends by returns alone ends so itself. -/
theorem ends_of_step (next : Supervisor) (taken : supervisor.step .returns = some next)
    (ends : next.Ends) : supervisor.Ends := by
  obtain ⟨count, final, reached, ended⟩ := ends
  refine ⟨count + 1, final, ?_, ended⟩
  exact (system.run_cons_iff supervisor final .returns _).mpr ⟨next, taken, reached⟩

/-- Behind the flush loop, `stop` has two awaits at most, so a task that has come
there ends by itself. -/
theorem ends_of_beyond
    (beyond : supervisor.standing = .ended ∨
      ∃ point, supervisor.standing = .stopping point ∧ point ≠ .flushTask) :
    supervisor.Ends := by
  have ended (done : Supervisor) (standing : done.standing = .ended) : done.Ends :=
    ⟨0, done, rfl, standing⟩
  rcases beyond with finished | ⟨point, stopping, later⟩
  · exact ended supervisor finished
  · cases point with
    | flushTask => exact absurd rfl later
    | serverClosed =>
      exact ends_of_step { supervisor with server := false, standing := .ended }
        (by simp only [step, stopping]) (ended _ rfl)
    | runnerCleanup =>
      exact ends_of_step { supervisor with standing := .ended }
        (by simp only [step, stopping]) (ended _ rfl)
    | siteStop =>
      refine ends_of_step _ (by simp only [step, stopping]; rfl) ?_
      cases runner : supervisor.runner with
      | false => exact ended _ (by simp)
      | true =>
        exact ends_of_step { supervisor with standing := .ended }
          (by simp [step, runner]) (ended _ rfl)

/-- Once the server is stopped the supervisor has ended or waits for what it has
closed, and the task of the flush loop is behind it. -/
theorem stopServer_beyond :
    supervisor.stopServer.standing = .ended ∨
      ∃ point, supervisor.stopServer.standing = .stopping point ∧ point ≠ .flushTask := by
  unfold stopServer
  cases supervisor.service with
  | ssh => cases supervisor.server <;> simp
  | http => cases supervisor.site <;> cases supervisor.runner <;> simp

/-- A honeypot that has given up is over when the awaits of its `stop` have
returned. -/
theorem stop_ends (givenUp : ¬ supervisor.Retrying) : supervisor.Ends := by
  cases standing : supervisor.standing with
  | scheduled | starting _ | delaying => exact absurd (by simp [Retrying, standing]) givenUp
  | ended => exact ends_of_beyond (.inl standing)
  | stopping point =>
    by_cases looping : point = .flushTask
    · subst looping
      exact ends_of_step supervisor.loopOver.stopServer (by simp only [step, standing])
        (ends_of_beyond stopServer_beyond)
    · exact ends_of_beyond (.inr ⟨point, standing, looping⟩)

end Supervisor

namespace Manager

/-- When a honeypot gives up, the other one has not. -/
def KeepsOne (manager : Manager) (occurrence : Occurrence) : Prop :=
  match occurrence with
  | .turn service turn =>
    (manager.tasks service).GivesUp turn →
      ∃ other, other ≠ service ∧ (manager.tasks other).Retrying
  | _ => True

/-- No signal has come, so nothing is cancelled and the process does not end. -/
structure Unsignalled (manager : Manager) : Prop where
  quiet : manager.shutdown = false
  uncancelled : manager.cancelling = fun _ => false
  phase : manager.phase = .connecting ∨ manager.phase = .waiting ∨ manager.phase = .raised

/-- Some honeypot has not given up. -/
def Manned (manager : Manager) : Prop := ∃ service, (manager.tasks service).Retrying

variable {manager next : Manager}

/-- The turns that a task can take before the signal are those of its supervisor,
without a cancellation: nothing else cancels it. -/
theorem takeTurn_unsignalled (unsignalled : manager.Unsignalled) (service : Service) (turn : Turn)
    (taken : manager.takeTurn service turn = some next) :
    turn ≠ .cancelled ∧ ∃ after, (manager.tasks service).step turn = some after ∧
      next = { manager with tasks := Function.update manager.tasks service after } := by
  unfold takeTurn at taken
  split at taken
  · cases taken
  · rename_i allowed
    have uncancelled : turn ≠ .cancelled := fun cancel =>
      allowed ⟨cancel, congrFun unsignalled.uncancelled service⟩
    obtain ⟨after, stepped, rfl⟩ := Option.map_eq_some_iff.mp taken
    exact ⟨uncancelled, after, stepped, by simp only [if_neg uncancelled]⟩

/-- Before the signal, the tasks take turns once the queue is connected. Every other
occurrence is about the connection or an end of the process. -/
theorem step_unsignalled (occurrence : Occurrence) (unsignalled : manager.Unsignalled)
    (silent : occurrence ≠ .signal) (taken : manager.step occurrence = some next) :
    next.Unsignalled ∧ (next.tasks = manager.tasks ∨
      ∃ service turn, occurrence = .turn service turn ∧
        manager.takeTurn service turn = some next) := by
  obtain ⟨quiet, uncancelled, phase⟩ := unsignalled
  unfold step at taken
  rcases phase with connecting | waiting | raised
  · cases occurrence with
    | connected =>
      simp only [connecting, Option.some.injEq] at taken
      exact taken ▸ ⟨⟨quiet, uncancelled, .inr (.inl rfl)⟩, .inl rfl⟩
    | connectFailed =>
      simp only [connecting, Option.some.injEq] at taken
      exact taken ▸ ⟨⟨quiet, uncancelled, .inr (.inr rfl)⟩, .inl rfl⟩
    | signal | turn _ _ | awakes | gathered | closed | closeFailed => simp [connecting] at taken
  · cases occurrence with
    | turn service turn =>
      simp only [waiting] at taken
      refine ⟨?_, .inr ⟨service, turn, rfl, taken⟩⟩
      obtain ⟨_, after, _, rfl⟩ :=
        takeTurn_unsignalled ⟨quiet, uncancelled, .inr (.inl waiting)⟩ service turn taken
      exact ⟨quiet, uncancelled, .inr (.inl waiting)⟩
    | signal => exact absurd rfl silent
    | awakes => simp [waiting, quiet] at taken
    | connected | connectFailed | gathered | closed | closeFailed => simp [waiting] at taken
  · cases occurrence <;> simp [raised] at taken

/-- A turn that keeps one honeypot leaves the process manned: the one that took it
goes on, or the other one does. -/
theorem takeTurn_manned (unsignalled : manager.Unsignalled) (manned : manager.Manned)
    (service : Service) (turn : Turn) (keeps : manager.KeepsOne (.turn service turn))
    (taken : manager.takeTurn service turn = some next) : next.Manned := by
  obtain ⟨uncancelled, after, stepped, rfl⟩ :=
    takeTurn_unsignalled unsignalled service turn taken
  by_cases gives : (manager.tasks service).GivesUp turn
  · obtain ⟨other, apart, retrying⟩ := keeps gives
    exact ⟨other, by simpa only [Function.update_of_ne apart] using retrying⟩
  · obtain ⟨known, retrying⟩ := manned
    by_cases same : known = service
    · subst same
      have still := Supervisor.step_retrying retrying gives uncancelled stepped
      exact ⟨known, by simpa only [Function.update_self] using still⟩
    · exact ⟨known, by simpa only [Function.update_of_ne same] using retrying⟩

/-- Turns of one task that is not cancelled, while the process waits, are a run of
the process; the other task stays where it is. -/
theorem run_turns (manager : Manager) (service : Service) {turns : List Turn} {final : Supervisor}
    (waiting : manager.phase = .waiting) (uncancelled : ∀ turn ∈ turns, turn ≠ .cancelled)
    (reached : Supervisor.system.run (manager.tasks service) turns = some final) :
    system.run manager (turns.map (.turn service)) =
      some { manager with tasks := Function.update manager.tasks service final } := by
  induction turns generalizing manager with
  | nil =>
    obtain rfl := Option.some.inj reached
    simp [System.run]
  | cons turn rest inductionHypothesis =>
    obtain ⟨next, taken, remaining⟩ :=
      (Supervisor.system.run_cons_iff _ _ turn rest).mp reached
    rw [List.forall_mem_cons] at uncancelled
    have stepped : manager.step (.turn service turn) =
        some { manager with tasks := Function.update manager.tasks service next } := by
      have taken : (manager.tasks service).step turn = some next := taken
      simp [step, waiting, takeTurn, uncancelled.1, taken]
    have later := inductionHypothesis
      { manager with tasks := Function.update manager.tasks service next } waiting uncancelled.2
      (by simpa only [Function.update_self] using remaining)
    rw [List.map_cons]
    refine (system.run_cons_iff _ _ _ _).mpr ⟨_, stepped, ?_⟩
    simpa only [Function.update_idem] using later

/-- When both honeypots have given up, the process waits without them as soon as
their `stop` calls are over. -/
theorem lingers (waiting : manager.phase = .waiting)
    (givenUp : ∀ service, ¬ (manager.tasks service).Retrying) :
    ∃ returns final, (∀ occurrence ∈ returns, ∃ service, occurrence = .turn service .returns) ∧
      system.run manager returns = some final ∧ final.phase = .waiting ∧
      ∀ service, final.running service = false := by
  obtain ⟨first, ssh, reached, sshEnded⟩ := Supervisor.stop_ends (givenUp .ssh)
  obtain ⟨second, http, reached', httpEnded⟩ := Supervisor.stop_ends (givenUp .http)
  have uncancelled (count : Nat) :
      ∀ turn ∈ List.replicate count Turn.returns, turn ≠ .cancelled := by
    intro turn member
    rw [List.eq_of_mem_replicate member]
    simp
  have ran := run_turns manager .ssh waiting (uncancelled first) reached
  have then_ran := run_turns { manager with tasks := Function.update manager.tasks .ssh ssh } .http
    waiting (uncancelled second) reached'
  refine ⟨_, _, ?_, (system.run_append _ _ _ _ ran).trans then_ran, waiting, ?_⟩
  · intro occurrence member
    rcases List.mem_append.mp member with one | other
    · obtain ⟨turn, inside, rfl⟩ := List.mem_map.mp one
      exact ⟨.ssh, by rw [List.eq_of_mem_replicate inside]⟩
    · obtain ⟨turn, inside, rfl⟩ := List.mem_map.mp other
      exact ⟨.http, by rw [List.eq_of_mem_replicate inside]⟩
  · intro service
    cases service with
    | ssh => simp [running, sshEnded]
    | http => simp [running, httpEnded]

/-- A honeypot that retries has a running task. -/
theorem running_of_retrying {service : Service} (retrying : (manager.tasks service).Retrying) :
    manager.running service = true := by
  refine decide_eq_true fun ended => ?_
  simp only [Supervisor.Retrying, ended] at retrying

/-- Without a signal nobody has been told to stop, in any state of the run; the
tasks wait or take turns. -/
theorem run_unsignalled {occurrences : List Occurrence} (silent : .signal ∉ occurrences)
    (reached : system.run initial occurrences = some manager) : manager.Unsignalled := by
  have admitted : system.Admitted (fun _ occurrence => occurrence ≠ .signal) initial occurrences :=
    (system.admitted_iff _ _ _).mpr fun before occurrence after _ split _ same =>
      silent (by simp [split, same])
  exact system.admitted_invariant _ Unsignalled
    (fun _ occurrence _ unsignalled silent taken =>
      (step_unsignalled occurrence unsignalled silent taken).1)
    initial manager occurrences ⟨rfl, rfl, .inl rfl⟩ admitted reached

/-- A run keeps its process manned where no honeypot gives up after the other one
has. -/
theorem run_manned {occurrences : List Occurrence} (silent : .signal ∉ occurrences)
    (keeps : system.Admitted KeepsOne initial occurrences)
    (reached : system.run initial occurrences = some manager) : manager.Manned := by
  have admitted : system.Admitted
      (fun manager occurrence => manager.KeepsOne occurrence ∧ occurrence ≠ .signal) initial
      occurrences := by
    rw [System.admitted_iff] at keeps ⊢
    intro before occurrence after middle split led
    exact ⟨keeps before occurrence after middle split led, fun same =>
      silent (by simp [split, same])⟩
  have both := system.admitted_invariant _ (fun manager => manager.Unsignalled ∧ manager.Manned)
    (fun manager occurrence next kept condition taken => by
      obtain ⟨unsignalled, manned⟩ := kept
      obtain ⟨still, same | ⟨service, turn, rfl, turned⟩⟩ :=
        step_unsignalled occurrence unsignalled condition.2 taken
      · exact ⟨still, by simpa only [Manned, same] using manned⟩
      · exact ⟨still, takeTurn_manned unsignalled manned service turn condition.1 turned⟩)
    initial manager occurrences ⟨⟨rfl, rfl, .inl rfl⟩, ⟨.ssh, trivial⟩⟩ admitted reached
  exact both.2

/-- In every run without a shutdown signal: where no honeypot gives up after the
other one has, a task is running in every state in which the process works; and
where both have given up, the process comes to wait without a running task as
soon as their `stop` calls are over. -/
theorem keeps_a_honeypot (occurrences : List Occurrence) (manager : Manager)
    (silent : .signal ∉ occurrences)
    (reached : system.run initial occurrences = some manager) (working : manager.Working) :
    (system.Admitted KeepsOne initial occurrences →
        ∃ service, manager.running service = true) ∧
      ((∀ service, ¬ (manager.tasks service).Retrying) →
        ∃ returns final,
          (∀ occurrence ∈ returns, ∃ service, occurrence = .turn service .returns) ∧
          system.run manager returns = some final ∧ final.Working ∧
          ∀ service, final.running service = false) := by
  constructor
  · intro keeps
    obtain ⟨service, retrying⟩ := run_manned silent keeps reached
    exact ⟨service, running_of_retrying retrying⟩
  · intro givenUp
    have waiting : manager.phase = .waiting := by
      rcases (run_unsignalled silent reached).phase with connecting | waiting | raised
      · exact absurd connecting working.1
      · exact waiting
      · exact absurd raised working.2.2
    obtain ⟨returns, final, turns, ran, still, ended⟩ := lingers waiting givenUp
    exact ⟨returns, final, turns, ran, by simp [Working, still], ended⟩

/-- `KeepsOne`, computed: there is one other honeypot. -/
def keepsOne (manager : Manager) : Occurrence → Bool
  | .turn .ssh turn =>
    decide ((manager.tasks .ssh).GivesUp turn → (manager.tasks .http).Retrying)
  | .turn .http turn =>
    decide ((manager.tasks .http).GivesUp turn → (manager.tasks .ssh).Retrying)
  | _ => true

/-- Where the computed form says so, the condition is met. There are two honeypots,
so the one that goes on must be the other one. -/
theorem keepsOne_of_computed (manager : Manager) (occurrence : Occurrence)
    (computed : manager.keepsOne occurrence = true) : manager.KeepsOne occurrence := by
  cases occurrence with
  | turn service turn =>
    cases service with
    | ssh => exact fun gives => ⟨.http, by decide, of_decide_eq_true computed gives⟩
    | http => exact fun gives => ⟨.ssh, by decide, of_decide_eq_true computed gives⟩
  | _ => trivial

/-- The SSH honeypot can make no host keys and gives up at its fifth start, in the middle of
two starts of the HTTP honeypot, whose site fails the first time and then listens. -/
def sshGivesUp : List Occurrence :=
  [.connected, .turn .http (.enter true), .turn .ssh (.enter false), .turn .http .returns,
    .turn .ssh (.enter false), .turn .http .raises, .turn .ssh (.enter false),
    .turn .ssh (.enter false), .turn .ssh (.enter false), .turn .http (.enter true),
    .turn .http .returns, .turn .http .returns]

/-- The HTTP honeypot keeps the process manned after the SSH honeypot's task has
ended with its fifth failed start, and after a crash of its own. -/
theorem keeps_a_honeypot_alone :
    ∃ manager, system.run initial sshGivesUp = some manager ∧ manager.Working ∧
      manager.running .ssh = false ∧ (manager.tasks .http).consecutiveCrashes = 1 ∧
      ∃ service, manager.running service = true := by
  have facts : (system.run initial sshGivesUp).map (fun manager =>
      (manager.phase, manager.running .ssh, (manager.tasks .http).consecutiveCrashes)) =
      some (.waiting, false, 1) := by
    decide +kernel
  obtain ⟨manager, reached, same⟩ := Option.map_eq_some_iff.mp facts
  simp only [Prod.mk.injEq] at same
  obtain ⟨waiting, ended, crashes⟩ := same
  have working : manager.Working := by simp [Working, waiting]
  have keeps : system.Admitted KeepsOne initial sshGivesUp :=
    system.admitted_of_check KeepsOne keepsOne keepsOne_of_computed initial sshGivesUp
      (by decide +kernel)
  exact ⟨manager, reached, working, ended, crashes,
    (keeps_a_honeypot sshGivesUp manager (by decide) reached working).1 keeps⟩

/-- One start of the HTTP honeypot on a port that is taken. -/
def portTaken : List Occurrence :=
  [.turn .http (.enter true), .turn .http .returns, .turn .http .raises]

/-- The SSH honeypot can make no host keys and the port of the HTTP honeypot is
taken: after five crashes of each, the process waits without a task. -/
theorem nobody_left :
    (system.run initial (.connected :: (List.replicate 5 (.turn .ssh (.enter false)) ++
        (List.replicate 5 portTaken).flatten ++ List.replicate 3 (.turn .http .returns)))).map
      (fun manager => (manager.phase, manager.shutdown, manager.running .ssh,
        manager.running .http)) = some (.waiting, false, false, false) := by
  decide +kernel

end Manager

end Honeywatch.Honeypot
