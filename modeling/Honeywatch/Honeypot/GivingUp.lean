import Honeywatch.Honeypot.Supervisor

/-!
# When a honeypot is given up

`run_honeypot_with_restart` counts the crashes of `start` and gives up at the
fifth. The counter is never reset, so a crash of a honeypot that was listening
counts like one that failed to come up, whatever time has passed between them.
-/

namespace Honeywatch.Honeypot

open Transition

/-- How a call of `start` has ended: it raised before the server was listening or
after that, it returned, or it was cancelled. -/
inductive StartEnd
  | failed
  | crashed
  | returned
  | cancelled
deriving DecidableEq, Repr

/-- The awaits of `start` behind those that bind the port. -/
def StartPoint.listening : StartPoint → Bool
  | .createServer | .setup | .siteStart => false
  | .waitClosed | .forever => true

namespace Supervisor

/-- How a turn ends the current call of `start`, if it does. -/
def startEnds (supervisor : Supervisor) (turn : Turn) : Option StartEnd :=
  match supervisor.standing, turn with
  | .scheduled, .enter hostKeys | .delaying, .enter hostKeys =>
    if supervisor.startsLoop hostKeys then none else some .failed
  | .starting point, .raises => if point.listening then some .crashed else some .failed
  | .starting .waitClosed, .returns => some .returned
  | .starting _, .cancelled => some .cancelled
  | _, _ => none

/-- How the calls of `start` have ended, in their order. -/
def starts : Supervisor → List Turn → List StartEnd
  | _, [] => []
  | supervisor, turn :: rest =>
    (supervisor.startEnds turn).toList ++
      match supervisor.step turn with
      | none => []
      | some next => starts next rest

/-- No honeypot that is listening crashes. -/
def StaysUp (supervisor : Supervisor) (turn : Turn) : Prop :=
  ¬ ∃ point, supervisor.standing = .starting point ∧ point.listening = true ∧ turn = .raises

/-- The loop over `start` goes on. -/
def Standing.trying : Standing → Bool
  | .scheduled | .starting _ | .delaying => true
  | .stopping _ | .ended => false

/-- Every call of `start` that has ended has raised and was counted; the loop goes
on until there are five. -/
structure Counted (ends : List StartEnd) (supervisor : Supervisor) : Prop where
  crashes : supervisor.consecutiveCrashes = ends.length
  raised : ∀ ended ∈ ends, ended = .failed ∨ ended = .crashed
  trying : Standing.trying supervisor.standing = true → ends.length < maxConsecutiveCrashes
  stopping : Standing.trying supervisor.standing = false → ends.length = maxConsecutiveCrashes

variable {supervisor next : Supervisor} {ends : List StartEnd}

/-- Stopping the server counts no crash and ends the attempts, -/
theorem stopServer_gives_up (supervisor : Supervisor) :
    supervisor.stopServer.consecutiveCrashes = supervisor.consecutiveCrashes ∧
      Standing.trying supervisor.stopServer.standing = false := by
  unfold stopServer
  cases supervisor.service with
  | ssh => cases supervisor.server <;> exact ⟨rfl, rfl⟩
  | http => cases supervisor.site <;> cases supervisor.runner <;> exact ⟨rfl, rfl⟩

/-- and so does a stop as a whole, whether or not there is a flush loop to cancel.
-/
theorem stop_gives_up (supervisor : Supervisor) :
    supervisor.stop.consecutiveCrashes = supervisor.consecutiveCrashes ∧
      Standing.trying supervisor.stop.standing = false := by
  unfold stop
  cases supervisor.flushTask with
  | none => exact stopServer_gives_up supervisor
  | some loop =>
    dsimp only
    split
    · exact ⟨rfl, rfl⟩
    · exact ⟨rfl, rfl⟩

/-- A crash is counted, and the fifth one ends the loop, as the counter is compared
after it has been raised. -/
theorem Counted.crash (counted : Counted ends supervisor)
    (trying : Standing.trying supervisor.standing = true) {ended : StartEnd}
    (raised : ended = .failed ∨ ended = .crashed) :
    Counted (ends ++ [ended]) supervisor.crashed := by
  have fewer := counted.trying trying
  have crashes := counted.crashes
  have all : ∀ other ∈ ends ++ [ended], other = .failed ∨ other = .crashed := by
    intro other member
    rcases List.mem_append.mp member with earlier | last
    · exact counted.raised other earlier
    · exact List.mem_singleton.mp last ▸ raised
  unfold Supervisor.crashed
  dsimp only
  split
  · rename_i enough
    obtain ⟨kept, given⟩ := stop_gives_up
      { supervisor with consecutiveCrashes := supervisor.consecutiveCrashes + 1 }
    refine ⟨?_, all, fun again => ?_, fun _ => ?_⟩
    · rw [kept, List.length_append, List.length_singleton, crashes]
    · rw [given] at again
      cases again
    · rw [List.length_append, List.length_singleton]
      omega
  · rename_i few
    refine ⟨?_, all, fun _ => ?_, fun again => ?_⟩
    · rw [List.length_append, List.length_singleton, ← crashes]
    · rw [List.length_append, List.length_singleton]
      omega
    · cases again

/-- Nothing else changes the count: a turn that ends no start leaves it where it is.
-/
theorem Counted.keep (counted : Counted ends supervisor)
    (crashes : next.consecutiveCrashes = supervisor.consecutiveCrashes)
    (trying : Standing.trying next.standing = Standing.trying supervisor.standing) :
    Counted (ends ++ []) next := by
  rw [List.append_nil]
  exact ⟨crashes.trans counted.crashes, counted.raised, trying ▸ counted.trying,
    trying ▸ counted.stopping⟩

/-- One turn without a cancellation and without a normal return of `start`. Each end
of a start is an exception, which raises the counter; nothing lowers it. -/
theorem counted_step {turn : Turn} (counted : Counted ends supervisor)
    (undisturbed : turn ≠ .cancelled) (unreturned : supervisor.startEnds turn ≠ some .returned)
    (taken : supervisor.step turn = some next) :
    Counted (ends ++ (supervisor.startEnds turn).toList) next := by
  cases took_of_step taken with
  | entered hostKeys waiting =>
    have trying : Standing.trying supervisor.standing = true := by
      rcases waiting with same | same <;> rw [same] <;> rfl
    have how : supervisor.startEnds (.enter hostKeys) =
        if supervisor.startsLoop hostKeys then none else some .failed := by
      rcases waiting with same | same <;> simp only [startEnds, same]
    rw [how]
    unfold start
    split
    · cases supervisor.service with
      | ssh => exact counted.keep rfl trying.symm
      | http => exact counted.keep rfl trying.symm
    · exact counted.crash trying (.inl rfl)
  | abandoned waiting => exact absurd rfl undisturbed
  | advanced point later server site starting =>
    have still : supervisor.startEnds .returns = none := by
      cases point with
      | waitClosed => exact absurd (by simp [startEnds, starting]) unreturned
      | createServer | setup | siteStart | forever => simp [startEnds, starting]
    rw [still]
    exact counted.keep rfl (by rw [starting]; rfl)
  | closed starting => exact absurd (by simp [startEnds, starting]) unreturned
  | crashed point starting =>
    have trying : Standing.trying supervisor.standing = true := by rw [starting]; rfl
    cases up : point.listening with
    | true =>
      have how : supervisor.startEnds .raises = some .crashed := by simp [startEnds, starting, up]
      exact how ▸ counted.crash trying (.inr rfl)
    | false =>
      have how : supervisor.startEnds .raises = some .failed := by simp [startEnds, starting, up]
      exact how ▸ counted.crash trying (.inl rfl)
  | cancelled point starting => exact absurd rfl undisturbed
  | loopOver stopping =>
    have how : supervisor.startEnds .returns = none := by simp [startEnds, stopping]
    obtain ⟨kept, ended⟩ := stopServer_gives_up supervisor.loopOver
    exact how ▸ counted.keep kept (by rw [ended, stopping]; rfl)
  | loopFailed stopping =>
    have how : supervisor.startEnds .raises = none := by simp [startEnds, stopping]
    exact how ▸ counted.keep rfl (by rw [stopping]; rfl)
  | swallowed stopping => exact absurd rfl undisturbed
  | stopped turn point server standing stopping beyond after =>
    have how : supervisor.startEnds turn = none := by
      cases turn <;> simp [startEnds, stopping]
    refine how ▸ counted.keep rfl ?_
    rcases after with rfl | rfl <;> rw [stopping] <;> rfl
  | loopRaised loop living =>
    have how : supervisor.startEnds (.loopRaises loop) = none := by
      simp [startEnds]
    exact how ▸ counted.keep rfl rfl

/-- The count is kept over a run without either, by an induction on the turns with
the step above. -/
theorem counted_run (schedule : List Turn) (supervisor final : Supervisor)
    (ends : List StartEnd) (counted : Counted ends supervisor)
    (undisturbed : ∀ turn ∈ schedule, turn ≠ .cancelled)
    (unreturned : StartEnd.returned ∉ starts supervisor schedule)
    (reached : system.run supervisor schedule = some final) :
    Counted (ends ++ starts supervisor schedule) final := by
  induction schedule generalizing supervisor ends with
  | nil =>
    obtain rfl : supervisor = final := Option.some.inj reached
    rwa [starts, List.append_nil]
  | cons turn rest inductionHypothesis =>
    obtain ⟨next, taken, remaining⟩ := (System.run_cons_iff _ supervisor final turn rest).mp reached
    have stepped : supervisor.step turn = some next := taken
    rw [List.forall_mem_cons] at undisturbed
    rw [starts, stepped] at unreturned ⊢
    rw [List.mem_append, not_or] at unreturned
    rw [← List.append_assoc]
    refine inductionHypothesis next _ (counted_step counted undisturbed.1 ?_ stepped)
      undisturbed.2 unreturned.2 remaining
    intro returned
    rw [returned] at unreturned
    exact unreturned.1 (List.mem_singleton_self _)

/-- A turn ends a call with a crash exactly when the server was listening; before
that, an exception means that the start has failed. -/
theorem crash_iff (supervisor : Supervisor) (turn : Turn) :
    StartEnd.crashed ∈ (supervisor.startEnds turn).toList ↔ ¬ StaysUp supervisor turn := by
  rw [Option.mem_toList, StaysUp, not_not]
  unfold startEnds
  constructor
  · intro crashed
    split at crashed
    · split at crashed <;> cases crashed
    · split at crashed <;> cases crashed
    · rename_i point standing
      cases up : point.listening with
      | true => exact ⟨point, standing, up, rfl⟩
      | false => simp [up] at crashed
    · cases crashed
    · cases crashed
    · cases crashed
  · rintro ⟨point, standing, up, rfl⟩
    simp [standing, up]

/-- No call of a run ends with such a crash exactly when every turn keeps up what is
listening. -/
theorem starts_stay_up_iff (schedule : List Turn) (supervisor final : Supervisor)
    (reached : system.run supervisor schedule = some final) :
    StartEnd.crashed ∉ starts supervisor schedule ↔
      system.Admitted StaysUp supervisor schedule := by
  induction schedule generalizing supervisor with
  | nil => simp [starts, System.Admitted]
  | cons turn rest inductionHypothesis =>
    obtain ⟨next, taken, remaining⟩ := (System.run_cons_iff _ supervisor final turn rest).mp reached
    have stepped : supervisor.step turn = some next := taken
    rw [starts, stepped, List.mem_append, crash_iff, not_or, not_not,
      inductionHypothesis next remaining]
    constructor
    · rintro ⟨here, later⟩
      refine ⟨here, fun other takenAgain => ?_⟩
      obtain rfl : next = other := Option.some.inj (taken.symm.trans takenAgain)
      exact later
    · rintro ⟨here, later⟩
      exact ⟨here, later next taken⟩

/-- For either honeypot and every run of `run_honeypot_with_restart` that has ended
without a cancellation and without a normal return of `start`: the last five calls
of `start` have raised before the server was listening exactly when no call in the
run has raised after that. -/
theorem gives_up_on_failures_iff (service : Service) (schedule : List Turn) (final : Supervisor)
    (reached : system.run (initial service) schedule = some final)
    (ended : final.standing = .ended)
    (undisturbed : ∀ turn ∈ schedule, turn ≠ .cancelled)
    (unreturned : StartEnd.returned ∉ starts (initial service) schedule) :
    List.replicate maxConsecutiveCrashes StartEnd.failed <:+ starts (initial service) schedule ↔
      system.Admitted StaysUp (initial service) schedule := by
  have nothing : Counted [] (initial service) :=
    ⟨rfl, by simp, fun _ => by decide, fun stopped => by cases stopped⟩
  have counted := counted_run schedule (initial service) final [] nothing undisturbed unreturned
    reached
  rw [List.nil_append] at counted
  have five := counted.stopping (by rw [ended]; rfl)
  rw [← starts_stay_up_iff schedule (initial service) final reached]
  constructor
  · intro failed crashed
    have all := failed.eq_of_length (by rw [List.length_replicate, five])
    rw [← all] at crashed
    cases List.eq_of_mem_replicate crashed
  · intro up
    have all : ∀ ended ∈ starts (initial service) schedule, ended = .failed := by
      intro ended member
      rcases counted.raised ended member with same | rfl
      · exact same
      · exact absurd member up
    have five_failed : starts (initial service) schedule =
        List.replicate maxConsecutiveCrashes .failed :=
      (List.eq_replicate_of_mem all).trans (by rw [five])
    exact five_failed ▸ List.suffix_rfl

/-- The port is taken five times. -/
def portTakenFiveTimes : List Turn :=
  [.enter true, .raises, .enter true, .raises, .enter true, .raises, .enter true, .raises,
    .enter true, .raises, .returns]

/-- A port that is taken five times: five failed starts end the run, and the
supervisor has never been up in between. -/
theorem gives_up_on_failures_iff_port :
    List.replicate maxConsecutiveCrashes StartEnd.failed <:+
        starts (initial .ssh) portTakenFiveTimes ↔
      system.Admitted StaysUp (initial .ssh) portTakenFiveTimes :=
  gives_up_on_failures_iff .ssh portTakenFiveTimes _ rfl rfl (by decide) (by decide)

/-- Every call comes up and is crashed by its server some time later. The fifth
crash ends the honeypot. -/
theorem healthy_honeypot_given_up :
    ∃ (schedule : List Turn) (final : Supervisor),
      system.run (initial .ssh) schedule = some final ∧ final.standing = .ended ∧
      (∀ turn ∈ schedule, turn ≠ .cancelled) ∧
      starts (initial .ssh) schedule = List.replicate 5 .crashed ∧
      ¬ List.replicate maxConsecutiveCrashes .failed <:+ starts (initial .ssh) schedule := by
  exact ⟨[.enter true, .returns, .raises, .enter true, .returns, .raises,
    .enter true, .returns, .raises, .enter true, .returns, .raises,
    .enter true, .returns, .raises, .returns, .returns], _, rfl, by decide⟩

end Supervisor

end Honeywatch.Honeypot
