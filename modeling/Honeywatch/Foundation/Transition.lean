import Mathlib.Logic.Basic

/-!
# Partial transition systems and their runs

A system takes a move in a state or refuses it. A run follows a schedule of
moves; a schedule is admitted by a condition when every move of it is taken in
a state that satisfies the condition, whatever the condition says about state
and move. The run rule lifts what one admitted move preserves to every state an
admitted schedule reaches, so a development states one step lemma per system.

A deterministic successor function is followed for some steps, or until it has
no successor. The state of rest is unique, a decreasing measure makes it exist, and a quantity
kept by every successor is the same at rest as at the start.
-/

namespace Honeywatch.Transition

universe u v
variable {State : Type u} {Move : Type v}

/-- A move is either taken, with the state after it, or refused. -/
structure System (State : Type u) (Move : Type v) where
  step : State → Move → Option State

namespace System

variable (system : System State Move)

/-- Follow a schedule; the run is lost at the first refused move. -/
def run : State → List Move → Option State
  | state, [] => some state
  | state, move :: rest =>
    match system.step state move with
    | none => none
    | some next => run next rest

/-- Every move of the schedule that is taken finds the condition satisfied. -/
def Admitted (condition : State → Move → Prop) : State → List Move → Prop
  | _, [] => True
  | state, move :: rest =>
    condition state move ∧
      ∀ next, system.step state move = some next → Admitted condition next rest

/-- The same for a condition that is computed. -/
def admits (check : State → Move → Bool) : State → List Move → Bool
  | _, [] => true
  | state, move :: rest =>
    check state move &&
      match system.step state move with
      | none => true
      | some next => admits check next rest

/-- Computing the admission of a schedule decides it, for a condition that is
computed. -/
theorem admits_iff (check : State → Move → Bool) (state : State) (schedule : List Move) :
    system.admits check state schedule = true ↔
      system.Admitted (fun state move => check state move = true) state schedule := by
  induction schedule generalizing state with
  | nil => simp [admits, Admitted]
  | cons move rest inductionHypothesis =>
    cases taken : system.step state move <;>
      simp [admits, Admitted, taken, inductionHypothesis]

/-- Computing a check that is enough for the condition admits the schedule, so that
a concrete run can be admitted by evaluation. -/
theorem admitted_of_check (condition : State → Move → Prop) (check : State → Move → Bool)
    (enough : ∀ state move, check state move = true → condition state move) (state : State)
    (schedule : List Move) (checked : system.admits check state schedule = true) :
    system.Admitted condition state schedule := by
  rw [admits_iff] at checked
  induction schedule generalizing state with
  | nil => trivial
  | cons move rest inductionHypothesis =>
    exact ⟨enough state move checked.1, fun next taken =>
      inductionHypothesis next (checked.2 next taken)⟩

/-- A nonempty run is a first step followed by the rest of the run. -/
theorem run_cons_iff (state final : State) (move : Move) (rest : List Move) :
    system.run state (move :: rest) = some final ↔
      ∃ next, system.step state move = some next ∧ system.run next rest = some final := by
  cases taken : system.step state move <;> simp [run, taken]

/-- A run goes on where its first part has led, which splits a run at any of its
states. -/
theorem run_append (state middle : State) (first second : List Move)
    (reached : system.run state first = some middle) :
    system.run state (first ++ second) = system.run middle second := by
  induction first generalizing state with
  | nil =>
    have same : state = middle := Option.some.inj reached
    rw [List.nil_append, same]
  | cons move rest inductionHypothesis =>
    obtain ⟨next, taken, remaining⟩ := (system.run_cons_iff state middle move rest).mp reached
    rw [List.cons_append, run, taken]
    exact inductionHypothesis next remaining

/-- The run rule without a condition: what every move preserves holds in every
state that is reached. -/
theorem run_invariant (invariant : State → Prop)
    (preserved : ∀ state move next, invariant state → system.step state move = some next →
      invariant next)
    (state final : State) (schedule : List Move) (initially : invariant state)
    (reached : system.run state schedule = some final) : invariant final := by
  induction schedule generalizing state with
  | nil =>
    have same : state = final := Option.some.inj reached
    exact same ▸ initially
  | cons move rest inductionHypothesis =>
    obtain ⟨next, taken, remaining⟩ := (system.run_cons_iff state final move rest).mp reached
    exact inductionHypothesis next (preserved state move next initially taken) remaining

/-- The run rule. What every admitted move preserves holds in the state an
admitted schedule reaches; shorter schedules give the states on the way. -/
theorem admitted_invariant (condition : State → Move → Prop) (invariant : State → Prop)
    (preserved : ∀ state move next, invariant state → condition state move →
      system.step state move = some next → invariant next)
    (state final : State) (schedule : List Move)
    (initially : invariant state)
    (admitted : system.Admitted condition state schedule)
    (reached : system.run state schedule = some final) : invariant final := by
  induction schedule generalizing state with
  | nil =>
    have same : state = final := Option.some.inj reached
    exact same ▸ initially
  | cons move rest inductionHypothesis =>
    obtain ⟨next, taken, remaining⟩ := (system.run_cons_iff state final move rest).mp reached
    exact inductionHypothesis next (preserved state move next initially admitted.1 taken)
      (admitted.2 next taken) remaining

/-- A schedule is admitted when the condition holds wherever a part of it leads,
for the move after that part. -/
theorem admitted_iff (condition : State → Move → Prop) (state : State) (schedule : List Move) :
    system.Admitted condition state schedule ↔
      ∀ before move after middle, schedule = before ++ move :: after →
        system.run state before = some middle → condition middle move := by
  induction schedule generalizing state with
  | nil =>
    refine iff_of_true trivial fun before move after middle split => ?_
    cases before <;> cases split
  | cons first rest inductionHypothesis =>
    simp only [Admitted, inductionHypothesis]
    constructor
    · rintro ⟨here, later⟩ before move after middle split reached
      cases before with
      | nil =>
        obtain ⟨rfl, rfl⟩ := List.cons.inj split
        obtain rfl : state = middle := Option.some.inj reached
        exact here
      | cons other others =>
        obtain ⟨rfl, rfl⟩ := List.cons.inj split
        obtain ⟨next, taken, remaining⟩ :=
          (system.run_cons_iff state middle first others).mp reached
        exact later next taken others move after middle rfl remaining
    · intro all
      refine ⟨all [] first rest state rfl rfl, ?_⟩
      intro next taken before move after middle split reached
      refine all (first :: before) move after middle (by rw [split, List.cons_append]) ?_
      exact (system.run_cons_iff state middle first before).mpr ⟨next, taken, reached⟩

/-- A condition on moves alone admits the schedules whose moves all satisfy it. -/
theorem admitted_of_moves (condition : Move → Prop) (state : State) (schedule : List Move)
    (every : ∀ move ∈ schedule, condition move) :
    system.Admitted (fun _ move => condition move) state schedule := by
  rw [admitted_iff]
  rintro before move after middle rfl -
  exact every move (List.mem_append_right before List.mem_cons_self)

/-- The first part of an admitted schedule is admitted, since a condition is about
the state before its move. -/
theorem Admitted.first {system : System State Move} {condition : State → Move → Prop}
    {state : State} {before after : List Move}
    (admitted : system.Admitted condition state (before ++ after)) :
    system.Admitted condition state before := by
  rw [admitted_iff] at admitted ⊢
  intro earlier move later middle split reached
  refine admitted earlier move (later ++ after) middle ?_ reached
  rw [split, List.append_assoc, List.cons_append]

/-- So is the rest, where the first part has led, which is what an induction on the
rest needs. -/
theorem Admitted.second {system : System State Move} {condition : State → Move → Prop}
    {state middle : State} {before after : List Move}
    (admitted : system.Admitted condition state (before ++ after))
    (reached : system.run state before = some middle) : system.Admitted condition middle after := by
  rw [admitted_iff] at admitted ⊢
  intro earlier move later next split led
  refine admitted (before ++ earlier) move later next ?_ ?_
  · rw [split, List.append_assoc]
  · rw [system.run_append state middle before earlier reached, led]

/-- The run rule for a condition that is exact: where every move keeps a property
exactly when it satisfies the condition, a run keeps it exactly when it is admitted. -/
theorem kept_iff_admitted (condition : State → Move → Prop) (invariant kept : State → Prop)
    (preserved : ∀ state move next, invariant state → system.step state move = some next →
      invariant next)
    (exact_step : ∀ state move next, invariant state → system.step state move = some next →
      (kept next ↔ kept state ∧ condition state move))
    (state final : State) (schedule : List Move) (initially : invariant state)
    (reached : system.run state schedule = some final) :
    kept final ↔ kept state ∧ system.Admitted condition state schedule := by
  induction schedule generalizing state with
  | nil =>
    have same : state = final := Option.some.inj reached
    rw [same]
    exact (and_iff_left trivial).symm
  | cons move rest inductionHypothesis =>
    obtain ⟨next, taken, remaining⟩ := (system.run_cons_iff state final move rest).mp reached
    have later := inductionHypothesis next (preserved state move next initially taken) remaining
    have here := exact_step state move next initially taken
    have admitted : system.Admitted condition state (move :: rest) ↔
        condition state move ∧ system.Admitted condition next rest := by
      simp [Admitted, taken]
    rw [later, here, admitted, and_assoc]

/-- The property holds wherever a part of the schedule leads. -/
def Always (property : State → Prop) (state : State) (schedule : List Move) : Prop :=
  ∀ before after middle, schedule = before ++ after →
    system.run state before = some middle → property middle

/-- A property always holds when it holds at the start and always after the first
move; the rule by which an induction on the schedule unfolds it. -/
theorem always_cons (property : State → Prop) (state next : State) (move : Move)
    (rest : List Move) (taken : system.step state move = some next) :
    system.Always property state (move :: rest) ↔
      property state ∧ system.Always property next rest := by
  constructor
  · intro always
    refine ⟨always [] (move :: rest) state rfl rfl, ?_⟩
    intro before after middle split reached
    refine always (move :: before) after middle (by rw [split, List.cons_append]) ?_
    exact (system.run_cons_iff state middle move before).mpr ⟨next, taken, reached⟩
  · rintro ⟨here, later⟩ before after middle split reached
    cases before with
    | nil =>
      obtain rfl : state = middle := Option.some.inj reached
      exact here
    | cons other others =>
      obtain ⟨rfl, rfl⟩ := List.cons.inj split
      obtain ⟨following, taken', remaining⟩ :=
        (system.run_cons_iff state middle move others).mp reached
      obtain rfl : next = following := Option.some.inj (taken.symm.trans taken')
      exact later others after middle rfl remaining

/-- The run rule for what holds all along: where a move keeps a property exactly when
it satisfies the condition, a run keeps it all along exactly when it is admitted. -/
theorem always_iff_admitted (condition : State → Move → Prop) (invariant property : State → Prop)
    (preserved : ∀ state move next, invariant state → system.step state move = some next →
      invariant next)
    (exact_step : ∀ state move next, invariant state → property state →
      system.step state move = some next → (property next ↔ condition state move))
    (state final : State) (schedule : List Move) (initially : invariant state)
    (holds : property state) (reached : system.run state schedule = some final) :
    system.Always property state schedule ↔ system.Admitted condition state schedule := by
  induction schedule generalizing state with
  | nil =>
    refine iff_of_true ?_ trivial
    intro before after middle split run
    obtain ⟨rfl, -⟩ := List.append_eq_nil_iff.mp split.symm
    obtain rfl : state = middle := Option.some.inj run
    exact holds
  | cons move rest inductionHypothesis =>
    obtain ⟨next, taken, remaining⟩ := (system.run_cons_iff state final move rest).mp reached
    have here := exact_step state move next initially holds taken
    have admitted : system.Admitted condition state (move :: rest) ↔
        condition state move ∧ system.Admitted condition next rest := by
      simp [Admitted, taken]
    have later := fun held : property next => inductionHypothesis next
      (preserved state move next initially taken) held remaining
    rw [system.always_cons property state next move rest taken, admitted, ← here]
    constructor
    · rintro ⟨-, always⟩
      have held : property next := always [] rest next rfl rfl
      exact ⟨held, (later held).mp always⟩
    · rintro ⟨held, allowed⟩
      exact ⟨holds, (later held).mpr allowed⟩

/-- The run rule for what is said about the moves so far and the state they lead to.
The moves are a ghost: no step reads them. -/
theorem admitted_history (condition : State → Move → Prop) (invariant : List Move → State → Prop)
    (preserved : ∀ past state move next, invariant past state → condition state move →
      system.step state move = some next → invariant (past ++ [move]) next)
    (past : List Move) (state final : State) (schedule : List Move)
    (initially : invariant past state)
    (admitted : system.Admitted condition state schedule)
    (reached : system.run state schedule = some final) : invariant (past ++ schedule) final := by
  induction schedule generalizing past state with
  | nil =>
    have same : state = final := Option.some.inj reached
    rwa [List.append_nil, ← same]
  | cons move rest inductionHypothesis =>
    obtain ⟨next, taken, remaining⟩ := (system.run_cons_iff state final move rest).mp reached
    have later := inductionHypothesis (past ++ [move]) next
      (preserved past state move next initially admitted.1 taken) (admitted.2 next taken) remaining
    rwa [List.append_assoc] at later

/-- A run is carried along maps of states and moves that commute with every step; a
refused move is refused on both sides. -/
theorem run_map {Other : Type u} {OtherMove : Type v} (target : System Other OtherMove)
    (f : State → Other) (g : Move → OtherMove)
    (commutes : ∀ state move,
      target.step (f state) (g move) = (system.step state move).map f)
    (state : State) (schedule : List Move) :
    target.run (f state) (schedule.map g) = (system.run state schedule).map f := by
  induction schedule generalizing state with
  | nil => rfl
  | cons move rest inductionHypothesis =>
    have step := commutes state move
    cases taken : system.step state move with
    | none => simp [run, step, taken]
    | some next => simpa [run, step, taken] using inductionHypothesis next

end System

/-- The state after so many successors, or at rest if there are fewer. -/
def follow (next : State → Option State) : Nat → State → State
  | 0, state => state
  | steps + 1, state =>
    match next state with
    | none => state
    | some middle => follow next steps middle

/-- Steps are followed one part after the other; at rest further steps change
nothing. -/
theorem follow_add (next : State → Option State) (first second : Nat) (state : State) :
    follow next (first + second) state = follow next second (follow next first state) := by
  induction first generalizing state with
  | zero => simp [follow]
  | succ steps inductionHypothesis =>
    rw [Nat.succ_add]
    cases moved : next state with
    | none => cases second <;> simp [follow, moved]
    | some middle => simpa [follow, moved] using inductionHypothesis middle

/-- What every successor preserves holds wherever the run is interrupted, also
before it has come to rest. -/
theorem follow_invariant (next : State → Option State) (kept : State → Prop)
    (preserved : ∀ state middle, kept state → next state = some middle → kept middle)
    (steps : Nat) (state : State) (initially : kept state) : kept (follow next steps state) := by
  induction steps generalizing state with
  | zero => exact initially
  | succ steps inductionHypothesis =>
    cases moved : next state with
    | none => simpa [follow, moved] using initially
    | some middle =>
      simpa [follow, moved] using
        inductionHypothesis middle (preserved state middle initially moved)

/-- The deterministic run from the first state ends at rest in the second. -/
inductive Settles (next : State → Option State) : State → State → Prop
  | rest (state : State) (idle : next state = none) : Settles next state state
  | step (state middle final : State) (moved : next state = some middle)
      (remaining : Settles next middle final) : Settles next state final

namespace Settles

variable {next : State → Option State}

/-- A deterministic run has one state of rest, so two descriptions of its end
describe the same state. -/
theorem unique {state first second : State} (left : Settles next state first)
    (right : Settles next state second) : first = second := by
  induction left with
  | rest state idle =>
    cases right with
    | rest _ _ => rfl
    | step _ middle _ moved _ => simp [idle] at moved
  | step state middle final moved remaining inductionHypothesis =>
    cases right with
    | rest _ idle => simp [idle] at moved
    | step _ other _ movedAgain rest =>
      have same : middle = other := Option.some.inj (moved.symm.trans movedAgain)
      exact inductionHypothesis (same ▸ rest)

/-- The state of rest has no successor. -/
theorem idle {state final : State} (settled : Settles next state final) :
    next final = none := by
  induction settled with
  | rest _ idle => exact idle
  | step _ _ _ _ _ inductionHypothesis => exact inductionHypothesis

/-- What every successor preserves holds at rest, by following the steps up to
there. -/
theorem invariant {state final : State} (kept : State → Prop)
    (preserved : ∀ state middle, kept state → next state = some middle → kept middle)
    (settled : Settles next state final) (initially : kept state) : kept final := by
  induction settled with
  | rest _ _ => exact initially
  | step state middle _ moved _ inductionHypothesis =>
    exact inductionHypothesis (preserved state middle initially moved)

/-- A measure that every successor decreases, among states the invariant
describes, makes the deterministic run come to rest. -/
theorem exists_of_measure (kept : State → Prop) (measure : State → Nat)
    (preserved : ∀ state middle, kept state → next state = some middle → kept middle)
    (decreases : ∀ state middle, kept state → next state = some middle →
      measure middle < measure state)
    (state : State) (initially : kept state) : ∃ final, Settles next state final := by
  induction size : measure state using Nat.strongRecOn generalizing state with
  | _ bound inductionHypothesis =>
    cases moved : next state with
    | none => exact ⟨state, .rest state moved⟩
    | some middle =>
      have smaller : measure middle < bound := size ▸ decreases state middle initially moved
      obtain ⟨final, settled⟩ := inductionHypothesis (measure middle) smaller middle
        (preserved state middle initially moved) rfl
      exact ⟨final, .step state middle final moved settled⟩

end Settles

end Honeywatch.Transition
