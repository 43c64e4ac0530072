import Mathlib.Data.List.Basic

/-!
# Effects of a component

An effect is run after a render in which one of its dependencies has changed.
Each run is an instance with a closure of its own, and in it a flag that is up
until the cleanup of that instance; what an instance has started may end long
after. The cleanup of the instance before goes first, so that one flag is up at
a time, the last one's, however many instances still have work under way.
-/

namespace Honeywatch.Effects

variable {Deps Work : Type}

/-- A run of an effect: the flag of its closure, and what it has started. -/
structure Instance (Work : Type) where
  mounted : Bool
  work : Work

/-- The cleanup of the last instance. -/
def cleanup : List (Instance Work) → List (Instance Work)
  | [] => []
  | [last] => [{ last with mounted := false }]
  | former :: next :: rest => former :: cleanup (next :: rest)

/-- The dependencies of the last run and the instances so far. -/
structure Effect (Deps Work : Type) where
  ran : Option Deps
  instances : List (Instance Work)

/-- Before the first run. -/
def Effect.initial : Effect Deps Work := { ran := none, instances := [] }

/-- A run with its dependencies. -/
def Effect.rerun (effect : Effect Deps Work) (deps : Deps) (work : Work) : Effect Deps Work :=
  { ran := some deps
    instances := cleanup effect.instances ++ [{ mounted := true, work }] }

/-- The work of an instance has gone on. -/
def Effect.advance (effect : Effect Deps Work) (index : Nat) (entry : Instance Work)
    (work : Work) : Effect Deps Work :=
  { effect with instances := effect.instances.set index { entry with work } }

/-- A cleanup concerns the last instance; those before it were cleaned up when it
began. -/
theorem cleanup_append (former : List (Instance Work)) (last : Instance Work) :
    cleanup (former ++ [last]) = former ++ [{ last with mounted := false }] := by
  induction former with
  | nil => rfl
  | cons first rest inductionHypothesis =>
    cases rest with
    | nil => rfl
    | cons second others =>
      simp only [List.cons_append, cleanup] at inductionHypothesis ⊢
      rw [inductionHypothesis]

/-- A cleanup leaves all instances and what they have started. -/
@[simp] theorem map_work_cleanup (instances : List (Instance Work)) :
    (cleanup instances).map Instance.work = instances.map Instance.work := by
  rcases List.eq_nil_or_concat instances with rfl | ⟨former, last, rfl⟩
  · rfl
  · simp [cleanup_append]

/-- It removes no instance. -/
@[simp] theorem length_cleanup (instances : List (Instance Work)) :
    (cleanup instances).length = instances.length := by
  rw [← List.length_map Instance.work, map_work_cleanup, List.length_map]

/-- The effect has run and only the flag of its last instance is up. -/
structure Current (effect : Effect Deps Work) (deps : Deps) (former : List (Instance Work))
    (work : Work) : Prop where
  ran : effect.ran = some deps
  instances : effect.instances = former ++ [{ mounted := true, work }]
  superseded : ∀ entry ∈ former, entry.mounted = false

/-- The first run makes an instance current. -/
theorem current_first (deps : Deps) (work : Work) :
    Current (Effect.initial.rerun deps work) deps [] work where
  ran := rfl
  instances := rfl
  superseded := by simp

/-- A run makes its instance current, and the one before it superseded: the cleanup
lowers the flag of the last instance before the next one starts. -/
theorem Current.rerun {effect : Effect Deps Work} {deps : Deps} {former : List (Instance Work)}
    {work : Work} (current : Current effect deps former work) (next : Deps) (started : Work) :
    Current (effect.rerun next started) next (former ++ [{ mounted := false, work }]) started where
  ran := rfl
  instances := by
    simp only [Effect.rerun, current.instances, cleanup_append]
  superseded := by
    intro entry member
    rcases List.mem_append.mp member with earlier | last
    · exact current.superseded entry earlier
    · rw [List.mem_singleton.mp last]

/-- Whether it is the first run or not, it makes its instance current, and the former ones
are those that there were. -/
theorem exists_current_rerun {effect : Effect Deps Work}
    (begun : effect = Effect.initial ∨ ∃ deps former work, Current effect deps former work)
    (next : Deps) (started : Work) :
    ∃ former, Current (effect.rerun next started) next former started ∧
      former.map Instance.work = effect.instances.map Instance.work := by
  rcases begun with rfl | ⟨deps, former, work, current⟩
  · exact ⟨[], current_first next started, rfl⟩
  · exact ⟨_, current.rerun next started, by simp [current.instances]⟩

/-- The flag that an instance finds tells whether it is the last one, whatever
number of instances came before it. -/
theorem Current.mounted_iff {effect : Effect Deps Work} {deps : Deps}
    {former : List (Instance Work)} {work : Work} (current : Current effect deps former work)
    {index : Nat} {entry : Instance Work} (found : effect.instances[index]? = some entry) :
    entry.mounted = true ↔ index + 1 = effect.instances.length := by
  have bounded : index < effect.instances.length := (List.getElem?_eq_some_iff.mp found).1
  rw [current.instances] at found bounded ⊢
  rw [List.length_append, List.length_singleton] at bounded ⊢
  by_cases before : index < former.length
  · rw [List.getElem?_append_left before] at found
    have down := current.superseded entry (List.mem_of_getElem? found)
    simp only [down, Bool.false_eq_true, false_iff]
    omega
  · have last : index = former.length := by omega
    rw [last, List.getElem?_concat_length] at found
    cases found
    simp only [last]

/-- The last instance's work goes on, and stays the current one's, as only an
instance with its flag up is the last one. -/
theorem Current.advance_last {effect : Effect Deps Work} {deps : Deps}
    {former : List (Instance Work)} {work : Work} (current : Current effect deps former work)
    {index : Nat} {entry : Instance Work} (found : effect.instances[index]? = some entry)
    (up : entry.mounted = true) (next : Work) :
    entry.work = work ∧ Current (effect.advance index entry next) deps former next := by
  have last := (current.mounted_iff found).mp up
  rw [current.instances, List.length_append, List.length_singleton] at last
  obtain rfl : index = former.length := by omega
  rw [current.instances, List.getElem?_concat_length] at found
  cases found
  refine ⟨rfl, { ran := current.ran, instances := ?_, superseded := current.superseded }⟩
  simp [Effect.advance, current.instances]

/-- Work of a superseded instance leaves the current one as it is: its await returns
to an instance whose flag is down. -/
theorem Current.advance_former {effect : Effect Deps Work} {deps : Deps}
    {former : List (Instance Work)} {work : Work} (current : Current effect deps former work)
    {index : Nat} {entry : Instance Work} (found : effect.instances[index]? = some entry)
    (down : entry.mounted = false) (next : Work) :
    Current (effect.advance index entry next) deps
      (former.set index { entry with work := next }) work where
  ran := current.ran
  instances := by
    have bounded : index < effect.instances.length := (List.getElem?_eq_some_iff.mp found).1
    have other : index + 1 ≠ effect.instances.length := by
      rw [Ne, ← current.mounted_iff found, down]
      exact Bool.false_ne_true
    rw [current.instances, List.length_append, List.length_singleton] at bounded other
    simp only [Effect.advance, current.instances]
    exact List.set_append_left _ _ (by omega)
  superseded := by
    intro other member
    rcases List.mem_or_eq_of_mem_set member with earlier | rfl
    · exact current.superseded other earlier
    · exact down

end Honeywatch.Effects
