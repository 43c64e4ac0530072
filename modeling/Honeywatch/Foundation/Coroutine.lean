import Honeywatch.Foundation.Transition
import Mathlib.Data.List.Basic

/-!
# Cooperative coroutines over shared state

A coroutine runs without interruption up to its next await, where it names the
point it is suspended at, or to its end. Shared state is read and written only
between awaits. A pool holds any number of calls of one coroutine over one
shared state; a move starts a further call or answers the await of one
suspended call, in any order, so the runs of a pool are exactly the
interleavings at await points. A single call is driven by the list of answers
its awaits receive, and the drive is complete only when the list is used up.
-/

namespace Honeywatch.Cooperative

open Transition

universe u
variable {Shared Argument Point Reply Result : Type u}

/-- Where a call stands after it ran up to its next await. -/
inductive Progress (Point Result : Type u)
  | suspended (point : Point)
  | finished (result : Result)
deriving DecidableEq, Repr

/-- The same standing with another await. -/
def Progress.map {Other : Type u} (f : Point → Other) :
    Progress Point Result → Progress Other Result
  | .suspended point => .suspended (f point)
  | .finished result => .finished result

/-- The uninterrupted segments of a coroutine. `enter` runs from the call to
the first await, `resume` from the answer of one await to the next. -/
structure Coroutine (Shared Argument Point Reply Result : Type u) where
  enter : Shared → Argument → Shared × Progress Point Result
  resume : Shared → Argument → Point → Reply → Shared × Progress Point Result

/-- One call: its argument and where it stands. -/
structure Call (Argument Point Result : Type u) where
  argument : Argument
  progress : Progress Point Result
deriving DecidableEq, Repr

/-- All calls so far, in the order in which they were made, over one shared state. -/
structure Pool (Shared Argument Point Result : Type u) where
  shared : Shared
  calls : List (Call Argument Point Result)
deriving DecidableEq, Repr

/-- Make a further call, or answer the await at which a call is suspended. -/
inductive Move (Argument Reply : Type u)
  | call (argument : Argument)
  | reply (index : Nat) (value : Reply)

/-- The move answers the call at this index. -/
def Move.answers (index : Nat) : Move Argument Reply → Bool
  | .call _ => false
  | .reply answered _ => answered == index

namespace Coroutine

variable (coroutine : Coroutine Shared Argument Point Reply Result)

/-- The interleavings of the calls of a pool, one uninterrupted segment a step.
Only a suspended call can be answered. -/
def pool : System (Pool Shared Argument Point Result) (Move Argument Reply) where
  step state move :=
    match move with
    | .call argument =>
      let entered := coroutine.enter state.shared argument
      some { shared := entered.1, calls := state.calls ++ [⟨argument, entered.2⟩] }
    | .reply index value =>
      match state.calls[index]? with
      | some ⟨argument, .suspended point⟩ =>
        let resumed := coroutine.resume state.shared argument point value
        some { shared := resumed.1, calls := state.calls.set index ⟨argument, resumed.2⟩ }
      | _ => none

/-- A call appends itself with the progress of its first segment, which has run
before the next move. -/
theorem pool_call (state next : Pool Shared Argument Point Result) (argument : Argument) :
    coroutine.pool.step state (.call argument) = some next ↔
      next = {
        shared := (coroutine.enter state.shared argument).1,
        calls := state.calls ++ [⟨argument, (coroutine.enter state.shared argument).2⟩] } := by
  simp only [pool, Option.some.injEq]
  exact eq_comm

/-- An index that names a call splits the list of calls around it, and setting
the index replaces exactly that call. -/
theorem split_at {α : Type u} (items : List α) (index : Nat) (item : α)
    (found : items[index]? = some item) :
    ∃ before after, items = before ++ item :: after ∧ before.length = index ∧
      ∀ other, items.set index other = before ++ other :: after := by
  induction items generalizing index with
  | nil => simp at found
  | cons first rest inductionHypothesis =>
    cases index with
    | zero =>
      have same : first = item := by simpa using found
      exact ⟨[], rest, by simp [same], rfl, by simp⟩
    | succ position =>
      have later : rest[position]? = some item := by simpa using found
      obtain ⟨before, after, split, length, replaced⟩ := inductionHypothesis position later
      exact ⟨first :: before, after, by simp [split], by simp [length], by simp [replaced]⟩

/-- Where a list is split around an item, that item is found, and the others are left
without it. -/
theorem at_split {α : Type u} {items before after : List α} {item : α}
    (split : items = before ++ item :: after) :
    items[before.length]? = some item ∧ items.eraseIdx before.length = before ++ after := by
  subst split
  constructor
  · simp
  · simp [List.eraseIdx_append_of_length_le]

/-- An answer resumes exactly one suspended call and leaves the others alone; the
shared state is what its segment made of it. -/
theorem pool_reply (state next : Pool Shared Argument Point Result) (index : Nat) (value : Reply)
    (taken : coroutine.pool.step state (.reply index value) = some next) :
    ∃ before after argument point,
      before.length = index ∧
      state.calls = before ++ ⟨argument, .suspended point⟩ :: after ∧
      next = { shared := (coroutine.resume state.shared argument point value).1,
               calls := before ++
                 ⟨argument, (coroutine.resume state.shared argument point value).2⟩ :: after } := by
  simp only [pool] at taken
  split at taken
  case h_1 argument point found =>
    obtain ⟨before, after, split, length, replaced⟩ := split_at _ _ _ found
    refine ⟨before, after, argument, point, length, split, ?_⟩
    rw [replaced] at taken
    exact (Option.some.inj taken).symm
  case h_2 => simp at taken

/-- What a call at this index can still be answered, by a bound on every call
before it is made and by its progress afterwards. -/
def remaining (weight : Progress Point Result → Nat) (bound : Nat)
    (state : Pool Shared Argument Point Result) (index : Nat) : Nat :=
  match state.calls[index]? with
  | none => bound
  | some call => weight call.progress

/-- When every segment of a call decreases its weight, no call of a pool is
answered more often than the weight of its entry allows. -/
theorem pool_answers (weight : Progress Point Result → Nat) (bound : Nat)
    (entering : ∀ shared argument, weight (coroutine.enter shared argument).2 ≤ bound)
    (decreasing : ∀ shared argument point value,
      weight (coroutine.resume shared argument point value).2 < weight (.suspended point))
    (index : Nat) (state final : Pool Shared Argument Point Result)
    (schedule : List (Move Argument Reply))
    (reached : coroutine.pool.run state schedule = some final) :
    schedule.countP (Move.answers index) + remaining weight bound final index ≤
      remaining weight bound state index := by
  induction schedule generalizing state with
  | nil =>
    have same : state = final := Option.some.inj reached
    simp [same]
  | cons move rest inductionHypothesis =>
    obtain ⟨next, taken, later⟩ := (coroutine.pool.run_cons_iff state final move rest).mp reached
    have bounded := inductionHypothesis next later
    suffices advanced : (if move.answers index then 1 else 0) + remaining weight bound next index ≤
        remaining weight bound state index by
      rw [List.countP_cons]
      omega
    cases move with
    | call argument =>
      rw [pool_call] at taken
      subst taken
      have enters := entering state.shared argument
      rcases Nat.lt_trichotomy index state.calls.length with earlier | same | beyond
      · simp [Move.answers, remaining, List.getElem?_append_left earlier]
      · simpa [Move.answers, remaining, same] using enters
      · have absent : (state.calls ++
            [⟨argument, (coroutine.enter state.shared argument).2⟩])[index]? = none := by
          simpa using Nat.succ_le_of_lt beyond
        simp [Move.answers, remaining, absent, Nat.le_of_lt beyond]
    | reply answered value =>
      obtain ⟨before, after, argument, point, rfl, split, rfl⟩ :=
        coroutine.pool_reply state next answered value taken
      have decreases := decreasing state.shared argument point value
      by_cases same : before.length = index
      · subst same
        simp only [Move.answers, remaining, split, beq_self_eq_true, if_true,
          List.getElem?_append_right (Nat.le_refl _), Nat.sub_self, List.getElem?_cons_zero]
        omega
      · have elsewhere : ∀ call, (before ++ call :: after)[index]? =
            if index < before.length then before[index]?
            else after[index - before.length - 1]? := by
          intro call
          split
          · next earlier => exact List.getElem?_append_left earlier
          · next later =>
            rw [List.getElem?_append_right (by omega), List.getElem?_cons]
            simp [Nat.sub_ne_zero_of_lt (by omega : before.length < index)]
        simp [Move.answers, same, remaining, split, elsewhere]

/-- Drive one call by the answers of its awaits. The result is given only when
the call ends with the last answer of the list. -/
def drive (argument : Argument) :
    Shared → Progress Point Result → List Reply → Option (Shared × Result)
  | shared, .finished result, [] => some (shared, result)
  | _, .finished _, _ :: _ => none
  | _, .suspended _, [] => none
  | shared, .suspended point, value :: rest =>
    drive argument (coroutine.resume shared argument point value).1
      (coroutine.resume shared argument point value).2 rest

/-- A whole call, from its entry to its end. -/
def complete (shared : Shared) (argument : Argument) (answers : List Reply) :
    Option (Shared × Result) :=
  coroutine.drive argument (coroutine.enter shared argument).1
    (coroutine.enter shared argument).2 answers

/-- What holds after the first segment and is preserved by every further one
holds when the driven call has ended. -/
theorem drive_invariant (argument : Argument)
    (invariant : Shared → Progress Point Result → Prop)
    (preserved : ∀ shared point value, invariant shared (.suspended point) →
      invariant (coroutine.resume shared argument point value).1
        (coroutine.resume shared argument point value).2)
    (shared final : Shared) (progress : Progress Point Result) (result : Result)
    (answers : List Reply) (initially : invariant shared progress)
    (driven : coroutine.drive argument shared progress answers = some (final, result)) :
    invariant final (.finished result) := by
  induction answers generalizing shared progress with
  | nil =>
    cases progress with
    | suspended point => simp [drive] at driven
    | finished ended =>
      simp only [drive, Option.some.injEq, Prod.mk.injEq] at driven
      exact driven.1 ▸ driven.2 ▸ initially
  | cons value rest inductionHypothesis =>
    cases progress with
    | finished ended => simp [drive] at driven
    | suspended point =>
      exact inductionHypothesis _ _ (preserved shared point value initially) driven

/-- A call ends whatever the answers are, when a measure of its suspensions
decreases with every answer among the states the invariant describes. -/
theorem drive_ends (argument : Argument) (invariant : Shared → Progress Point Result → Prop)
    (measure : Shared → Point → Nat)
    (preserved : ∀ shared point value, invariant shared (.suspended point) →
      invariant (coroutine.resume shared argument point value).1
        (coroutine.resume shared argument point value).2)
    (decreases : ∀ shared point value next, invariant shared (.suspended point) →
      (coroutine.resume shared argument point value).2 = .suspended next →
      measure (coroutine.resume shared argument point value).1 next < measure shared point)
    (answers : Nat → Reply) (shared : Shared) (progress : Progress Point Result)
    (initially : invariant shared progress) :
    ∃ used final result,
      coroutine.drive argument shared progress ((List.range used).map answers) =
        some (final, result) := by
  cases progress with
  | finished result => exact ⟨0, shared, result, rfl⟩
  | suspended point =>
    induction size : measure shared point using Nat.strongRecOn
      generalizing shared point answers with
    | _ bound inductionHypothesis =>
      have kept := preserved shared point (answers 0) initially
      cases resumed : (coroutine.resume shared argument point (answers 0)).2 with
      | finished result =>
        exact ⟨1, _, result, by simp [drive, resumed]; rfl⟩
      | suspended next =>
        have smaller := decreases shared point (answers 0) next initially resumed
        obtain ⟨used, final, result, driven⟩ :=
          inductionHypothesis _ (size ▸ smaller) (fun position => answers (position + 1)) _ next
            (resumed ▸ kept) rfl
        refine ⟨used + 1, final, result, ?_⟩
        rw [List.range_succ_eq_map, List.map_cons, List.map_map, drive, resumed]
        exact driven

end Coroutine

end Honeywatch.Cooperative
