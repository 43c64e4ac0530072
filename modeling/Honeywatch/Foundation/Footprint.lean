import Mathlib.Data.Set.Function

/-!
# Operations with a footprint

An operation changes a store of cells and answers. One that is confined to an
area leaves the other cells alone, and neither its answer nor what it leaves in
the area depends on them. Where each task has an owner and is confined to its
owner's area, and the areas of two owners share no cell, the tasks of one owner
are answered as if they were the only ones.
-/

namespace Honeywatch

variable {Key Cell Answer Other Task Owner : Type}

/-- What an operation answers and leaves is what the next one starts with. -/
theorem run_bind {Store : Type} (operation : StateM Store Answer)
    (next : Answer → StateM Store Other) (store : Store) :
    (operation >>= next).run store =
      (next (operation.run store).1).run (operation.run store).2 := rfl

/-- Outside the area nothing changes, and nothing outside matters. -/
structure Confined (area : Set Key) (operation : StateM (Key → Cell) Answer) : Prop where
  frame : ∀ store, Set.EqOn (operation.run store).2 store areaᶜ
  within : ∀ first second, Set.EqOn first second area →
    (operation.run first).1 = (operation.run second).1 ∧
      Set.EqOn (operation.run first).2 (operation.run second).2 area

namespace Confined

/-- An answer without a look at the store. -/
theorem pure (area : Set Key) (answer : Answer) :
    Confined area (Pure.pure answer : StateM (Key → Cell) Answer) where
  frame store := Set.eqOn_refl store _
  within _ _ same := ⟨rfl, same⟩

/-- One operation after the other. The second may depend on the answer of the first,
which is the same from stores that agree on the area. -/
theorem bind {area : Set Key} {operation : StateM (Key → Cell) Answer}
    {next : Answer → StateM (Key → Cell) Other} (confined : Confined area operation)
    (then_confined : ∀ answer, Confined area (next answer)) :
    Confined area (operation >>= next) where
  frame store := by
    have after := (then_confined (operation.run store).1).frame (operation.run store).2
    exact after.trans (confined.frame store)
  within first second same := by
    obtain ⟨answer, stores⟩ := confined.within first second same
    rw [run_bind, run_bind, answer]
    exact (then_confined (operation.run second).1).within _ _ stores

/-- A larger area confines as well: it leaves fewer cells alone, and stores that
agree on it agree on the smaller one. -/
theorem mono {area larger : Set Key} {operation : StateM (Key → Cell) Answer}
    (confined : Confined area operation) (contained : area ⊆ larger) :
    Confined larger operation where
  frame store := (confined.frame store).mono (Set.compl_subset_compl.mpr contained)
  within first second same := by
    obtain ⟨answer, stores⟩ := confined.within first second (same.mono contained)
    refine ⟨answer, ?_⟩
    intro key member
    by_cases inside : key ∈ area
    · exact stores inside
    · exact (confined.frame first inside).trans
        ((same member).trans (confined.frame second inside).symm)

end Confined

/-- The tasks one after the other, each with its answer. -/
def runTasks (perform : Task → StateM (Key → Cell) Answer) :
    List Task → StateM (Key → Cell) (List (Task × Answer))
  | [] => pure []
  | task :: rest => do
    let answer ← perform task
    let answers ← runTasks perform rest
    return (task, answer) :: answers

section Owners

variable [DecidableEq Owner]

/-- The tasks of an owner. -/
def ownedBy (owner : Task → Owner) (one : Owner) (tasks : List Task) : List Task :=
  tasks.filter fun task => decide (owner task = one)

/-- The answers to the tasks of an owner. -/
def answersTo (owner : Task → Owner) (one : Owner) (answers : List (Task × Answer)) :
    List (Task × Answer) :=
  answers.filter fun answer => decide (owner answer.1 = one)

variable {perform : Task → StateM (Key → Cell) Answer} {owner : Task → Owner}
  {area : Owner → Set Key}

/-- An owner's tasks alone are answered as among the others, and leave the same
in the owner's area. -/
theorem answered_alone (confined : ∀ task, Confined (area (owner task)) (perform task))
    (apart : ∀ one other, one ≠ other → area one ⊆ (area other)ᶜ) (one : Owner)
    (tasks : List Task) (first second : Key → Cell) (same : Set.EqOn first second (area one)) :
    answersTo owner one ((runTasks perform tasks).run first).1 =
        ((runTasks perform (ownedBy owner one tasks)).run second).1 ∧
      Set.EqOn ((runTasks perform tasks).run first).2
        ((runTasks perform (ownedBy owner one tasks)).run second).2 (area one) := by
  induction tasks generalizing first second with
  | nil => exact ⟨rfl, same⟩
  | cons task rest inductionHypothesis =>
    by_cases own : owner task = one
    · obtain ⟨answer, stores⟩ := (own ▸ confined task).within first second same
      obtain ⟨answers, finals⟩ := inductionHypothesis _ _ stores
      have mine : ownedBy owner one (task :: rest) = task :: ownedBy owner one rest := by
        rw [ownedBy, List.filter_cons_of_pos (by simpa using own)]
        rfl
      rw [mine]
      constructor
      · have head : answersTo owner one ((runTasks perform (task :: rest)).run first).1 =
            (task, ((perform task).run first).1) ::
              answersTo owner one ((runTasks perform rest).run ((perform task).run first).2).1 :=
          List.filter_cons_of_pos (by simpa using own)
        rw [head, answers, answer]
        rfl
      · exact finals
    · have elsewhere : area one ⊆ (area (owner task))ᶜ :=
        apart one (owner task) (Ne.symm own)
      have stores : Set.EqOn ((perform task).run first).2 second (area one) :=
        (((confined task).frame first).mono elsewhere).trans same
      obtain ⟨answers, finals⟩ := inductionHypothesis _ _ stores
      have others : ownedBy owner one (task :: rest) = ownedBy owner one rest :=
        List.filter_cons_of_neg (by simpa using own)
      rw [others]
      constructor
      · have tail : answersTo owner one ((runTasks perform (task :: rest)).run first).1 =
            answersTo owner one ((runTasks perform rest).run ((perform task).run first).2).1 :=
          List.filter_cons_of_neg (by simpa using own)
        rw [tail, answers]
      · exact finals

/-- Two runs with the same tasks of an owner, from stores that agree on its area,
answer these tasks alike. The tasks of others are framed away one by one. -/
theorem answered_alike (confined : ∀ task, Confined (area (owner task)) (perform task))
    (apart : ∀ one other, one ≠ other → area one ⊆ (area other)ᶜ) (one : Owner)
    {tasks others : List Task} (mine : ownedBy owner one tasks = ownedBy owner one others)
    {first second : Key → Cell} (same : Set.EqOn first second (area one)) :
    answersTo owner one ((runTasks perform tasks).run first).1 =
        answersTo owner one ((runTasks perform others).run second).1 ∧
      Set.EqOn ((runTasks perform tasks).run first).2
        ((runTasks perform others).run second).2 (area one) := by
  obtain ⟨answers, stores⟩ := answered_alone confined apart one tasks first second same
  obtain ⟨alike, likewise⟩ :=
    answered_alone confined apart one others second second (Set.eqOn_refl second _)
  rw [mine] at answers stores
  exact ⟨answers.trans alike.symm, stores.trans likewise.symm⟩

end Owners

end Honeywatch
