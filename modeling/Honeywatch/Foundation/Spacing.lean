import Mathlib.Data.List.Basic
import Mathlib.Tactic.Tauto

/-!
# Spacing of marks by barriers

In a list of what has happened some entries are marks and some are barriers. The
marks are spaced when between any two of them stands a barrier. Read from the
left this needs one bit: whether a mark has been met since the last barrier.
-/

namespace Honeywatch.Spacing

variable {α : Type} (mark barrier : α → Prop)

/-- Between any two marks there is a barrier. -/
def Spaced (log : List α) : Prop :=
  ∀ before first between second after, log = before ++ first :: (between ++ second :: after) →
    mark first → mark second → ∃ entry ∈ between, barrier entry

/-- Before any mark there is a barrier. -/
def Guarded (log : List α) : Prop :=
  ∀ between second after, log = between ++ second :: after → mark second →
    ∃ entry ∈ between, barrier entry

/-- A mark has been met and no barrier since. -/
def Open (opened : Prop) (entry : α) : Prop := mark entry ∨ (opened ∧ ¬barrier entry)

/-- The bit after a list. -/
def openAfter (opened : Prop) (log : List α) : Prop := log.foldl (Open mark barrier) opened

/-- No mark is met while the bit is up. -/
def SpacedFrom : Prop → List α → Prop
  | _, [] => True
  | opened, entry :: rest =>
    (mark entry → ¬opened) ∧ SpacedFrom (Open mark barrier opened entry) rest

variable {mark barrier}

/-- Up to the next mark there is a barrier: the first entry is no mark, and it is a
barrier or the rest is guarded. -/
theorem guarded_cons {entry : α} {rest : List α} :
    Guarded mark barrier (entry :: rest) ↔
      ¬mark entry ∧ (barrier entry ∨ Guarded mark barrier rest) := by
  constructor
  · intro guarded
    have first : ¬mark entry := by
      intro marked
      obtain ⟨other, member, -⟩ := guarded [] entry rest rfl marked
      cases member
    refine ⟨first, ?_⟩
    by_cases stops : barrier entry
    · exact .inl stops
    · refine .inr fun between second after split marked => ?_
      obtain ⟨other, member, held⟩ :=
        guarded (entry :: between) second after (by rw [split, List.cons_append]) marked
      rcases List.mem_cons.mp member with rfl | later
      · exact absurd held stops
      · exact ⟨other, later, held⟩
  · rintro ⟨first, later⟩ between second after split marked
    cases between with
    | nil =>
      obtain ⟨rfl, rfl⟩ := List.cons.inj split
      exact absurd marked first
    | cons other others =>
      obtain ⟨rfl, rfl⟩ := List.cons.inj split
      rcases later with stops | guarded
      · exact ⟨entry, List.mem_cons_self, stops⟩
      · obtain ⟨other, member, held⟩ := guarded others second after rfl marked
        exact ⟨other, List.mem_cons_of_mem entry member, held⟩

/-- Marks are spaced if each of them is guarded from the next one. This is how the
property is decided entry by entry. -/
theorem spaced_cons {entry : α} {rest : List α} :
    Spaced mark barrier (entry :: rest) ↔
      (mark entry → Guarded mark barrier rest) ∧ Spaced mark barrier rest := by
  constructor
  · intro spaced
    constructor
    · intro marked between second after split
      exact spaced [] entry between second after (by rw [split, List.nil_append]) marked
    · intro before first between second after split
      exact spaced (entry :: before) first between second after
        (by rw [split, List.cons_append])
  · rintro ⟨guarded, spaced⟩ before first between second after split marked
    cases before with
    | nil =>
      obtain ⟨rfl, rfl⟩ := List.cons.inj split
      exact guarded marked between second after rfl
    | cons other others =>
      obtain ⟨rfl, rfl⟩ := List.cons.inj split
      exact spaced others first between second after rfl marked

/-- Reading from the left, with the bit up or down, decides the spacing: with the
bit up a barrier has to come before the next mark. -/
theorem spacedFrom_iff (opened : Prop) (log : List α) :
    SpacedFrom mark barrier opened log ↔
      Spaced mark barrier log ∧ (opened → Guarded mark barrier log) := by
  induction log generalizing opened with
  | nil =>
    refine iff_of_true trivial ⟨?_, fun _ => ?_⟩
    · intro before first between second after split
      cases before <;> cases split
    · intro between second after split
      cases between <;> cases split
  | cons entry rest inductionHypothesis =>
    rw [SpacedFrom, inductionHypothesis, spaced_cons, guarded_cons, Open]
    tauto

/-- The marks of a list are spaced when no mark is met with the bit up. -/
theorem spaced_iff (log : List α) :
    Spaced mark barrier log ↔ SpacedFrom mark barrier False log := by
  rw [spacedFrom_iff]
  exact ⟨fun spaced => ⟨spaced, False.elim⟩, fun both => both.1⟩

/-- A log may be checked in parts, if it is remembered whether a mark is still open.
-/
theorem spacedFrom_append (opened : Prop) (first second : List α) :
    SpacedFrom mark barrier opened (first ++ second) ↔
      SpacedFrom mark barrier opened first ∧
        SpacedFrom mark barrier (openAfter mark barrier opened first) second := by
  induction first generalizing opened with
  | nil => exact (and_iff_right trivial).symm
  | cons entry rest inductionHypothesis =>
    rw [List.cons_append, SpacedFrom, SpacedFrom, inductionHypothesis, and_assoc]
    rfl

/-- What is appended is read with the bit that the list has left. -/
theorem spaced_append (log more : List α) :
    Spaced mark barrier (log ++ more) ↔
      Spaced mark barrier log ∧
        SpacedFrom mark barrier (openAfter mark barrier False log) more := by
  rw [spaced_iff, spacedFrom_append, ← spaced_iff]

/-- What is open after two parts is what the second one leaves open. -/
theorem openAfter_append (opened : Prop) (first second : List α) :
    openAfter mark barrier opened (first ++ second) =
      openAfter mark barrier (openAfter mark barrier opened first) second :=
  List.foldl_append

/-- Without a barrier the bit is up if it was, or a mark is met; nothing else moves
it. -/
theorem openAfter_of_no_barrier {more : List α} (through : ∀ entry ∈ more, ¬barrier entry)
    (opened : Prop) :
    openAfter mark barrier opened more ↔ opened ∨ ∃ entry ∈ more, mark entry := by
  induction more generalizing opened with
  | nil => simp [openAfter]
  | cons entry rest inductionHypothesis =>
    obtain ⟨first, others⟩ := List.forall_mem_cons.mp through
    have step : openAfter mark barrier opened (entry :: rest) =
        openAfter mark barrier (Open mark barrier opened entry) rest := rfl
    rw [step, inductionHypothesis others, List.exists_mem_cons_iff, Open]
    tauto

/-- With the bit up and no barrier to come, the spacing allows no mark, and
conversely a text without marks is spaced. -/
theorem spacedFrom_open {more : List α} (through : ∀ entry ∈ more, ¬barrier entry) :
    SpacedFrom mark barrier True more ↔ ∀ entry ∈ more, ¬mark entry := by
  induction more with
  | nil => simp [SpacedFrom]
  | cons entry rest inductionHypothesis =>
    obtain ⟨first, others⟩ := List.forall_mem_cons.mp through
    have stays : Open mark barrier True entry = True :=
      eq_true (.inr ⟨trivial, first⟩)
    rw [SpacedFrom, stays, inductionHypothesis others, List.forall_mem_cons]
    tauto

/-- A list with at most one entry that is a mark is spaced, whatever barriers it
has. -/
theorem spacedFrom_once {only : α} (unique : ∀ entry, mark entry → entry = only)
    {more : List α} (nodup : more.Nodup) : SpacedFrom mark barrier False more := by
  rw [← spaced_iff]
  rintro before first between second after rfl marked marked'
  have later := (List.nodup_append.mp nodup).2.1
  have absent := (List.nodup_cons.mp later).1
  rw [unique first marked, ← unique second marked'] at absent
  exact absurd (List.mem_append_right between List.mem_cons_self) absent

end Honeywatch.Spacing
