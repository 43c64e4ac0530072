import Mathlib.Order.Bounds.Basic

/-!
# The first match in falling levels

Lists of items, each at a level, with the highest level first. Two loops return the
level of the first item that matches. It is the greatest level that holds a match, so
it depends on the set of the items of each level only, and it rises with what matches.
-/

namespace Honeywatch.Levels

variable {Level Item : Type}

/-- The levels that hold a match. -/
def matched (matching : Item → Bool) (levels : List (Level × List Item)) : Set Level :=
  {level | ∃ items, (level, items) ∈ levels ∧ ∃ item ∈ items, matching item = true}

/-- The level of the first match, or else the lowest one. -/
def firstMatch (matching : Item → Bool) (lowest : Level) : List (Level × List Item) → Level
  | [] => lowest
  | (level, items) :: rest =>
    if items.any matching then level else firstMatch matching lowest rest

/-- Each level is above those after it. -/
def Falling [LT Level] (levels : List (Level × List Item)) : Prop :=
  levels.Pairwise fun higher lower => lower.1 < higher.1

/-- Permuting and duplicating items, any number of times. -/
inductive Rearranged : List Item → List Item → Prop
  | permuted {items others : List Item} (permutation : items.Perm others) :
      Rearranged items others
  | duplicated {item : Item} {items : List Item} (member : item ∈ items) :
      Rearranged items (item :: items)
  | trans {items others last : List Item} (first : Rearranged items others)
      (second : Rearranged others last) : Rearranged items last

variable {matching more : Item → Bool} {lowest level : Level} {items others : List Item}
variable {levels rest : List (Level × List Item)}

/-- Rearranged lists have the same items, so what is asked of all items of the one
is asked of those of the other. -/
theorem Rearranged.mem_iff (rearranged : Rearranged items others) (item : Item) :
    item ∈ others ↔ item ∈ items := by
  induction rearranged with
  | permuted permutation => exact permutation.mem_iff.symm
  | duplicated member =>
    constructor
    · intro listed
      rcases List.mem_cons.mp listed with rfl | earlier
      · exact member
      · exact earlier
    · exact List.mem_cons_of_mem _
  | trans first second firstHypothesis secondHypothesis =>
    exact secondHypothesis.trans firstHypothesis

/-- The matched levels of a list are those of its rest, and the first one if
something in it matches. -/
theorem matched_cons :
    matched matching ((level, items) :: rest) =
      {other | other = level ∧ items.any matching = true} ∪ matched matching rest := by
  ext other
  simp only [matched, List.mem_cons, Prod.mk.injEq, List.any_eq_true, Set.mem_union,
    Set.mem_ofPred_eq]
  constructor
  · rintro ⟨found, ⟨rfl, rfl⟩ | later, item⟩
    · exact .inl ⟨rfl, item⟩
    · exact .inr ⟨found, later, item⟩
  · rintro (⟨rfl, item⟩ | ⟨found, later, item⟩)
    · exact ⟨items, .inl ⟨rfl, rfl⟩, item⟩
    · exact ⟨found, .inr later, item⟩

/-- Without a match in its list a level adds nothing. -/
theorem matched_skip (missing : ¬items.any matching = true) :
    matched matching ((level, items) :: rest) = matched matching rest := by
  simp [matched_cons, missing]

/-- Without any match the loops end with the lowest level, which is what they return
by default. -/
theorem firstMatch_lowest (unmatched : matched matching levels = ∅) :
    firstMatch matching lowest levels = lowest := by
  induction levels with
  | nil => rfl
  | cons head rest inductionHypothesis =>
    obtain ⟨level, items⟩ := head
    rw [matched_cons, Set.union_empty_iff] at unmatched
    have missing : ¬items.any matching = true := fun holds =>
      Set.eq_empty_iff_forall_notMem.mp unmatched.1 level ⟨rfl, holds⟩
    rw [firstMatch, if_neg missing]
    exact inductionHypothesis unmatched.2

variable [LinearOrder Level]

/-- With a match they end at the greatest level that holds one: no level after the
first match is above it, and none before it holds a match. -/
theorem firstMatch_isGreatest (falling : Falling levels)
    (nonempty : (matched matching levels).Nonempty) :
    IsGreatest (matched matching levels) (firstMatch matching lowest levels) := by
  induction levels with
  | nil =>
    obtain ⟨level, items, listed, -⟩ := nonempty
    cases listed
  | cons head rest inductionHypothesis =>
    obtain ⟨level, items⟩ := head
    obtain ⟨above, below⟩ := List.pairwise_cons.mp falling
    by_cases holds : items.any matching = true
    · rw [firstMatch, if_pos holds, matched_cons]
      constructor
      · exact .inl ⟨rfl, holds⟩
      · rintro other (⟨rfl, -⟩ | ⟨found, listed, -⟩)
        · exact le_refl _
        · exact (above (other, found) listed).le
    · rw [matched_skip holds] at nonempty ⊢
      rw [firstMatch, if_neg holds]
      exact inductionHypothesis below nonempty

/-- In both cases it is the greatest of the levels with a match and the lowest one.
The levels fall, so the first match is the highest. -/
theorem firstMatch_greatest (falling : Falling levels) (least : IsBot lowest) :
    IsGreatest (insert lowest (matched matching levels))
      (firstMatch matching lowest levels) := by
  rcases (matched matching levels).eq_empty_or_nonempty with unmatched | nonempty
  · rw [firstMatch_lowest unmatched, unmatched, insert_empty_eq]
    exact isGreatest_singleton
  · have greatest : IsGreatest _ (firstMatch matching lowest levels) :=
      firstMatch_isGreatest falling nonempty
    have inserted := greatest.insert lowest
    rwa [max_eq_right (least _)] at inserted

/-- More levels with a match never give a lower level. -/
theorem firstMatch_mono {later : List (Level × List Item)} (falling : Falling levels)
    (laterFalling : Falling later) (least : IsBot lowest)
    (contained : matched matching levels ⊆ matched more later) :
    firstMatch matching lowest levels ≤ firstMatch more lowest later :=
  (firstMatch_greatest falling least).mono (firstMatch_greatest laterFalling least)
    (Set.insert_subset_insert contained)

/-- The levels with a match determine the result. -/
theorem firstMatch_congr {later : List (Level × List Item)} (falling : Falling levels)
    (laterFalling : Falling later) (least : IsBot lowest)
    (same : matched matching levels = matched more later) :
    firstMatch matching lowest levels = firstMatch more lowest later :=
  le_antisymm (firstMatch_mono falling laterFalling least same.subset)
    (firstMatch_mono laterFalling falling least same.superset)

end Honeywatch.Levels
