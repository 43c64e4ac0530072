import Honeywatch.Foundation.OrderedDict
import Mathlib.Algebra.BigOperators.Group.List.Lemmas
import Mathlib.Data.List.Sort

/-!
# Counts added up by key

Entries, each a key with a count, are added up in a dictionary, one entry after
the other. What the dictionary holds under a key is the sum of the counts of its
entries, in whatever order they came. Sorted by the larger sum, and equal sums
by the smaller key, the items make one list that the entries determine.
-/

namespace Honeywatch

universe u

variable {Key : Type u} [DecidableEq Key]

/-- What the entries of a key add up to. -/
def countOf (entries : List (Key × Nat)) (key : Key) : Nat :=
  ((entries.filter fun entry => decide (entry.1 = key)).map Prod.snd).sum

/-- Without entries a key counts nothing. -/
@[simp] theorem countOf_nil (key : Key) : countOf [] key = 0 := rfl

/-- An entry counts for its own key, and for no other one. -/
theorem countOf_cons (entry : Key × Nat) (rest : List (Key × Nat)) (key : Key) :
    countOf (entry :: rest) key = (if entry.1 = key then entry.2 else 0) + countOf rest key := by
  unfold countOf
  rw [List.filter_cons]
  by_cases same : entry.1 = key
  · simp [same]
  · simp [same]

/-- The counts of two lists of entries are added up key by key. -/
theorem countOf_append (first second : List (Key × Nat)) (key : Key) :
    countOf (first ++ second) key = countOf first key + countOf second key := by
  simp [countOf]

/-- The order of the entries does not matter. -/
theorem countOf_perm {first second : List (Key × Nat)} (perm : first.Perm second) (key : Key) :
    countOf first key = countOf second key :=
  ((perm.filter _).map Prod.snd).sum_eq

/-- Nor does it matter in how many parts a count comes, since only their sum is
asked for. -/
theorem countOf_parts (key : Key) (parts : List Nat) (other : Key) :
    countOf (parts.map fun part => (key, part)) other = if key = other then parts.sum else 0 := by
  induction parts with
  | nil => simp
  | cons part rest inductionHypothesis =>
    rw [List.map_cons, countOf_cons, inductionHypothesis, List.sum_cons]
    by_cases same : key = other
    · simp [same]
    · simp [same]

omit [DecidableEq Key] in
/-- All parts have the one key, provided there is a part. -/
theorem mem_keys_parts {key : Key} {parts : List Nat} (several : parts ≠ []) {other : Key} :
    other ∈ (parts.map fun part => (key, part)).map Prod.fst ↔ other = key := by
  rw [List.map_map, List.mem_map]
  constructor
  · rintro ⟨part, _, rfl⟩
    rfl
  · rintro rfl
    obtain ⟨part, member⟩ := List.exists_mem_of_ne_nil parts several
    exact ⟨part, member, rfl⟩

/-- The dictionary after these entries: `totals[key] = totals.get(key, 0) + count`. -/
def tally (dict : OrderedDict Key Nat) : List (Key × Nat) → OrderedDict Key Nat
  | [] => dict
  | entry :: rest => tally (dict.setItem entry.1 ((dict.get entry.1).getD 0 + entry.2)) rest

/-- The keys of the dictionary are those it had and those of the entries, also of an
entry that counts zero. -/
theorem mem_keys_tally (dict : OrderedDict Key Nat) (entries : List (Key × Nat)) (key : Key) :
    key ∈ (tally dict entries).keys ↔ key ∈ dict.keys ∨ key ∈ entries.map Prod.fst := by
  induction entries generalizing dict with
  | nil => simp [tally]
  | cons entry rest inductionHypothesis =>
    rw [tally, inductionHypothesis, OrderedDict.mem_keys_setItem, List.map_cons, List.mem_cons]
    tauto

/-- Under each key the entries are added to what was there. A key that no entry
names keeps its value. -/
theorem get_tally (dict : OrderedDict Key Nat) (entries : List (Key × Nat)) (key : Key) :
    ((tally dict entries).get key).getD 0 = (dict.get key).getD 0 + countOf entries key := by
  induction entries generalizing dict with
  | nil => simp [tally]
  | cons entry rest inductionHypothesis =>
    rw [tally, inductionHypothesis, OrderedDict.get_setItem, countOf_cons]
    by_cases same : key = entry.1
    · rw [if_pos same, if_pos same.symm, Option.getD_some, same]
      omega
    · rw [if_neg same, if_neg (Ne.symm same), Nat.zero_add]

section Ranking

variable [PartialOrder Key]

/-- The larger count comes first, and of equal counts the smaller key. -/
def Before (first second : Key × Nat) : Prop :=
  second.2 < first.2 ∨ (first.2 = second.2 ∧ first.1 ≤ second.1)

instance [DecidableLE Key] : DecidableRel (Before : Key × Nat → Key × Nat → Prop) :=
  fun first second =>
    inferInstanceAs (Decidable (second.2 < first.2 ∨ (first.2 = second.2 ∧ first.1 ≤ second.1)))

/-- Every key of the entries once, with its count, in that order. -/
structure Totals (entries result : List (Key × Nat)) : Prop where
  keys : ∀ key, key ∈ result.map Prod.fst ↔ key ∈ entries.map Prod.fst
  distinct : (result.map Prod.fst).Nodup
  counts : ∀ item ∈ result, item.2 = countOf entries item.1
  sorted : result.Pairwise Before

omit [DecidableEq Key] in
/-- No two items come before each other, so a sorted list of them has one order. -/
theorem before_antisymm {first second : Key × Nat} (forth : Before first second)
    (back : Before second first) : first = second := by
  rcases forth with larger | ⟨equal, below⟩
  · rcases back with smaller | ⟨same, _⟩
    · omega
    · omega
  · rcases back with smaller | ⟨_, above⟩
    · omega
    · exact Prod.ext (le_antisymm below above) equal

omit [DecidableEq Key] in
/-- The order by the larger sum and then by the smaller key is transitive, as a sort
asks for. -/
theorem before_trans {first second third : Key × Nat} (one : Before first second)
    (two : Before second third) : Before first third := by
  rcases one with larger | ⟨equal, below⟩
  · left
    rcases two with more | ⟨same, _⟩
    · omega
    · omega
  · rcases two with more | ⟨same, further⟩
    · left
      omega
    · right
      exact ⟨equal.trans same, below.trans further⟩

omit [DecidableEq Key] in
/-- Of any two items, one comes before the other: by the count, and by the key where
the counts are equal. -/
theorem before_total [Std.Total (α := Key) (· ≤ ·)] (first second : Key × Nat) :
    Before first second ∨ Before second first := by
  rcases Nat.lt_trichotomy first.2 second.2 with less | equal | more
  · right
    left
    exact less
  · rcases Std.Total.total (r := (· ≤ ·)) first.1 second.1 with below | above
    · left
      right
      exact ⟨equal, below⟩
    · right
      right
      exact ⟨equal.symm, above⟩
  · left
    left
    exact more

/-- The entries leave no choice. Keys and counts are determined by them, and a
strict order admits one arrangement. -/
theorem Totals.unique {entries first second : List (Key × Nat)} (one : Totals entries first)
    (other : Totals entries second) : first = second := by
  have counted {result : List (Key × Nat)} (totals : Totals entries result) :
      (result.map Prod.fst).map (fun key => (key, countOf entries key)) = result := by
    rw [List.map_map]
    refine (List.map_congr_left (g := id) ?_).trans (List.map_id result)
    intro item member
    exact Prod.ext rfl (totals.counts item member).symm
  have keys : (first.map Prod.fst).Perm (second.map Prod.fst) := by
    rw [List.perm_ext_iff_of_nodup one.distinct other.distinct]
    intro key
    rw [one.keys, other.keys]
  have perm : first.Perm second := by
    rw [← counted one, ← counted other]
    exact keys.map _
  apply perm.eq_of_pairwise _ one.sorted other.sorted
  intro left right _ _ forth back
  exact before_antisymm forth back

/-- Only the keys and their counts matter, not the order or the number of the
entries. -/
theorem Totals.congr {entries others result : List (Key × Nat)}
    (keys : ∀ key, key ∈ entries.map Prod.fst ↔ key ∈ others.map Prod.fst)
    (counts : ∀ key, countOf entries key = countOf others key) (totals : Totals entries result) :
    Totals others result where
  keys key := (totals.keys key).trans (keys key)
  distinct := totals.distinct
  counts item member := (totals.counts item member).trans (counts item.1)
  sorted := totals.sorted

/-- The items of the dictionary in that order are the totals of the entries. -/
theorem tally_totals [DecidableLE Key] [Std.Total (α := Key) (· ≤ ·)]
    (entries : List (Key × Nat)) :
    Totals entries ((tally .empty entries).items.insertionSort Before) := by
  have perm := List.perm_insertionSort Before (tally .empty entries).items
  have total : Std.Total (Before : Key × Nat → Key × Nat → Prop) := ⟨before_total⟩
  have trans : IsTrans (Key × Nat) Before := ⟨fun _ _ _ => before_trans⟩
  constructor
  · intro key
    rw [(perm.map Prod.fst).mem_iff]
    refine (mem_keys_tally .empty entries key).trans ?_
    simp [OrderedDict.keys]
  · exact (perm.map Prod.fst).nodup_iff.mpr (tally .empty entries).distinct
  · intro item member
    have found := OrderedDict.get_of_mem (perm.mem_iff.mp member)
    have added := get_tally .empty entries item.1
    rw [found, Option.getD_some] at added
    rw [added]
    exact Nat.zero_add _
  · exact List.pairwise_insertionSort Before _

end Ranking

end Honeywatch
