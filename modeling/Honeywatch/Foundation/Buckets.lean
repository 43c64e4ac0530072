import Honeywatch.Foundation.GroupBy
import Mathlib.Data.List.Sort

/-!
# Rows in buckets of one width

Positions on a line are cut into buckets of one width, each of which begins at a
multiple of it. Rows are grouped by a truncation of their keys. Where it takes
every key down to the beginning of its bucket, the groups, sorted by their keys,
are the buckets that hold a row: each begins at a multiple of the width, has all
rows within it, and every row is in exactly one.
-/

namespace Honeywatch

universe u v
variable {Row : Type u} {Key : Type v}

/-- A key lies in the bucket that begins at another. -/
def Within (position : Key → Int) (width : Int) (start key : Key) : Prop :=
  position start ≤ position key ∧ position key < position start + width

instance (position : Key → Int) (width : Int) (start key : Key) :
    Decidable (Within position width start key) :=
  inferInstanceAs (Decidable (_ ∧ _))

/-- A key is taken down to the beginning of its bucket. -/
structure Truncates (position : Key → Int) (width : Int) (trunc : Key → Key) (key : Key) :
    Prop where
  multiple : width ∣ position (trunc key)
  within : Within position width (trunc key) key

/-- A key lies in one bucket only: two multiples of the width that are less than the
width apart are equal, and so are the keys at these positions. -/
theorem Truncates.eq_of_within {position : Key → Int} (injective : Function.Injective position)
    {width : Int} {trunc : Key → Key} {start key : Key}
    (truncates : Truncates position width trunc key) (multiple : width ∣ position start)
    (within : Within position width start key) : trunc key = start := by
  apply injective
  obtain ⟨own, ownEq⟩ := truncates.multiple
  obtain ⟨other, otherEq⟩ := multiple
  obtain ⟨below, above⟩ := truncates.within
  obtain ⟨below', above'⟩ := within
  have positive : 0 < width := by omega
  have same : own = other := by
    rw [ownEq] at below above
    rw [otherEq] at below' above'
    have near {one another : Int} (closer : width * one < width * another + width) :
        one < another + 1 := by
      apply Int.lt_of_mul_lt_mul_left _ (le_of_lt positive)
      rwa [Int.mul_add, Int.mul_one]
    have first := near (lt_of_le_of_lt below above')
    have second := near (lt_of_le_of_lt below' above)
    omega
  rw [ownEq, otherEq, same]

section Buckets

variable [DecidableEq Key] {position : Key → Int} {width : Int} {trunc : Key → Key}
  {key : Row → Key} {rows : List Row}

/-- A group begins at a multiple of the width. -/
theorem group_multiple (truncates : ∀ row ∈ rows, Truncates position width trunc (key row))
    {group : Key × List Row} (member : group ∈ groupBy (fun row => trunc (key row)) rows) :
    width ∣ position group.1 := by
  obtain ⟨row, known, same⟩ := exists_row_of_group member
  rw [← same]
  exact (truncates row known).multiple

/-- A group has the rows within its bucket. Rows are grouped by their cut, and the
cut of a row is where its bucket starts. -/
theorem group_within (injective : Function.Injective position)
    (truncates : ∀ row ∈ rows, Truncates position width trunc (key row))
    {group : Key × List Row} (member : group ∈ groupBy (fun row => trunc (key row)) rows) :
    group.2 = rows.filter fun row => decide (Within position width group.1 (key row)) := by
  rw [mem_groupBy member]
  apply List.filter_congr
  intro row known
  apply decide_eq_decide.mpr
  constructor
  · intro same
    rw [← same]
    exact (truncates row known).within
  · intro within
    exact (truncates row known).eq_of_within injective (group_multiple truncates member) within

/-- Every row is within exactly one group, so the groups count no row twice and
leave none out. -/
theorem row_in_one_group (injective : Function.Injective position)
    (truncates : ∀ row ∈ rows, Truncates position width trunc (key row)) {row : Row}
    (known : row ∈ rows) :
    ∃ group ∈ groupBy (fun row => trunc (key row)) rows,
      Within position width group.1 (key row) ∧
        ∀ other ∈ groupBy (fun row => trunc (key row)) rows,
          Within position width other.1 (key row) → other.1 = group.1 := by
  obtain ⟨group, member, same⟩ := group_of_row (fun row => trunc (key row)) known
  refine ⟨group, member, ?_, ?_⟩
  · rw [same]
    exact (truncates row known).within
  · intro other otherMember within
    rw [same]
    exact ((truncates row known).eq_of_within injective (group_multiple truncates otherMember)
      within).symm

end Buckets

section Order

variable [LinearOrder Key] [DecidableEq Key]

/-- The groups in the order of their keys. -/
def sortedGroups (key : Row → Key) (rows : List Row) : List (Key × List Row) :=
  (groupBy key rows).insertionSort fun earlier later => earlier.1 ≤ later.1

/-- The groups in order are the groups. -/
theorem mem_sortedGroups {key : Row → Key} {rows : List Row} {group : Key × List Row} :
    group ∈ sortedGroups key rows ↔ group ∈ groupBy key rows :=
  List.mem_insertionSort _

/-- There is one group for each key, and the sort makes their keys increase
strictly. -/
theorem sortedGroups_increasing (key : Row → Key) (rows : List Row) :
    (sortedGroups key rows).Pairwise fun earlier later => earlier.1 < later.1 := by
  have total : Std.Total fun earlier later : Key × List Row => earlier.1 ≤ later.1 :=
    ⟨fun left right => le_total left.1 right.1⟩
  have trans : IsTrans (Key × List Row) fun earlier later => earlier.1 ≤ later.1 :=
    ⟨fun _ _ _ first second => le_trans first second⟩
  have ordered : (sortedGroups key rows).Pairwise fun earlier later => earlier.1 ≤ later.1 :=
    List.pairwise_insertionSort _ _
  have distinct : ((sortedGroups key rows).map Prod.fst).Nodup := by
    have perm := (List.perm_insertionSort (fun earlier later : Key × List Row =>
      earlier.1 ≤ later.1) (groupBy key rows)).map Prod.fst
    have keys : (groupBy key rows).map Prod.fst = (rows.map key).dedup := by
      rw [groupBy, List.map_map]
      exact List.map_id _
    apply perm.nodup_iff.mpr
    rw [keys]
    exact List.nodup_dedup _
  have apart := List.pairwise_map.mp distinct
  exact (ordered.and apart).imp fun both => lt_of_le_of_ne both.1 both.2

end Order

end Honeywatch
