import Mathlib.Data.List.Sort
import Mathlib.Tactic.Tauto

/-!
# Ordered results and their pages

Rows are returned in descending order of a key; rows with equal keys come in any
order. A page is a stretch of such a result, and every page may be cut from a
result of its own. All results hold the same keys at the same positions, so the
pages add up to the rows whatever the results are exactly when no page ends
between two equal keys.
-/

namespace Honeywatch.OrderBy

universe u v
variable {Row : Type u} {Key : Type v} [LinearOrder Key]

/-- The rows in descending order of their keys, equal keys in any order. -/
structure Ordered (key : Row → Key) (rows result : List Row) : Prop where
  perm : result.Perm rows
  descending : result.Pairwise fun earlier later => key later ≤ key earlier

/-- One result. Equal keys keep the order of the rows. -/
def arrange (key : Row → Key) (rows : List Row) : List Row :=
  rows.insertionSort fun earlier later => key later ≤ key earlier

/-- A page of a result; the first one has number zero. -/
def page (size number : Nat) (result : List Row) : List Row :=
  (result.drop (number * size)).take size

/-- The first pages, one after the other, each cut from its own result. -/
def pages (size : Nat) (results : Nat → List Row) (count : Nat) : List Row :=
  (List.range count).flatMap fun number => page size number (results number)

/-- The stable sort is one of the results that an order by a key allows, so there is
always one. -/
theorem arrange_ordered (key : Row → Key) (rows : List Row) :
    Ordered key rows (arrange key rows) where
  perm := List.perm_insertionSort _ rows
  descending := by
    have total : Std.Total fun earlier later : Row => key later ≤ key earlier :=
      ⟨fun left right => le_total (key right) (key left)⟩
    have trans : IsTrans Row fun earlier later => key later ≤ key earlier :=
      ⟨fun _ _ _ second first => le_trans first second⟩
    exact List.pairwise_insertionSort _ rows

/-- A row that is not among the first rows of a result has no greater key than any
of them. -/
theorem Ordered.le_of_not_mem_take {key : Row → Key} {rows result : List Row}
    (ordered : Ordered key rows result) (count : Nat) {row top : Row} (member : row ∈ rows)
    (out : row ∉ result.take count) (first : top ∈ result.take count) : key row ≤ key top := by
  have placed : row ∈ result.take count ++ result.drop count := by
    rw [List.take_append_drop]
    exact ordered.perm.symm.subset member
  have descending := ordered.descending
  rw [← List.take_append_drop count result] at descending
  rcases List.mem_append.mp placed with early | late
  · exact absurd early out
  · exact (List.pairwise_append.mp descending).2.2 top first row late

/-- Any two results hold the same keys at the same positions: a list of keys has one
descending arrangement, though its rows may have several. -/
theorem Ordered.keys_eq {key : Row → Key} {rows first second : List Row}
    (one : Ordered key rows first) (other : Ordered key rows second) :
    first.map key = second.map key := by
  have perm : (first.map key).Perm (second.map key) := (one.perm.trans other.perm.symm).map key
  have descending {result : List Row} (ordered : Ordered key rows result) :
      (result.map key).Pairwise fun earlier later => later ≤ earlier :=
    List.pairwise_map.mpr ordered.descending
  apply perm.eq_of_pairwise _ (descending one) (descending other)
  intro left right _ _ below above
  exact le_antisymm above below

/-- The keys of every result, from high to low. -/
def sortedKeys (key : Row → Key) (rows : List Row) : List Key := (arrange key rows).map key

/-- The cut after so many rows separates two different keys. -/
def Separates (key : Row → Key) (rows : List Row) (count : Nat) : Prop :=
  (sortedKeys key rows)[count - 1]? ≠ (sortedKeys key rows)[count]?

omit [LinearOrder Key] in
/-- A list around a cut inside it, as the rows before, the two on either side of the
cut, and the rows after. -/
theorem split_pair (items : List Row) (count : Nat) (positive : 0 < count)
    (inside : count < items.length) :
    ∃ before last next after, items = before ++ last :: next :: after ∧
      before.length + 1 = count := by
  refine ⟨items.take (count - 1), items[count - 1], items[count], items.drop (count + 1), ?_, ?_⟩
  · have second : items.drop count = items[count] :: items.drop (count + 1) :=
      List.drop_eq_getElem_cons inside
    have first : items.drop (count - 1) = items[count - 1] :: items.drop count := by
      rw [List.drop_eq_getElem_cons (by omega), Nat.sub_add_cancel positive]
    rw [← second, ← first, List.take_append_drop]
  · rw [List.length_take]
    omega

/-- The two keys at a cut inside a result. -/
theorem Ordered.keys_at {key : Row → Key} {rows before after : List Row} {last next : Row}
    (ordered : Ordered key rows (before ++ last :: next :: after)) :
    (sortedKeys key rows)[before.length]? = some (key last) ∧
      (sortedKeys key rows)[before.length + 1]? = some (key next) := by
  have same := (arrange_ordered key rows).keys_eq ordered
  simp [sortedKeys, same]

/-- Before a cut that separates stand the rows whose key is above the next one. This
describes them without their order. -/
theorem Ordered.take_eq_filter {key : Row → Key} {rows before after : List Row} {last next : Row}
    (ordered : Ordered key rows (before ++ last :: next :: after)) (differ : key last ≠ key next) :
    before ++ [last] =
      (before ++ last :: next :: after).filter fun row => decide (key next < key row) := by
  obtain ⟨_, fromLast, beforeLast⟩ := List.pairwise_append.mp ordered.descending
  obtain ⟨lastFirst, fromNext⟩ := List.pairwise_cons.mp fromLast
  have above : key next < key last := lt_of_le_of_ne (lastFirst next (by simp)) (Ne.symm differ)
  have kept : (before ++ [last]).filter (fun row => decide (key next < key row)) =
      before ++ [last] := by
    refine List.filter_eq_self.mpr fun row member => decide_eq_true ?_
    rcases List.mem_append.mp member with earlier | same
    · exact lt_of_lt_of_le above (beforeLast row earlier last (by simp))
    · exact List.mem_singleton.mp same ▸ above
  have dropped : (next :: after).filter (fun row => decide (key next < key row)) = [] := by
    refine List.filter_eq_nil_iff.mpr fun row member => ?_
    rcases List.mem_cons.mp member with rfl | later
    · simp
    · simpa using (List.pairwise_cons.mp fromNext).1 row later
  have split : before ++ last :: next :: after = (before ++ [last]) ++ next :: after := by simp
  rw [split, List.filter_append, kept, dropped, List.append_nil]

/-- What comes before a cut that separates is the same in all results, since both
are described by the key behind the cut. -/
theorem Ordered.take_perm {key : Row → Key} {rows first second : List Row} {count : Nat}
    (one : Ordered key rows first) (other : Ordered key rows second)
    (separates : 0 < count → count < rows.length → Separates key rows count) :
    (first.take count).Perm (second.take count) := by
  rcases Nat.eq_zero_or_pos count with rfl | positive
  · simp
  rcases Nat.lt_or_ge count rows.length with inside | beyond
  · obtain ⟨before, last, next, after, rfl, length⟩ :=
      split_pair first count positive (one.perm.length_eq ▸ inside)
    obtain ⟨before', last', next', after', rfl, length'⟩ :=
      split_pair second count positive (other.perm.length_eq ▸ inside)
    have differ := separates positive inside
    rw [Separates, ← length, Nat.add_sub_cancel, one.keys_at.1, one.keys_at.2] at differ
    have differ' := separates positive inside
    rw [Separates, ← length', Nat.add_sub_cancel, other.keys_at.1, other.keys_at.2] at differ'
    have same : key next = key next' := by
      have at_cut := one.keys_at.2
      rw [length, ← length', other.keys_at.2] at at_cut
      exact (Option.some.inj at_cut).symm
    have taken : ∀ (items rest : List Row) (final following : Row), items.length + 1 = count →
        (items ++ final :: following :: rest).take count = items ++ [final] := by
      intro items rest final following counted
      have split : items ++ final :: following :: rest =
          (items ++ [final]) ++ following :: rest := by simp
      rw [split, List.take_left' (by simpa using counted)]
    rw [taken before after last next length, taken before' after' last' next' length',
      one.take_eq_filter fun equal => differ (congrArg some equal),
      other.take_eq_filter fun equal => differ' (congrArg some equal), same]
    exact (one.perm.trans other.perm.symm).filter _
  · rw [List.take_of_length_le (one.perm.length_eq ▸ beyond),
      List.take_of_length_le (other.perm.length_eq ▸ beyond)]
    exact one.perm.trans other.perm.symm

omit [LinearOrder Key] in
/-- The first pages are those before and one more, -/
theorem take_succ_page (size number : Nat) (result : List Row) :
    result.take ((number + 1) * size) =
      result.take (number * size) ++ page size number result := by
  rw [page, Nat.succ_mul, List.take_add]

omit [LinearOrder Key] in
/-- also where every page is cut from its own result. -/
theorem pages_succ (size : Nat) (results : Nat → List Row) (count : Nat) :
    pages size results (count + 1) =
      pages size results count ++ page size count (results count) := by
  simp [pages, List.range_succ]

/-- Where every cut separates, the pages add up to the start of one result, also
when each page is cut from a result of its own. The induction is on the number of
pages. -/
theorem pages_perm_take {key : Row → Key} {rows : List Row} (size count : Nat)
    (results : Nat → List Row) (ordered : ∀ number, Ordered key rows (results number))
    (separates : ∀ number, 0 < number → number * size < rows.length →
      Separates key rows (number * size)) :
    (pages size results count).Perm ((arrange key rows).take (count * size)) := by
  have cut (number : Nat) (positive : 0 < number * size) (inside : number * size < rows.length) :
      Separates key rows (number * size) :=
    separates number (Nat.pos_of_mul_pos_right positive) inside
  induction count with
  | zero => simp [pages]
  | succ count inductionHypothesis =>
    rw [pages_succ]
    have joined : (pages size results count ++ page size count (results count)).Perm
        ((results count).take (count * size) ++ page size count (results count)) := by
      refine List.Perm.append_right _ (inductionHypothesis.trans ?_)
      exact (arrange_ordered key rows).take_perm (ordered count) (cut count)
    refine joined.trans ?_
    rw [← take_succ_page]
    exact (ordered count).take_perm (arrange_ordered key rows) (cut (count + 1))

omit [LinearOrder Key] in
/-- Pages cut from one result and, from some page on, from another: the start of the
first and what the second has behind it. -/
theorem pages_switch (size number count : Nat) (first second : List Row) (later : number ≤ count) :
    pages size (fun current => if current < number then first else second) count =
      first.take (number * size) ++
        (second.drop (number * size)).take ((count - number) * size) := by
  induction count, later using Nat.le_induction with
  | base =>
    have same (current : Nat) (early : current ≤ number) :
        pages size (fun current => if current < number then first else second) current =
          first.take (current * size) := by
      induction current with
      | zero => simp [pages]
      | succ current inductionHypothesis =>
        rw [pages_succ, inductionHypothesis (by omega), take_succ_page, if_pos (by omega)]
    simp [same number (Nat.le_refl _)]
  | succ count later inductionHypothesis =>
    rw [pages_succ, inductionHypothesis, if_neg (by omega), Nat.sub_add_comm later, Nat.succ_mul,
      List.take_add, List.append_assoc, page, List.drop_drop, ← Nat.add_mul,
      Nat.add_sub_cancel' later]

/-- The pages add up to the rows, whatever the results, exactly when every cut
between two pages separates different keys. -/
theorem pages_perm_iff (key : Row → Key) (rows : List Row) (distinct : rows.Nodup)
    (size count : Nat) (covers : rows.length ≤ count * size) :
    (∀ results : Nat → List Row, (∀ number, Ordered key rows (results number)) →
        (pages size results count).Perm rows) ↔
      ∀ number, 0 < number → number * size < rows.length →
        Separates key rows (number * size) := by
  constructor
  · intro complete number positive inside
    by_contra together
    have sized : 0 < size := by
      rcases Nat.eq_zero_or_pos size with rfl | sized
      · omega
      · exact sized
    obtain ⟨before, last, next, after, split, length⟩ := split_pair (arrange key rows)
      (number * size) (Nat.mul_pos positive sized)
      ((arrange_ordered key rows).perm.length_eq ▸ inside)
    have ordered := arrange_ordered key rows
    rw [split] at ordered
    have equal : key last = key next := by
      rw [Separates, ← length, Nat.add_sub_cancel, ordered.keys_at.1, ordered.keys_at.2] at together
      exact Option.some.inj (not_not.mp together)
    have swapped : Ordered key rows (before ++ next :: last :: after) := by
      refine ⟨((List.Perm.swap last next after).append_left before).trans ordered.perm, ?_⟩
      have descending := ordered.descending
      simp only [List.pairwise_append, List.pairwise_cons, List.mem_cons, forall_eq_or_imp,
        equal] at descending ⊢
      tauto
    have added := complete
      (fun current => if current < number then before ++ last :: next :: after
        else before ++ next :: last :: after) fun current => by
          by_cases early : current < number
          · simpa only [early, if_true] using ordered
          · simpa only [early, if_false] using swapped
    have earlier : number ≤ count :=
      Nat.le_of_lt (Nat.lt_of_mul_lt_mul_right (Nat.lt_of_lt_of_le inside covers))
    rw [pages_switch size number count _ _ earlier] at added
    have twice : last ∈ (before ++ last :: next :: after).take (number * size) ∧
        last ∈ ((before ++ next :: last :: after).drop (number * size)).take
          ((count - number) * size) := by
      have rest : rows.length - number * size ≤ (count - number) * size := by
        rw [Nat.sub_mul]
        omega
      have long := swapped.perm.length_eq
      constructor
      · rw [← length, List.take_append, List.take_of_length_le (by omega)]
        simp
      · rw [List.take_of_length_le (by simpa [← long] using rest), ← length]
        simp [List.drop_append]
    have once := List.nodup_append.mp (added.nodup_iff.mpr distinct)
    exact once.2.2 last twice.1 last twice.2 rfl
  · intro separates results ordered
    refine (pages_perm_take size count results ordered separates).trans ?_
    rw [List.take_of_length_le ((arrange_ordered key rows).perm.length_eq ▸ covers)]
    exact (arrange_ordered key rows).perm

/-- The number of rows with a key above that of a row. -/
def rank (key : Row → Key) (rows : List Row) (row : Row) : Nat :=
  rows.countP fun other => decide (key row < key other)

/-- More rows never lower the rank of a row. -/
theorem rank_mono (key : Row → Key) {rows more : List Row} (kept : rows.Sublist more) (row : Row) :
    rank key rows row ≤ rank key more row :=
  kept.countP_le

/-- There are fewer rows above a row than rows. -/
theorem rank_lt (key : Row → Key) (rows : List Row) {row : Row} (member : row ∈ rows) :
    rank key rows row < rows.length := by
  apply lt_of_le_of_ne List.countP_le_length
  intro all
  have above := List.countP_eq_length.mp all row member
  exact lt_irrefl _ (of_decide_eq_true above)

/-- Where all keys differ, a row stands at its rank in every result; the rank counts
the rows with a greater key. -/
theorem Ordered.getElem?_rank {key : Row → Key} {rows result : List Row}
    (ordered : Ordered key rows result) (distinct : (rows.map key).Nodup) {row : Row}
    (member : row ∈ rows) : result[rank key rows row]? = some row := by
  obtain ⟨before, after, rfl⟩ := List.append_of_mem (ordered.perm.symm.subset member)
  have apart : ((before ++ row :: after).map key).Nodup :=
    (ordered.perm.map key).nodup_iff.mpr distinct
  rw [List.map_append, List.map_cons] at apart
  obtain ⟨_, _, differ⟩ := List.nodup_append.mp apart
  obtain ⟨_, fromRow, beforeRow⟩ := List.pairwise_append.mp ordered.descending
  have above : before.countP (fun other => decide (key row < key other)) = before.length := by
    apply List.countP_eq_length.mpr
    intro other earlier
    apply decide_eq_true
    apply lt_of_le_of_ne (beforeRow other earlier row (List.mem_cons_self ..))
    intro same
    exact differ (key other) (List.mem_map_of_mem earlier) (key row) (List.mem_cons_self ..)
      same.symm
  have below : (row :: after).countP (fun other => decide (key row < key other)) = 0 := by
    apply List.countP_eq_zero.mpr
    intro other later higher
    have higher := of_decide_eq_true higher
    rcases List.mem_cons.mp later with rfl | later
    · exact lt_irrefl _ higher
    · exact absurd ((List.pairwise_cons.mp fromRow).1 other later) (not_le_of_gt higher)
  have placed : rank key rows row = before.length := by
    rw [rank, ← ordered.perm.countP_eq, List.countP_append, above, below, Nat.add_zero]
  simp [placed]

/-- A row is on the page its rank belongs to, which depends on the rows and not on
the result. -/
theorem Ordered.mem_page {key : Row → Key} {rows result : List Row}
    (ordered : Ordered key rows result) (distinct : (rows.map key).Nodup) {row : Row}
    (member : row ∈ rows) (size number : Nat) (begun : number * size ≤ rank key rows row)
    (ends : rank key rows row < (number + 1) * size) : row ∈ page size number result := by
  have placed := ordered.getElem?_rank distinct member
  apply List.mem_of_getElem? (i := rank key rows row - number * size)
  have inside : rank key rows row - number * size < size := by
    rw [Nat.succ_mul] at ends
    omega
  rw [page, List.getElem?_take_of_lt inside, List.getElem?_drop, Nat.add_sub_cancel' begun]
  exact placed

/-- A row whose rank is so high is not among the first rows, in whichever result. -/
theorem Ordered.mem_drop {key : Row → Key} {rows result : List Row}
    (ordered : Ordered key rows result) (distinct : (rows.map key).Nodup) {row : Row}
    (member : row ∈ rows) {count : Nat} (beyond : count ≤ rank key rows row) :
    row ∈ result.drop count := by
  have placed := ordered.getElem?_rank distinct member
  apply List.mem_of_getElem? (i := rank key rows row - count)
  rw [List.getElem?_drop, Nat.add_sub_cancel' beyond]
  exact placed

end Honeywatch.OrderBy
