import Mathlib.Algebra.GroupWithZero.Nat
import Mathlib.Data.List.Nodup
import Mathlib.Data.List.TakeDrop

/-!
# Dictionaries in insertion order

An ordered dictionary has every key once, in the order in which keys were added.
Assigning to a key keeps its place; a key can be moved to the end and the first
one taken away. Used as a cache of the most recently used keys, what it should
hold is said by the recency of the uses alone: the keys that were used, each
once, the latest first.
-/

namespace Honeywatch

universe u v

/-- Keys with their values, the first added first. -/
structure OrderedDict (Key : Type u) (Value : Type v) where
  items : List (Key × Value)
  distinct : (items.map Prod.fst).Nodup

namespace OrderedDict

variable {Key : Type u} {Value : Type v}

def empty : OrderedDict Key Value := { items := [], distinct := List.nodup_nil }

/-- The empty dictionary has no items. -/
@[simp] theorem empty_items : (empty : OrderedDict Key Value).items = [] := rfl

def keys (dict : OrderedDict Key Value) : List Key := dict.items.map Prod.fst

/-- The last items, so many of them at most: the first one is taken away while
there are more. -/
def trimItems (size : Nat) : List (Key × Value) → List (Key × Value)
  | [] => []
  | item :: rest => if size < rest.length + 1 then trimItems size rest else item :: rest

/-- Popping from the front until the size fits drops as many items as there are too
many. -/
theorem trimItems_eq_drop (size : Nat) (items : List (Key × Value)) :
    trimItems size items = items.drop (items.length - size) := by
  induction items with
  | nil => simp [trimItems]
  | cons item rest inductionHypothesis =>
    simp only [trimItems, List.length_cons]
    split
    · rename_i excess
      rw [inductionHypothesis, Nat.succ_sub (by omega), List.drop_succ_cons]
    · rename_i fits
      rw [Nat.sub_eq_zero_of_le (by omega), List.drop_zero]

/-- `popitem(last=False)` while there are more items than this. -/
def trim (dict : OrderedDict Key Value) (size : Nat) : OrderedDict Key Value where
  items := trimItems size dict.items
  distinct := by
    rw [trimItems_eq_drop, List.map_drop]
    exact dict.distinct.sublist (List.drop_sublist _ _)

variable [DecidableEq Key]

/-- `dict.get(key)`. -/
def get (dict : OrderedDict Key Value) (key : Key) : Option Value :=
  (dict.items.find? fun item => decide (item.1 = key)).map Prod.snd

/-- `dict[key] = value`. -/
def setItem (dict : OrderedDict Key Value) (key : Key) (value : Value) :
    OrderedDict Key Value where
  items :=
    if key ∈ dict.keys then dict.items.map fun item => if item.1 = key then (key, value) else item
    else dict.items ++ [(key, value)]
  distinct := by
    by_cases known : key ∈ dict.keys
    · have same : (dict.items.map fun item =>
          if item.1 = key then (key, value) else item).map Prod.fst = dict.keys := by
        rw [List.map_map]
        apply List.map_congr_left
        intro item _
        by_cases this : item.1 = key
        · simp [this]
        · simp [this]
      rw [if_pos known, same]
      exact dict.distinct
    · rw [if_neg known, List.map_append]
      apply List.Nodup.append dict.distinct (List.nodup_singleton key)
      intro other member same
      exact known (List.mem_singleton.mp same ▸ member)

/-- `dict.move_to_end(key)` for a key that is there. -/
def moveToEnd (dict : OrderedDict Key Value) (key : Key) : OrderedDict Key Value where
  items := dict.items.filter (fun item => decide (item.1 ≠ key)) ++
    dict.items.filter fun item => decide (item.1 = key)
  distinct := by
    have perm : (dict.items.filter (fun item => decide (item.1 ≠ key)) ++
        dict.items.filter fun item => decide (item.1 = key)).Perm dict.items := by
      have parts := List.filter_append_perm (fun item => decide (item.1 ≠ key)) dict.items
      simpa using parts
    exact (perm.map Prod.fst).nodup_iff.mpr dict.distinct

/-- What is read under a key is an item. -/
theorem get_mem {dict : OrderedDict Key Value} {key : Key} {value : Value}
    (found : dict.get key = some value) : (key, value) ∈ dict.items := by
  obtain ⟨item, first, rfl⟩ := Option.map_eq_some_iff.mp found
  have same : item.1 = key := by simpa using List.find?_some first
  exact same ▸ List.mem_of_find?_eq_some first

/-- Nothing is read exactly under the keys that are not there. -/
theorem get_eq_none_iff {dict : OrderedDict Key Value} {key : Key} :
    dict.get key = none ↔ key ∉ dict.keys := by
  simp only [get, keys, Option.map_eq_none_iff, List.find?_eq_none, decide_eq_true_eq,
    List.mem_map, not_exists, not_and]

/-- An item is what is read under its key, as no other item has it. -/
theorem get_of_mem {dict : OrderedDict Key Value} {item : Key × Value}
    (member : item ∈ dict.items) : dict.get item.1 = some item.2 := by
  cases found : dict.get item.1 with
  | none => exact absurd (List.mem_map_of_mem member) (get_eq_none_iff.mp found)
  | some value =>
    have same : (item.1, value) = item :=
      List.inj_on_of_nodup_map dict.distinct (get_mem found) member rfl
    exact congrArg (fun entry : Key × Value => some entry.2) same

/-- A new key joins at the end. -/
theorem keys_setItem_of_not_mem {dict : OrderedDict Key Value} {key : Key} (value : Value)
    (absent : key ∉ dict.keys) : (dict.setItem key value).keys = dict.keys ++ [key] := by
  simp [keys, setItem, show key ∉ dict.items.map Prod.fst from absent]

/-- It brings its value. -/
theorem items_setItem_of_not_mem {dict : OrderedDict Key Value} {key : Key} (value : Value)
    (absent : key ∉ dict.keys) :
    (dict.setItem key value).items = dict.items ++ [(key, value)] :=
  if_neg absent

/-- An assignment is read under its key, and changes no other key, whether the key
was there or is new. -/
theorem get_setItem (dict : OrderedDict Key Value) (key : Key) (value : Value) (other : Key) :
    (dict.setItem key value).get other = if other = key then some value else dict.get other := by
  by_cases known : key ∈ dict.keys
  · have found : (dict.setItem key value).get other = ((dict.items.find? fun item =>
        decide (item.1 = other)).map fun item =>
          if item.1 = key then (key, value) else item).map Prod.snd := by
      simp only [get, setItem, if_pos known, List.find?_map]
      congr 3
      funext item
      by_cases same : item.1 = key
      · simp [same]
      · simp [same]
    rw [found]
    by_cases same : other = key
    · subst same
      cases first : dict.items.find? fun item => decide (item.1 = other) with
      | none =>
        have absent : dict.get other = none := by rw [get, first, Option.map_none]
        exact absurd known (get_eq_none_iff.mp absent)
      | some item =>
        have own : item.1 = other := by simpa using List.find?_some first
        simp [own]
    · rw [if_neg same, get]
      cases first : dict.items.find? fun item => decide (item.1 = other) with
      | none => rfl
      | some item =>
        have own : item.1 = other := by simpa using List.find?_some first
        simp [own, same]
  · rw [get, items_setItem_of_not_mem value known, List.find?_append, get]
    by_cases same : other = key
    · have absent := get_eq_none_iff.mpr known
      rw [get, Option.map_eq_none_iff] at absent
      rw [if_pos same, same, absent]
      simp
    · rw [if_neg same]
      have new : ([(key, value)] : List (Key × Value)).find? (fun item => decide (item.1 = other)) =
          none := by simp [Ne.symm same]
      rw [new, Option.or_none]

/-- What is there after an assignment is the assigned item or was there, so a
property of all items needs to be shown for one. -/
theorem mem_setItem {dict : OrderedDict Key Value} {key : Key} {value : Value}
    {item : Key × Value} (member : item ∈ (dict.setItem key value).items) :
    item = (key, value) ∨ item ∈ dict.items := by
  have read := get_of_mem member
  rw [get_setItem] at read
  by_cases same : item.1 = key
  · left
    rw [if_pos same] at read
    exact Prod.ext same (Option.some.inj read).symm
  · right
    rw [if_neg same] at read
    exact get_mem read

/-- A key is there after an assignment when it was there or is the one assigned;
none is ever removed by it. -/
theorem mem_keys_setItem {dict : OrderedDict Key Value} {key : Key} {value : Value} {other : Key} :
    other ∈ (dict.setItem key value).keys ↔ other = key ∨ other ∈ dict.keys := by
  have read (dict : OrderedDict Key Value) : other ∈ dict.keys ↔ dict.get other ≠ none := by
    rw [Ne, get_eq_none_iff, not_not]
  rw [read, read, get_setItem]
  by_cases same : other = key
  · simp [same]
  · simp [same]

/-- Moving a key changes no item. -/
theorem mem_moveToEnd {dict : OrderedDict Key Value} {key : Key} {item : Key × Value}
    (member : item ∈ (dict.moveToEnd key).items) : item ∈ dict.items := by
  rcases List.mem_append.mp member with other | own
  · exact List.mem_of_mem_filter other
  · exact List.mem_of_mem_filter own

omit [DecidableEq Key] in
/-- Trimming adds no item. -/
theorem mem_trim {dict : OrderedDict Key Value} {size : Nat} {item : Key × Value}
    (member : item ∈ (dict.trim size).items) : item ∈ dict.items := by
  have dropped : item ∈ trimItems size dict.items := member
  rw [trimItems_eq_drop] at dropped
  exact List.mem_of_mem_drop dropped

/-- The order of the other keys is kept when one of them is moved behind them. -/
theorem keys_moveToEnd {dict : OrderedDict Key Value} {key : Key} (known : key ∈ dict.keys) :
    (dict.moveToEnd key).keys = dict.keys.erase key ++ [key] := by
  have others : (dict.items.filter fun item => decide (item.1 ≠ key)).map Prod.fst =
      dict.keys.erase key := by
    rw [keys, List.Nodup.erase_eq_filter dict.distinct, List.filter_map]
    congr 1
    apply List.filter_congr
    intro item _
    by_cases same : item.1 = key
    · simp [same]
    · simp [same, bne]
  have own : (dict.items.filter fun item => decide (item.1 = key)).map Prod.fst = [key] := by
    have filtered : (dict.items.filter fun item => decide (item.1 = key)).map Prod.fst =
        dict.keys.filter fun other => decide (other = key) := by
      rw [keys, List.filter_map]
      rfl
    have once : dict.keys.count key = 1 := List.count_eq_one_of_mem dict.distinct known
    rw [filtered, List.filter_eq key, once]
    rfl
  rw [keys, moveToEnd, List.map_append, others, own]

/-- Seen from the end, the moved key comes first, and the others follow as before.
-/
theorem reverse_keys_moveToEnd {dict : OrderedDict Key Value} {key : Key}
    (known : key ∈ dict.keys) :
    (dict.moveToEnd key).keys.reverse = key :: dict.keys.reverse.erase key := by
  have distinct : dict.keys.Nodup := dict.distinct
  rw [keys_moveToEnd known, List.reverse_append, List.Nodup.erase_eq_filter distinct,
    List.Nodup.erase_eq_filter (List.nodup_reverse.mpr distinct), List.filter_reverse]
  rfl

/-- Moving a new key to the end changes nothing, since that is where it was put. -/
theorem keys_moveToEnd_setItem {dict : OrderedDict Key Value} {key : Key} (value : Value)
    (absent : key ∉ dict.keys) :
    ((dict.setItem key value).moveToEnd key).keys = dict.keys ++ [key] := by
  have added := keys_setItem_of_not_mem value absent
  have member : key ∈ (dict.setItem key value).keys := by
    rw [added]
    exact List.mem_append_right _ (List.mem_singleton_self key)
  rw [keys_moveToEnd member, added, List.erase_append_right _ absent]
  simp

omit [DecidableEq Key] in
/-- The latest keys are kept, as items are taken from the front until the size fits.
-/
theorem keys_trim (dict : OrderedDict Key Value) (size : Nat) :
    (dict.trim size).keys.reverse = dict.keys.reverse.take size := by
  have dropped : (dict.trim size).keys = dict.keys.drop (dict.items.length - size) := by
    rw [keys, keys, ← List.map_drop, ← trimItems_eq_drop]
    rfl
  rw [dropped, List.reverse_drop, keys, List.length_map]
  by_cases fits : dict.items.length ≤ size
  · rw [Nat.sub_eq_zero_of_le fits, Nat.sub_zero, List.take_of_length_le (by simp),
      List.take_of_length_le (by simpa using fits)]
  · rw [Nat.sub_sub_self (by omega)]

/-- Replacing the value of one key replaces one summand. It is stated without a
subtraction, the old value on the other side. -/
theorem sum_replaced (items : List (Key × Nat)) (key : Key) (old value : Nat)
    (distinct : (items.map Prod.fst).Nodup) (member : (key, old) ∈ items) :
    ((items.map fun item => if item.1 = key then (key, value) else item).map Prod.snd).sum + old =
      (items.map Prod.snd).sum + value := by
  induction items with
  | nil => cases member
  | cons item rest inductionHypothesis =>
    obtain ⟨fresh, distinct⟩ := List.nodup_cons.mp distinct
    by_cases same : item.1 = key
    · have others : (rest.map fun item => if item.1 = key then (key, value) else item) = rest := by
        refine (List.map_congr_left (g := id) ?_).trans (List.map_id rest)
        intro other inRest
        have differ : other.1 ≠ key := by
          intro equal
          exact fresh (same.trans equal.symm ▸ List.mem_map_of_mem inRest)
        exact if_neg differ
      have own : item.2 = old := by
        rcases List.mem_cons.mp member with rfl | inRest
        · rfl
        · exact absurd (same ▸ List.mem_map_of_mem inRest) fresh
      simp only [List.map_cons, same, if_true, others, List.sum_cons, own]
      omega
    · have later : (key, old) ∈ rest := by
        rcases List.mem_cons.mp member with equal | later
        · exact absurd (congrArg Prod.fst equal).symm same
        · exact later
      have rest_sum := inductionHypothesis distinct later
      simp only [List.map_cons, same, if_false, List.sum_cons]
      omega

/-- Assigning to a key adds the value and takes the former one away, which is zero
for a key that was not there. -/
theorem sum_setItem (dict : OrderedDict Key Nat) (key : Key) (value : Nat) :
    ((dict.setItem key value).items.map Prod.snd).sum + (dict.get key).getD 0 =
      (dict.items.map Prod.snd).sum + value := by
  cases found : dict.get key with
  | none =>
    have absent := get_eq_none_iff.mp found
    rw [items_setItem_of_not_mem value absent]
    simp
  | some old =>
    have member := get_mem found
    have known : key ∈ dict.keys := List.mem_map_of_mem member
    have replaced : (dict.setItem key value).items =
        dict.items.map fun item => if item.1 = key then (key, value) else item := if_pos known
    rw [replaced]
    exact sum_replaced dict.items key old value dict.distinct member

end OrderedDict

/-- The keys that were used, each once, the latest first; so are the uses. -/
def recent {Key : Type u} [DecidableEq Key] : List Key → List Key
  | [] => []
  | key :: earlier => key :: (recent earlier).erase key

section Recent

variable {Key : Type u} [DecidableEq Key]

/-- A key among the first ones is missing among one less of the rest; the step of a
cache that moves a key to the front. -/
theorem take_erase_of_mem (items : List Key) (key : Key) (count : Nat)
    (member : key ∈ items.take (count + 1)) :
    (items.erase key).take count = (items.take (count + 1)).erase key := by
  induction items generalizing count with
  | nil => simp
  | cons first rest inductionHypothesis =>
    by_cases same : first = key
    · subst same
      rw [List.take_succ_cons, List.erase_cons_head, List.erase_cons_head]
    · have later : key ∈ rest.take count := by
        rcases List.mem_cons.mp member with equal | later
        · exact absurd equal.symm same
        · exact later
      have differ : (first == key) = false := by simpa using same
      cases count with
      | zero => simp at later
      | succ count =>
        simp only [List.erase_cons, differ, Bool.false_eq_true, if_false, List.take_succ_cons]
        rw [inductionHypothesis count later]

/-- A key that is not among the first ones is not missing among them, wherever it
stands behind. -/
theorem take_erase_of_not_mem (items : List Key) (key : Key) (count : Nat)
    (absent : key ∉ items.take count) : (items.erase key).take count = items.take count := by
  induction items generalizing count with
  | nil => simp
  | cons first rest inductionHypothesis =>
    cases count with
    | zero => simp
    | succ count =>
      rw [List.take_succ_cons, List.mem_cons, not_or] at absent
      have differ : (first == key) = false := by simpa using Ne.symm absent.1
      simp only [List.erase_cons, differ, Bool.false_eq_true, if_false, List.take_succ_cons,
        inductionHypothesis count absent.2]

/-- Using a key that is kept moves it to the front of what is kept, and nothing is
dropped. -/
theorem take_recent_of_mem {key : Key} {earlier : List Key} {size : Nat}
    (kept : key ∈ (recent earlier).take size) :
    (recent (key :: earlier)).take size = key :: ((recent earlier).take size).erase key := by
  cases size with
  | zero => simp at kept
  | succ size =>
    rw [recent, List.take_succ_cons, take_erase_of_mem _ _ _ kept]

/-- Using another one puts it in front and drops what no longer fits, whether it was
used long ago or never. -/
theorem take_recent_of_not_mem {key : Key} {earlier : List Key} {size : Nat}
    (other : key ∉ (recent earlier).take size) :
    (recent (key :: earlier)).take size = (key :: (recent earlier).take size).take size := by
  cases size with
  | zero => simp
  | succ size =>
    have before : key ∉ (recent earlier).take size := by
      intro member
      exact other ((List.take_prefix_take_left (Nat.le_succ size)).subset member)
    rw [recent, List.take_succ_cons, List.take_succ_cons, take_erase_of_not_mem _ _ _ before,
      List.take_take, Nat.min_eq_left (Nat.le_succ size)]

end Recent

end Honeywatch
