import Mathlib.Data.List.Count

/-!
# A deque with a maximal length

Appending to a full deque discards at the other end. The bound is part of the
deque, so no operation has to establish it again; what an append discards is
returned beside the deque, and nothing else is lost.
-/

namespace Honeywatch

universe u
variable {α : Type u} {maxlen : Nat}

/-- At most `maxlen` items, the oldest first. -/
structure Deque (α : Type u) (maxlen : Nat) where
  items : List α
  bounded : items.length ≤ maxlen
deriving DecidableEq

namespace Deque

/-- A deque is what it holds; the bound is no data. -/
@[ext] theorem ext {left right : Deque α maxlen} (same : left.items = right.items) :
    left = right := by
  cases left
  cases right
  cases same
  rfl

def empty : Deque α maxlen := ⟨[], Nat.zero_le _⟩

/-- The empty deque holds nothing. -/
@[simp] theorem empty_items : (empty : Deque α maxlen).items = [] := rfl

/-- How many items an append discards: none while there is room. -/
def surplus (deque : Deque α maxlen) : Nat := if deque.items.length < maxlen then 0 else 1

/-- Below the bound nothing has to go. -/
theorem room_surplus (deque : Deque α maxlen) (room : deque.items.length < maxlen) :
    deque.surplus = 0 := if_pos room

/-- At the bound one item has to go. -/
theorem full_surplus (deque : Deque α maxlen) (full : deque.items.length = maxlen) :
    deque.surplus = 1 := if_neg (by omega)

/-- The deque after an append, without what the bound forces out. -/
def append (deque : Deque α maxlen) (item : α) : Deque α maxlen :=
  ⟨(deque.items ++ [item]).drop deque.surplus, by
    have bounded := deque.bounded
    simp only [List.length_drop, List.length_append, List.length_singleton, surplus]
    split <;> omega⟩

/-- What an append discards, oldest first. -/
def discarded (deque : Deque α maxlen) (item : α) : List α :=
  (deque.items ++ [item]).take deque.surplus

/-- Remove the oldest item; none on an empty deque. -/
def popleft (deque : Deque α maxlen) : Option (Deque α maxlen) :=
  match deque with
  | ⟨[], _⟩ => none
  | ⟨_ :: rest, bounded⟩ => some ⟨rest, Nat.le_of_succ_le bounded⟩

/-- The discarded items and the remaining ones are the old items and the new. -/
theorem discarded_append (deque : Deque α maxlen) (item : α) :
    deque.discarded item ++ (deque.append item).items = deque.items ++ [item] := by
  simp [discarded, append]

/-- An append loses nothing but what it discards. -/
theorem count_append [DecidableEq α] (deque : Deque α maxlen) (item counted : α) :
    (deque.discarded item).count counted + (deque.append item).items.count counted =
      deque.items.count counted + [item].count counted := by
  rw [← List.count_append, discarded_append, List.count_append]

/-- With room for one more the deque only grows. -/
theorem append_room (deque : Deque α maxlen) (item : α) (room : deque.items.length < maxlen) :
    (deque.append item).items = deque.items ++ [item] ∧ deque.discarded item = [] := by
  simp [append, discarded, deque.room_surplus room]

/-- A full deque of positive length discards exactly its oldest item. With length
zero the appended item itself is lost. -/
theorem append_full (deque : Deque α maxlen) (item : α) (positive : 0 < maxlen)
    (full : deque.items.length = maxlen) :
    ∃ oldest rest, deque.items = oldest :: rest ∧ (deque.append item).items = rest ++ [item] ∧
      deque.discarded item = [oldest] := by
  cases held : deque.items with
  | nil =>
    rw [held] at full
    simp only [List.length_nil] at full
    omega
  | cons oldest rest =>
    have one_over := deque.full_surplus full
    exact ⟨oldest, rest, rfl, by simp [append, one_over, held], by simp [discarded, one_over, held]⟩

/-- The appended item stays in a deque of positive length. -/
theorem mem_append_self (deque : Deque α maxlen) (item : α) (positive : 0 < maxlen) :
    item ∈ (deque.append item).items := by
  rcases Nat.lt_or_eq_of_le deque.bounded with room | full
  · simp [(deque.append_room item room).1]
  · obtain ⟨oldest, rest, _, kept, _⟩ := deque.append_full item positive full
    simp [kept]

/-- From an empty deque nothing can be taken. -/
theorem popleft_nil (deque : Deque α maxlen) (none_held : deque.items = []) :
    deque.popleft = none := by
  cases deque
  cases none_held
  rfl

/-- What is taken is the oldest item, and the others stay in their order. -/
theorem popleft_cons (deque : Deque α maxlen) (oldest : α) (rest : List α)
    (held : deque.items = oldest :: rest) :
    ∃ popped, deque.popleft = some popped ∧ popped.items = rest := by
  cases deque
  cases held
  exact ⟨_, rfl, rfl⟩

/-- If something was taken, the deque was the oldest item before what is left of it.
-/
theorem popleft_some {deque popped : Deque α maxlen} (taken : deque.popleft = some popped) :
    ∃ oldest, deque.items = oldest :: popped.items := by
  obtain ⟨items, bounded⟩ := deque
  cases items with
  | nil => simp [popleft] at taken
  | cons oldest rest =>
    obtain rfl := Option.some.inj taken
    exact ⟨oldest, rfl⟩

section Map

universe v
variable {β : Type v} (f : α → β)

def map (deque : Deque α maxlen) : Deque β maxlen :=
  ⟨deque.items.map f, by simpa using deque.bounded⟩

/-- A renamed deque holds the renamed items. -/
@[simp] theorem map_items (deque : Deque α maxlen) : (deque.map f).items = deque.items.map f := rfl

/-- Renaming does not change how many items have to go. -/
@[simp] theorem map_surplus (deque : Deque α maxlen) : (deque.map f).surplus = deque.surplus := by
  simp [surplus]

/-- So an append can be renamed, together with what it pushes out, -/
theorem map_append (deque : Deque α maxlen) (item : α) :
    (deque.append item).map f = (deque.map f).append (f item) := by
  apply ext
  simp [append, List.map_drop]

/-- and what it pushes out is the renamed item. -/
theorem map_discarded (deque : Deque α maxlen) (item : α) :
    (deque.discarded item).map f = (deque.map f).discarded (f item) := by
  simp [discarded, List.map_take]

/-- The same for what is taken from the front. -/
theorem map_popleft (deque : Deque α maxlen) :
    (deque.map f).popleft = deque.popleft.map (map f) := by
  obtain ⟨items, bounded⟩ := deque
  cases items <;> rfl

end Map

end Deque

end Honeywatch
