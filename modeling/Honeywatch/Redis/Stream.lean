import Mathlib.Data.List.Basic

/-!
# A stream with one consumer group

The entries of a stream are numbered by their position. A group remembers how
far it has delivered and which delivered entries are pending. Reading with `>`
delivers entries never delivered before and makes them pending; only an
acknowledgement ends that. A group created at id 0 delivers from the start.
-/

namespace Honeywatch.Redis

universe u
variable {Payload : Type u}

/-- A consumer group: the number of entries it has delivered, and the ids of
the delivered entries that were not acknowledged. -/
structure Group where
  lastDelivered : Nat
  pending : List Nat
deriving DecidableEq, Repr

/-- A stream and its consumer group, if that exists. A group has delivered no
more than there is. -/
structure Stream (Payload : Type u) where
  entries : List Payload
  group : Option Group
  within : ∀ current, group = some current → current.lastDelivered ≤ entries.length
deriving DecidableEq

namespace Stream

/-- What a group that starts at the position has not delivered yet, with ids. -/
def after (position : Nat) (entries : List Payload) : List (Nat × Payload) :=
  (entries.zipIdx.drop position).map Prod.swap

/-- What comes after a position is what is not before it. -/
@[simp] theorem after_length (position : Nat) (entries : List Payload) :
    (after position entries).length = entries.length - position := by
  simp [after]

/-- The stream before its first entry. -/
def empty : Stream Payload :=
  { entries := [], group := none, within := fun _ absent => nomatch absent }

/-- What the group has not delivered; without a group, what a new one will. -/
def undelivered (stream : Stream Payload) : List (Nat × Payload) :=
  match stream.group with
  | none => after 0 stream.entries
  | some group => after group.lastDelivered stream.entries

/-- `XADD`. -/
def xadd (stream : Stream Payload) (payload : Payload) : Stream Payload :=
  { stream with
    entries := stream.entries ++ [payload]
    within := fun current grouped => by
      have bounded := stream.within current grouped
      simp only [List.length_append]
      omega }

/-- `XGROUP CREATE` at id 0; an existing group stays as it is. -/
def xgroupCreate (stream : Stream Payload) : Stream Payload :=
  match stream.group with
  | none =>
    { stream with
      group := some { lastDelivered := 0, pending := [] }
      within := fun _ created => Option.some.inj created ▸ Nat.zero_le _ }
  | some _ => stream

/-- `XREADGROUP` with `>`: the next entries, at most `count`, which are pending
from now on. None when the group is missing. -/
def xreadgroup (count : Nat) (stream : Stream Payload) :
    Option (Stream Payload × List (Nat × Payload)) :=
  match grouped : stream.group with
  | none => none
  | some group =>
    let delivered := (after group.lastDelivered stream.entries).take count
    some ({ stream with
      group := some {
        lastDelivered := group.lastDelivered + delivered.length
        pending := group.pending ++ delivered.map Prod.fst }
      within := fun current advanced => by
        have bounded := stream.within group grouped
        have same := Option.some.inj advanced
        simp only [← same, delivered, List.length_take, after_length]
        omega }, delivered)

/-- `XACK`; without a group nothing is acknowledged. -/
def xack (stream : Stream Payload) (entry : Nat) : Stream Payload :=
  { stream with
    group := stream.group.map fun group =>
      { group with pending := group.pending.filter fun other => other ≠ entry }
    within := fun current acked => by
      obtain ⟨group, grouped, same⟩ := Option.map_eq_some_iff.mp acked
      exact same ▸ stream.within group grouped }

/-- The group has gone missing. -/
def dropGroup (stream : Stream Payload) : Stream Payload :=
  { stream with group := none, within := fun _ absent => nomatch absent }

/-- The ids of the pending entries. -/
def pending (stream : Stream Payload) : List Nat :=
  match stream.group with
  | none => []
  | some group => group.pending

/-- Creating a group changes no entry, -/
@[simp] theorem xgroupCreate_entries (stream : Stream Payload) :
    stream.xgroupCreate.entries = stream.entries := by
  unfold xgroupCreate
  split <;> rfl

/-- A group created at id 0 is to deliver what was undelivered without it. -/
@[simp] theorem xgroupCreate_undelivered (stream : Stream Payload) :
    stream.xgroupCreate.undelivered = stream.undelivered := by
  cases grouped : stream.group <;> simp [xgroupCreate, undelivered, grouped]

/-- and makes none pending, for a group that was there is left as it is. -/
@[simp] theorem xgroupCreate_pending (stream : Stream Payload) :
    stream.xgroupCreate.pending = stream.pending := by
  cases grouped : stream.group <;> simp [xgroupCreate, pending, grouped]

/-- Afterwards there is a group. -/
@[simp] theorem xgroupCreate_group (stream : Stream Payload) :
    stream.xgroupCreate.group.isSome = true := by
  cases grouped : stream.group <;> simp [xgroupCreate, grouped]

/-- An acknowledgement removes no entry from the stream, -/
@[simp] theorem xack_entries (stream : Stream Payload) (entry : Nat) :
    (stream.xack entry).entries = stream.entries := rfl

/-- An acknowledgement delivers nothing. -/
@[simp] theorem xack_undelivered (stream : Stream Payload) (entry : Nat) :
    (stream.xack entry).undelivered = stream.undelivered := by
  cases grouped : stream.group <;> simp [xack, undelivered, grouped]

/-- and keeps the group. -/
@[simp] theorem xack_group (stream : Stream Payload) (entry : Nat) :
    (stream.xack entry).group.isSome = stream.group.isSome := by
  simp [xack]

/-- A lost group leaves the entries. -/
@[simp] theorem dropGroup_entries (stream : Stream Payload) :
    stream.dropGroup.entries = stream.entries := rfl

/-- Everything the stream ever held is undelivered to the next group. -/
theorem dropGroup_undelivered (stream : Stream Payload) :
    stream.dropGroup.undelivered.map Prod.snd = stream.entries := by
  simp [dropGroup, undelivered, after, Function.comp_def]

/-- An added entry is undelivered, and so is what was undelivered before; it comes
last. -/
theorem xadd_undelivered (stream : Stream Payload) (payload : Payload) :
    (stream.xadd payload).undelivered =
      stream.undelivered ++ [(stream.entries.length, payload)] := by
  have extended (position : Nat) (bounded : position ≤ stream.entries.length) :
      after position (stream.entries ++ [payload]) =
        after position stream.entries ++ [(stream.entries.length, payload)] := by
    simp only [after, List.zipIdx_append, List.zipIdx_cons, List.zipIdx_nil, Nat.zero_add]
    rw [List.drop_append_of_le_length (by simpa using bounded)]
    simp
  cases grouped : stream.group with
  | none => simpa [undelivered, xadd, grouped] using extended 0 (Nat.zero_le _)
  | some group => simpa [undelivered, xadd, grouped] using extended _ (stream.within group grouped)

/-- What is undelivered is in the stream under its id, which is its place among the
entries. -/
theorem undelivered_stored (stream : Stream Payload) (item : Nat × Payload)
    (member : item ∈ stream.undelivered) : stream.entries[item.1]? = some item.2 := by
  have stored (position : Nat) (there : item ∈ after position stream.entries) :
      stream.entries[item.1]? = some item.2 := by
    obtain ⟨pair, dropped, rfl⟩ := List.mem_map.mp there
    exact List.mem_zipIdx_iff_getElem?.mp (List.mem_of_mem_drop dropped)
  cases grouped : stream.group with
  | none =>
    simp only [undelivered, grouped] at member
    exact stored 0 member
  | some group =>
    simp only [undelivered, grouped] at member
    exact stored _ member

/-- A read delivers a first part of what was undelivered; the rest stays so. It
delivers nothing only where nothing is asked for or nothing is left. -/
theorem xreadgroup_undelivered (count : Nat) (stream read : Stream Payload)
    (delivered : List (Nat × Payload))
    (answered : stream.xreadgroup count = some (read, delivered)) :
    stream.undelivered = delivered ++ read.undelivered ∧ read.entries = stream.entries ∧
      read.group.isSome = true ∧ (delivered = [] → count = 0 ∨ stream.undelivered = []) := by
  unfold xreadgroup at answered
  split at answered
  · simp at answered
  · next group grouped =>
    simp only [Option.some.injEq, Prod.mk.injEq] at answered
    obtain ⟨rfl, rfl⟩ := answered
    refine ⟨?_, rfl, rfl, ?_⟩
    · have later : after (group.lastDelivered +
          ((after group.lastDelivered stream.entries).take count).length) stream.entries =
          (after group.lastDelivered stream.entries).drop count := by
        simp only [after, ← List.map_drop, List.drop_drop, List.length_take, List.length_map,
          List.length_drop, List.length_zipIdx]
        rcases Nat.le_total count (stream.entries.length - group.lastDelivered) with short | long
        · rw [Nat.min_eq_left short]
        · rw [Nat.min_eq_right long, List.drop_eq_nil_of_le, List.drop_eq_nil_of_le] <;>
            simp only [List.length_zipIdx] <;> omega
      simp only [undelivered, grouped, later, List.take_append_drop]
    · simp only [undelivered, grouped, List.take_eq_nil_iff]
      exact id

/-- Reading with a group is answered. -/
theorem xreadgroup_isSome (count : Nat) (stream : Stream Payload) :
    (stream.xreadgroup count).isSome = stream.group.isSome := by
  unfold xreadgroup
  split <;> simp [*]

end Stream

end Honeywatch.Redis
