import Honeywatch.Foundation.Footprint
import Honeywatch.Redis.Keyspace

/-!
# One keyspace for values of several kinds

A database holds values of every kind under the same keys. A command for one
kind is refused with `WRONGTYPE` where the key holds another, and is otherwise
the command of the keyspace that shows the values of its kind only. Commands on
one key are confined to it.
-/

namespace Honeywatch.Redis

variable {Key Value Part Answer : Type}

/-- A kind of value among all values. -/
structure Kind (Value Part : Type) where
  inject : Part → Value
  project : Value → Option Part
  project_inject : ∀ part, project (inject part) = some part
  inject_project : ∀ value part, project value = some part → inject part = value

namespace Kind

variable (kind : Kind Value Part)

/-- A value of the kind with its expiry, among all values. -/
def injectTimed (timed : Timed Part) : Timed Value :=
  { value := kind.inject timed.value, expiry := timed.expiry }

/-- A value with its expiry, if it is of the kind. -/
def projectTimed (timed : Timed Value) : Option (Timed Part) :=
  (kind.project timed.value).map fun value => { value, expiry := timed.expiry }

/-- A value of the kind is recognised as what it is, with its expiry. -/
theorem projectTimed_injectTimed (timed : Timed Part) :
    kind.projectTimed (kind.injectTimed timed) = some timed := by
  simp [projectTimed, injectTimed, kind.project_inject]

/-- The values of the kind. -/
def view (keys : Keyspace Key Value) : Keyspace Key Part :=
  fun key => (keys key).bind kind.projectTimed

/-- The key holds nothing, or a value of the kind. -/
def Fits (keys : Keyspace Key Value) (now : ℚ) (key : Key) : Prop :=
  ∀ timed, keys.live now key = some timed → (kind.project timed.value).isSome = true

/-- Whether it does. -/
def fits (keys : Keyspace Key Value) (now : ℚ) (key : Key) : Bool :=
  (keys.live now key).all fun timed => (kind.project timed.value).isSome

/-- The test of a command and the condition under which it answers are the same. -/
theorem fits_iff (keys : Keyspace Key Value) (now : ℚ) (key : Key) :
    kind.fits keys now key = true ↔ kind.Fits keys now key := by
  unfold fits Fits
  cases keys.live now key with
  | none => simp
  | some timed => simp

variable [DecidableEq Key]

/-- A command on one key for values of the kind; none is `WRONGTYPE`. -/
def command (now : ℚ) (key : Key) (act : StateM (Keyspace Key Part) Answer) :
    StateM (Keyspace Key Value) (Option Answer) := fun keys =>
  if kind.fits keys now key then
    (some (act.run (kind.view keys)).1,
      Function.update keys key (((act.run (kind.view keys)).2 key).map kind.injectTimed))
  else (none, keys)

end Kind

namespace Command

variable [DecidableEq Key] {Member : Type} [DecidableEq Member]

/-- `ZADD` of one member. -/
def zadd (now : ℚ) (key : Key) (member : Member) (score : ℚ) :
    StateM (Keyspace Key (ZSet Member)) Unit :=
  fun keys => ((), keys.zadd now key member score)

/-- `ZREMRANGEBYSCORE`. -/
def zremrangebyscore (now : ℚ) (key : Key) (least greatest : ℚ) :
    StateM (Keyspace Key (ZSet Member)) Unit :=
  fun keys => ((), keys.zremrangebyscore now key least greatest)

/-- `ZCARD`. -/
def zcard (now : ℚ) (key : Key) : StateM (Keyspace Key (ZSet Member)) Nat :=
  fun keys => (keys.zcard now key, keys)

/-- `SADD` of one member. -/
def sadd (now : ℚ) (key : Key) (member : Member) : StateM (Keyspace Key (Finset Member)) Unit :=
  fun keys => ((), keys.sadd now key member)

/-- `SMEMBERS`. -/
def smembers (now : ℚ) (key : Key) : StateM (Keyspace Key (Finset Member)) (Finset Member) :=
  fun keys => (keys.smembers now key, keys)

/-- `EXPIRE`. -/
def expire (now : ℚ) (key : Key) (ttl : ℚ) : StateM (Keyspace Key Value) Unit :=
  fun keys => ((), keys.expire now key ttl)

end Command

namespace Keyspace

/-- What a key holds at a time depends on the key alone. -/
theorem live_congr {first second : Keyspace Key Value} {key : Key}
    (same : first key = second key) (now : ℚ) : first.live now key = second.live now key := by
  rw [live, live, same]

end Keyspace

namespace Command

variable [DecidableEq Key] {Member : Type} [DecidableEq Member]

omit [DecidableEq Key] in
/-- A command on one key that leaves the others alone is confined to it, if what
it answers and what it leaves depend on what the key holds. -/
theorem confined_of_cell {key : Key} {act : StateM (Keyspace Key Value) Answer}
    (frame : ∀ keys other, other ≠ key → (act.run keys).2 other = keys other)
    (cell : ∀ first second : Keyspace Key Value, first key = second key →
      (act.run first).1 = (act.run second).1 ∧ (act.run first).2 key = (act.run second).2 key) :
    Confined {key} act where
  frame keys := by
    intro other elsewhere
    exact frame keys other elsewhere
  within first second same := by
    obtain ⟨answer, left⟩ := cell first second (Set.eqOn_singleton.mp same)
    exact ⟨answer, Set.eqOn_singleton.mpr left⟩

/-- What a command makes of a key depends on this key alone. The confinement of
every command below rests on this. -/
theorem modify_cell (now : ℚ) (key : Key) (fresh : Value) (change : Value → Value)
    {first second : Keyspace Key Value} (same : first key = second key) :
    first.modify now key fresh change key = second.modify now key fresh change key := by
  rw [Keyspace.modify, Keyspace.modify, Function.update_self, Function.update_self,
    Keyspace.live_congr same]

/-- `ZADD` reads and writes its own key only, so it commutes with whatever is
confined to others. -/
theorem confined_zadd (now : ℚ) (key : Key) (member : Member) (score : ℚ) :
    Confined {key} (zadd now key member score) := by
  apply confined_of_cell
  · intro keys other elsewhere
    simp only [zadd, StateT.run, Keyspace.zadd]
    exact Keyspace.modify_of_ne keys now _ _ elsewhere
  · intro first second same
    simp only [zadd, StateT.run, Keyspace.zadd]
    exact ⟨trivial, modify_cell now key _ _ same⟩

/-- `SADD` likewise. -/
theorem confined_sadd (now : ℚ) (key : Key) (member : Member) :
    Confined {key} (sadd now key member) := by
  apply confined_of_cell
  · intro keys other elsewhere
    exact Keyspace.modify_of_ne keys now _ _ elsewhere
  · intro first second same
    exact ⟨rfl, modify_cell now key _ _ same⟩

/-- `ZREMRANGEBYSCORE` likewise; a set that has become empty is removed, which is
still a change of its own key. -/
theorem confined_zremrangebyscore (now : ℚ) (key : Key) (least greatest : ℚ) :
    Confined {key} (zremrangebyscore now key least greatest :
      StateM (Keyspace Key (ZSet Member)) Unit) := by
  apply confined_of_cell
  · intro keys other elsewhere
    exact Keyspace.zremrangebyscore_of_ne keys now least greatest elsewhere
  · intro first second same
    refine ⟨rfl, ?_⟩
    have held := Keyspace.live_congr same now
    simp only [zremrangebyscore, StateT.run, Keyspace.zremrangebyscore, held]
    cases Keyspace.live second now key with
    | none => exact same
    | some timed => simp only [Function.update_self]

omit [DecidableEq Key] in
/-- `ZCARD` reads one key and writes none, so it is confined to it all the more. -/
theorem confined_zcard (now : ℚ) (key : Key) :
    Confined {key} (zcard now key : StateM (Keyspace Key (ZSet Member)) Nat) := by
  apply confined_of_cell
  · intro keys other _
    rfl
  · intro first second same
    refine ⟨?_, same⟩
    simp only [zcard, StateT.run, Keyspace.zcard, Keyspace.live_congr same]

omit [DecidableEq Key] in
/-- `SMEMBERS` reads one key and writes none, so it is confined to it all the more.
-/
theorem confined_smembers (now : ℚ) (key : Key) :
    Confined {key} (smembers now key : StateM (Keyspace Key (Finset Member)) (Finset Member)) := by
  apply confined_of_cell
  · intro keys other _
    rfl
  · intro first second same
    refine ⟨?_, same⟩
    simp only [smembers, StateT.run, Keyspace.smembers, Keyspace.live_congr same]

/-- `EXPIRE` renews one key. It asks for no kind, so it is confined for values of
any type. -/
theorem confined_expire (now : ℚ) (key : Key) (ttl : ℚ) :
    Confined {key} (expire now key ttl : StateM (Keyspace Key Value) Unit) := by
  apply confined_of_cell
  · intro keys other elsewhere
    exact Keyspace.expire_of_ne keys now ttl elsewhere
  · intro first second same
    refine ⟨rfl, ?_⟩
    simp only [expire, StateT.run, Keyspace.expire, Function.update_self,
      Keyspace.live_congr same]

end Command

namespace Kind

variable (kind : Kind Value Part) [DecidableEq Key]

/-- A command for one kind is confined to its key when it is for the values of
the kind. -/
theorem confined_command (now : ℚ) (key : Key) {act : StateM (Keyspace Key Part) Answer}
    (confined : Confined {key} act) : Confined {key} (kind.command now key act) where
  frame keys := by
    intro other elsewhere
    by_cases fitting : kind.fits keys now key
    · simp only [command, StateT.run, fitting, if_true]
      exact Function.update_of_ne elsewhere _ _
    · simp only [command, StateT.run, fitting, Bool.false_eq_true, if_false]
  within first second same := by
    have cell : first key = second key := Set.eqOn_singleton.mp same
    have alike : kind.fits first now key = kind.fits second now key := by
      rw [fits, fits, Keyspace.live_congr cell]
    have views : Set.EqOn (kind.view first) (kind.view second) {key} := by
      rw [Set.eqOn_singleton, view, view, cell]
    obtain ⟨answer, stores⟩ := confined.within _ _ views
    by_cases fitting : kind.fits second now key
    · simp only [command, StateT.run, alike, fitting, if_true]
      refine ⟨congrArg some answer, Set.eqOn_singleton.mpr ?_⟩
      rw [Function.update_self, Function.update_self]
      exact congrArg (Option.map kind.injectTimed) (Set.eqOn_singleton.mp stores)
    · simp only [command, StateT.run, alike, fitting, Bool.false_eq_true, if_false]
      exact ⟨trivial, same⟩

/-- Where the key fits, the command is what it is for the values of the kind, so the
results about a keyspace of one type carry over. -/
theorem command_view (now : ℚ) (key : Key) {act : StateM (Keyspace Key Part) Answer}
    (confined : Confined {key} act) {keys : Keyspace Key Value} (fitting : kind.Fits keys now key) :
    ((kind.command now key act).run keys).1 = some (act.run (kind.view keys)).1 ∧
      kind.view ((kind.command now key act).run keys).2 = (act.run (kind.view keys)).2 := by
  have fitted := (kind.fits_iff keys now key).mpr fitting
  simp only [command, StateT.run, fitted, if_true]
  refine ⟨trivial, ?_⟩
  funext other
  by_cases same : other = key
  · subst same
    rw [view, Function.update_self]
    cases (act (kind.view keys)).2 other with
    | none => rfl
    | some timed => exact kind.projectTimed_injectTimed timed
  · have kept : (act.run (kind.view keys)).2 other = kind.view keys other :=
      confined.frame (kind.view keys) same
    rw [view, Function.update_of_ne same]
    exact kept.symm

omit [DecidableEq Key] in
/-- The values of a kind expire as they do among all values; a value of another kind
is absent from the view. -/
theorem live_view (keys : Keyspace Key Value) (now : ℚ) (key : Key) :
    (kind.view keys).live now key = (keys.live now key).bind kind.projectTimed := by
  unfold Keyspace.live view
  cases keys key with
  | none => rfl
  | some timed =>
    obtain ⟨value, expiry⟩ := timed
    rw [Option.bind_some]
    cases expiry with
    | none => cases projected : kind.project value <;> simp [projectTimed, Option.filter, projected]
    | some expiry =>
      by_cases fresh : now ≤ expiry
      · cases projected : kind.project value <;>
          simp [projectTimed, Option.filter, projected, fresh]
      · cases projected : kind.project value <;>
          simp [projectTimed, Option.filter, projected, fresh]

/-- `EXPIRE` renews the values of a kind, and that of its key only. -/
theorem view_expire (keys : Keyspace Key Value) (now : ℚ) (key : Key) (ttl : ℚ) :
    kind.view (keys.expire now key ttl) = (kind.view keys).expire now key ttl := by
  funext other
  by_cases same : other = key
  · subst same
    rw [view, Keyspace.expire, Function.update_self, Keyspace.expire, Function.update_self,
      live_view]
    cases keys.live now other with
    | none => rfl
    | some timed =>
      rw [Option.map_some, Option.bind_some, Option.bind_some, projectTimed, projectTimed,
        Option.map_map]
      rfl
  · rw [Keyspace.expire_of_ne _ _ _ same, view, Keyspace.expire_of_ne _ _ _ same]
    rfl

/-- Whatever the key holds, expired or not, is of the kind. -/
def Holds (keys : Keyspace Key Value) (key : Key) : Prop :=
  ∀ timed, keys key = some timed → (kind.project timed.value).isSome = true

variable {kind}

omit [DecidableEq Key] in
/-- A key that holds a value of the kind, expired or not, is never refused. -/
theorem Holds.fits {keys : Keyspace Key Value} {key : Key} (holds : kind.Holds keys key)
    (now : ℚ) : kind.Fits keys now key := by
  intro timed held
  exact holds timed (Option.filter_eq_some_iff.mp held).1

/-- A command for the kind keeps it: what it writes under the key is a value of the
kind, or nothing. -/
theorem Holds.command {keys : Keyspace Key Value} {key : Key} (holds : kind.Holds keys key)
    (now : ℚ) (act : StateM (Keyspace Key Part) Answer) :
    kind.Holds ((kind.command now key act).run keys).2 key := by
  have fitted := (kind.fits_iff keys now key).mpr (holds.fits now)
  intro timed stored
  simp only [Kind.command, StateT.run, fitted, if_true, Function.update_self] at stored
  obtain ⟨part, _, rfl⟩ := Option.map_eq_some_iff.mp stored
  simp [injectTimed, kind.project_inject]

/-- A renewal changes an expiry and no value, so what a key holds stays of its kind.
-/
theorem Holds.expire {keys : Keyspace Key Value} {key : Key} (holds : kind.Holds keys key)
    (now : ℚ) (renewed : Key) (ttl : ℚ) : kind.Holds (keys.expire now renewed ttl) key := by
  intro timed stored
  by_cases same : key = renewed
  · subst same
    rw [Keyspace.expire, Function.update_self] at stored
    obtain ⟨before, held, rfl⟩ := Option.map_eq_some_iff.mp stored
    exact holds before (Option.filter_eq_some_iff.mp held).1
  · rw [Keyspace.expire_of_ne _ _ _ same] at stored
    exact holds timed stored

section Apart

variable {Alien : Type} (other : Kind Value Alien)
  (apart : ∀ part, other.project (kind.inject part) = none)

include apart

omit [DecidableEq Key] in
/-- Another kind sees nothing under a key of the one, as no value is of two kinds.
-/
theorem view_of_apart {keys : Keyspace Key Value} {key : Key} (holds : kind.Holds keys key) :
    other.view keys key = none := by
  rw [view]
  cases stored : keys key with
  | none => rfl
  | some timed =>
    obtain ⟨part, projected⟩ := Option.isSome_iff_exists.mp (holds timed stored)
    rw [Option.bind_some, projectTimed, ← kind.inject_project timed.value part projected, apart]
    rfl

/-- It sees no command for the one kind, whatever that does to the key. -/
theorem view_command_of_apart {keys : Keyspace Key Value} {key : Key}
    (holds : kind.Holds keys key) (now : ℚ) {act : StateM (Keyspace Key Part) Answer}
    (confined : Confined {key} act) :
    other.view ((kind.command now key act).run keys).2 = other.view keys := by
  funext viewed
  by_cases same : viewed = key
  · subst same
    rw [view_of_apart other apart holds, view_of_apart other apart (holds.command now act)]
  · rw [view, view, (kind.confined_command now key confined).frame keys same]

/-- Nor does it see that the key is renewed. -/
theorem view_expire_of_apart {keys : Keyspace Key Value} {key : Key}
    (holds : kind.Holds keys key) (now ttl : ℚ) :
    other.view (keys.expire now key ttl) = other.view keys := by
  funext viewed
  by_cases same : viewed = key
  · subst same
    rw [view_of_apart other apart holds, view_of_apart other apart (holds.expire now viewed ttl)]
  · rw [view, view, Keyspace.expire_of_ne _ _ _ same]

end Apart

end Kind

end Honeywatch.Redis
