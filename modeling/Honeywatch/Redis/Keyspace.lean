import Mathlib.Algebra.Order.Field.Rat
import Mathlib.Data.Finset.Card
import Mathlib.Logic.Function.Basic

/-!
# Keys with a time to live

A key holds a value until it expires. Commands that change a value keep its
expiry; `EXPIRE` renews it. A sorted set has one score for each member, and is
gone when its last member is. The clock is the server's, in seconds.
-/

namespace Honeywatch.Redis

universe u v w
variable {Key : Type u} {Value : Type v} {Member : Type w}

/-- A value and the last moment at which it is there, if there is one. -/
structure Timed (Value : Type v) where
  value : Value
  expiry : Option ℚ

/-- The keys of one type of value. -/
abbrev Keyspace (Key : Type u) (Value : Type v) := Key → Option (Timed Value)

/-- Members with their scores. -/
abbrev ZSet (Member : Type w) := Finset (Member × ℚ)

namespace Keyspace

/-- What a key holds at a time. -/
def live (keys : Keyspace Key Value) (now : ℚ) (key : Key) : Option (Timed Value) :=
  (keys key).filter fun timed =>
    match timed.expiry with
    | none => true
    | some expiry => decide (now ≤ expiry)

variable [DecidableEq Key]

/-- Change a value that is there, or a fresh one that never expires. -/
def modify (keys : Keyspace Key Value) (now : ℚ) (key : Key) (fresh : Value)
    (change : Value → Value) : Keyspace Key Value :=
  Function.update keys key (some
    { value := change (((keys.live now key).map Timed.value).getD fresh)
      expiry := (keys.live now key).bind Timed.expiry })

/-- `EXPIRE`. -/
def expire (keys : Keyspace Key Value) (now : ℚ) (key : Key) (ttl : ℚ) : Keyspace Key Value :=
  Function.update keys key
    ((keys.live now key).map fun timed => { timed with expiry := some (now + ttl) })

/-- `SADD` of one member. -/
def sadd [DecidableEq Member] (keys : Keyspace Key (Finset Member)) (now : ℚ) (key : Key)
    (member : Member) : Keyspace Key (Finset Member) :=
  keys.modify now key ∅ fun members => insert member members

/-- `SMEMBERS`. -/
def smembers [DecidableEq Member] (keys : Keyspace Key (Finset Member)) (now : ℚ) (key : Key) :
    Finset Member :=
  ((keys.live now key).map Timed.value).getD ∅

/-- `ZADD` of one member, whose former score is replaced. -/
def zadd [DecidableEq Member] (keys : Keyspace Key (ZSet Member)) (now : ℚ) (key : Key)
    (member : Member) (score : ℚ) : Keyspace Key (ZSet Member) :=
  keys.modify now key ∅ fun members =>
    insert (member, score) (members.filter fun other => other.1 ≠ member)

/-- `ZREMRANGEBYSCORE`. -/
def zremrangebyscore [DecidableEq Member] (keys : Keyspace Key (ZSet Member)) (now : ℚ) (key : Key)
    (least greatest : ℚ) : Keyspace Key (ZSet Member) :=
  match keys.live now key with
  | none => keys
  | some timed =>
    let rest := timed.value.filter fun member => ¬ (least ≤ member.2 ∧ member.2 ≤ greatest)
    Function.update keys key (if rest = ∅ then none else some { timed with value := rest })

/-- `ZCARD`. -/
def zcard [DecidableEq Member] (keys : Keyspace Key (ZSet Member)) (now : ℚ) (key : Key) : Nat :=
  (((keys.live now key).map Timed.value).getD ∅).card

/-- A key that was just given a value holds it, unless that has expired; at its very
moment it is still there. -/
@[simp] theorem live_update_self (keys : Keyspace Key Value) (now : ℚ) (key : Key)
    (timed : Timed Value) (fresh : ∀ expiry, timed.expiry = some expiry → now ≤ expiry) :
    live (Function.update keys key (some timed)) now key = some timed := by
  simp only [live, Function.update_self]
  cases expires : timed.expiry with
  | none => simp [Option.filter, expires]
  | some expiry => simp [Option.filter, expires, fresh expiry expires]

omit [DecidableEq Key] in
/-- What a key holds has not expired. -/
theorem live_fresh (keys : Keyspace Key Value) (now : ℚ) (key : Key) (expiry : ℚ)
    (expires : (keys.live now key).bind Timed.expiry = some expiry) : now ≤ expiry := by
  obtain ⟨timed, held, same⟩ := Option.bind_eq_some_iff.mp expires
  obtain ⟨_, unexpired⟩ := Option.filter_eq_some_iff.mp held
  simpa [same] using unexpired

/-- A changed value is there. -/
theorem live_modify (keys : Keyspace Key Value) (now : ℚ) (key : Key) (fresh : Value)
    (change : Value → Value) :
    (keys.modify now key fresh change).live now key = some
      { value := change (((keys.live now key).map Timed.value).getD fresh)
        expiry := (keys.live now key).bind Timed.expiry } :=
  live_update_self keys now key _ fun expiry expires => live_fresh keys now key expiry expires

/-- Removing by score what leaves some member keeps the rest under the key, with its
expiry; a set that becomes empty is removed as a key. -/
theorem zremrangebyscore_of_live [DecidableEq Member] (keys : Keyspace Key (ZSet Member)) (now : ℚ)
    (key : Key) (least greatest : ℚ) (timed : Timed (ZSet Member)) (rest : ZSet Member)
    (held : keys.live now key = some timed)
    (kept : timed.value.filter (fun member => ¬ (least ≤ member.2 ∧ member.2 ≤ greatest)) = rest)
    (nonempty : rest ≠ ∅) :
    keys.zremrangebyscore now key least greatest =
        Function.update keys key (some { timed with value := rest }) ∧
      (keys.zremrangebyscore now key least greatest).live now key =
        some { timed with value := rest } := by
  have stored : keys.zremrangebyscore now key least greatest =
      Function.update keys key (some { timed with value := rest }) := by
    simp only [zremrangebyscore, held, kept, nonempty, if_false]
  refine ⟨stored, ?_⟩
  rw [stored]
  refine live_update_self keys now key _ fun expiry expires => ?_
  exact live_fresh keys now key expiry (by simpa [held] using expires)

/-- Changing a value and renewing its time to live stores both. -/
theorem expire_of_live (keys : Keyspace Key Value) (now : ℚ) (key : Key) (ttl : ℚ)
    (timed : Timed Value) (held : keys.live now key = some timed) :
    keys.expire now key ttl =
      Function.update keys key (some { value := timed.value, expiry := some (now + ttl) }) := by
  simp [expire, held]

/-- Whatever the key holds, expired or not, has the property. -/
def Holds (keys : Keyspace Key Value) (key : Key) (property : Value → Prop) : Prop :=
  ∀ timed, keys key = some timed → property timed.value

omit [DecidableEq Key] in
/-- What is read under a key has the property, or nothing is there, or it has
expired and the default is read. -/
theorem Holds.read {keys : Keyspace Key Value} {key : Key} {property : Value → Prop}
    (holds : keys.Holds key property) (now : ℚ) (absent : Value) (otherwise : property absent) :
    property (((keys.live now key).map Timed.value).getD absent) := by
  cases held : keys.live now key with
  | none => exact otherwise
  | some timed =>
    obtain ⟨stored, _⟩ := Option.filter_eq_some_iff.mp held
    exact holds timed stored

/-- A change takes one property to another one, from whatever is there or from the
fresh value where nothing is. -/
theorem Holds.modify {keys : Keyspace Key Value} {key : Key} {before after : Value → Prop}
    (holds : keys.Holds key before) (now : ℚ) (fresh : Value) (change : Value → Value)
    (initially : before fresh) (changes : ∀ value, before value → after (change value)) :
    (keys.modify now key fresh change).Holds key after := by
  intro timed stored
  rw [Keyspace.modify, Function.update_self] at stored
  obtain rfl := Option.some.inj stored
  exact changes _ (holds.read now fresh initially)

/-- Renewing a key changes no value, and makes none where there is none. -/
theorem Holds.expire {keys : Keyspace Key Value} {key : Key} {property : Value → Prop}
    (holds : keys.Holds key property) (now ttl : ℚ) :
    (keys.expire now key ttl).Holds key property := by
  intro timed stored
  rw [Keyspace.expire, Function.update_self] at stored
  obtain ⟨other, held, rfl⟩ := Option.map_eq_some_iff.mp stored
  exact holds other (Option.filter_eq_some_iff.mp held).1

/-- Removing members keeps a property that subsets inherit, whether the key goes
with its last member or not. -/
theorem Holds.zremrangebyscore [DecidableEq Member] {keys : Keyspace Key (ZSet Member)} {key : Key}
    {property : ZSet Member → Prop} (holds : keys.Holds key property) (now least greatest : ℚ)
    (inherited : ∀ members rest, rest ⊆ members → property members → property rest) :
    (keys.zremrangebyscore now key least greatest).Holds key property := by
  cases held : keys.live now key with
  | none => simpa only [Keyspace.zremrangebyscore, held] using holds
  | some timed =>
    intro other stored
    simp only [Keyspace.zremrangebyscore, held, Function.update_self] at stored
    split at stored
    · cases stored
    · obtain rfl := Option.some.inj stored
      exact inherited _ _ (Finset.filter_subset _ _)
        (holds timed (Option.filter_eq_some_iff.mp held).1)

/-- A change leaves the other keys alone. -/
theorem modify_of_ne (keys : Keyspace Key Value) (now : ℚ) {key other : Key} (fresh : Value)
    (change : Value → Value) (elsewhere : other ≠ key) :
    keys.modify now key fresh change other = keys other :=
  Function.update_of_ne elsewhere _ _

/-- A renewal concerns its own key, -/
theorem expire_of_ne (keys : Keyspace Key Value) (now : ℚ) {key other : Key} (ttl : ℚ)
    (elsewhere : other ≠ key) : keys.expire now key ttl other = keys other :=
  Function.update_of_ne elsewhere _ _

/-- and so does the removal of members, also where it removes the key. -/
theorem zremrangebyscore_of_ne [DecidableEq Member] (keys : Keyspace Key (ZSet Member)) (now : ℚ)
    {key other : Key} (least greatest : ℚ) (elsewhere : other ≠ key) :
    keys.zremrangebyscore now key least greatest other = keys other := by
  rw [zremrangebyscore]
  cases keys.live now key with
  | none => rfl
  | some timed => exact Function.update_of_ne elsewhere _ _

end Keyspace

end Honeywatch.Redis
