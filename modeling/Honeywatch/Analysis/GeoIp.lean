import Honeywatch.Foundation.OrderedDict
import Honeywatch.Foundation.Text
import Mathlib.Algebra.Order.Field.Rat
import Mathlib.Order.Lattice.Nat

/-!
# Locations of source addresses

`GeoIPResolver` with its cache. What `ipaddress` makes of a string is a
parameter, and so is the database: both are functions that do not change. The
cache then changes no answer. It holds the public addresses that were asked for,
each once, the latest ones, as many as its size allows.
-/

namespace Honeywatch.Analysis

open Text

/-- `GeoLocation`. -/
structure GeoLocation where
  countryCode : Option Str
  countryName : Option Str
  region : Option Str
  city : Option Str
  latitude : Option ℚ
  longitude : Option ℚ
deriving DecidableEq

/-- `GeoLocation.unresolved`. -/
def GeoLocation.unresolved : GeoLocation :=
  { countryCode := none, countryName := none, region := none, city := none, latitude := none
    longitude := none }

/-- `GeoLocation.is_resolved`. -/
def GeoLocation.isResolved (location : GeoLocation) : Bool := location.countryCode.isSome

/-- The properties of an `ipaddress.IPv4Address` or `ipaddress.IPv6Address`. -/
structure IPAddress where
  isPrivate : Bool := false
  isLoopback : Bool := false
  isLinkLocal : Bool := false
  isReserved : Bool := false
  isUnspecified : Bool := false
  isMulticast : Bool := false

/-- The fields of a `geoip2.models.City` that the resolver reads. -/
structure City where
  countryIsoCode : Option Str := none
  countryName : Option Str := none
  mostSpecificSubdivisionName : Option Str := none
  cityName : Option Str := none
  latitude : Option ℚ := none
  longitude : Option ℚ := none

/-- `reader.city`; none where it raises `AddressNotFoundError`. -/
abbrev Reader := Str → Option City

/-- `GeoIPResolver`. -/
structure GeoIPResolver where
  cacheSize : Int
  enabled : Bool
  reader : Option Reader
  cache : OrderedDict Str GeoLocation
  unavailableWarned : Bool

/-- An enabled resolver that has loaded its database. -/
def GeoIPResolver.load (reader : Reader) (cacheSize : Int) : GeoIPResolver :=
  { cacheSize, enabled := true, reader := some reader, cache := .empty, unavailableWarned := false }

/-- `_lookup`. -/
def lookup (reader : Reader) (ip : Str) : GeoLocation :=
  match reader ip with
  | none => .unresolved
  | some response =>
    { countryCode := response.countryIsoCode
      countryName := response.countryName
      region := response.mostSpecificSubdivisionName
      city := response.cityName
      latitude := response.latitude
      longitude := response.longitude }

/-- `_cache_put`. -/
def GeoIPResolver.cachePut (resolver : GeoIPResolver) (ip : Str) (location : GeoLocation) :
    GeoIPResolver :=
  if resolver.cacheSize ≤ 0 then resolver
  else
    { resolver with
      cache := ((resolver.cache.setItem ip location).moveToEnd ip).trim resolver.cacheSize.toNat }

/-- `close`. -/
def GeoIPResolver.close (resolver : GeoIPResolver) : GeoIPResolver :=
  { resolver with reader := none }

section Resolve

variable (ipAddress : Str → Option IPAddress)

/-- The address is looked up, in the cache or in the database. -/
def isPublic (ip : Str) : Bool :=
  if ip = [] then false
  else
    match ipAddress ip with
    | none => false
    | some parsed =>
      !(parsed.isPrivate || parsed.isLoopback || parsed.isLinkLocal || parsed.isReserved ||
        parsed.isUnspecified || parsed.isMulticast)

/-- `resolve`, where the three tests before the cache are those of `isPublic`. -/
def GeoIPResolver.resolve (resolver : GeoIPResolver) (ip : Option Str) :
    GeoIPResolver × GeoLocation :=
  match resolver.enabled, resolver.reader with
  | false, _ => (resolver, .unresolved)
  | true, none => ({ resolver with unavailableWarned := true }, .unresolved)
  | true, some reader =>
    match ip with
    | none => (resolver, .unresolved)
    | some ip =>
      if isPublic ipAddress ip then
        match resolver.cache.get ip with
        | some cached => ({ resolver with cache := resolver.cache.moveToEnd ip }, cached)
        | none =>
          let location := lookup reader ip
          (resolver.cachePut ip location, location)
      else (resolver, .unresolved)

/-- The resolver after these calls, the latest first. -/
def GeoIPResolver.after (resolver : GeoIPResolver) : List (Option Str) → GeoIPResolver
  | [] => resolver
  | ip :: earlier => ((resolver.after earlier).resolve ipAddress ip).1

/-- The same resolver without a cache. -/
def GeoIPResolver.uncached (resolver : GeoIPResolver) : GeoIPResolver :=
  { resolver with cacheSize := 0, cache := .empty }

/-- The public addresses among these calls. -/
def publicAddresses (calls : List (Option Str)) : List Str :=
  (calls.filterMap id).filter (isPublic ipAddress)

/-- The cache holds the latest of these addresses, with what the database says of
them, and the resolver still has its database. -/
structure Transparent (reader : Reader) (cacheSize : Int) (used : List Str)
    (resolver : GeoIPResolver) : Prop where
  size : resolver.cacheSize = cacheSize
  enabled : resolver.enabled = true
  loaded : resolver.reader = some reader
  keys : resolver.cache.keys.reverse = (recent used).take cacheSize.toNat
  values : ∀ item ∈ resolver.cache.items, item.2 = lookup reader item.1

/-- A hit moves the address to the end and changes no location, so the order of the
items is still that of the last uses and the bound on their number is kept. -/
theorem hit_transparent {reader : Reader} {cacheSize : Int} {used : List Str}
    {resolver : GeoIPResolver} (transparent : Transparent reader cacheSize used resolver)
    (ip : Str) (known : ip ∈ resolver.cache.keys) :
    Transparent reader cacheSize (ip :: used)
      { resolver with cache := resolver.cache.moveToEnd ip } := by
  have kept : ip ∈ (recent used).take cacheSize.toNat := by
    rw [← transparent.keys]
    exact List.mem_reverse.mpr known
  refine ⟨transparent.size, transparent.enabled, transparent.loaded, ?_, ?_⟩
  · rw [take_recent_of_mem kept, ← transparent.keys]
    exact OrderedDict.reverse_keys_moveToEnd known
  · intro item member
    exact transparent.values item (OrderedDict.mem_moveToEnd member)

/-- A miss puts the address in and takes the oldest ones away. What remains are the
last addresses of the calls, since the new one is the youngest, and the location put
in is the reader's. -/
theorem miss_transparent {reader : Reader} {cacheSize : Int} {used : List Str}
    {resolver : GeoIPResolver} (transparent : Transparent reader cacheSize used resolver)
    (ip : Str) (absent : ip ∉ resolver.cache.keys) :
    Transparent reader cacheSize (ip :: used) (resolver.cachePut ip (lookup reader ip)) := by
  have other : ip ∉ (recent used).take cacheSize.toNat := by
    rw [← transparent.keys]
    exact fun member => absent (List.mem_reverse.mp member)
  have size := transparent.size
  by_cases unused : cacheSize ≤ 0
  · have same : resolver.cachePut ip (lookup reader ip) = resolver := by
      rw [GeoIPResolver.cachePut, if_pos (size ▸ unused)]
    have zero : cacheSize.toNat = 0 := by omega
    rw [same]
    refine ⟨size, transparent.enabled, transparent.loaded, ?_, transparent.values⟩
    have keys := transparent.keys
    rw [zero, List.take_zero] at keys ⊢
    exact keys
  · have stored : (resolver.cachePut ip (lookup reader ip)) =
        { resolver with
          cache := ((resolver.cache.setItem ip (lookup reader ip)).moveToEnd ip).trim
            resolver.cacheSize.toNat } := by
      rw [GeoIPResolver.cachePut, if_neg (size ▸ unused)]
    rw [stored]
    refine ⟨size, transparent.enabled, transparent.loaded, ?_, ?_⟩
    · have trimmed := OrderedDict.keys_trim
        ((resolver.cache.setItem ip (lookup reader ip)).moveToEnd ip) resolver.cacheSize.toNat
      rw [OrderedDict.keys_moveToEnd_setItem _ absent, List.reverse_append] at trimmed
      rw [take_recent_of_not_mem other, ← transparent.keys, ← size]
      exact trimmed
    · intro item member
      have joined := OrderedDict.mem_moveToEnd (OrderedDict.mem_trim member)
      rw [OrderedDict.items_setItem_of_not_mem _ absent] at joined
      rcases List.mem_append.mp joined with before | new
      · exact transparent.values item before
      · obtain rfl := List.mem_singleton.mp new
        rfl

/-- A call answers what the database says of a public address, and keeps the
cache transparent. -/
theorem resolve_transparent {reader : Reader} {cacheSize : Int} {used : List Str}
    {resolver : GeoIPResolver} (transparent : Transparent reader cacheSize used resolver)
    (ip : Option Str) :
    Transparent reader cacheSize (publicAddresses ipAddress [ip] ++ used)
        (resolver.resolve ipAddress ip).1 ∧
      (resolver.resolve ipAddress ip).2 =
        (((GeoIPResolver.load reader cacheSize).uncached).resolve ipAddress ip).2 := by
  obtain ⟨size, enabled, reader', cache, warned⟩ := resolver
  obtain rfl : enabled = true := transparent.enabled
  obtain rfl : reader' = some reader := transparent.loaded
  cases ip with
  | none => exact ⟨transparent, rfl⟩
  | some ip =>
    cases looked : isPublic ipAddress ip with
    | false =>
      have unused : publicAddresses ipAddress [some ip] = [] := by
        simp [publicAddresses, looked]
      simp only [GeoIPResolver.resolve, looked, unused, GeoIPResolver.uncached,
        GeoIPResolver.load, Bool.false_eq_true, if_false]
      exact ⟨transparent, trivial⟩
    | true =>
      have used_now : publicAddresses ipAddress [some ip] = [ip] := by
        simp [publicAddresses, looked]
      have fresh : (OrderedDict.empty : OrderedDict Str GeoLocation).get ip = none := rfl
      cases found : cache.get ip with
      | some cached =>
        have known : ip ∈ cache.keys := List.mem_map_of_mem (OrderedDict.get_mem found)
        simp only [GeoIPResolver.resolve, looked, used_now, if_true, GeoIPResolver.uncached,
          GeoIPResolver.load, fresh, found]
        exact ⟨hit_transparent transparent ip known,
          transparent.values _ (OrderedDict.get_mem found)⟩
      | none =>
        have absent := OrderedDict.get_eq_none_iff.mp found
        simp only [GeoIPResolver.resolve, looked, used_now, if_true, GeoIPResolver.uncached,
          GeoIPResolver.load, fresh, found]
        exact ⟨miss_transparent transparent ip absent, trivial⟩

/-- The cache is transparent after every sequence of calls: a call without a public
address leaves the cache alone, any other one is a hit or a miss. -/
theorem after_transparent (reader : Reader) (cacheSize : Int) (calls : List (Option Str)) :
    Transparent reader cacheSize (publicAddresses ipAddress calls)
      ((GeoIPResolver.load reader cacheSize).after ipAddress calls) := by
  induction calls with
  | nil =>
    refine ⟨rfl, rfl, rfl, ?_, ?_⟩
    · simp [GeoIPResolver.after, GeoIPResolver.load, OrderedDict.keys, OrderedDict.empty,
        publicAddresses, recent]
    · intro item member
      cases member
  | cons ip earlier inductionHypothesis =>
    have stepped := (resolve_transparent ipAddress inductionHypothesis ip).1
    have joined : publicAddresses ipAddress [ip] ++ publicAddresses ipAddress earlier =
        publicAddresses ipAddress (ip :: earlier) := by
      rw [publicAddresses, publicAddresses, ← List.filter_append, ← List.filterMap_append]
      rfl
    rwa [joined] at stepped

/-- A closed resolver has nothing to say, now and after more calls, since no call
opens it again. -/
theorem resolve_closed {resolver : GeoIPResolver} (closed : resolver.reader = none)
    (ip : Option Str) : (resolver.resolve ipAddress ip).1.reader = none ∧
      (resolver.resolve ipAddress ip).2 = .unresolved := by
  obtain ⟨size, enabled, reader, cache, warned⟩ := resolver
  obtain rfl : reader = none := closed
  cases enabled with
  | false => exact ⟨rfl, rfl⟩
  | true => exact ⟨rfl, rfl⟩

/-- No call loads the database again. -/
theorem after_closed {resolver : GeoIPResolver} (closed : resolver.reader = none)
    (calls : List (Option Str)) : (resolver.after ipAddress calls).reader = none := by
  induction calls with
  | nil => exact closed
  | cons ip earlier inductionHypothesis =>
    exact (resolve_closed ipAddress inductionHypothesis ip).1

/-- For every reader, every cache size and every sequence of calls: the next call
answers what the resolver without a cache answers; the cache holds no more
entries than its size, namely the latest of the public addresses that were
asked for, in the order of their last use; and after `close` every call is
unresolved. -/
theorem cache_transparent (reader : Reader) (cacheSize : Int) (calls : List (Option Str)) :
    let resolver := (GeoIPResolver.load reader cacheSize).after ipAddress calls
    (∀ ip, (resolver.resolve ipAddress ip).2 =
        (((GeoIPResolver.load reader cacheSize).uncached).resolve ipAddress ip).2) ∧
      (resolver.cache.items.length : Int) ≤ max cacheSize 0 ∧
      resolver.cache.keys.reverse =
        (recent (publicAddresses ipAddress calls)).take cacheSize.toNat ∧
      ∀ more ip, ((resolver.close.after ipAddress more).resolve ipAddress ip).2 =
        .unresolved := by
  intro resolver
  have transparent := after_transparent ipAddress reader cacheSize calls
  refine ⟨?_, ?_, transparent.keys, ?_⟩
  · intro ip
    exact (resolve_transparent ipAddress transparent ip).2
  · have counted := congrArg List.length transparent.keys
    rw [List.length_reverse, List.length_take, OrderedDict.keys, List.length_map] at counted
    have items : resolver.cache.items.length ≤ cacheSize.toNat := counted.trans_le (min_le_left _ _)
    omega
  · intro more ip
    have closed : (resolver.close.after ipAddress more).reader = none :=
      after_closed ipAddress rfl more
    exact (resolve_closed ipAddress closed ip).2

/-- What the cache holds is what the database says, where there is one. -/
def GeoIPResolver.Filled (resolver : GeoIPResolver) : Prop :=
  ∀ reader, resolver.reader = some reader →
    ∀ item ∈ resolver.cache.items, item.2 = lookup reader item.1

/-- A resolver whose cache was filled by its own reader, at whatever point. -/
abbrev FilledResolver := { resolver : GeoIPResolver // resolver.Filled }

/-- What the resolver says of an address without its cache. -/
def GeoIPResolver.locate (resolver : GeoIPResolver) (ip : Str) : GeoLocation :=
  (resolver.uncached.resolve ipAddress (some ip)).2

/-- An empty cache says nothing wrong: every resolver begins so. -/
theorem GeoIPResolver.filled_of_empty {resolver : GeoIPResolver}
    (empty : resolver.cache = .empty) : resolver.Filled := by
  intro reader _ item member
  rw [empty] at member
  cases member

/-- A closed resolver has no database that its cache could disagree with. -/
theorem GeoIPResolver.Filled.close (resolver : GeoIPResolver) : resolver.close.Filled := by
  intro reader loaded
  cases loaded

/-- What is put into the cache joins what is in it; taking the oldest items away
brings no other one. -/
theorem GeoIPResolver.mem_items_cachePut {resolver : GeoIPResolver} {ip : Str}
    {location : GeoLocation} {item : Str × GeoLocation}
    (member : item ∈ (resolver.cachePut ip location).cache.items) :
    item = (ip, location) ∨ item ∈ resolver.cache.items := by
  unfold GeoIPResolver.cachePut at member
  by_cases unused : resolver.cacheSize ≤ 0
  · rw [if_pos unused] at member
    exact .inr member
  · rw [if_neg unused] at member
    exact OrderedDict.mem_setItem (OrderedDict.mem_moveToEnd (OrderedDict.mem_trim member))

/-- The cache is all that a new entry changes; the reader and the switch stay what
they were. -/
theorem GeoIPResolver.cachePut_reader (resolver : GeoIPResolver) (ip : Str)
    (location : GeoLocation) : (resolver.cachePut ip location).enabled = resolver.enabled ∧
      (resolver.cachePut ip location).reader = resolver.reader := by
  unfold GeoIPResolver.cachePut
  by_cases unused : resolver.cacheSize ≤ 0
  · rw [if_pos unused]
    exact ⟨rfl, rfl⟩
  · rw [if_neg unused]
    exact ⟨rfl, rfl⟩

/-- The size and the contents of the cache do not matter for what is said of an
address, nor does a warning that was given. -/
theorem GeoIPResolver.locate_congr {first second : GeoIPResolver}
    (enabled : first.enabled = second.enabled) (reader : first.reader = second.reader) (ip : Str) :
    first.locate ipAddress ip = second.locate ipAddress ip := by
  unfold GeoIPResolver.locate GeoIPResolver.resolve GeoIPResolver.uncached
  simp only [enabled, reader]
  cases second.enabled with
  | false => rfl
  | true =>
    cases second.reader with
    | none => rfl
    | some reader =>
      cases looked : isPublic ipAddress ip with
      | false => rfl
      | true => rfl

/-- A call answers what is said of the address without the cache, and leaves a
filled cache and the same reader behind. -/
theorem GeoIPResolver.Filled.resolve {resolver : GeoIPResolver} (filled : resolver.Filled)
    (ip : Str) :
    (resolver.resolve ipAddress (some ip)).2 = resolver.locate ipAddress ip ∧
      (resolver.resolve ipAddress (some ip)).1.Filled ∧
      (resolver.resolve ipAddress (some ip)).1.enabled = resolver.enabled ∧
      (resolver.resolve ipAddress (some ip)).1.reader = resolver.reader := by
  obtain ⟨cacheSize, enabled, reader, cache, warned⟩ := resolver
  cases enabled with
  | false => exact ⟨rfl, filled, rfl, rfl⟩
  | true =>
    cases reader with
    | none => exact ⟨rfl, filled, rfl, rfl⟩
    | some reader =>
      cases looked : isPublic ipAddress ip with
      | false =>
        simp only [GeoIPResolver.locate, GeoIPResolver.resolve, GeoIPResolver.uncached, looked,
          Bool.false_eq_true, if_false]
        exact ⟨trivial, filled, trivial, trivial⟩
      | true =>
        have fresh : (OrderedDict.empty : OrderedDict Str GeoLocation).get ip = none := rfl
        cases found : cache.get ip with
        | some cached =>
          simp only [GeoIPResolver.locate, GeoIPResolver.resolve, GeoIPResolver.uncached, looked,
            if_true, fresh, found]
          refine ⟨filled reader rfl _ (OrderedDict.get_mem found), ?_, trivial, trivial⟩
          intro other loaded item member
          exact filled other loaded item (OrderedDict.mem_moveToEnd member)
        | none =>
          simp only [GeoIPResolver.locate, GeoIPResolver.resolve, GeoIPResolver.uncached, looked,
            if_true, fresh, found]
          have kept := GeoIPResolver.cachePut_reader ⟨cacheSize, true, some reader, cache, warned⟩
            ip (lookup reader ip)
          refine ⟨trivial, ?_, kept.1, kept.2⟩
          intro other loaded item member
          rw [kept.2] at loaded
          cases loaded
          rcases GeoIPResolver.mem_items_cachePut member with rfl | known
          · rfl
          · exact filled reader rfl item known

/-- Whatever was asked for, the cache is filled by the reader: every location in it
is the answer the reader gives for its address. -/
theorem GeoIPResolver.Filled.after {resolver : GeoIPResolver} (filled : resolver.Filled)
    (calls : List (Option Str)) : (resolver.after ipAddress calls).Filled := by
  induction calls with
  | nil => exact filled
  | cons call earlier inductionHypothesis =>
    cases call with
    | some ip => exact (inductionHypothesis.resolve ipAddress ip).2.1
    | none =>
      rw [GeoIPResolver.after]
      generalize resolver.after ipAddress earlier = before at inductionHypothesis ⊢
      obtain ⟨cacheSize, enabled, reader, cache, warned⟩ := before
      cases enabled with
      | false => exact inductionHypothesis
      | true =>
        cases reader with
        | none => exact inductionHypothesis
        | some reader => exact inductionHypothesis

end Resolve

end Honeywatch.Analysis
