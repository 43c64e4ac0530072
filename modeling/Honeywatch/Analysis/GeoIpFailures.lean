import Honeywatch.Analysis.GeoIp

/-!
# Databases that fail

The reader of a database raises more than `AddressNotFoundError`: `ValueError`
for an address it cannot parse or that a database of the other version cannot
hold, `InvalidDatabaseError` where the file is damaged. `_lookup` catches the
first one only, so the others leave `resolve`. What the tests before the lookup
and the cache keep from the reader is never asked, and no other call fails.
-/

namespace Honeywatch.Analysis

open Text

section Loop

universe u v w

variable {State : Type u} {Item : Type v} {Error : Type w}

/-- A loop whose body fails exactly for some items, in every state that its
steps lead to, ends exactly for the lists without them. -/
theorem foldlM_returns_iff (Kept : State → Prop) {body : State → Item → Except Error State}
    {Fine : Item → Prop} (returns : ∀ state item, Kept state →
      ((∃ next, body state item = .ok next) ↔ Fine item))
    (keeps : ∀ state item next, Kept state → body state item = .ok next → Kept next)
    (state : State) (kept : Kept state) (items : List Item) :
    (∃ final, items.foldlM body state = .ok final) ↔ ∀ item ∈ items, Fine item := by
  induction items generalizing state with
  | nil =>
    constructor
    · intro _ item member
      cases member
    · intro _
      exact ⟨state, rfl⟩
  | cons item rest inductionHypothesis =>
    rw [List.foldlM_cons, List.forall_mem_cons]
    cases stepped : body state item with
    | error error =>
      constructor
      · rintro ⟨final, ended⟩
        cases ended
      · rintro ⟨fine, _⟩
        obtain ⟨next, succeeded⟩ := (returns state item kept).mpr fine
        rw [stepped] at succeeded
        cases succeeded
    | ok next =>
      have fine : Fine item := (returns state item kept).mp ⟨next, stepped⟩
      have after := inductionHypothesis next (keeps state item next kept stepped)
      constructor
      · intro ended
        exact ⟨fine, after.mp ended⟩
      · intro all
        exact after.mpr all.2

end Loop

/-- What `reader.city` raises for an address that `ipaddress` accepts. -/
inductive ReaderError
  | addressNotFound
  | valueError
  | invalidDatabase
deriving DecidableEq

/-- `reader.city`, with all that it raises. -/
abbrev Database := Str → Except ReaderError City

/-- The reader of the resolver that never fails. -/
def Database.reader (database : Database) : Reader := fun ip => (database ip).toOption

/-- `GeoIPResolver` over such a database. -/
structure FallibleResolver where
  cacheSize : Int
  enabled : Bool
  reader : Option Database
  cache : OrderedDict Str GeoLocation
  unavailableWarned : Bool

/-- The same resolver over a reader that knows no other error. -/
def FallibleResolver.quiet (resolver : FallibleResolver) : GeoIPResolver :=
  { cacheSize := resolver.cacheSize
    enabled := resolver.enabled
    reader := resolver.reader.map Database.reader
    cache := resolver.cache
    unavailableWarned := resolver.unavailableWarned }

/-- `load`; there is no reader where the file is missing or cannot be opened. -/
def FallibleResolver.load (cacheSize : Int) (enabled : Bool) (reader : Option Database) :
    FallibleResolver :=
  { cacheSize, enabled, reader, cache := .empty, unavailableWarned := false }

/-- `_lookup`. -/
def lookupIn (database : Database) (ip : Str) : Except ReaderError GeoLocation :=
  match database ip with
  | .error .addressNotFound => .ok .unresolved
  | .error error => .error error
  | .ok response =>
    .ok
      { countryCode := response.countryIsoCode
        countryName := response.countryName
        region := response.mostSpecificSubdivisionName
        city := response.cityName
        latitude := response.latitude
        longitude := response.longitude }

/-- `_cache_put`. -/
def FallibleResolver.cachePut (resolver : FallibleResolver) (ip : Str) (location : GeoLocation) :
    FallibleResolver :=
  { resolver with cache := (resolver.quiet.cachePut ip location).cache }

/-- It is `_cache_put` of the other resolver, so what is known of its cache holds of
this one. -/
theorem FallibleResolver.quiet_cachePut (resolver : FallibleResolver) (ip : Str)
    (location : GeoLocation) :
    (resolver.cachePut ip location).quiet = resolver.quiet.cachePut ip location := by
  unfold FallibleResolver.cachePut GeoIPResolver.cachePut
  by_cases unused : resolver.quiet.cacheSize ≤ 0
  · rw [if_pos unused]
    rfl
  · rw [if_neg unused]
    rfl

/-- It adds no other address, however many old ones the bound of the cache takes
away. -/
theorem FallibleResolver.mem_keys_cachePut {resolver : FallibleResolver} {ip : Str}
    {location : GeoLocation} {address : Str}
    (member : address ∈ (resolver.cachePut ip location).cache.keys) :
    address = ip ∨ address ∈ resolver.cache.keys := by
  unfold FallibleResolver.cachePut GeoIPResolver.cachePut at member
  by_cases unused : resolver.quiet.cacheSize ≤ 0
  · rw [if_pos unused] at member
    exact .inr member
  · rw [if_neg unused] at member
    obtain ⟨item, inside, rfl⟩ := List.mem_map.mp member
    have joined := OrderedDict.mem_moveToEnd (OrderedDict.mem_trim inside)
    exact OrderedDict.mem_keys_setItem.mp (List.mem_map_of_mem joined)

/-- `close`. -/
def FallibleResolver.close (resolver : FallibleResolver) : FallibleResolver :=
  { resolver with reader := none }

/-- The database has a record of the address, or says that it has none. -/
def Answers (database : Database) (ip : Str) : Prop :=
  ∀ error, database ip = .error error → error = .addressNotFound

/-- The lookup fails exactly where the database raises another error. -/
theorem lookupIn_returns_iff (database : Database) (ip : Str) :
    (∃ location, lookupIn database ip = .ok location) ↔ Answers database ip := by
  unfold lookupIn Answers
  cases database ip with
  | ok response => simp
  | error error => cases error <;> simp

/-- Where it does not fail, it is the lookup of the reader that never fails, so that
the results about that one carry over to every call that returns. -/
theorem lookup_of_lookupIn {database : Database} {ip : Str} {location : GeoLocation}
    (found : lookupIn database ip = .ok location) : lookup database.reader ip = location := by
  unfold lookupIn at found
  unfold lookup Database.reader
  cases answered : database ip with
  | ok response =>
    rw [answered] at found
    cases found
    rfl
  | error error =>
    rw [answered] at found
    cases error with
    | addressNotFound =>
      cases found
      rfl
    | valueError => cases found
    | invalidDatabase => cases found

section Resolve

variable (ipAddress : Str → Option IPAddress)

/-- `resolve`. Where it raises, the resolver is left as it was. -/
def FallibleResolver.resolve (resolver : FallibleResolver) (ip : Option Str) :
    Except ReaderError (FallibleResolver × GeoLocation) :=
  match resolver.enabled, resolver.reader with
  | false, _ => .ok (resolver, .unresolved)
  | true, none => .ok ({ resolver with unavailableWarned := true }, .unresolved)
  | true, some database =>
    match ip with
    | none => .ok (resolver, .unresolved)
    | some ip =>
      if isPublic ipAddress ip then
        match resolver.cache.get ip with
        | some cached => .ok ({ resolver with cache := resolver.cache.moveToEnd ip }, cached)
        | none => do
          let location ← lookupIn database ip
          return (resolver.cachePut ip location, location)
      else .ok (resolver, .unresolved)

/-- The reader is asked for the address where it is not cached. -/
def FallibleResolver.Consults (resolver : FallibleResolver) (database : Database) (ip : Str) :
    Prop :=
  resolver.enabled = true ∧ resolver.reader = some database ∧ isPublic ipAddress ip = true

/-- The resolver and the address leave the database no occasion to fail. -/
def FallibleResolver.Harmless (resolver : FallibleResolver) (ip : Str) : Prop :=
  ∀ database, resolver.Consults ipAddress database ip → Answers database ip

/-- What a call does: it returns without the reader, it answers from the cache,
or it passes on what the lookup does. -/
inductive FallibleResolver.Resolved (resolver : FallibleResolver) :
    Option Str → Except ReaderError (FallibleResolver × GeoLocation) → Prop
  | unasked (ip : Option Str) (warned : Bool)
      (unconsulted : ∀ address, ip = some address →
        ∀ database, ¬ resolver.Consults ipAddress database address) :
      Resolved resolver ip (.ok ({ resolver with unavailableWarned := warned }, .unresolved))
  | hit (address : Str) (database : Database) (cached : GeoLocation)
      (consulted : resolver.Consults ipAddress database address)
      (found : resolver.cache.get address = some cached) :
      Resolved resolver (some address)
        (.ok ({ resolver with cache := resolver.cache.moveToEnd address }, cached))
  | miss (address : Str) (database : Database) (location : GeoLocation)
      (consulted : resolver.Consults ipAddress database address)
      (absent : resolver.cache.get address = none)
      (looked : lookupIn database address = .ok location) :
      Resolved resolver (some address) (.ok (resolver.cachePut address location, location))
  | raised (address : Str) (database : Database) (error : ReaderError)
      (consulted : resolver.Consults ipAddress database address)
      (absent : resolver.cache.get address = none)
      (looked : lookupIn database address = .error error) :
      Resolved resolver (some address) (.error error)

/-- Every call ends in one of the listed ways. The cases are the tests of the
source, in its order, and then the cache and the database. -/
theorem FallibleResolver.resolved (resolver : FallibleResolver) (ip : Option Str) :
    resolver.Resolved ipAddress ip (resolver.resolve ipAddress ip) := by
  obtain ⟨cacheSize, enabled, reader, cache, warned⟩ := resolver
  cases enabled with
  | false =>
    apply Resolved.unasked
    intro address _ database consulted
    exact Bool.false_ne_true consulted.1
  | true =>
    cases reader with
    | none =>
      apply Resolved.unasked
      intro address _ database consulted
      exact absurd consulted.2.1 (Option.some_ne_none database).symm
    | some database =>
      cases ip with
      | none =>
        apply Resolved.unasked
        intro address given
        cases given
      | some address =>
        cases looked : isPublic ipAddress address with
        | false =>
          simp only [FallibleResolver.resolve, looked, Bool.false_eq_true, if_false]
          apply Resolved.unasked
          intro other given _ consulted
          cases given
          exact Bool.false_ne_true (looked.symm.trans consulted.2.2)
        | true =>
          have consulted : FallibleResolver.Consults ipAddress
              ⟨cacheSize, true, some database, cache, warned⟩ database address :=
            ⟨rfl, rfl, looked⟩
          cases found : cache.get address with
          | some cached =>
            simp only [FallibleResolver.resolve, looked, if_true, found]
            exact .hit address database cached consulted found
          | none =>
            simp only [FallibleResolver.resolve, looked, if_true, found]
            cases answered : lookupIn database address with
            | error error => exact .raised address database error consulted found answered
            | ok location => exact .miss address database location consulted found answered

/-- A call returns exactly where the address is cached or harmless. A cached address
is returned before the database is asked, so its lookup cannot raise any more. -/
theorem FallibleResolver.resolve_returns_iff (resolver : FallibleResolver) (ip : Option Str) :
    (∃ result, resolver.resolve ipAddress ip = .ok result) ↔
      ∀ address, ip = some address →
        address ∈ resolver.cache.keys ∨ resolver.Harmless ipAddress address := by
  have resolved := resolver.resolved ipAddress ip
  generalize resolver.resolve ipAddress ip = result at resolved ⊢
  cases resolved with
  | unasked ip warned unconsulted =>
    constructor
    · intro _ address given
      right
      intro database consulted
      exact absurd consulted (unconsulted address given database)
    · intro _
      exact ⟨_, rfl⟩
  | hit address database cached consulted found =>
    constructor
    · rintro _ other given
      cases given
      left
      exact List.mem_map_of_mem (OrderedDict.get_mem found)
    · intro _
      exact ⟨_, rfl⟩
  | miss address database location consulted absent looked =>
    constructor
    · rintro _ other given
      cases given
      right
      rintro database' consulted'
      obtain rfl := Option.some.inj (consulted.2.1.symm.trans consulted'.2.1)
      exact (lookupIn_returns_iff database address).mp ⟨location, looked⟩
    · intro _
      exact ⟨_, rfl⟩
  | raised address database error consulted absent looked =>
    constructor
    · rintro ⟨result, returned⟩
      cases returned
    · intro served
      rcases served address rfl with cached | harmless
      · exact absurd cached (OrderedDict.get_eq_none_iff.mp absent)
      · obtain ⟨location, found⟩ :=
          (lookupIn_returns_iff database address).mpr (harmless database consulted)
        rw [looked] at found
        cases found

/-- Where a call returns, it answers what the resolver answers whose reader never
fails. -/
theorem FallibleResolver.resolve_quiet {resolver next : FallibleResolver} {ip : Option Str}
    {location : GeoLocation} (returned : resolver.resolve ipAddress ip = .ok (next, location)) :
    resolver.quiet.resolve ipAddress ip = (next.quiet, location) := by
  obtain ⟨cacheSize, enabled, reader, cache, warned⟩ := resolver
  cases enabled with
  | false =>
    cases returned
    rfl
  | true =>
    cases reader with
    | none =>
      cases returned
      rfl
    | some database =>
      cases ip with
      | none =>
        cases returned
        rfl
      | some address =>
        simp only [FallibleResolver.resolve] at returned
        simp only [GeoIPResolver.resolve, FallibleResolver.quiet, Option.map_some]
        by_cases looked : isPublic ipAddress address = true
        · rw [if_pos looked] at returned ⊢
          cases found : cache.get address with
          | some cached =>
            simp only [found] at returned ⊢
            cases returned
            rfl
          | none =>
            simp only [found] at returned ⊢
            cases answered : lookupIn database address with
            | error error =>
              rw [answered] at returned
              cases returned
            | ok location =>
              rw [answered] at returned
              cases returned
              rw [lookup_of_lookupIn answered]
              exact congrArg (·, location)
                (FallibleResolver.quiet_cachePut ⟨cacheSize, true, some database, cache, warned⟩
                  address location).symm
        · rw [if_neg looked] at returned ⊢
          cases returned
          rfl

/-- What is done to a resolver. -/
inductive ResolverCall
  | resolve (ip : Option Str)
  | close

/-- The resolver after a call. -/
def FallibleResolver.afterCall (resolver : FallibleResolver) :
    ResolverCall → FallibleResolver
  | .resolve ip =>
    match resolver.resolve ipAddress ip with
    | .ok (next, _) => next
    | .error _ => resolver
  | .close => resolver.close

/-- The resolver after these calls. -/
def FallibleResolver.afterCalls (resolver : FallibleResolver) (calls : List ResolverCall) :
    FallibleResolver :=
  calls.foldl (FallibleResolver.afterCall ipAddress) resolver

/-- Only what the database answered is cached. -/
def FallibleResolver.Filled (resolver : FallibleResolver) : Prop :=
  ∀ address ∈ resolver.cache.keys, resolver.Harmless ipAddress address

variable {ipAddress}

/-- A call that returns keeps what the database answers and what is cached. Whether
an address is harmless depends on the database alone, so it is the same before and
after. -/
theorem FallibleResolver.Filled.resolve {resolver : FallibleResolver}
    (filled : resolver.Filled ipAddress) {ip : Option Str} {next : FallibleResolver}
    {location : GeoLocation} (returned : resolver.resolve ipAddress ip = .ok (next, location)) :
    next.Filled ipAddress ∧
      ∀ address, next.Harmless ipAddress address ↔ resolver.Harmless ipAddress address := by
  have resolved := resolver.resolved ipAddress ip
  rw [returned] at resolved
  cases resolved with
  | unasked ip warned unconsulted => exact ⟨filled, fun address => Iff.rfl⟩
  | hit address database cached consulted found =>
    refine ⟨?_, fun address => Iff.rfl⟩
    intro other member
    obtain ⟨item, inside, rfl⟩ := List.mem_map.mp member
    exact filled item.1 (List.mem_map_of_mem (OrderedDict.mem_moveToEnd inside))
  | miss address database location consulted absent looked =>
    refine ⟨?_, fun address => Iff.rfl⟩
    intro other member
    rcases mem_keys_cachePut member with rfl | known
    · intro database' consulted'
      obtain rfl := Option.some.inj (consulted.2.1.symm.trans consulted'.2.1)
      exact (lookupIn_returns_iff database other).mp ⟨location, looked⟩
    · exact filled other known

/-- A call of whatever kind leaves a filled cache, also where it raises: an
exception leaves the resolver as it was. -/
theorem FallibleResolver.Filled.afterCall {resolver : FallibleResolver}
    (filled : resolver.Filled ipAddress) (call : ResolverCall) :
    (resolver.afterCall ipAddress call).Filled ipAddress := by
  cases call with
  | resolve ip =>
    simp only [FallibleResolver.afterCall]
    cases returned : resolver.resolve ipAddress ip with
    | error error => exact filled
    | ok result => exact (filled.resolve returned).1
  | close =>
    intro address _ database consulted
    exact absurd consulted.2.1 (Option.some_ne_none database).symm

/-- So do all calls together. -/
theorem FallibleResolver.Filled.afterCalls {resolver : FallibleResolver}
    (filled : resolver.Filled ipAddress) (calls : List ResolverCall) :
    (resolver.afterCalls ipAddress calls).Filled ipAddress := by
  induction calls generalizing resolver with
  | nil => exact filled
  | cons call rest inductionHypothesis => exact inductionHypothesis (filled.afterCall call)

/-- Only answers are cached, whatever was called since the start: an exception
leaves nothing in the cache. -/
theorem FallibleResolver.filled_afterCalls (cacheSize : Int) (enabled : Bool)
    (reader : Option Database) (calls : List ResolverCall) :
    ((FallibleResolver.load cacheSize enabled reader).afterCalls ipAddress calls).Filled
      ipAddress := by
  apply FallibleResolver.Filled.afterCalls
  intro address member
  cases member

/-- With such a cache, a call returns exactly where the address is harmless, as
nothing comes into the cache that the database has not answered. -/
theorem FallibleResolver.Filled.resolve_returns_iff {resolver : FallibleResolver}
    (filled : resolver.Filled ipAddress) (address : Str) :
    (∃ result, resolver.resolve ipAddress (some address) = .ok result) ↔
      resolver.Harmless ipAddress address := by
  rw [FallibleResolver.resolve_returns_iff]
  constructor
  · intro served
    rcases served address rfl with cached | harmless
    · exact filled address cached
    · exact harmless
  · intro harmless other given
    cases given
    exact .inr harmless

end Resolve

end Honeywatch.Analysis
