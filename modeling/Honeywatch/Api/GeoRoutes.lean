import Honeywatch.Analysis.GeoIpFailures
import Honeywatch.Api.Countries

/-!
# The routes with locations

`get_geo_top_ips` and `get_country_summary` resolve one source address after the
other and catch nothing. An address for which the database raises another error
than `AddressNotFoundError` fails the whole request; the other addresses do not.
-/

namespace Honeywatch.Api

open Text Collector Db OrderBy Analysis

/-- What a request ends with: the answer, the status 400, or an exception of the
database that nothing catches. -/
inductive Response (Answer : Type)
  | ok (answer : Answer)
  | badRequest (detail : Str)
  | failed (error : ReaderError)
deriving DecidableEq

/-- `_geo_to_dict`: all fields of the location. -/
abbrev GeoDict := GeoLocation

/-- An entry of `get_geo_top_ips`. -/
structure GeoTopIp where
  sourceIp : Str
  eventCount : Nat
  firstSeen : Option (List Char)
  lastSeen : Option (List Char)
  geo : GeoDict
deriving DecidableEq

deriving instance DecidableEq for CountryCount

section Routes

variable (ipAddress : Str → Option IPAddress)

/-- The body of a loop that resolves the address of each item. -/
def eachResolved {Item Result : Type} (address : Item → Str)
    (add : Result → Item → GeoLocation → Result) (state : FallibleResolver × Result)
    (item : Item) : Except ReaderError (FallibleResolver × Result) := do
  let (resolver, location) ← state.1.resolve ipAddress (some (address item))
  return (resolver, add state.2 item location)

/-- The loop of `get_geo_top_ips`. -/
def geoEntries (resolver : FallibleResolver) (ips : List IpRow) :
    Except ReaderError (FallibleResolver × List GeoTopIp) :=
  ips.foldlM (eachResolved ipAddress IpRow.sourceIp fun entries ip location =>
    entries ++
      [{ sourceIp := ip.sourceIp
         eventCount := ip.total
         firstSeen := ip.firstSeen.map DateTime.isoformat
         lastSeen := ip.lastSeen.map DateTime.isoformat
         geo := location }]) (resolver, [])

/-- The route `get_geo_top_ips`, given the result of its query before the limit. -/
def getGeoTopIps (resolver : FallibleResolver) (sorted : List IpRow) (limit : Limit) :
    Response (List GeoTopIp) :=
  match geoEntries ipAddress resolver (getTopIps sorted limit) with
  | .error error => .failed error
  | .ok (_, entries) => .ok entries

/-- The loop of `CountryAggregator.aggregate`. -/
def addCountries (state : FallibleResolver × OrderedDict Str Nat) (ipCounts : List (Str × Nat)) :
    Except ReaderError (FallibleResolver × OrderedDict Str Nat) :=
  ipCounts.foldlM (eachResolved ipAddress Prod.fst fun totals entry location =>
    totals.setItem (countryKey location) ((totals.get (countryKey location)).getD 0 + entry.2))
    state

/-- `CountryAggregator.aggregate` with a database that may fail. -/
def aggregateOrRaise (ipCounts : List (Str × Nat)) (resolver : FallibleResolver)
    (maxCountries : Int) : Except ReaderError (List CountryCount) :=
  match addCountries ipAddress (resolver, .empty) ipCounts with
  | .error error => .error error
  | .ok (_, totals) =>
    let counts := totals.items.map toCountryCount
    let sorted := counts.insertionSort fun (first second : CountryCount) =>
      second.count < first.count ∨
        (first.count = second.count ∧ first.countryCode ≤ second.countryCode)
    .ok (sliceTo sorted maxCountries)

/-- A bound of the period of `get_country_summary`; none where the text is not ISO 8601. -/
def parseBound (parseIso8601 : Str → Option DateTime) : Option Str → Option (Option DateTime)
  | none => some none
  | some text => (parseIso8601 text).map some

/-- The period that `get_country_summary` is asked for, or why it refuses. -/
def requestedPeriod (parseIso8601 : Str → Option DateTime) (start finish : Option Str) :
    Except Str (Option DateTime × Option DateTime) :=
  match parseBound parseIso8601 start with
  | none => .error (literal "Invalid ISO 8601 datetime for 'start'")
  | some since =>
    match parseBound parseIso8601 finish with
    | none => .error (literal "Invalid ISO 8601 datetime for 'end'")
    | some untilTime =>
      match since, untilTime with
      | some first, some last =>
        if last < first then .error (literal "'start' must not be after 'end'")
        else .ok (since, untilTime)
      | _, _ => .ok (since, untilTime)

/-- The route `get_country_summary`, given what the database returns for a period. -/
def getCountrySummary (parseIso8601 : Str → Option DateTime) {table : AttackEvents}
    (counts : ∀ since untilTime, IpCounts table since untilTime) (resolver : FallibleResolver)
    (start finish : Option Str) : Response (List CountryCount) :=
  match requestedPeriod parseIso8601 start finish with
  | .error detail => .badRequest detail
  | .ok (since, untilTime) =>
    match aggregateOrRaise ipAddress (counts since untilTime).val resolver 1000 with
    | .error error => .failed error
    | .ok countries => .ok countries

variable {ipAddress}

/-- Such a loop ends exactly when every address is harmless. A call before it may
fill the cache, which makes no address harmless that was not. -/
theorem eachResolved_returns_iff {Item Result : Type} {address : Item → Str}
    {add : Result → Item → GeoLocation → Result} {resolver : FallibleResolver}
    (filled : resolver.Filled ipAddress) (result : Result) (items : List Item) :
    (∃ final, items.foldlM (eachResolved ipAddress address add) (resolver, result) = .ok final) ↔
      ∀ item ∈ items, resolver.Harmless ipAddress (address item) := by
  apply foldlM_returns_iff fun state => state.1.Filled ipAddress ∧
    ∀ address, state.1.Harmless ipAddress address ↔ resolver.Harmless ipAddress address
  · rintro ⟨now, result⟩ item ⟨stillFilled, same⟩
    rw [← same, ← stillFilled.resolve_returns_iff]
    unfold eachResolved
    cases now.resolve ipAddress (some (address item)) with
    | error error =>
      constructor
      · rintro ⟨next, returned⟩
        cases returned
      · rintro ⟨next, returned⟩
        cases returned
    | ok returned =>
      constructor
      · intro _
        exact ⟨returned, rfl⟩
      · intro _
        exact ⟨_, rfl⟩
  · rintro ⟨now, result⟩ item next ⟨stillFilled, same⟩ stepped
    unfold eachResolved at stepped
    cases returned : now.resolve ipAddress (some (address item)) with
    | error error =>
      rw [returned] at stepped
      cases stepped
    | ok pair =>
      rw [returned] at stepped
      cases stepped
      obtain ⟨filledNext, sameNext⟩ := stillFilled.resolve returned
      exact ⟨filledNext, fun address => (sameNext address).trans (same address)⟩
  · exact ⟨filled, fun address => Iff.rfl⟩

/-- The top addresses are answered exactly when all of them are harmless; one that
the limit cuts off is not looked up. -/
theorem getGeoTopIps_answers_iff {resolver : FallibleResolver} (filled : resolver.Filled ipAddress)
    (sorted : List IpRow) (limit : Limit) :
    (∀ error, getGeoTopIps ipAddress resolver sorted limit ≠ .failed error) ↔
      ∀ row ∈ getTopIps sorted limit, resolver.Harmless ipAddress row.sourceIp := by
  have loop : (∃ final, geoEntries ipAddress resolver (getTopIps sorted limit) = .ok final) ↔ _ :=
    eachResolved_returns_iff filled [] (getTopIps sorted limit)
  rw [← loop, getGeoTopIps]
  cases geoEntries ipAddress resolver (getTopIps sorted limit) with
  | error error => simp
  | ok pair => simp

/-- The countries are answered exactly when all addresses are harmless. The cut to
the first countries comes after the loop and spares no address. -/
theorem aggregateOrRaise_returns_iff {resolver : FallibleResolver}
    (filled : resolver.Filled ipAddress) (ipCounts : List (Str × Nat)) (maxCountries : Int) :
    (∃ countries, aggregateOrRaise ipAddress ipCounts resolver maxCountries = .ok countries) ↔
      ∀ entry ∈ ipCounts, resolver.Harmless ipAddress entry.1 := by
  have loop : (∃ final, addCountries ipAddress (resolver, .empty) ipCounts = .ok final) ↔ _ :=
    eachResolved_returns_iff filled OrderedDict.empty ipCounts
  rw [← loop, aggregateOrRaise]
  cases addCountries ipAddress (resolver, .empty) ipCounts with
  | error error => simp
  | ok pair => simp

/-- The counted addresses are those of the events in the period, where a bound that
is not given excludes nothing. -/
theorem mem_ipCounts {table : AttackEvents} {since untilTime : Option DateTime}
    (counts : IpCounts table since untilTime) (sourceIp : Str) :
    (∃ entry ∈ counts.val, entry.1 = sourceIp) ↔ ∃ row ∈ table.rows,
      (∀ first, since = some first → first ≤ row.timestamp) ∧
        (∀ last, untilTime = some last → row.timestamp ≤ last) ∧ row.sourceIp = sourceIp := by
  have selected (row : AttackEventModel) :
      (whenGiven since (fun since => decide (since ≤ row.timestamp)) &&
        whenGiven untilTime fun bound => decide (row.timestamp ≤ bound)) = true ↔
      (∀ first, since = some first → first ≤ row.timestamp) ∧
        ∀ last, untilTime = some last → row.timestamp ≤ last := by
    rw [Bool.and_eq_true, whenGiven_iff since fun since => since ≤ row.timestamp,
      whenGiven_iff untilTime fun bound => row.timestamp ≤ bound]
  have keys : (∃ entry ∈ counts.val, entry.1 = sourceIp) ↔
      sourceIp ∈ (ipGroups table since untilTime).map Prod.fst := by
    rw [← (counts.property.perm.map Prod.fst).mem_iff, List.mem_map]
  have grouped : (ipGroups table since untilTime).map Prod.fst =
      ((table.rows.filter fun row =>
        whenGiven since (fun since => decide (since ≤ row.timestamp)) &&
          whenGiven untilTime fun bound => decide (row.timestamp ≤ bound)).map
        AttackEventModel.sourceIp).dedup := by
    rw [ipGroups, groupBy, List.map_map, List.map_map]
    exact List.map_id _
  rw [keys, grouped, List.mem_dedup, List.mem_map]
  constructor
  · rintro ⟨row, inside, own⟩
    obtain ⟨member, fits⟩ := List.mem_filter.mp inside
    obtain ⟨after, before⟩ := (selected row).mp fits
    exact ⟨row, member, after, before, own⟩
  · rintro ⟨row, member, after, before, own⟩
    exact ⟨row, List.mem_filter.mpr ⟨member, (selected row).mpr ⟨after, before⟩⟩, own⟩

/-- The countries of a period that is not refused are answered exactly when the
addresses of its events are harmless. -/
theorem getCountrySummary_answers_iff {resolver : FallibleResolver}
    (filled : resolver.Filled ipAddress) (parseIso8601 : Str → Option DateTime)
    {table : AttackEvents} (counts : ∀ since untilTime, IpCounts table since untilTime)
    (start finish : Option Str) :
    (∀ error, getCountrySummary ipAddress parseIso8601 counts resolver start finish ≠
        .failed error) ↔
      ∀ since untilTime, requestedPeriod parseIso8601 start finish = .ok (since, untilTime) →
        ∀ row ∈ table.rows, (∀ first, since = some first → first ≤ row.timestamp) →
          (∀ last, untilTime = some last → row.timestamp ≤ last) →
            resolver.Harmless ipAddress row.sourceIp := by
  rw [getCountrySummary]
  cases requested : requestedPeriod parseIso8601 start finish with
  | error detail => simp
  | ok period =>
    obtain ⟨since, untilTime⟩ := period
    have answers : (∀ error, (match aggregateOrRaise ipAddress (counts since untilTime).val resolver
          1000 with
        | .error error => Response.failed error
        | .ok countries => .ok countries) ≠ .failed error) ↔
        ∀ entry ∈ (counts since untilTime).val, resolver.Harmless ipAddress entry.1 := by
      rw [← aggregateOrRaise_returns_iff filled (counts since untilTime).val 1000]
      cases aggregateOrRaise ipAddress (counts since untilTime).val resolver 1000 with
      | error error => simp
      | ok countries => simp
    refine answers.trans ?_
    have counted := mem_ipCounts (counts since untilTime)
    constructor
    · intro harmless first last same row member after before
      cases same
      obtain ⟨entry, inside, own⟩ := (counted row.sourceIp).mpr ⟨row, member, after, before, rfl⟩
      exact own ▸ harmless entry inside
    · intro harmless entry inside
      obtain ⟨row, member, after, before, own⟩ := (counted entry.1).mp ⟨entry, inside, rfl⟩
      exact own ▸ harmless since untilTime rfl row member after before

/-- `resolve` returns, in every state of the resolver, exactly where the address is
cached or harmless: the resolver is disabled or without a reader, or the address
is not public, or the database has a record of it or raises
`AddressNotFoundError`. Whatever was called since the resolver was loaded, a
request for the top addresses or for the countries of a period ends without an
exception exactly when each address it resolves is harmless. -/
theorem resolves_iff_harmless :
    (∀ (resolver : FallibleResolver) (ip : Option Str),
      (∃ result, resolver.resolve ipAddress ip = .ok result) ↔
        ∀ address, ip = some address →
          address ∈ resolver.cache.keys ∨ resolver.Harmless ipAddress address) ∧
    ∀ cacheSize enabled reader calls,
      let resolver := (FallibleResolver.load cacheSize enabled reader).afterCalls ipAddress calls
      (∀ sorted limit, (∀ error, getGeoTopIps ipAddress resolver sorted limit ≠ .failed error) ↔
        ∀ row ∈ getTopIps sorted limit, resolver.Harmless ipAddress row.sourceIp) ∧
      ∀ parseIso8601 (table : AttackEvents)
        (counts : ∀ since untilTime, IpCounts table since untilTime) start finish,
        (∀ error, getCountrySummary ipAddress parseIso8601 counts resolver start finish ≠
            .failed error) ↔
          ∀ since untilTime, requestedPeriod parseIso8601 start finish = .ok (since, untilTime) →
            ∀ row ∈ table.rows, (∀ first, since = some first → first ≤ row.timestamp) →
              (∀ last, untilTime = some last → row.timestamp ≤ last) →
                resolver.Harmless ipAddress row.sourceIp := by
  refine ⟨FallibleResolver.resolve_returns_iff ipAddress, ?_⟩
  intro cacheSize enabled reader calls resolver
  have filled : resolver.Filled ipAddress :=
    FallibleResolver.filled_afterCalls cacheSize enabled reader calls
  refine ⟨getGeoTopIps_answers_iff filled, ?_⟩
  intro parseIso8601 table counts start finish
  exact getCountrySummary_answers_iff filled parseIso8601 counts start finish

end Routes

/-- An address with a scope, which `ipaddress` accepts and the database does not. -/
def scopedAddress : Str := literal "2001:4860::1%eth0"

/-- A database that has no record and raises `ValueError` for the scoped address. -/
def scopeless : Database := fun ip =>
  if ip = scopedAddress then .error .valueError else .error .addressNotFound

/-- A table with one event, of this address. -/
def singleEvent (sourceIp : Str) : AttackEvents where
  rows := [{ burst (numbered 1) with timestamp := epoch, sourceIp }]
  distinct := List.nodup_singleton _

/-- One stored event from the scoped address fails both requests: the parser takes
it for an address, the reader does not. -/
theorem scoped_address_fails :
    let resolver := FallibleResolver.load 10 true (some scopeless)
    let ipAddress := fun ip => if ip = scopedAddress then some {} else none
    resolver.resolve ipAddress (some scopedAddress) = .error .valueError ∧
      (∃ sorted : TopIps (singleEvent scopedAddress) none (atHour 12),
        getGeoTopIps ipAddress resolver sorted.val ⟨10, by decide⟩ = .failed .valueError) ∧
      ∃ counts : ∀ since untilTime, IpCounts (singleEvent scopedAddress) since untilTime,
        getCountrySummary ipAddress (fun _ => none) counts resolver none none =
          .failed .valueError := by
  intro resolver ipAddress
  refine ⟨rfl, ⟨⟨_, arrange_ordered _ _⟩, ?_⟩, fun _ _ => ⟨_, arrange_ordered _ _⟩, ?_⟩
  · decide +kernel
  · decide +kernel

end Honeywatch.Api
