import Honeywatch.Api.Dashboard
import Honeywatch.Foundation.Tally

/-!
# The countries of the addresses

`CountryAggregator.aggregate` resolves one address after the other, and each
call changes the cache of the resolver. The country of an address is stated
here by the answer of the database alone. What the cache holds is what the
database says, so each address has one country whatever was asked before, and
the totals are those of the counts by country: the order of the entries and the
state of the cache leave no trace in them.
-/

namespace Honeywatch.Api

open Text Analysis

section Aggregate

variable (ipAddress : Str → Option IPAddress)

/-- The country that the database gives to an address. There is none where no
database is in use, for a string that is no public address, for an address that
the database does not have, and for one whose record has no country. -/
def countryIn (resolver : GeoIPResolver) (ip : Str) : Option Str := do
  let reader ← resolver.reader
  let parsed ← ipAddress ip
  guard (resolver.enabled ∧ ip ≠ [] ∧
    ¬ (parsed.isPrivate ∨ parsed.isLoopback ∨ parsed.isLinkLocal ∨ parsed.isReserved ∨
      parsed.isUnspecified ∨ parsed.isMulticast))
  let city ← reader ip
  city.countryIsoCode

/-- The group that an address counts for: its country, or the one group of all
addresses without a country. -/
def countryOf (resolver : GeoIPResolver) (ip : Str) : Str :=
  (countryIn ipAddress resolver ip).getD (literal "UNKNOWN")

/-- The entries by country. -/
def byCountry (resolver : GeoIPResolver) (ipCounts : List (Str × Nat)) : List (Str × Nat) :=
  ipCounts.map fun entry => (countryOf ipAddress resolver entry.1, entry.2)

def toCountryCount (item : Str × Nat) : CountryCount := { countryCode := item.1, count := item.2 }

/-- The tests before the cache together say that the address is public: it is not
empty, and it is of none of the six kinds that are never looked up. -/
theorem isPublic_iff {ip : Str} {parsed : IPAddress} (known : ipAddress ip = some parsed) :
    isPublic ipAddress ip = true ↔ ip ≠ [] ∧
      ¬ (parsed.isPrivate ∨ parsed.isLoopback ∨ parsed.isLinkLocal ∨ parsed.isReserved ∨
        parsed.isUnspecified ∨ parsed.isMulticast) := by
  unfold isPublic
  by_cases blank : ip = []
  · rw [if_pos blank]
    simp only [blank, ne_eq, not_true_eq_false, false_and, Bool.false_eq_true]
  · rw [if_neg blank, known]
    simp only [ne_eq, blank, not_false_eq_true, true_and, Bool.not_eq_true', Bool.or_eq_false_iff,
      not_or, Bool.not_eq_true]
    tauto

/-- The key of what the database says of an address is the country code of its
record; an address without a record or without a country goes to the one group. -/
theorem countryKey_lookup (reader : Reader) (ip : Str) :
    countryKey (lookup reader ip) =
      ((reader ip).bind City.countryIsoCode).getD (literal "UNKNOWN") := by
  unfold lookup
  cases found : reader ip with
  | none => rfl
  | some city =>
    obtain ⟨code, _, _, _, _, _⟩ := city
    cases code with
    | none => rfl
    | some code => rfl

/-- The key that the loop takes from a location is the group of the address. The
cases are the ways in which a call ends: without a database, with a string that
is no address, with an address that is not public, and with a record. -/
theorem countryKey_locate (resolver : GeoIPResolver) (ip : Str) :
    countryKey (resolver.locate ipAddress ip) = countryOf ipAddress resolver ip := by
  obtain ⟨cacheSize, enabled, reader, cache, warned⟩ := resolver
  unfold GeoIPResolver.locate GeoIPResolver.uncached GeoIPResolver.resolve countryOf countryIn
  have fresh : (OrderedDict.empty : OrderedDict Str GeoLocation).get ip = none := rfl
  cases reader with
  | none =>
    cases enabled with
    | false => rfl
    | true => rfl
  | some reader =>
    cases known : ipAddress ip with
    | none =>
      have unread : isPublic ipAddress ip = false := by
        unfold isPublic
        rw [known, ite_self]
      cases enabled with
      | false => rfl
      | true =>
        simp only [unread, Bool.false_eq_true, if_false]
        rfl
    | some parsed =>
      have tested := isPublic_iff ipAddress known
      cases enabled with
      | false => rfl
      | true =>
        by_cases looked : isPublic ipAddress ip = true
        · have stated := tested.mp looked
          simp only [looked, if_true, fresh, countryKey_lookup, Option.bind_eq_bind,
            Option.bind_some, guard, true_and, stated, not_false_eq_true, ne_eq, if_true]
          rfl
        · have failed := mt tested.mpr looked
          simp only [looked, if_false, fresh, Option.bind_eq_bind, Option.bind_some, guard,
            true_and, failed, if_false]
          rfl

/-- The group of an address is a matter of the database alone: neither what is
in the cache nor its size changes it, nor does a warning that was given. -/
theorem countryOf_congr {first second : GeoIPResolver} (enabled : first.enabled = second.enabled)
    (reader : first.reader = second.reader) (ip : Str) :
    countryOf ipAddress first ip = countryOf ipAddress second ip := by
  unfold countryOf countryIn
  rw [enabled, reader]

/-- A call that changes only the cache leaves the entries by country as they
are, so the rest of the loop goes on with the same groups. -/
theorem byCountry_congr {first second : GeoIPResolver} (enabled : first.enabled = second.enabled)
    (reader : first.reader = second.reader) (ipCounts : List (Str × Nat)) :
    byCountry ipAddress first ipCounts = byCountry ipAddress second ipCounts := by
  apply List.map_congr_left
  intro entry _
  rw [countryOf_congr ipAddress enabled reader]

/-- The loop adds up the entries by country, though each step changes the cache:
what a cache filled by the reader answers does not depend on what is in it. -/
theorem countryTotals_eq {resolver : GeoIPResolver} (filled : resolver.Filled)
    (totals : OrderedDict Str Nat) (ipCounts : List (Str × Nat)) :
    countryTotals ipAddress resolver totals ipCounts =
      tally totals (byCountry ipAddress resolver ipCounts) := by
  induction ipCounts generalizing resolver totals with
  | nil => rfl
  | cons entry rest inductionHypothesis =>
    obtain ⟨located, stillFilled, enabled, reader⟩ := filled.resolve ipAddress entry.1
    have key : countryKey (resolver.resolve ipAddress (some entry.1)).2 =
        countryOf ipAddress resolver entry.1 := by
      rw [located, countryKey_locate]
    have step : countryTotals ipAddress resolver totals (entry :: rest) =
        countryTotals ipAddress (resolver.resolve ipAddress (some entry.1)).1
          (totals.setItem (countryOf ipAddress resolver entry.1)
            ((totals.get (countryOf ipAddress resolver entry.1)).getD 0 + entry.2)) rest := by
      rw [← key]
      rfl
    rw [step, inductionHypothesis stillFilled, byCountry_congr ipAddress enabled reader]
    rfl

/-- The sort by count and code is the order of the totals. The dictionary has each
country once, so no two results are equal and the order is strict. -/
theorem aggregate_eq {resolver : GeoIPResolver} (filled : resolver.Filled)
    (ipCounts : List (Str × Nat)) (maxCountries : Nat) :
    aggregate ipAddress ipCounts resolver maxCountries =
      (((tally .empty (byCountry ipAddress resolver ipCounts)).items.insertionSort
        Before).take maxCountries).map toCountryCount := by
  simp only [aggregate, sliceTo, countryTotals_eq ipAddress filled]
  rw [if_pos (Int.natCast_nonneg maxCountries), Int.toNat_natCast, List.map_take]
  congr 1
  symm
  apply List.map_insertionSort
  intro first _ second _
  rfl

variable {ipAddress}

/-- The pairs of a reference list are determined by the counts by country alone. -/
theorem aggregate_of_totals {resolver : GeoIPResolver} (filled : resolver.Filled)
    {ipCounts : List (Str × Nat)} {reference : List (Str × Nat)}
    (totals : Totals (byCountry ipAddress resolver ipCounts) reference) (maxCountries : Nat) :
    aggregate ipAddress ipCounts resolver maxCountries =
      (reference.take maxCountries).map toCountryCount := by
  rw [aggregate_eq ipAddress filled, (tally_totals _).unique totals]

/-- The entries by country are formed one by one, -/
theorem byCountry_cons (resolver : GeoIPResolver) (entry : Str × Nat)
    (rest : List (Str × Nat)) : byCountry ipAddress resolver (entry :: rest) =
      (countryOf ipAddress resolver entry.1, entry.2) :: byCountry ipAddress resolver rest := rfl

/-- so they can be formed in parts. -/
theorem byCountry_append (resolver : GeoIPResolver) (first second : List (Str × Nat)) :
    byCountry ipAddress resolver (first ++ second) =
      byCountry ipAddress resolver first ++ byCountry ipAddress resolver second :=
  List.map_append

/-- The parts of a count add up to it in the country of their address. -/
theorem byCountry_parts (resolver : GeoIPResolver) (ip : Str) (parts : List Nat) :
    byCountry ipAddress resolver (parts.map fun part => (ip, part)) =
      parts.map fun part => (countryOf ipAddress resolver ip, part) := by
  rw [byCountry, List.map_map]
  rfl

/-- For every list of addresses with their counts, every number of countries and
every resolver, loaded or not, with whatever its reader has put into its cache:
each entry counts for the country of its address in the database, or for
`UNKNOWN`; there is one list of these groups with the sums of their counts,
sorted by decreasing sum and then by increasing code, and the answer is its
beginning. It is the same for every order of the entries, and when the count
of an address comes in several parts. -/
theorem aggregate_reference (resolver : FilledResolver) (ipCounts : List (Str × Nat)) :
    (∃ reference, Totals (byCountry ipAddress resolver ipCounts) reference ∧
      (∀ other, Totals (byCountry ipAddress resolver ipCounts) other → other = reference) ∧
      ∀ maxCountries : Nat, aggregate ipAddress ipCounts resolver maxCountries =
        (reference.take maxCountries).map toCountryCount) ∧
    ∀ maxCountries : Nat,
      (∀ permuted, permuted.Perm ipCounts →
        aggregate ipAddress permuted resolver maxCountries =
          aggregate ipAddress ipCounts resolver maxCountries) ∧
      ∀ before ip parts after, parts ≠ [] → ipCounts = before ++ (ip, parts.sum) :: after →
        aggregate ipAddress (before ++ parts.map (fun part => (ip, part)) ++ after) resolver
            maxCountries =
          aggregate ipAddress ipCounts resolver maxCountries := by
  obtain ⟨resolver, filled⟩ := resolver
  have totals := tally_totals (byCountry ipAddress resolver ipCounts)
  constructor
  · refine ⟨_, totals, ?_, aggregate_of_totals filled totals⟩
    intro other another
    exact another.unique totals
  · intro maxCountries
    rw [aggregate_of_totals filled totals]
    constructor
    · intro permuted perm
      have counted : (byCountry ipAddress resolver ipCounts).Perm
          (byCountry ipAddress resolver permuted) := (perm.map _).symm
      apply aggregate_of_totals filled
      apply totals.congr
      · intro key
        exact (counted.map Prod.fst).mem_iff
      · intro key
        exact countOf_perm counted key
    · intro before ip parts after several split
      apply aggregate_of_totals filled
      apply totals.congr
      · intro key
        rw [split, byCountry_append, byCountry_append, byCountry_append, byCountry_parts,
          byCountry_cons, List.map_append, List.map_append, List.map_append, List.mem_append,
          List.mem_append, List.mem_append, mem_keys_parts several, List.map_cons, List.mem_cons]
        tauto
      · intro key
        rw [split, byCountry_append, byCountry_append, byCountry_append, byCountry_parts,
          byCountry_cons, countOf_append, countOf_append, countOf_append, countOf_parts,
          countOf_cons]
        exact (Nat.add_assoc _ _ _).symm

end Aggregate

/-- `ip_address` of the strings below: two public addresses and a private one. -/
def readAddress (ip : Str) : Option IPAddress :=
  if ip = literal "8.8.8.8" ∨ ip = literal "1.1.1.1" then some {}
  else if ip = literal "192.168.0.7" then some { isPrivate := true }
  else none

/-- A database with a record of each of the two public addresses. -/
def twoRecords : Reader := fun ip =>
  if ip = literal "8.8.8.8" then some { countryIsoCode := some (literal "US") }
  else if ip = literal "1.1.1.1" then some { countryIsoCode := some (literal "AU") }
  else none

/-- A resolver with room for one address, after two calls: the second address has
driven out the first one. -/
def askedTwice : FilledResolver :=
  ⟨(GeoIPResolver.load twoRecords 1).after readAddress
      [some (literal "1.1.1.1"), some (literal "8.8.8.8")],
    (GeoIPResolver.filled_of_empty rfl).after readAddress _⟩

/-- Five entries, of which the first and the fourth have the same address. -/
def fiveEntries : List (Str × Nat) :=
  [(literal "8.8.8.8", 2), (literal "1.1.1.1", 3), (literal "192.168.0.7", 1),
    (literal "8.8.8.8", 4), (literal "no address", 1)]

/-- The two entries without a country are one group, and those of one address are
one country, though the cache loses it in between. Neither the order of the
entries nor a count that comes in two parts changes the answer. -/
theorem aggregate_reference_cached :
    askedTwice.val.cache.keys = [literal "1.1.1.1"] ∧
      (aggregate readAddress fiveEntries askedTwice 2).map
          (fun country => (country.countryCode, country.count)) =
        [(literal "US", 6), (literal "AU", 3)] ∧
      aggregate readAddress fiveEntries.reverse askedTwice 2 =
        aggregate readAddress fiveEntries askedTwice 2 ∧
      aggregate readAddress
          ([(literal "8.8.8.8", 2), (literal "1.1.1.1", 1), (literal "1.1.1.1", 2)] ++
            fiveEntries.drop 2) askedTwice 2 =
        aggregate readAddress fiveEntries askedTwice 2 := by
  obtain ⟨-, stable⟩ := @aggregate_reference readAddress askedTwice fiveEntries
  obtain ⟨reordered, split⟩ := stable 2
  refine ⟨by decide +kernel, by decide +kernel, reordered _ (List.reverse_perm _), ?_⟩
  exact split [(literal "8.8.8.8", 2)] (literal "1.1.1.1") [1, 2] (fiveEntries.drop 2)
    (List.cons_ne_nil _ _) rfl

end Honeywatch.Api
