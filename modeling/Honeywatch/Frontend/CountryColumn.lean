import Honeywatch.Api.IpGeo
import Honeywatch.Foundation.Effects
import Honeywatch.Foundation.Transition

/-!
# The country column of the event list

The events that `EventListPage` lists come without countries. An effect asks `get_ip_geo`
for each of their addresses, once, and when all of these lookups have ended it replaces
what it has found before, unless other events have been listed meanwhile. Lookups may fail,
and other requests use the same resolver.
-/

namespace Honeywatch.Frontend.CountryColumn

open Text Effects Transition Analysis Api

/-- `UNKNOWN_COUNTRY_LABEL`. -/
def unknownCountryLabel : Str := literal "不明"

def formatCountry : Option GeoLocation → Str
  | none => unknownCountryLabel
  | some geo =>
    match geo.countryCode, geo.countryName with
    | none, _ => unknownCountryLabel
    | some code, some name => name ++ literal " (" ++ code ++ literal ")"
    | some code, none => code

/-- What a run of the effect has started: a lookup for each address, each with what has
come of it, `null` if it failed. -/
structure Lookups where
  uniqueIps : List Str
  results : Str → Option (Option GeoLocation)
  /-- Those that failed without a response. -/
  lost : List Str
  finished : Bool

/-- The addresses of the listed events; `version` tells lists of events apart. -/
structure State where
  resolver : FallibleResolver
  version : Nat
  addresses : List Str
  geoByIp : Str → Option GeoLocation
  effect : Effect Nat Lookups

inductive Move
  /-- `setEvents`. -/
  | list (addresses : List Str)
  | effects
  /-- The API answers a lookup. -/
  | answer (index : Nat) (sourceIp : Str)
  /-- No response: the network, a 401. -/
  | lose (index : Nat) (sourceIp : Str)
  /-- `Promise.all` is done. -/
  | finish (index : Nat)
  /-- Another request resolves an address. -/
  | resolve (ip : Option Str)

def mount (resolver : FallibleResolver) : State :=
  { resolver, version := 0, addresses := [], geoByIp := fun _ => none
    effect := Effect.initial }

/-- The map of the results that are not `null`. -/
def Lookups.map (work : Lookups) (sourceIp : Str) : Option GeoLocation :=
  if work.uniqueIps.contains sourceIp then (work.results sourceIp).join else none

/-- What a run of the effect starts. For no address it has done its work. -/
def begin (addresses : List Str) : Lookups :=
  { uniqueIps := addresses.eraseDups, results := fun _ => none, lost := []
    finished := decide (addresses = []) }

/-- A lookup that is under way. -/
def Lookups.awaits (work : Lookups) (sourceIp : Str) : Bool :=
  work.uniqueIps.contains sourceIp && (work.results sourceIp).isNone

def Lookups.note (work : Lookups) (sourceIp : Str) (result : Option GeoLocation) : Lookups :=
  { work with results := Function.update work.results sourceIp (some result) }

def step (ipAddress : Str → Option IPAddress) (state : State) : Move → Option State
  | .list addresses => some { state with version := state.version + 1, addresses }
  | .effects =>
    if state.effect.ran = some state.version then none
    else
      some { state with
        geoByIp := if state.addresses = [] then fun _ => none else state.geoByIp
        effect := state.effect.rerun state.version (begin state.addresses) }
  | .answer index sourceIp =>
    match state.effect.instances[index]? with
    | none => none
    | some entry =>
      if entry.work.awaits sourceIp then
        let (resolver, response) := getIpGeo ipAddress state.resolver sourceIp
        some { state with
          resolver
          effect := state.effect.advance index entry (entry.work.note sourceIp response.body) }
      else none
  | .lose index sourceIp =>
    match state.effect.instances[index]? with
    | none => none
    | some entry =>
      if entry.work.awaits sourceIp then
        let work := entry.work.note sourceIp none
        some { state with
          effect := state.effect.advance index entry { work with lost := sourceIp :: work.lost } }
      else none
  | .finish index =>
    match state.effect.instances[index]? with
    | none => none
    | some entry =>
      if entry.work.finished || entry.work.uniqueIps.any entry.work.awaits then none
      else
        some { state with
          geoByIp := if entry.mounted then entry.work.map else state.geoByIp
          effect := state.effect.advance index entry { entry.work with finished := true } }
  | .resolve ip =>
    some { state with resolver := state.resolver.afterCall ipAddress (.resolve ip) }

def system (ipAddress : Str → Option IPAddress) : System State Move where
  step := step ipAddress

/-- What the column shows for an address. -/
def State.column (state : State) (sourceIp : Str) : Str := formatCountry (state.geoByIp sourceIp)

variable {ipAddress : Str → Option IPAddress} {start : FallibleResolver} {state next : State}

/-- Every result is what the API says, or the lookup was lost. -/
def Lookups.Honest (ipAddress : Str → Option IPAddress) (start : FallibleResolver)
    (work : Lookups) : Prop :=
  ∀ sourceIp result, work.results sourceIp = some result →
    result = said ipAddress start sourceIp ∨ result = none ∧ sourceIp ∈ work.lost

/-- The last run is for the listed events, unless others have been listed since. Once it
has finished, the map is its own. -/
inductive Newest (state : State) : Prop
  | fresh (effect : state.effect = Effect.initial)
  | current (version : Nat) (former : List (Instance Lookups)) (work : Lookups)
      (latest : Current state.effect version former work)
      (known : version ≤ state.version)
      (asked : version = state.version → work.uniqueIps = state.addresses.eraseDups)
      (mapped : work.finished = true →
        (∀ sourceIp ∈ work.uniqueIps, work.results sourceIp ≠ none) ∧ state.geoByIp = work.map)

/-- The column tells what the API says. -/
structure Right (ipAddress : Str → Option IPAddress) (start : FallibleResolver)
    (state : State) : Prop where
  serving : Serving ipAddress start state.resolver
  honest : ∀ entry ∈ state.effect.instances, entry.work.Honest ipAddress start
  shown : ∀ sourceIp geo, state.geoByIp sourceIp = some geo →
    said ipAddress start sourceIp = some geo
  newest : Newest state

/-- On a page that has just been opened the column says nothing. -/
theorem mount_right (begun : Serving ipAddress start start) :
    Right ipAddress start (mount start) where
  serving := begun
  honest := nofun
  shown := nofun
  newest := .fresh rfl

/-- What an honest run finds is what the API says; a lookup that was lost is in no
map. -/
theorem Lookups.Honest.map {work : Lookups} (honest : work.Honest ipAddress start)
    {sourceIp : Str} {geo : GeoLocation} (found : work.map sourceIp = some geo) :
    said ipAddress start sourceIp = some geo := by
  unfold Lookups.map at found
  split at found
  · have result := Option.join_eq_some_iff.mp found
    rcases honest sourceIp (some geo) result with same | ⟨absent, -⟩
    · exact same.symm
    · cases absent
  · cases found

/-! ## Lookups -/

/-- An instance has gone on. Only what it has found itself can have changed, and it
reaches the column only if its flag is up. -/
theorem Newest.advance (newest : Newest state) {index : Nat} {entry : Instance Lookups}
    (found : state.effect.instances[index]? = some entry) {work : Lookups}
    (asked : work.uniqueIps = entry.work.uniqueIps)
    {geoByIp : Str → Option GeoLocation} {resolver : FallibleResolver}
    (former : entry.mounted = false → geoByIp = state.geoByIp)
    (mapped : entry.mounted = true → work.finished = true →
      (∀ sourceIp ∈ work.uniqueIps, work.results sourceIp ≠ none) ∧ geoByIp = work.map) :
    Newest { state with resolver, geoByIp, effect := state.effect.advance index entry work } := by
  cases newest with
  | fresh started => simp [started, Effect.initial] at found
  | current version others last latest known own done =>
    cases up : entry.mounted with
    | false =>
      refine .current version _ last (latest.advance_former found up work) known own ?_
      intro finished
      rw [former up]
      exact done finished
    | true =>
      obtain ⟨same, still⟩ := latest.advance_last found up work
      refine .current version others work still known ?_ (mapped up)
      intro listed
      exact asked.trans (same ▸ own listed)

/-- A result that the API gave, or a lost lookup. It is noted with its instance, and
the column says what it said before. -/
theorem Right.note (right : Right ipAddress start state) {index : Nat}
    {entry : Instance Lookups} (found : state.effect.instances[index]? = some entry)
    {sourceIp : Str} (awaited : entry.work.awaits sourceIp = true)
    {result : Option GeoLocation} {lost : List Str}
    (honest : result = said ipAddress start sourceIp ∨ result = none ∧ sourceIp ∈ lost)
    (kept : entry.work.lost ⊆ lost) {resolver : FallibleResolver}
    (serving : Serving ipAddress start resolver) :
    Right ipAddress start
      { state with
        resolver
        effect := state.effect.advance index entry
          { entry.work.note sourceIp result with lost } } := by
  obtain ⟨asked, absent⟩ := Bool.and_eq_true_iff.mp awaited
  refine
    { serving
      honest := ?_
      shown := right.shown
      newest := right.newest.advance found ?_ (fun _ => rfl) ?_ }
  · intro other member
    rcases List.mem_or_eq_of_mem_set member with before | rfl
    · exact right.honest other before
    · intro address known same
      by_cases own : address = sourceIp
      · subst own
        simp only [Lookups.note, Function.update_self] at same
        exact Option.some.inj same ▸ honest
      · simp only [Lookups.note, Function.update_of_ne own] at same
        exact (right.honest entry (List.mem_of_getElem? found) address known same).imp_right
          fun failed => ⟨failed.1, kept failed.2⟩
  · rfl
  · -- an instance with a lookup under way has not finished
    intro up finished
    cases right.newest with
    | fresh started => simp [started, Effect.initial] at found
    | current version former last latest known own done =>
      obtain ⟨same, -⟩ := latest.advance_last found up entry.work
      obtain ⟨all, -⟩ := done (same ▸ finished)
      exact absurd (Option.isNone_iff_eq_none.mp absent)
        (same ▸ all sourceIp (same ▸ List.contains_iff_mem.mp asked))

/-- The lookups of an instance are done. If it is the current one, the column says
from now on what it has found, which is honest; otherwise nothing changes. -/
theorem Right.finish (right : Right ipAddress start state) {index : Nat}
    {entry : Instance Lookups} (found : state.effect.instances[index]? = some entry)
    (all : ∀ sourceIp ∈ entry.work.uniqueIps, entry.work.results sourceIp ≠ none) :
    Right ipAddress start
      { state with
        geoByIp := if entry.mounted then entry.work.map else state.geoByIp
        effect := state.effect.advance index entry { entry.work with finished := true } } := by
  have honest := right.honest entry (List.mem_of_getElem? found)
  refine
    { serving := right.serving
      honest := ?_
      shown := ?_
      newest := ?_ }
  · intro other member
    rcases List.mem_or_eq_of_mem_set member with before | rfl
    · exact right.honest other before
    · exact honest
  · intro sourceIp geo known
    dsimp only at known
    split at known
    · exact honest.map known
    · exact right.shown sourceIp geo known
  · refine right.newest.advance found ?_ (fun down => ?_) fun up _ => ⟨all, ?_⟩
    · rfl
    · rw [down]
      rfl
    · rw [up]
      rfl

/-! ## Lists -/

/-- A list that is new has been asked for by no run, so until the effects have run
the column owes nothing to it. -/
theorem list_right (right : Right ipAddress start state) (addresses : List Str) :
    Right ipAddress start { state with version := state.version + 1, addresses } where
  serving := right.serving
  honest := right.honest
  shown := right.shown
  newest := by
    cases right.newest with
    | fresh started => exact .fresh started
    | current version former work latest known asked mapped =>
      exact .current version former work latest (Nat.le_succ_of_le known)
        (fun same => absurd known (by simp [same])) mapped

/-- When the effects run again, the current instance is cleaned up and a new one
begins with the addresses of the list. What the map already says stays right. -/
theorem effects_right (right : Right ipAddress start state) :
    Right ipAddress start
      { state with
        geoByIp := if state.addresses = [] then fun _ => none else state.geoByIp
        effect := state.effect.rerun state.version (begin state.addresses) } := by
  have begun : state.effect = Effect.initial ∨
      ∃ version former work, Current state.effect version former work := by
    cases right.newest with
    | fresh started => exact .inl started
    | current version former work latest => exact .inr ⟨version, former, work, latest⟩
  obtain ⟨former, latest, works⟩ :=
    exists_current_rerun begun state.version (begin state.addresses)
  refine
    { serving := right.serving
      honest := ?_
      shown := ?_
      newest := .current state.version former _ latest (Nat.le_refl _) (fun _ => rfl) ?_ }
  · intro entry member
    dsimp only at member
    rw [latest.instances] at member
    rcases List.mem_append.mp member with before | last
    · have work : entry.work ∈ state.effect.instances.map Instance.work :=
        works ▸ List.mem_map_of_mem before
      obtain ⟨other, known, same⟩ := List.mem_map.mp work
      exact same ▸ right.honest other known
    · rw [List.mem_singleton.mp last]
      exact nofun
  · intro sourceIp geo known
    dsimp only at known
    split at known
    · cases known
    · exact right.shown sourceIp geo known
  · intro finished
    have none : state.addresses = [] := of_decide_eq_true finished
    rw [none]
    exact ⟨nofun, rfl⟩

/-! ## Runs -/

/-- Every move of the page keeps the column right. The moves that answer are checked
against the resolver; the others change no entry of the map. -/
theorem step_right {move : Move} (begun : Serving ipAddress start start)
    (right : Right ipAddress start state) (taken : step ipAddress state move = some next) :
    Right ipAddress start next := by
  cases move with
  | list addresses =>
    cases taken
    exact list_right right addresses
  | effects =>
    simp only [step, Option.ite_none_left_eq_some, Option.some.injEq] at taken
    obtain ⟨-, rfl⟩ := taken
    exact effects_right right
  | answer index sourceIp =>
    simp only [step] at taken
    cases found : state.effect.instances[index]? with
    | none => simp [found] at taken
    | some entry =>
      simp only [found, Option.ite_none_right_eq_some, Option.some.injEq] at taken
      obtain ⟨awaited, rfl⟩ := taken
      exact right.note found awaited (.inl (right.serving.said begun sourceIp))
        (List.Subset.refl _) (right.serving.getIpGeo sourceIp)
  | lose index sourceIp =>
    simp only [step] at taken
    cases found : state.effect.instances[index]? with
    | none => simp [found] at taken
    | some entry =>
      simp only [found, Option.ite_none_right_eq_some, Option.some.injEq] at taken
      obtain ⟨awaited, rfl⟩ := taken
      exact right.note found awaited (.inr ⟨rfl, List.mem_cons_self⟩)
        (List.subset_cons_self _ _) right.serving
  | finish index =>
    simp only [step] at taken
    cases found : state.effect.instances[index]? with
    | none => simp [found] at taken
    | some entry =>
      simp only [found, Option.ite_none_left_eq_some, Option.some.injEq, Bool.or_eq_true,
        not_or, List.any_eq_true, not_exists] at taken
      obtain ⟨⟨-, none_awaited⟩, rfl⟩ := taken
      refine right.finish found fun sourceIp asked absent => none_awaited sourceIp ⟨asked, ?_⟩
      simp [Lookups.awaits, asked, absent]
  | resolve ip =>
    cases taken
    exact
      { serving := right.serving.afterResolve ip
        honest := right.honest
        shown := right.shown
        newest := by
          cases right.newest with
          | fresh started => exact .fresh started
          | current version former work latest known asked mapped =>
            exact .current version former work latest known asked mapped }

/-- In every run of the page, with lists of events that replace each other, lookups that
are answered late, in any order or not at all, and other requests that use the resolver and
its cache: a country in the column is the one that a resolver with an empty cache would say,
for that address. When the lookups of the listed events are done, every event whose lookup
was not lost has what the API says of its address. -/
theorem column_agrees_with_database (ipAddress : Str → Option IPAddress)
    (cacheSize : Int) (enabled : Bool) (reader : Option Database) (schedule : List Move)
    (state : State)
    (reached : (system ipAddress).run (mount (.load cacheSize enabled reader)) schedule =
      some state) :
    (∀ sourceIp, state.column sourceIp = unknownCountryLabel ∨
      state.column sourceIp =
        formatCountry (said ipAddress (.load cacheSize enabled reader) sourceIp)) ∧
    ∀ former last, state.effect.ran = some state.version →
      state.effect.instances = former ++ [last] → last.work.finished = true →
      ∀ sourceIp ∈ state.addresses, sourceIp ∉ last.work.lost →
        state.column sourceIp =
          formatCountry (said ipAddress (.load cacheSize enabled reader) sourceIp) := by
  have begun : Serving ipAddress (.load cacheSize enabled reader)
      (.load cacheSize enabled reader) :=
    serving_load cacheSize enabled reader
  have right := (system ipAddress).run_invariant (Right ipAddress (.load cacheSize enabled reader))
    (fun state move next right taken => step_right begun right taken)
    (mount (.load cacheSize enabled reader)) state schedule (mount_right begun) reached
  constructor
  · intro sourceIp
    cases known : state.geoByIp sourceIp with
    | none => exact .inl (by rw [State.column, known, formatCountry])
    | some geo => exact .inr (by rw [State.column, known, right.shown sourceIp geo known])
  · intro former last ran instances finished sourceIp listed kept
    cases right.newest with
    | fresh started => simp [started, Effect.initial] at ran
    | current version others work latest known asked mapped =>
      obtain rfl : version = state.version := Option.some.inj (latest.ran.symm.trans ran)
      obtain ⟨-, same⟩ := List.append_inj' (instances.symm.trans latest.instances) rfl
      cases same
      obtain ⟨all, own⟩ := mapped finished
      have looked : sourceIp ∈ work.uniqueIps := by
        rw [asked rfl]
        exact List.mem_eraseDups.mpr listed
      obtain ⟨result, found⟩ := Option.ne_none_iff_exists'.mp (all sourceIp looked)
      have honest := right.honest _ (by rw [instances]; exact List.mem_concat_self) sourceIp
        result found
      have answered := honest.resolve_right fun lost => kept lost.2
      rw [State.column, own, Lookups.map, if_pos (List.contains_iff_mem.mpr looked), found,
        answered, Option.join_some]

/-- A database that knows one country. -/
def oneCountry : Database := fun _ =>
  .ok { countryIsoCode := some (literal "JP"), countryName := some (literal "Japan") }

/-- Another list has been asked for before the lookup of the first one is answered. Both
addresses are public, as `ip_address` has it. -/
def replaced : List Move :=
  [.list [literal "8.8.8.8"], .effects, .list [literal "1.1.1.1"], .effects,
    .answer 1 (literal "1.1.1.1"), .finish 1, .answer 0 (literal "8.8.8.8"), .finish 0]

/-- The list is replaced before its lookup is answered, and the late answer of the
first lookup is not shown. -/
theorem column_agrees_with_database_replaced : ∃ state,
    (system fun _ => some {}).run (mount (.load 10 true (some oneCountry))) replaced =
        some state ∧
      state.column (literal "1.1.1.1") = literal "Japan (JP)" := by
  refine ⟨_, rfl, ?_⟩
  have shown := (column_agrees_with_database (fun _ => some {}) 10 true (some oneCountry)
    replaced _ rfl).2 [_] _ rfl rfl rfl (literal "1.1.1.1") (by decide +kernel)
    List.not_mem_nil
  exact shown.trans (by decide +kernel)

end Honeywatch.Frontend.CountryColumn
