import Honeywatch.Api.GeoRoutes

/-!
# The location of one address

`get_ip_geo` refuses what is no address, and resolves the others with the resolver that
all requests share. The cache and whatever has been resolved before make no difference to
its answers.
-/

namespace Honeywatch.Api

open Text Analysis

section

variable (ipAddress : Str → Option IPAddress)

/-- The route `get_ip_geo`, and the resolver afterwards. -/
def getIpGeo (resolver : FallibleResolver) (sourceIp : Str) :
    FallibleResolver × Response GeoDict :=
  match ipAddress sourceIp with
  | none => (resolver, .badRequest (literal "Invalid IP address"))
  | some _ =>
    match resolver.resolve ipAddress (some sourceIp) with
    | .error error => (resolver, .failed error)
    | .ok (next, location) => (next, .ok location)

/-- What a response says of the address, if it has the status 200. -/
def Response.body {Answer : Type} : Response Answer → Option Answer
  | .ok answer => some answer
  | _ => none

/-- What the route says of an address. -/
def said (resolver : FallibleResolver) (sourceIp : Str) : Option GeoDict :=
  (getIpGeo ipAddress resolver sourceIp).2.body

/-- Another state of the same resolver: its cache holds answers of the database. -/
structure Serving (start resolver : FallibleResolver) : Prop where
  enabled : resolver.enabled = start.enabled
  reader : resolver.reader = start.reader
  filled : resolver.Filled ipAddress
  genuine : resolver.quiet.Filled

variable {ipAddress}

/-- At first nothing is cached. -/
theorem serving_load (cacheSize : Int) (enabled : Bool) (reader : Option Database) :
    Serving ipAddress (.load cacheSize enabled reader) (.load cacheSize enabled reader) where
  enabled := rfl
  reader := rfl
  filled := nofun
  genuine := GeoIPResolver.filled_of_empty rfl

/-- A call that returns leaves the database and the switch as they were, and a cache
that says what the database says. -/
theorem Serving.resolve {start resolver next : FallibleResolver}
    (serving : Serving ipAddress start resolver) {ip : Option Str} {location : GeoLocation}
    (returned : resolver.resolve ipAddress ip = .ok (next, location)) :
    Serving ipAddress start next := by
  have kept : next.enabled = resolver.enabled ∧ next.reader = resolver.reader := by
    have resolved := resolver.resolved ipAddress ip
    rw [returned] at resolved
    cases resolved with
    | unasked | hit | miss => exact ⟨rfl, rfl⟩
  have after : resolver.quiet.after ipAddress [ip] = next.quiet := by
    rw [GeoIPResolver.after, GeoIPResolver.after, FallibleResolver.resolve_quiet ipAddress returned]
  exact
    { enabled := kept.1.trans serving.enabled
      reader := kept.2.trans serving.reader
      filled := (serving.filled.resolve returned).1
      genuine := after ▸ serving.genuine.after ipAddress [ip] }

/-- Whatever requests resolve, the resolver serves on, with the same database behind
its cache. -/
theorem Serving.afterResolve {start resolver : FallibleResolver}
    (serving : Serving ipAddress start resolver) (ip : Option Str) :
    Serving ipAddress start (resolver.afterCall ipAddress (.resolve ip)) := by
  simp only [FallibleResolver.afterCall]
  cases returned : resolver.resolve ipAddress ip with
  | error error => exact serving
  | ok result => exact serving.resolve returned

/-- The route makes at most one such call. Where the call raises, the resolver is
the one from before. -/
theorem Serving.getIpGeo {start resolver : FallibleResolver}
    (serving : Serving ipAddress start resolver) (sourceIp : Str) :
    Serving ipAddress start (getIpGeo ipAddress resolver sourceIp).1 := by
  unfold Api.getIpGeo
  cases ipAddress sourceIp with
  | none => exact serving
  | some parsed =>
    cases returned : resolver.resolve ipAddress (some sourceIp) with
    | error error => exact serving
    | ok result => exact serving.resolve returned

/-- All states of a resolver say the same of an address: a call before may have
brought it into the cache or moved it, and it is the answer of the database in each
case. -/
theorem Serving.said {start resolver : FallibleResolver}
    (serving : Serving ipAddress start resolver) (begun : Serving ipAddress start start)
    (sourceIp : Str) : said ipAddress resolver sourceIp = said ipAddress start sourceIp := by
  have harmless : resolver.Harmless ipAddress sourceIp ↔ start.Harmless ipAddress sourceIp := by
    simp only [FallibleResolver.Harmless, FallibleResolver.Consults, serving.enabled,
      serving.reader]
  have returns := (serving.filled.resolve_returns_iff sourceIp).trans
    (harmless.trans (begun.filled.resolve_returns_iff sourceIp).symm)
  unfold Api.said Api.getIpGeo
  cases ipAddress sourceIp with
  | none => rfl
  | some parsed =>
    cases later : resolver.resolve ipAddress (some sourceIp) with
    | error error =>
      cases first : start.resolve ipAddress (some sourceIp) with
      | error other => rfl
      | ok result =>
        obtain ⟨other, returned⟩ := returns.mpr ⟨result, first⟩
        rw [later] at returned
        cases returned
    | ok result =>
      obtain ⟨other, first⟩ := returns.mp ⟨result, later⟩
      obtain ⟨next, location⟩ := result
      obtain ⟨next', location'⟩ := other
      have one := (serving.genuine.resolve ipAddress sourceIp).1
      have two := (begun.genuine.resolve ipAddress sourceIp).1
      rw [FallibleResolver.resolve_quiet ipAddress later] at one
      rw [FallibleResolver.resolve_quiet ipAddress first] at two
      have same : resolver.quiet.locate ipAddress sourceIp =
          start.quiet.locate ipAddress sourceIp :=
        GeoIPResolver.locate_congr ipAddress serving.enabled
          (congrArg (Option.map Database.reader) serving.reader) sourceIp
      rw [first]
      exact congrArg some (one.trans (same.trans two.symm))

end

end Honeywatch.Api
