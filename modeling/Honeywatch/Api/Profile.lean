import Honeywatch.Api.Period
import Honeywatch.Api.RiskRanking

/-!
# Profiles of addresses

`get_ip_profile` over `AttackEventRepository.get_ip_aggregate`. The queries of a
profile are not those of the ranking: they have no bounds in time, and the attack
types are made distinct by the database. A scorer that only looks at which types
and severities occur makes no difference of it, so over all events a profile and
the entry of the ranking agree.
-/

namespace Honeywatch.Api

open Text Collector Detection Db OrderBy Analysis

/-- What the database may return to the second and the third query of
`get_ip_aggregate`: the distinct attack types of an address, and the severities of
its events, both in any order. -/
structure IpQueries (table : AttackEvents) (sourceIp : Str) where
  attackTypes : List Str
  severities : List Str
  distinct : attackTypes.Perm (attackTypesOf table sourceIp).dedup
  observed : severities.Perm (severitiesOf table sourceIp)

/-- `get_ip_aggregate`. Its first query has one row, also for an address without
events. -/
def getIpAggregate (table : AttackEvents) (sourceIp : Str) (queries : IpQueries table sourceIp) :
    Option IPAggregate :=
  let stats := ipRow table.rows sourceIp
  if stats.total = 0 then none
  else
    some
      { sourceIp
        firstSeen := stats.firstSeen
        lastSeen := stats.lastSeen
        totalEvents := stats.total
        attackTypes := queries.attackTypes
        severities := queries.severities }

/-- An `HTTPException`. -/
structure HTTPException where
  statusCode : Nat
  detail : Str
deriving DecidableEq

/-- The route `get_ip_profile`, which answers with all fields of the profile. -/
def getIpProfile (table : AttackEvents) (sourceIp : Str) (queries : IpQueries table sourceIp) :
    Except HTTPException IPProfile :=
  match getIpAggregate table sourceIp queries with
  | none => .error { statusCode := 404, detail := literal "IP not found" }
  | some aggregate => .ok (profileOf aggregate)

/-- The profile of an address with events, whatever the queries return. They may
bring the types once each and in any order, the score and the sorted types do not
depend on it. -/
theorem getIpProfile_eq (table : AttackEvents) (sourceIp : Str)
    (queries : IpQueries table sourceIp) (seen : (ipRow table.rows sourceIp).total ≠ 0) :
    getIpProfile table sourceIp queries =
      .ok (profileOf (ipAggregate table (ipRow table.rows sourceIp))) := by
  have types : queries.attackTypes.toFinset = (attackTypesOf table sourceIp).toFinset := by
    rw [List.toFinset_eq_of_perm _ _ queries.distinct]
    ext attackType
    simp only [List.mem_toFinset, List.mem_dedup]
  have severities : queries.severities.toFinset = (severitiesOf table sourceIp).toFinset :=
    List.toFinset_eq_of_perm _ _ queries.observed
  rw [getIpProfile, getIpAggregate, if_neg seen]
  exact congrArg Except.ok (buildProfile_congr _ _ _ _ types severities)

/-- An address has a profile exactly when an event of it is stored, of whatever age:
the three queries have no bound. -/
theorem getIpProfile_answers_iff (table : AttackEvents) (sourceIp : Str)
    (queries : IpQueries table sourceIp) :
    (∃ profile, getIpProfile table sourceIp queries = .ok profile) ↔
      ∃ row ∈ table.rows, row.sourceIp = sourceIp := by
  have counted : (ipRow table.rows sourceIp).total ≠ 0 ↔
      ∃ row ∈ table.rows, row.sourceIp = sourceIp := by
    simp only [ipRow, ne_eq, List.length_eq_zero_iff, List.filter_eq_nil_iff, decide_eq_true_eq,
      not_forall, not_not, exists_prop]
  rw [← counted]
  constructor
  · rintro ⟨profile, answered⟩ unseen
    rw [getIpProfile, getIpAggregate, if_pos unseen] at answered
    contradiction
  · intro seen
    exact ⟨_, getIpProfile_eq table sourceIp queries seen⟩

/-- A group of the first query has events, so the profile of its address is never
the 404. -/
theorem grouped_seen {events : List AttackEventModel} {row : IpRow}
    (member : row ∈ grouped events) : row = ipRow events row.sourceIp ∧ row.total ≠ 0 := by
  obtain ⟨sourceIp, known, rfl⟩ := List.mem_map.mp member
  obtain ⟨event, inside, same⟩ := List.mem_map.mp (List.mem_dedup.mp known)
  refine ⟨rfl, ?_⟩
  have mine : event ∈ events.filter fun row => decide (row.sourceIp = sourceIp) :=
    List.mem_filter.mpr ⟨inside, decide_eq_true same⟩
  exact Nat.ne_of_gt (List.length_pos_of_mem mine)

/-- Without a lower bound, a table whose events have all happened is selected as a
whole. -/
theorem inRange_all {table : AttackEvents} {untilTime : DateTime}
    (past : ∀ row ∈ table.rows, row.timestamp ≤ untilTime) :
    inRange table none untilTime = table.rows := by
  apply List.filter_eq_self.mpr
  intro row member
  simp only [decide_eq_true (past row member), Bool.and_self]

/-- An entry of the ranking comes from a group of the first query, through the two
sorts and the cut after the candidates. -/
theorem entry_of_group {table : AttackEvents} {since : Option DateTime} {untilTime : DateTime}
    (sorted : TopIps table since untilTime) (limit : Limit) {entry : RankingEntry}
    (ranked : entry ∈ getRiskRanking table sorted.val limit) :
    ∃ row ∈ grouped (inRange table since untilTime),
      entry = rankingEntry (profileOf (ipAggregate table row)) := by
  obtain ⟨profiles, ordered, ranking⟩ := ranking_profiles table sorted.val limit
  rw [ranking] at ranked
  obtain ⟨profile, first, rfl⟩ := List.mem_map.mp ranked
  obtain ⟨row, candidate, rfl⟩ := List.mem_map.mp
    (ordered.perm.subset (List.mem_of_mem_take first))
  exact ⟨row, sorted.property.perm.subset (List.mem_of_mem_take candidate), rfl⟩

/-- Of fewer events an address has no more. -/
theorem ipRow_total_mono {events all : List AttackEventModel} (kept : events.Sublist all)
    (sourceIp : Str) : (ipRow events sourceIp).total ≤ (ipRow all sourceIp).total :=
  (kept.filter _).length_le

/-- In every period, an entry of the ranking has the attack types of the profile
of its address, and no more events and no greater score. -/
theorem entry_le_profile {table : AttackEvents} {since : Option DateTime} {untilTime : DateTime}
    (sorted : TopIps table since untilTime) (limit : Limit) {entry : RankingEntry}
    (ranked : entry ∈ getRiskRanking table sorted.val limit)
    (queries : IpQueries table entry.sourceIp) :
    ∃ profile, getIpProfile table entry.sourceIp queries = .ok profile ∧
      entry.attackTypes = profile.attackTypes ∧ entry.totalEvents ≤ profile.totalEvents ∧
      entry.riskScore ≤ profile.riskScore := by
  obtain ⟨row, member, rfl⟩ := entry_of_group sorted limit ranked
  obtain ⟨same, seen⟩ := grouped_seen member
  have more : row.total ≤ (ipRow table.rows row.sourceIp).total := by
    rw [same]
    exact ipRow_total_mono List.filter_sublist row.sourceIp
  refine ⟨_, getIpProfile_eq table row.sourceIp queries (by omega), rfl, more, ?_⟩
  exact calculate_mono more _ _

/-- The period `all` ends now and has no beginning. For every table whose events
have all happened, every limit, every order of equal counts in the ranking and
every order of the rows that the queries of a profile return: the request for the
profile of an address in this ranking is answered, and the profile has the total,
the attack types, the score and the level of the entry. -/
theorem profile_agrees_with_ranking (table : AttackEvents) (now : DateTime)
    (past : ∀ row ∈ table.rows, row.timestamp ≤ now) (limit : Limit) :
    resolvePeriodRange .all now = some (none, now) ∧
      ∀ sorted : TopIps table none now, ∀ entry ∈ getRiskRanking table sorted.val limit,
        ∀ queries : IpQueries table entry.sourceIp,
          ∃ profile, getIpProfile table entry.sourceIp queries = .ok profile ∧
            profile.sourceIp = entry.sourceIp ∧
            profile.totalEvents = entry.totalEvents ∧
            profile.attackTypes = entry.attackTypes ∧
            profile.riskScore = entry.riskScore ∧
            profile.riskLevel = entry.riskLevel := by
  refine ⟨resolvePeriodRange_all now, ?_⟩
  intro sorted entry ranked queries
  obtain ⟨row, member, rfl⟩ := entry_of_group sorted limit ranked
  rw [inRange_all past] at member
  obtain ⟨same, seen⟩ := grouped_seen member
  rw [same] at seen
  refine ⟨_, getIpProfile_eq table row.sourceIp queries seen, ?_⟩
  rw [← same]
  exact ⟨rfl, rfl, rfl, rfl, rfl⟩

def guesser : Str := literal "10.0.0.1"

/-- Four events of one address, of which two have the same attack type and one has
none, with the event of another address among them. -/
def repeated : AttackEvents where
  rows :=
    [sighting (numbered 0) (hourOf 8) guesser .bruteForce .medium,
      sighting (numbered 1) (hourOf 9) guesser .bruteForce .high,
      sighting (numbered 2) (hourOf 9) (literal "10.0.0.2") .suspiciousRequest .low,
      sighting (numbered 3) (hourOf 10) guesser .commandInjection .high,
      { sighting (numbered 4) (hourOf 11) guesser .portScan .low with
        attackType := none, severity := none }]
  distinct := by decide

/-- The groups with the most events first. -/
def repeatedTop : TopIps repeated none (atHour (hourOf 12)) := ⟨_, arrange_ordered _ _⟩

/-- The queries of a profile return the types once each, and types and severities
in another order than the events have them. -/
def repeatedQueries : IpQueries repeated guesser where
  attackTypes := [AttackType.commandInjection.value, AttackType.bruteForce.value]
  severities := [Severity.high.value, Severity.high.value, Severity.medium.value]
  distinct := by decide +kernel
  observed := by decide +kernel

/-- The ranking reads the type of two events twice, the profile once and in
another place; the entry of the address and its profile agree all the same. -/
theorem profile_agrees_with_ranking_repeated :
    (∀ row ∈ repeated.rows, row.timestamp ≤ atHour (hourOf 12)) ∧
      attackTypesOf repeated guesser =
        [AttackType.bruteForce.value, AttackType.bruteForce.value,
          AttackType.commandInjection.value] ∧
      ∃ entry ∈ getRiskRanking repeated repeatedTop.val ⟨10, by decide⟩,
        entry.totalEvents = 4 ∧ entry.riskScore = 50 ∧
          ∃ profile, getIpProfile repeated guesser repeatedQueries = .ok profile ∧
            profile.sourceIp = guesser ∧
            profile.totalEvents = entry.totalEvents ∧
            profile.attackTypes = entry.attackTypes ∧
            profile.riskScore = entry.riskScore ∧
            profile.riskLevel = entry.riskLevel := by
  have past : ∀ row ∈ repeated.rows, row.timestamp ≤ atHour (hourOf 12) := by decide +kernel
  obtain ⟨entry, ranked, own, total, score⟩ :
      ∃ entry ∈ getRiskRanking repeated repeatedTop.val ⟨10, by decide⟩,
        entry.sourceIp = guesser ∧ entry.totalEvents = 4 ∧ entry.riskScore = 50 := by
    decide +kernel
  have agrees := (profile_agrees_with_ranking repeated (atHour (hourOf 12)) past ⟨10, by decide⟩).2
    repeatedTop entry ranked
  rw [own] at agrees
  exact ⟨past, by decide +kernel, entry, ranked, total, score, agrees repeatedQueries⟩

end Honeywatch.Api
