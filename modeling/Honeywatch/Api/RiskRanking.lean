import Honeywatch.Analysis.Ip
import Honeywatch.Foundation.OrderBy
import Mathlib.Data.List.MinMax

/-!
# The risk ranking

`get_risk_ranking` over `AttackEventRepository.get_ip_aggregates_for_ranking`.
The addresses with the most events in the period are the candidates. Each of
them is scored by its count in the period and by all attack types and severities
ever observed of it; the candidates are then sorted by their scores.
-/

namespace Honeywatch.Api

open Text Digits Collector Detection Db OrderBy Analysis

/-- The filters of the first query. -/
def inRange (table : AttackEvents) (since : Option DateTime) (untilTime : DateTime) :
    List AttackEventModel :=
  table.rows.filter fun row =>
    decide (row.timestamp ≤ untilTime) &&
      match since with
      | none => true
      | some since => decide (since ≤ row.timestamp)

/-- A row of the first query. -/
structure IpRow where
  sourceIp : Str
  total : Nat
  firstSeen : Option DateTime
  lastSeen : Option DateTime
deriving DecidableEq

/-- The group of an address. -/
def ipRow (events : List AttackEventModel) (sourceIp : Str) : IpRow :=
  let mine := events.filter fun row => decide (row.sourceIp = sourceIp)
  { sourceIp
    total := mine.length
    firstSeen := (mine.map AttackEventModel.timestamp).min?
    lastSeen := (mine.map AttackEventModel.timestamp).max? }

/-- `GROUP BY source_ip`. -/
def grouped (events : List AttackEventModel) : List IpRow :=
  (events.map AttackEventModel.sourceIp).dedup.map (ipRow events)

/-- The groups as the first query may return them: the most events first, equal
counts in any order. -/
abbrev TopIps (table : AttackEvents) (since : Option DateTime) (untilTime : DateTime) :=
  { sorted : List IpRow // Ordered IpRow.total (grouped (inRange table since untilTime)) sorted }

/-- `IPAggregate`. -/
structure IPAggregate where
  sourceIp : Str
  firstSeen : Option DateTime
  lastSeen : Option DateTime
  totalEvents : Nat
  attackTypes : List Str
  severities : List Str

/-- The attack types of an address, from the second query. -/
def attackTypesOf (table : AttackEvents) (sourceIp : Str) : List Str :=
  (table.rows.filter fun row => decide (row.sourceIp = sourceIp)).filterMap
    AttackEventModel.attackType

/-- The severities of an address, from the third query. -/
def severitiesOf (table : AttackEvents) (sourceIp : Str) : List Str :=
  (table.rows.filter fun row => decide (row.sourceIp = sourceIp)).filterMap
    AttackEventModel.severity

/-- The aggregate of one group. -/
def ipAggregate (table : AttackEvents) (row : IpRow) : IPAggregate :=
  { sourceIp := row.sourceIp
    firstSeen := row.firstSeen
    lastSeen := row.lastSeen
    totalEvents := row.total
    attackTypes := attackTypesOf table row.sourceIp
    severities := severitiesOf table row.sourceIp }

/-- `get_ip_aggregates_for_ranking`, given the result of its first query. -/
def getIpAggregatesForRanking (table : AttackEvents) (sorted : List IpRow) (limit : Nat) :
    List IPAggregate :=
  (sorted.take limit).map (ipAggregate table)

/-- `_build_profile`. -/
def profileOf (aggregate : IPAggregate) : IPProfile :=
  buildProfile aggregate.sourceIp (aggregate.firstSeen.map DateTime.isoformat)
    (aggregate.lastSeen.map DateTime.isoformat) aggregate.totalEvents aggregate.attackTypes
    aggregate.severities

/-- An entry of the answer. -/
structure RankingEntry where
  sourceIp : Str
  riskScore : Nat
  riskLevel : Str
  totalEvents : Nat
  attackTypes : List Str
deriving DecidableEq

def rankingEntry (profile : IPProfile) : RankingEntry :=
  { sourceIp := profile.sourceIp
    riskScore := profile.riskScore
    riskLevel := profile.riskLevel
    totalEvents := profile.totalEvents
    attackTypes := profile.attackTypes }

/-- `limit` as the route accepts it. -/
abbrev Limit := { limit : Nat // 1 ≤ limit ∧ limit ≤ 100 }

/-- The number of candidates the route asks for. -/
def candidateCount (limit : Limit) : Nat := max (limit * 3) 30

/-- The route `get_risk_ranking`. The sort keeps the order of equal scores. -/
def getRiskRanking (table : AttackEvents) (sorted : List IpRow) (limit : Limit) :
    List RankingEntry :=
  let aggregates := getIpAggregatesForRanking table sorted (candidateCount limit)
  let profiles := arrange IPProfile.riskScore (aggregates.map profileOf)
  (profiles.take limit).map rankingEntry

/-- The risk score of an address. -/
def scoreOf (table : AttackEvents) (row : IpRow) : Nat :=
  (profileOf (ipAggregate table row)).riskScore

/-- The source addresses of the period. -/
def sourceIps (table : AttackEvents) (since : Option DateTime) (untilTime : DateTime) :
    Finset Str :=
  ((inRange table since untilTime).map AttackEventModel.sourceIp).toFinset

/-- There is one group for each address of the range. -/
theorem grouped_length (table : AttackEvents) (since : Option DateTime) (untilTime : DateTime) :
    (grouped (inRange table since untilTime)).length = (sourceIps table since untilTime).card := by
  rw [grouped, List.length_map, sourceIps, List.card_toFinset]

/-- The ranking comes from the candidates' profiles, sorted by their scores and cut
at the limit. -/
theorem ranking_profiles (table : AttackEvents) (sorted : List IpRow) (limit : Limit) :
    ∃ profiles, Ordered IPProfile.riskScore
        ((sorted.take (candidateCount limit)).map fun row => profileOf (ipAggregate table row))
        profiles ∧
      getRiskRanking table sorted limit = (profiles.take limit).map rankingEntry := by
  refine ⟨_, arrange_ordered IPProfile.riskScore _, ?_⟩
  simp only [getRiskRanking, getIpAggregatesForRanking, List.map_map]
  rfl

/-- An address that is a candidate and left out has no greater score than one
that is in the ranking. -/
theorem left_out_le (table : AttackEvents) (sorted : List IpRow) (limit : Limit) (row : IpRow)
    (candidate : row ∈ sorted.take (candidateCount limit))
    (out : row.sourceIp ∉ (getRiskRanking table sorted limit).map RankingEntry.sourceIp)
    (entry : RankingEntry) (ranked : entry ∈ getRiskRanking table sorted limit) :
    scoreOf table row ≤ entry.riskScore := by
  obtain ⟨profiles, ordered, ranking⟩ := ranking_profiles table sorted limit
  rw [ranking] at out ranked
  obtain ⟨top, first, rfl⟩ := List.mem_map.mp ranked
  refine ordered.le_of_not_mem_take limit (List.mem_map_of_mem candidate) ?_ first
  intro early
  exact out (List.mem_map_of_mem (List.mem_map_of_mem early))

/-- The time of a day at a full hour. -/
def atHour (hour : Fin 24) : DateTime :=
  { year := 2025, month := 1, day := 1, hour, minute := 0, second := 0, microsecond := 0
    valid := by
      refine ⟨by decide, by decide, by decide, ?_, by decide, by decide, by decide⟩
      exact hour.isLt }

/-- A classified event of an address. -/
def sighting (id : Uuid) (hour : Fin 24) (sourceIp : Str) (attackType : AttackType)
    (severity : Severity) : AttackEventModel :=
  { id
    timestamp := atHour hour
    sourceIp
    sourcePort := 4000
    destinationPort := 22
    protocol := literal "ssh"
    eventType := literal "ssh_login_attempt"
    attackType := some attackType.value
    severity := some severity.value
    rawData := [] }

/-- One of a hundred addresses. -/
def address (number : Nat) : Str := literal "10.0.0." ++ ofChars (fixed 10 2 number)

/-- Thirty addresses with two harmless events each, and one with a single
command injection. -/
def crowd : AttackEvents where
  rows := sighting (numbered 60) 6 (address 99) .commandInjection .high ::
    (List.finRange 60).map fun number =>
      sighting (Fin.castLE (by decide) number) 6 (address (number.val / 2)) .suspiciousRequest .low
  distinct := by decide +kernel

/-- The first event of an address does not depend on the order in which the rows are
read, -/
theorem min?_congr {left right : List DateTime} (same : left.Perm right) :
    left.min? = right.min? := by
  cases lowest : right.min? with
  | none =>
    rw [List.min?_eq_none_iff] at lowest ⊢
    exact (lowest ▸ same).eq_nil
  | some time =>
    rw [List.min?_eq_some_iff] at lowest ⊢
    exact ⟨same.symm.subset lowest.1, fun other member => lowest.2 other (same.subset member)⟩

/-- nor does the last one. -/
theorem max?_congr {left right : List DateTime} (same : left.Perm right) :
    left.max? = right.max? := by
  cases highest : right.max? with
  | none =>
    rw [List.max?_eq_none_iff] at highest ⊢
    exact (highest ▸ same).eq_nil
  | some time =>
    rw [List.max?_eq_some_iff] at highest ⊢
    exact ⟨same.symm.subset highest.1, fun other member => highest.2 other (same.subset member)⟩

/-- So a group is a matter of which events it has. -/
theorem ipRow_congr {events others : List AttackEventModel} (same : events.Perm others)
    (sourceIp : Str) : ipRow events sourceIp = ipRow others sourceIp := by
  have mine := same.filter fun row => decide (row.sourceIp = sourceIp)
  simp only [ipRow, mine.length_eq, min?_congr (mine.map AttackEventModel.timestamp),
    max?_congr (mine.map AttackEventModel.timestamp)]

/-- The groups of the same events are the same, in some order. -/
theorem grouped_perm {events others : List AttackEventModel} (same : events.Perm others) :
    (grouped events).Perm (grouped others) := by
  have rows : ipRow events = ipRow others := funext (ipRow_congr same)
  simp only [grouped, rows]
  exact (same.map AttackEventModel.sourceIp).dedup.map (ipRow others)

/-- Two tables hold the same events in the period and, for every address of the
period, the same attack types and the same severities at any time. -/
structure SameEvidence (first second : AttackEvents) (since : Option DateTime)
    (untilTime : DateTime) : Prop where
  events : (inRange first since untilTime).Perm (inRange second since untilTime)
  attackTypes : ∀ sourceIp ∈ sourceIps first since untilTime,
    (attackTypesOf first sourceIp).toFinset = (attackTypesOf second sourceIp).toFinset
  severities : ∀ sourceIp ∈ sourceIps first since untilTime,
    (severitiesOf first sourceIp).toFinset = (severitiesOf second sourceIp).toFinset

/-- For every limit and every period, two tables with the same evidence have the
same ranking, entry for entry, when the first query breaks ties of the event
count the same way: what it may return of the one table it may return of the
other. -/
theorem ranking_depends_on_evidence (first second : AttackEvents) (since : Option DateTime)
    (untilTime : DateTime) (limit : Limit) (sorted : TopIps first since untilTime)
    (same : SameEvidence first second since untilTime) :
    Ordered IpRow.total (grouped (inRange second since untilTime)) sorted.val ∧
      getRiskRanking first sorted.val limit = getRiskRanking second sorted.val limit := by
  refine ⟨⟨sorted.property.perm.trans (grouped_perm same.events), sorted.property.descending⟩, ?_⟩
  have aggregates : (getIpAggregatesForRanking first sorted.val (candidateCount limit)).map
      profileOf =
      (getIpAggregatesForRanking second sorted.val (candidateCount limit)).map profileOf := by
    simp only [getIpAggregatesForRanking, List.map_map]
    refine List.map_congr_left fun row candidate => ?_
    have inPeriod : row.sourceIp ∈ sourceIps first since untilTime := by
      have member := sorted.property.perm.subset (List.mem_of_mem_take candidate)
      obtain ⟨sourceIp, known, rfl⟩ := List.mem_map.mp member
      exact List.mem_toFinset.mpr (List.mem_dedup.mp known)
    exact buildProfile_congr _ _ _ _ (same.attackTypes _ inPeriod) (same.severities _ inPeriod)
  simp only [getRiskRanking, aggregates]

/-- The hour of a day with this number. -/
def hourOf (number : Nat) : Fin 24 := Fin.ofNat 24 number

/-- One event in the morning. -/
def morning : AttackEvents where
  rows := [sighting (numbered 0) 9 (address 1) .suspiciousRequest .low]
  distinct := by decide

/-- The same event, and an earlier one of this address. -/
def nightAndMorning (sourceIp : Str) : AttackEvents where
  rows := [sighting (numbered 0) 9 (address 1) .suspiciousRequest .low,
    sighting (numbered 1) 1 sourceIp .commandInjection .high]
  distinct := by
    have apart : numbered 0 ≠ numbered 1 := by decide
    simp [sighting, apart]

/-- In the range the two tables of the examples hold the same event; the other one
is earlier. -/
theorem same_morning (sourceIp : Str) :
    inRange morning (some (atHour 6)) (atHour 12) =
      inRange (nightAndMorning sourceIp) (some (atHour 6)) (atHour 12) := by
  have night : ¬ atHour 6 ≤ atHour 1 := by decide +kernel
  simp [inRange, morning, nightAndMorning, List.filter_cons, sighting, night]

/-- An earlier event of another address does not matter: it is outside the period of
the first query, and no later query asks for its address. -/
theorem ranking_depends_on_evidence_morning :
    Ordered IpRow.total
        (grouped (inRange (nightAndMorning (address 2)) (some (atHour 6)) (atHour 12)))
        (arrange IpRow.total (grouped (inRange morning (some (atHour 6)) (atHour 12)))) ∧
      getRiskRanking morning
          (arrange IpRow.total (grouped (inRange morning (some (atHour 6)) (atHour 12))))
          ⟨10, by decide⟩ =
        getRiskRanking (nightAndMorning (address 2))
          (arrange IpRow.total (grouped (inRange morning (some (atHour 6)) (atHour 12))))
          ⟨10, by decide⟩ := by
  have addresses : sourceIps morning (some (atHour 6)) (atHour 12) = {address 1} := by
    decide +kernel
  refine ranking_depends_on_evidence morning (nightAndMorning (address 2)) (some (atHour 6))
    (atHour 12) ⟨10, by decide⟩ ⟨_, arrange_ordered _ _⟩ ⟨List.Perm.of_eq (same_morning _), ?_, ?_⟩
  · rw [addresses]
    decide
  · rw [addresses]
    decide

/-- An earlier event of the same address does: the tables agree in the period,
and their rankings differ. -/
theorem earlier_event_counts :
    (inRange morning (some (atHour 6)) (atHour 12)).Perm
        (inRange (nightAndMorning (address 1)) (some (atHour 6)) (atHour 12)) ∧
      ∃ sorted : TopIps morning (some (atHour 6)) (atHour 12),
        (getRiskRanking morning sorted.val ⟨10, by decide⟩).map RankingEntry.riskScore = [15] ∧
        (getRiskRanking (nightAndMorning (address 1)) sorted.val ⟨10, by decide⟩).map
          RankingEntry.riskScore = [50] := by
  refine ⟨List.Perm.of_eq (same_morning _), ⟨_, arrange_ordered _ _⟩, ?_, ?_⟩
  · decide +kernel
  · decide +kernel

end Honeywatch.Api
