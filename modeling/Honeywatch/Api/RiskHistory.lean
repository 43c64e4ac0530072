import Honeywatch.Api.Profile
import Honeywatch.Detection.Growth

/-!
# The risk of an address over time

The three queries of `get_ip_aggregate` are statements of their own, so each of them sees
what has been committed when it is made: the worker may store an event between the count
and the attack types, and a backfill may commit there. A profile may so be of no single
table. It still never falls behind an earlier one: rows are never removed, and, with one
backfill at a time, a row changes only from unclassified to classified.
-/

namespace Honeywatch.Api

open Text Collector Db OrderBy Detection Transition
open Analysis (IPProfile severityScore frequencyScoreMax frequencySaturation calculate toRiskLevel)

/-- What the queries of `get_ip_aggregate` see and return between two moments. -/
structure IpReading (rules : DetectionRules) (start finish : Database) (sourceIp : Str) where
  counted : Database
  typed : Database
  rated : Database
  toCount : Leads rules start counted
  toTypes : Leads rules counted typed
  toSeverities : Leads rules typed rated
  toEnd : Leads rules rated finish
  attackTypes : List Str
  severities : List Str
  distinct : attackTypes.Perm (attackTypesOf typed.committed sourceIp).dedup
  observed : severities.Perm (severitiesOf rated.committed sourceIp)

section

variable {rules : DetectionRules}

/-- `get_ip_profile` where every query sees a table of its own. -/
def IpReading.profile {start finish : Database} {sourceIp : Str}
    (reading : IpReading rules start finish sourceIp) : Except HTTPException IPProfile :=
  let stats := ipRow reading.counted.committed.rows sourceIp
  if stats.total = 0 then .error { statusCode := 404, detail := literal "IP not found" }
  else
    .ok (profileOf
      { sourceIp
        firstSeen := stats.firstSeen
        lastSeen := stats.lastSeen
        totalEvents := stats.total
        attackTypes := reading.attackTypes
        severities := reading.severities })

/-- Where nothing happens between the queries, it is the profile of the table that
all of them see. -/
theorem IpReading.profile_still {start finish : Database} {sourceIp : Str}
    (reading : IpReading rules start finish sourceIp)
    (types : reading.typed.committed = reading.counted.committed)
    (severities : reading.rated.committed = reading.counted.committed) :
    reading.profile = getIpProfile reading.counted.committed sourceIp
      { attackTypes := reading.attackTypes
        severities := reading.severities
        distinct := types ▸ reading.distinct
        observed := severities ▸ reading.observed } := by
  unfold IpReading.profile getIpProfile getIpAggregate
  by_cases unseen : (ipRow reading.counted.committed.rows sourceIp).total = 0
  · simp only [unseen, if_true]
  · simp only [unseen, if_false]

/-- The events of an address are never fewer. -/
theorem ipRow_total_grows {first second : AttackEvents} (grows : Grows rules first second)
    (sourceIp : Str) :
    (ipRow first.rows sourceIp).total ≤ (ipRow second.rows sourceIp).total := by
  refine count_grows grows fun row _ later filled own => ?_
  rw [filled.same.2.1]
  exact own

/-- An attack type that an address has had it keeps: its row stays as it is. -/
theorem attackTypesOf_grows {first second : AttackEvents} (grows : Grows rules first second)
    (sourceIp : Str) : attackTypesOf first sourceIp ⊆ attackTypesOf second sourceIp :=
  filterMap_grows grows sourceIp fun _ _ said => said

/-- A severity, too, where only classified rows have one. -/
theorem severitiesOf_grows {first second : AttackEvents} (grows : Grows rules first second)
    (plain : Plain first) (sourceIp : Str) :
    severitiesOf first sourceIp ⊆ severitiesOf second sourceIp :=
  filterMap_grows grows sourceIp fun row member said absent => said (plain row member absent)

/-- More values make a larger set. -/
theorem toFinset_of_subset {values more : List Str} (contained : values ⊆ more) :
    values.toFinset ⊆ more.toFinset := by
  intro value member
  exact List.mem_toFinset.mpr (contained (List.mem_toFinset.mp member))

/-- More of anything never lowers a score: each of its parts is a count, a number of
kinds or a maximum, and the cap at 100 keeps the order. -/
theorem calculate_le_calculate {fewer more : Nat} {types moreTypes severities worse : List Str}
    (least : fewer ≤ more) (typed : types ⊆ moreTypes) (rated : severities ⊆ worse) :
    calculate fewer types severities ≤ calculate more moreTypes worse := by
  have frequency : fewer * frequencyScoreMax / frequencySaturation ≤
      more * frequencyScoreMax / frequencySaturation :=
    Nat.div_le_div_right (Nat.mul_le_mul_right _ least)
  have diversity : types.toFinset.card ≤ moreTypes.toFinset.card :=
    Finset.card_le_card (toFinset_of_subset typed)
  have severity : severities.toFinset.sup severityScore ≤ worse.toFinset.sup severityScore :=
    Finset.sup_mono (toFinset_of_subset rated)
  simp only [calculate]
  gcongr

/-- A higher score has no lower level, as the thresholds are tried from the highest
to the lowest. -/
theorem toRiskLevel_mono {low high : Nat} (least : low ≤ high) :
    severityScore (toRiskLevel low) ≤ severityScore (toRiskLevel high) := by
  unfold toRiskLevel
  split
  · rw [if_pos (by omega)]
  · split
    · split
      · decide
      · rw [if_pos (by omega)]
    · split
      · decide
      · split
        · decide
        · exact le_refl _

/-- A careful database stays careful, and what has been read is still there, with
the three queries of a profile one after the other and anything in between. -/
theorem IpReading.leads {start finish : Database} {sourceIp : Str}
    (reading : IpReading rules start finish sourceIp) (careful : start.Careful rules)
    (plain : Plain start.committed) :
    (finish.Careful rules ∧ Plain finish.committed) ∧
      Plain reading.rated.committed ∧
      Grows rules reading.counted.committed finish.committed ∧
      Grows rules reading.typed.committed finish.committed ∧
      Grows rules reading.rated.committed finish.committed := by
  have plainCounted := leads_plain careful reading.toCount plain
  obtain ⟨counted, -⟩ := leads_grows careful reading.toCount
  have plainTyped := leads_plain counted reading.toTypes plainCounted
  obtain ⟨typed, first⟩ := leads_grows counted reading.toTypes
  have plainRated := leads_plain typed reading.toSeverities plainTyped
  obtain ⟨rated, second⟩ := leads_grows typed reading.toSeverities
  have plainFinish := leads_plain rated reading.toEnd plainRated
  obtain ⟨finished, third⟩ := leads_grows rated reading.toEnd
  exact ⟨⟨finished, plainFinish⟩, plainRated, (first.trans second).trans third,
    second.trans third, third⟩

/-- What a reading sees was there, or is new: the table at its start grows into that
of each of its queries. -/
theorem IpReading.since {start finish : Database} {sourceIp : Str}
    (reading : IpReading rules start finish sourceIp) (careful : start.Careful rules) :
    Grows rules start.committed reading.counted.committed ∧
      Grows rules start.committed reading.typed.committed ∧
      Grows rules start.committed reading.rated.committed := by
  obtain ⟨counted, first⟩ := leads_grows careful reading.toCount
  obtain ⟨typed, second⟩ := leads_grows counted reading.toTypes
  obtain ⟨-, third⟩ := leads_grows typed reading.toSeverities
  exact ⟨first, first.trans second, (first.trans second).trans third⟩

end

/-- For every table whose unclassified rows have no severity, every interleaving of the
worker, of backfills that run one at a time and of kills, and every address: when one
request for its profile has been answered before another one begins, the second one is
answered, too, and with no fewer events, all of the attack types, and no lower score or
level, although the queries of a request may see different tables. -/
theorem risk_never_falls (rules : DetectionRules) (table : AttackEvents) (plain : Plain table)
    {start middle finish : Database} (reached : Leads rules (.idle table) start) (sourceIp : Str)
    (one : IpReading rules start middle sourceIp) (two : IpReading rules middle finish sourceIp)
    {earlier : IPProfile} (answered : one.profile = .ok earlier) :
    ∃ later, two.profile = .ok later ∧ earlier.totalEvents ≤ later.totalEvents ∧
      earlier.attackTypes ⊆ later.attackTypes ∧ earlier.riskScore ≤ later.riskScore ∧
      severityScore earlier.riskLevel ≤ severityScore later.riskLevel := by
  obtain ⟨carefulStart, -⟩ := leads_grows (idle_careful table) reached
  have plainStart := leads_plain (idle_careful table) reached plain
  obtain ⟨⟨carefulMiddle, -⟩, plainRated, counted, typed, rated⟩ :=
    one.leads carefulStart plainStart
  obtain ⟨later, more, worse⟩ := two.since carefulMiddle
  have events := ipRow_total_grows (counted.trans later) sourceIp
  have types : one.attackTypes ⊆ two.attackTypes := by
    intro attackType member
    have known := attackTypesOf_grows (typed.trans more) sourceIp
      (List.mem_dedup.mp (one.distinct.subset member))
    exact two.distinct.symm.subset (List.mem_dedup.mpr known)
  have severities : one.severities ⊆ two.severities := by
    intro severity member
    have known := severitiesOf_grows (rated.trans worse) plainRated sourceIp
      (one.observed.subset member)
    exact two.observed.symm.subset known
  simp only [IpReading.profile] at answered ⊢
  split at answered
  · cases answered
  · next seen =>
    cases answered
    have score := calculate_le_calculate events types severities
    refine ⟨_, if_neg (by omega), events, ?_, score, toRiskLevel_mono score⟩
    intro attackType member
    have known := toFinset_of_subset types ((Finset.mem_sort _).mp member)
    exact (Finset.mem_sort _).mpr known

/-- The accesses of a backfill that is left to its end. -/
def leftToItsEnd : List Access :=
  [.begin, .statement, .statement, .statement, .statement, .statement, .statement, .close]

/-- The unclassified attempt of the example has no severity. -/
theorem plain_oneAttempt : Plain oneAttempt := fun row member _ => by
  rw [List.mem_singleton.mp member]
  rfl

/-- A backfill commits between the attack types and the severities of the first request.
Nothing happens during the second one, so its profile is the one of the final table. -/
theorem risk_never_falls_torn :
    ∃ (start finish : Database)
      (one : IpReading shippedRules start finish (literal "10.0.0.1"))
      (queries : IpQueries finish.committed (literal "10.0.0.1")) (earlier later : IPProfile),
      one.profile = .ok earlier ∧
        getIpProfile finish.committed (literal "10.0.0.1") queries = .ok later ∧
        earlier.riskScore ≤ later.riskScore := by
  obtain ⟨after, run⟩ : ∃ after, (database shippedRules).run (.idle oneAttempt) leftToItsEnd =
      some after := ⟨_, rfl⟩
  let one : IpReading shippedRules (.idle oneAttempt) after (literal "10.0.0.1") :=
    { counted := .idle oneAttempt, typed := .idle oneAttempt, rated := after
      toCount := ⟨[], rfl⟩, toTypes := ⟨[], rfl⟩, toSeverities := ⟨_, run⟩, toEnd := ⟨[], rfl⟩
      attackTypes := _, severities := _
      distinct := List.Perm.refl _, observed := List.Perm.refl _ }
  let two : IpReading shippedRules after after (literal "10.0.0.1") :=
    { counted := after, typed := after, rated := after
      toCount := ⟨[], rfl⟩, toTypes := ⟨[], rfl⟩, toSeverities := ⟨[], rfl⟩, toEnd := ⟨[], rfl⟩
      attackTypes := _, severities := _
      distinct := List.Perm.refl _, observed := List.Perm.refl _ }
  obtain ⟨later, answered, -, -, score, -⟩ := risk_never_falls shippedRules oneAttempt
    plain_oneAttempt ⟨[], rfl⟩ (literal "10.0.0.1") one two rfl
  rw [two.profile_still rfl rfl] at answered
  exact ⟨_, _, one, _, _, later, rfl, answered, score⟩

end Honeywatch.Api
