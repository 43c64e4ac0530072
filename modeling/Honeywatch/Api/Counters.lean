import Honeywatch.Api.Dashboard
import Honeywatch.Api.Period
import Honeywatch.Api.RiskHistory

/-!
# Counters over periods and over time

The panels count what lies in the range of their period. A longer period that ends at the
same time has a wider range, and `all` has a wider one whenever it is asked for later on.
In a wider range, and after more events have been stored or classified, no panel shows
less: not in total, nor for an address, an attack type, a severity or a bucket of one
width. The summary is four queries, and each of them may see another table. One backfill
runs at a time.

The route of the timeline changes the width with the period: a year and `all` are counted
by the month. Two of its answers are compared only where both are counted in buckets of
one width.
-/

namespace Honeywatch.Api

open Text Collector Db OrderBy Detection

/-- The first period is no longer than the second. -/
def Period.NoLonger (period longer : Period) : Prop :=
  ∀ most, longer.hours = some most → ∃ hours ≤ most, period.hours = some hours

/-- The second range contains the first. -/
structure Wider (since : Option DateTime) (untilTime : DateTime) (since' : Option DateTime)
    (untilTime' : DateTime) : Prop where
  sooner : ∀ bound, since' = some bound → ∃ own, since = some own ∧ bound ≤ own
  later : untilTime ≤ untilTime'

/-- Without a lower bound, the range only has to end later. -/
theorem Wider.unbounded {since : Option DateTime} {untilTime untilTime' : DateTime}
    (later : untilTime ≤ untilTime') : Wider since untilTime none untilTime' where
  sooner _ bounded := by cases bounded
  later

/-- Every group has a group of the same value with no smaller count. -/
def Dominated {Key : Type} (groups more : List (Key × Nat)) : Prop :=
  ∀ group ∈ groups, ∃ other ∈ more, other.1 = group.1 ∧ group.2 ≤ other.2

/-- No number of the first summary is greater. -/
def Summary.AtMost (summary more : Summary) : Prop :=
  summary.total ≤ more.total ∧ summary.uniqueIps ≤ more.uniqueIps ∧
    summary.sshAttempts ≤ more.sshAttempts ∧ summary.httpAttacks ≤ more.httpAttacks

/-- What the queries of `get_summary` see between two moments. -/
structure SummaryReading (rules : DetectionRules) (start finish : Database) where
  total : Database
  uniqueIps : Database
  ssh : Database
  http : Database
  toTotal : Leads rules start total
  toUniqueIps : Leads rules total uniqueIps
  toSsh : Leads rules uniqueIps ssh
  toHttp : Leads rules ssh http
  toEnd : Leads rules http finish

/-- `get_summary` where every query sees a table of its own. -/
def SummaryReading.summary {rules : DetectionRules} {start finish : Database}
    (reading : SummaryReading rules start finish) (since : Option DateTime)
    (untilTime : DateTime) : Summary :=
  { total := (getSummary reading.total.committed since untilTime).total
    uniqueIps := (getSummary reading.uniqueIps.committed since untilTime).uniqueIps
    sshAttempts := (getSummary reading.ssh.committed since untilTime).sshAttempts
    httpAttacks := (getSummary reading.http.committed since untilTime).httpAttacks }

/-- Nothing happens between the queries. -/
def SummaryReading.still (rules : DetectionRules) (database : Database) :
    SummaryReading rules database database :=
  { total := database, uniqueIps := database, ssh := database, http := database
    toTotal := ⟨[], rfl⟩, toUniqueIps := ⟨[], rfl⟩, toSsh := ⟨[], rfl⟩, toHttp := ⟨[], rfl⟩
    toEnd := ⟨[], rfl⟩ }

/-- So it is the summary of the table. -/
theorem SummaryReading.still_summary (rules : DetectionRules) (database : Database)
    (since : Option DateTime) (untilTime : DateTime) :
    (SummaryReading.still rules database).summary since untilTime =
      getSummary database.committed since untilTime := rfl

/-- Every bucket is among the others, with no smaller numbers. -/
def Buried (rows more : List TimelineRow) : Prop :=
  ∀ row ∈ rows, ∃ other ∈ more, other.timestamp = row.timestamp ∧ row.total ≤ other.total ∧
    row.ssh ≤ other.ssh ∧ row.http ≤ other.http

/-- The row is in the range. -/
def selects (since : Option DateTime) (untilTime : DateTime) (row : AttackEventModel) : Bool :=
  decide (row.timestamp ≤ untilTime) &&
    match since with
    | none => true
    | some since => decide (since ≤ row.timestamp)

/-- The filters of the queries as one test, for counting. -/
theorem inRange_eq (table : AttackEvents) (since : Option DateTime) (untilTime : DateTime) :
    inRange table since untilTime = table.rows.filter (selects since untilTime) := rfl

/-- What a range selects a wider range selects, too; only the timestamp matters, and
a classification does not change it. -/
theorem Wider.selects {since since' : Option DateTime} {untilTime untilTime' : DateTime}
    (wider : Wider since untilTime since' untilTime') {row later : AttackEventModel}
    (same : later.timestamp = row.timestamp)
    (inside : Api.selects since untilTime row = true) :
    Api.selects since' untilTime' later = true := by
  simp only [Api.selects, Bool.and_eq_true, decide_eq_true_eq] at inside ⊢
  rw [same]
  refine ⟨inside.1.trans wider.later, ?_⟩
  cases given : since' with
  | none => rfl
  | some bound =>
    obtain ⟨own, rfl, before⟩ := wider.sooner bound given
    exact decide_eq_true (before.trans (of_decide_eq_true inside.2))

section

variable {rules : DetectionRules} {first second : AttackEvents}
  {since since' : Option DateTime} {untilTime untilTime' : DateTime}

/-- The count of what the range selects, for a condition that lasts: a selected row
is still in the later table, filled or not, and in the wider range. -/
theorem inRange_count_grows (grows : Grows rules first second)
    (wider : Wider since untilTime since' untilTime') (counted : AttackEventModel → Bool)
    (lasts : ∀ row ∈ first.rows, ∀ later, Filled rules row later → counted row = true →
      counted later = true) :
    ((inRange first since untilTime).filter counted).length ≤
      ((inRange second since' untilTime').filter counted).length := by
  rw [inRange_eq, inRange_eq, List.filter_filter, List.filter_filter]
  refine count_grows grows fun row member later filled selected => ?_
  obtain ⟨own, inside⟩ := Bool.and_eq_true_iff.mp selected
  exact Bool.and_eq_true_iff.mpr
    ⟨lasts row member later filled own, wider.selects filled.same.2.2.1 inside⟩

/-- Groups by a column that lasts. A later group of the same key has the rows of the
earlier one, so of any condition that lasts it counts no fewer. -/
theorem groupBy_grows {Key : Type} [DecidableEq Key] (grows : Grows rules first second)
    (wider : Wider since untilTime since' untilTime') (counted : AttackEventModel → Bool)
    (key : AttackEventModel → Key)
    (lasts : ∀ row ∈ first.rows, ∀ later, Filled rules row later → counted row = true →
      counted later = true ∧ key later = key row) :
    ∀ group ∈ groupBy key ((inRange first since untilTime).filter counted),
      ∃ other ∈ groupBy key ((inRange second since' untilTime').filter counted),
        other.1 = group.1 ∧ ∀ also : AttackEventModel → Bool,
          (∀ row later, Filled rules row later → also row = true → also later = true) →
          (group.2.filter also).length ≤ (other.2.filter also).length := by
  intro group member
  obtain ⟨row, inside, own⟩ := exists_row_of_group member
  obtain ⟨selected, counts⟩ := List.mem_filter.mp inside
  obtain ⟨there, within⟩ := List.mem_filter.mp selected
  obtain ⟨later, here, filled⟩ := grows row there
  obtain ⟨still, same⟩ := lasts row there later filled counts
  have chosen : later ∈ (inRange second since' untilTime').filter counted :=
    List.mem_filter.mpr ⟨List.mem_filter.mpr ⟨here, wider.selects filled.same.2.2.1 within⟩, still⟩
  obtain ⟨other, found, value⟩ := group_of_row key chosen
  have values : other.1 = group.1 := value.trans (same.trans own)
  refine ⟨other, found, values, fun also stays => ?_⟩
  rw [mem_groupBy member, mem_groupBy found, values, List.filter_filter, List.filter_filter,
    List.filter_filter, List.filter_filter]
  refine inRange_count_grows grows wider _ fun row member later filled selected => ?_
  simp only [Bool.and_eq_true, decide_eq_true_eq] at selected ⊢
  obtain ⟨⟨kept, mine⟩, counts⟩ := selected
  obtain ⟨still, same⟩ := lasts row member later filled counts
  exact ⟨⟨stays row later filled kept, same.trans mine⟩, still⟩

/-- Groups only grow: each of them is found again with at least as many rows,
provided that a first classification neither takes a row out of the count nor moves
it to another group. -/
theorem dominated_of_groups (grows : Grows rules first second)
    (wider : Wider since untilTime since' untilTime') {Key : Type} [DecidableEq Key]
    (counted : AttackEventModel → Bool) (key : AttackEventModel → Key)
    (lasts : ∀ row ∈ first.rows, ∀ later, Filled rules row later → counted row = true →
      counted later = true ∧ key later = key row) :
    Dominated
      ((groupBy key ((inRange first since untilTime).filter counted)).map
        fun group => (group.1, group.2.length))
      ((groupBy key ((inRange second since' untilTime').filter counted)).map
        fun group => (group.1, group.2.length)) := by
  intro entry member
  obtain ⟨group, inside, rfl⟩ := List.mem_map.mp member
  obtain ⟨other, found, value, counts⟩ := groupBy_grows grows wider counted key lasts group inside
  have all := counts (fun _ => true) fun _ _ _ _ => rfl
  rw [List.filter_true, List.filter_true] at all
  exact ⟨_, List.mem_map_of_mem found, value, all⟩

/-- In which order the groups are returned does not matter. -/
theorem Dominated.perm {Key : Type} {groups more sorted other : List (Key × Nat)}
    (dominated : Dominated groups more) (one : sorted.Perm groups) (two : other.Perm more) :
    Dominated sorted other := by
  intro group member
  obtain ⟨found, inside, same⟩ := dominated group (one.subset member)
  exact ⟨found, two.symm.subset inside, same⟩

/-- No number of a summary falls. Each is a count of rows with a property that a
classification leaves alone, and the addresses of the range stay in it. -/
theorem summary_grows (grows : Grows rules first second)
    (wider : Wider since untilTime since' untilTime') :
    (getSummary first since untilTime).AtMost (getSummary second since' untilTime') := by
  have total := inRange_count_grows grows wider (fun _ => true) fun _ _ _ _ _ => rfl
  rw [List.filter_true, List.filter_true] at total
  have protocol (name : Str) := inRange_count_grows grows wider
    (fun row => decide (row.protocol = name)) fun row _ later filled own => by
      rw [filled.same.2.2.2]
      exact own
  refine ⟨total, ?_, protocol (literal "ssh"), protocol (literal "http")⟩
  refine (List.subperm_of_subset (List.nodup_dedup _) fun address member => ?_).length_le
  obtain ⟨row, inside, rfl⟩ := List.mem_map.mp (List.mem_dedup.mp member)
  obtain ⟨there, selected⟩ := List.mem_filter.mp inside
  obtain ⟨later, here, filled⟩ := grows row there
  obtain ⟨-, address, time, -⟩ := filled.same
  refine List.mem_dedup.mpr (List.mem_map.mpr ⟨later, ?_, address⟩)
  exact List.mem_filter.mpr ⟨here, wider.selects time selected⟩

/-- A careful database stays careful, and what has been read is still there. The
queries come one after the other, so each of their tables leads to the last. -/
theorem SummaryReading.leads {start finish : Database}
    (reading : SummaryReading rules start finish) (careful : start.Careful rules) :
    finish.Careful rules ∧ Grows rules reading.total.committed finish.committed ∧
      Grows rules reading.uniqueIps.committed finish.committed ∧
      Grows rules reading.ssh.committed finish.committed ∧
      Grows rules reading.http.committed finish.committed := by
  obtain ⟨total, -⟩ := leads_grows careful reading.toTotal
  obtain ⟨uniqueIps, first⟩ := leads_grows total reading.toUniqueIps
  obtain ⟨ssh, second⟩ := leads_grows uniqueIps reading.toSsh
  obtain ⟨http, third⟩ := leads_grows ssh reading.toHttp
  obtain ⟨finished, last⟩ := leads_grows http reading.toEnd
  have fromSsh := third.trans last
  have fromUniqueIps := second.trans fromSsh
  exact ⟨finished, first.trans fromUniqueIps, fromUniqueIps, fromSsh, last⟩

/-- What a reading sees was there, or is new: the table at its start leads to that
of each query. -/
theorem SummaryReading.follows {start finish : Database}
    (reading : SummaryReading rules start finish) (careful : start.Careful rules) :
    Grows rules start.committed reading.total.committed ∧
      Grows rules start.committed reading.uniqueIps.committed ∧
      Grows rules start.committed reading.ssh.committed ∧
      Grows rules start.committed reading.http.committed := by
  obtain ⟨total, first⟩ := leads_grows careful reading.toTotal
  obtain ⟨uniqueIps, second⟩ := leads_grows total reading.toUniqueIps
  obtain ⟨ssh, third⟩ := leads_grows uniqueIps reading.toSsh
  obtain ⟨-, last⟩ := leads_grows ssh reading.toHttp
  have toUniqueIps := first.trans second
  have toSsh := toUniqueIps.trans third
  exact ⟨first, toUniqueIps, toSsh, toSsh.trans last⟩

/-- No number of a later reading is smaller. The query of the one comes before that
of the other, so the table it sees grows into the other's. -/
theorem SummaryReading.atMost {begun start finish ended : Database}
    (one : SummaryReading rules begun start) (two : SummaryReading rules finish ended)
    (careful : begun.Careful rules) (meanwhile : Leads rules start finish)
    (wider : Wider since untilTime since' untilTime') :
    (one.summary since untilTime).AtMost (two.summary since' untilTime') := by
  obtain ⟨carefulStart, total, uniqueIps, ssh, http⟩ := one.leads careful
  obtain ⟨carefulFinish, grows⟩ := leads_grows carefulStart meanwhile
  obtain ⟨laterTotal, laterUniqueIps, laterSsh, laterHttp⟩ := two.follows carefulFinish
  exact ⟨(summary_grows ((total.trans grows).trans laterTotal) wider).1,
    (summary_grows ((uniqueIps.trans grows).trans laterUniqueIps) wider).2.1,
    (summary_grows ((ssh.trans grows).trans laterSsh) wider).2.2.1,
    (summary_grows ((http.trans grows).trans laterHttp) wider).2.2.2⟩

/-- The counts of the addresses do not fall, in whatever order they are returned; an
address that had events has them still. -/
theorem ipCounts_grows (grows : Grows rules first second)
    (wider : Wider since untilTime since' untilTime')
    (counts : IpCounts first since (some untilTime))
    (more : IpCounts second since' (some untilTime')) : Dominated counts.val more.val := by
  have dominated := dominated_of_groups grows wider (fun _ => true)
    AttackEventModel.sourceIp fun row _ later filled _ => ⟨rfl, filled.same.2.1⟩
  rw [List.filter_true, List.filter_true, ← ipGroups_eq, ← ipGroups_eq] at dominated
  exact dominated.perm counts.property.perm more.property.perm

/-- Nor do those of the attack types: a row that has one keeps it, as the worker and
a single backfill fill only what is missing. -/
theorem attackTypes_grow (grows : Grows rules first second)
    (wider : Wider since untilTime since' untilTime')
    (counts : AttackTypeCounts first since untilTime)
    (more : AttackTypeCounts second since' untilTime') : Dominated counts.val more.val := by
  have dominated := dominated_of_groups grows wider
    (fun row => row.attackType.isSome) AttackEventModel.attackType
    fun row _ later filled classified => by
      obtain rfl := filled.unchanged (Option.isSome_iff_ne_none.mp classified)
      exact ⟨classified, rfl⟩
  exact dominated.perm counts.property.perm more.property.perm

/-- Nor do those of the severities. Here an unclassified row must have none, or its
first classification could move it to another group. -/
theorem severities_grow (grows : Grows rules first second) (plain : Plain first)
    (wider : Wider since untilTime since' untilTime') :
    Dominated (countBySeverity first since untilTime)
      (countBySeverity second since' untilTime') := by
  refine dominated_of_groups grows wider _ _ fun row member later filled rated => ?_
  have classified : row.attackType ≠ none := fun absent => by
    rw [plain row member absent] at rated
    cases rated
  obtain rfl := filled.unchanged classified
  exact ⟨rated, rfl⟩

/-- In buckets of one width no bucket is counted less. A unit that the database
refuses has an answer only for an empty range, which has no bucket. -/
theorem timeline_grows (grows : Grows rules first second)
    (wider : Wider since untilTime since' untilTime') {intervalMinutes : Int}
    {rows more : List TimelineRow}
    (answered : getTimeline first since untilTime intervalMinutes = some rows)
    (again : getTimeline second since' untilTime' intervalMinutes = some more) :
    Buried rows more := by
  simp only [getTimeline] at answered again
  cases known : truncUnit intervalMinutes with
  | none =>
    rw [known] at answered
    simp only [Option.ite_none_right_eq_some, Option.some.injEq] at answered
    obtain ⟨-, rfl⟩ := answered
    exact fun row member => absurd member List.not_mem_nil
  | some unit =>
    rw [known] at answered again
    cases answered
    cases again
    intro row member
    obtain ⟨group, inside, rfl⟩ := List.mem_map.mp
      ((List.perm_insertionSort _ _).subset member)
    obtain ⟨other, found, value, counts⟩ := groupBy_grows grows wider (fun _ => true)
      (fun row => dateTrunc unit row.timestamp)
      (fun row _ later filled _ => ⟨rfl, by rw [filled.same.2.2.1]⟩) group
      (by rwa [List.filter_true])
    have all := counts (fun _ => true) fun _ _ _ _ => rfl
    rw [List.filter_true, List.filter_true] at all
    have protocol (name : Str) := counts (fun row => decide (row.protocol = name))
      fun row later filled own => by
        rw [filled.same.2.2.2]
        exact own
    rw [List.filter_true] at found
    exact ⟨timelineRow other, (List.perm_insertionSort _ _).symm.subset
      (List.mem_map_of_mem found), value, all, protocol (literal "ssh"), protocol (literal "http")⟩

end

/-- A longer period that ends at the same time has a wider range, and so has `all` at a
later time. -/
theorem wider_of_period (now later : Now) (period longer : Period)
    (reaches : longer = .all ∧ now.val ≤ later.val ∨ period.NoLonger longer ∧ later = now) :
    ∃ since since', resolvePeriodRange period now.val = some (since, now.val) ∧
      resolvePeriodRange longer later.val = some (since', later.val) ∧
      Wider since now.val since' later.val := by
  have resolved (period : Period) (now : Now) :
      ∃ since, resolvePeriodRange period now.val = some (since, now.val) := by
    cases bounded : period.hours with
    | none => exact ⟨none, by rw [resolvePeriodRange, bounded]⟩
    | some hours =>
      obtain ⟨since, range, -⟩ := resolvePeriodRange_bounded now bounded
      exact ⟨some since, range⟩
  rcases reaches with ⟨rfl, after⟩ | ⟨noLonger, rfl⟩
  · obtain ⟨since, range⟩ := resolved period now
    exact ⟨since, none, range, resolvePeriodRange_all _, .unbounded after⟩
  · cases bounded : longer.hours with
    | none =>
      obtain ⟨since, range⟩ := resolved period later
      refine ⟨since, none, range, by rw [resolvePeriodRange, bounded],
        .unbounded (le_refl _)⟩
    | some most =>
      obtain ⟨hours, fewer, own⟩ := noLonger most bounded
      obtain ⟨since, range, begun⟩ := resolvePeriodRange_bounded later own
      obtain ⟨sooner, wide, before⟩ := resolvePeriodRange_bounded later bounded
      refine ⟨some since, some sooner, range, wide, ⟨fun bound same => ?_, le_refl _⟩⟩
      cases same
      refine ⟨since, rfl, le_of_not_gt fun reversed => ?_⟩
      have numbers := DateTime.microseconds_lt reversed
      have lengths := Nat.mul_le_mul_right hourLength fewer
      omega

/-- For every table whose unclassified rows have no severity, every interleaving of the
worker, of backfills that run one at a time and of kills, and two requests one after the
other, where the second one asks for a longer period at the same time or for `all`: no
number of the second summary is smaller, although the queries of a summary may see
different tables, and no address, attack type or severity is counted less or left out,
nor a bucket of the timeline where both timelines have the same interval. -/
theorem wider_range_counts_more (rules : DetectionRules) (table : AttackEvents)
    (plain : Plain table) {begun start finish ended : Database}
    (reached : Leads rules (.idle table) begun) (one : SummaryReading rules begun start)
    (meanwhile : Leads rules start finish) (two : SummaryReading rules finish ended)
    (now later : Now) (period longer : Period)
    (reaches : longer = .all ∧ now.val ≤ later.val ∨ period.NoLonger longer ∧ later = now) :
    ∃ since since', resolvePeriodRange period now.val = some (since, now.val) ∧
      resolvePeriodRange longer later.val = some (since', later.val) ∧
      (one.summary since now.val).AtMost (two.summary since' later.val) ∧
      (∀ (counts : IpCounts begun.committed since (some now.val))
        (more : IpCounts finish.committed since' (some later.val)),
        Dominated counts.val more.val) ∧
      (∀ (counts : AttackTypeCounts begun.committed since now.val)
        (more : AttackTypeCounts finish.committed since' later.val),
        Dominated counts.val more.val) ∧
      Dominated (countBySeverity begun.committed since now.val)
        (countBySeverity finish.committed since' later.val) ∧
      ∀ intervalMinutes rows more,
        getTimeline begun.committed since now.val intervalMinutes = some rows →
        getTimeline finish.committed since' later.val intervalMinutes = some more →
        Buried rows more := by
  obtain ⟨since, since', range, wide, wider⟩ := wider_of_period now later period longer reaches
  obtain ⟨careful, -⟩ := leads_grows (idle_careful table) reached
  have plainBegun := leads_plain (idle_careful table) reached plain
  obtain ⟨carefulStart, -, -, -, read⟩ := one.leads careful
  obtain ⟨-, -, -, before⟩ := one.follows careful
  obtain ⟨-, after⟩ := leads_grows carefulStart meanwhile
  have grows := (before.trans read).trans after
  exact ⟨since, since', range, wide, one.atMost two careful meanwhile wider,
    ipCounts_grows grows wider, attackTypes_grow grows wider,
    severities_grow grows plainBegun wider,
    fun _ _ _ => timeline_grows grows wider⟩

/-- The summary of the day at nine, and that of all at ten, after a backfill has
classified the stored event in between. -/
theorem wider_range_counts_more_backfill :
    ∃ (finish : Database) (since since' : Option DateTime),
      (database shippedRules).run (.idle oneAttempt) leftToItsEnd = some finish ∧
      resolvePeriodRange .day (atHour 9) = some (since, atHour 9) ∧
      (getSummary oneAttempt since (atHour 9)).AtMost
        (getSummary finish.committed since' (atHour 10)) := by
  have before : atHour 9 ≤ atHour 10 := by decide +kernel
  have epoch (hour : Fin 24) : 1970 ≤ (atHour hour).year := (by decide : 1970 ≤ 2025)
  obtain ⟨finish, run⟩ : ∃ finish, (database shippedRules).run (.idle oneAttempt) leftToItsEnd =
      some finish := ⟨_, rfl⟩
  obtain ⟨since, since', range, -, more, -⟩ := wider_range_counts_more shippedRules oneAttempt
    plain_oneAttempt ⟨[], rfl⟩ (.still shippedRules (.idle oneAttempt)) ⟨_, run⟩
    (.still shippedRules finish) ⟨atHour 9, epoch 9⟩ ⟨atHour 10, epoch 10⟩
    .day .all (.inl ⟨rfl, before⟩)
  rw [SummaryReading.still_summary, SummaryReading.still_summary] at more
  exact ⟨finish, since, since', run, range, more⟩

end Honeywatch.Api
