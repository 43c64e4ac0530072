import Honeywatch.Analysis.GeoIp
import Honeywatch.Api.Attacks
import Honeywatch.Api.RiskRanking
import Honeywatch.Db.Calendar
import Honeywatch.Foundation.GroupBy

/-!
# The aggregates of the dashboard

The queries behind the panels, each with the filters it adds itself, and the
countries that the application counts from the result of one of them. Queries
sort by a count; groups with equal counts come in any order.

The panels count the same events. A query groups what its filters select, so its
counts add up to the number of selected events, and the filters select the same
events wherever a panel shows all of them.
-/

namespace Honeywatch.Api

open Text Collector Db OrderBy Analysis

/-- The answer of `get_summary`. -/
structure Summary where
  total : Nat
  uniqueIps : Nat
  sshAttempts : Nat
  httpAttacks : Nat

/-- `get_summary`. -/
def getSummary (table : AttackEvents) (since : Option DateTime) (untilTime : DateTime) : Summary :=
  let selected := inRange table since untilTime
  { total := selected.length
    uniqueIps := (selected.map AttackEventModel.sourceIp).dedup.length
    sshAttempts := (selected.filter fun row => decide (row.protocol = literal "ssh")).length
    httpAttacks := (selected.filter fun row => decide (row.protocol = literal "http")).length }

/-- `get_top_ips`, given the result of its query before the limit. -/
def getTopIps (sorted : List IpRow) (limit : Nat) : List IpRow := sorted.take limit

/-- The units of `date_trunc` that the database has. -/
inductive TruncUnit
  | minute
  | hour
  | month

/-- The unit for an interval; `quarter_hour` is none of the database's. -/
def truncUnit (intervalMinutes : Int) : Option TruncUnit :=
  if 43200 ≤ intervalMinutes then some .month
  else if intervalMinutes ≤ 5 then some .minute
  else if intervalMinutes ≤ 15 then none
  else some .hour

/-- `date_trunc`, in a session whose time zone is UTC. -/
def dateTrunc (unit : TruncUnit) (time : DateTime) : DateTime :=
  match unit with
  | .minute =>
    { time with
      second := 0
      microsecond := 0
      valid := ⟨time.valid.1, time.valid.2.1, time.valid.2.2.1, time.valid.2.2.2.1,
        time.valid.2.2.2.2.1, Nat.succ_pos _, Nat.succ_pos _⟩ }
  | .hour =>
    { time with
      minute := 0
      second := 0
      microsecond := 0
      valid := ⟨time.valid.1, time.valid.2.1, time.valid.2.2.1, time.valid.2.2.2.1,
        Nat.succ_pos _, Nat.succ_pos _, Nat.succ_pos _⟩ }
  | .month =>
    { time with
      day := 1
      hour := 0
      minute := 0
      second := 0
      microsecond := 0
      valid := ⟨time.valid.1, time.valid.2.1, ⟨le_refl _, daysInMonth_pos _ _⟩, Nat.succ_pos _,
        Nat.succ_pos _, Nat.succ_pos _, Nat.succ_pos _⟩ }

/-- A bucket of the timeline. -/
structure TimelineRow where
  timestamp : DateTime
  total : Nat
  ssh : Nat
  http : Nat

/-- The row of a bucket. -/
def timelineRow (bucket : DateTime × List AttackEventModel) : TimelineRow :=
  { timestamp := bucket.1
    total := bucket.2.length
    ssh := (bucket.2.filter fun row => decide (row.protocol = literal "ssh")).length
    http := (bucket.2.filter fun row => decide (row.protocol = literal "http")).length }

/-- The buckets of the selected events. -/
def timelineRows (unit : TruncUnit) (selected : List AttackEventModel) : List TimelineRow :=
  ((groupBy (fun row => dateTrunc unit row.timestamp) selected).map timelineRow).insertionSort
    fun earlier later => earlier.timestamp ≤ later.timestamp

/-- `get_timeline`: none where the database refuses the unit, which it does when
it truncates the timestamp of a selected event. -/
def getTimeline (table : AttackEvents) (since : Option DateTime) (untilTime : DateTime)
    (intervalMinutes : Int) : Option (List TimelineRow) :=
  let selected := inRange table since untilTime
  match truncUnit intervalMinutes with
  | some unit => some (timelineRows unit selected)
  | none => if selected.isEmpty then some [] else none

/-- The groups of `get_ip_counts`, either bound of whose period may be missing. -/
def ipGroups (table : AttackEvents) (since untilTime : Option DateTime) : List (Str × Nat) :=
  (groupBy AttackEventModel.sourceIp
    (table.rows.filter fun row =>
      whenGiven since (fun since => decide (since ≤ row.timestamp)) &&
        whenGiven untilTime fun bound => decide (row.timestamp ≤ bound))).map
    fun group => (group.1, group.2.length)

/-- `get_ip_counts` as the database may return it. -/
abbrev IpCounts (table : AttackEvents) (since untilTime : Option DateTime) :=
  { sorted : List (Str × Nat) // Ordered Prod.snd (ipGroups table since untilTime) sorted }

/-- The groups of `count_by_attack_type`. -/
def attackTypeGroups (table : AttackEvents) (since : Option DateTime) (untilTime : DateTime) :
    List (Option Str × Nat) :=
  (groupBy AttackEventModel.attackType
    ((inRange table since untilTime).filter fun row => row.attackType.isSome)).map
    fun group => (group.1, group.2.length)

/-- `count_by_attack_type` as the database may return it. -/
abbrev AttackTypeCounts (table : AttackEvents) (since : Option DateTime) (untilTime : DateTime) :=
  { sorted : List (Option Str × Nat) //
    Ordered Prod.snd (attackTypeGroups table since untilTime) sorted }

/-- `count_by_severity`. -/
def countBySeverity (table : AttackEvents) (since : Option DateTime) (untilTime : DateTime) :
    List (Option Str × Nat) :=
  (groupBy AttackEventModel.severity
    ((inRange table since untilTime).filter fun row => row.severity.isSome)).map
    fun group => (group.1, group.2.length)

/-- `CountryCount`. -/
structure CountryCount where
  countryCode : Str
  count : Nat

/-- The country code of a location, or `UNKNOWN_COUNTRY`. -/
def countryKey (location : GeoLocation) : Str :=
  match location.isResolved, location.countryCode with
  | true, some code => code
  | _, _ => literal "UNKNOWN"

section Countries

variable (ipAddress : Str → Option IPAddress)

/-- The loop of `CountryAggregator.aggregate`. -/
def countryTotals (resolver : GeoIPResolver) (totals : OrderedDict Str Nat) :
    List (Str × Nat) → OrderedDict Str Nat
  | [] => totals
  | (ip, count) :: rest =>
    let (resolver, location) := resolver.resolve ipAddress (some ip)
    let key := countryKey location
    countryTotals resolver (totals.setItem key ((totals.get key).getD 0 + count)) rest

/-- `items[:stop]`. -/
def sliceTo {α : Type} (items : List α) (stop : Int) : List α :=
  if 0 ≤ stop then items.take stop.toNat else items.take (items.length - (-stop).toNat)

/-- `CountryAggregator.aggregate`. -/
def aggregate (ipCounts : List (Str × Nat)) (resolver : GeoIPResolver) (maxCountries : Int) :
    List CountryCount :=
  let totals := countryTotals ipAddress resolver .empty ipCounts
  let counts := totals.items.map fun item => { countryCode := item.1, count := item.2 }
  let sorted := counts.insertionSort fun (first second : CountryCount) =>
    second.count < first.count ∨
      (first.count = second.count ∧ first.countryCode ≤ second.countryCode)
  sliceTo sorted maxCountries

/-- No count is lost on the way to a country: every entry is added to exactly one
key, whatever the resolver says of it. -/
theorem sum_countryTotals (resolver : GeoIPResolver) (totals : OrderedDict Str Nat)
    (ipCounts : List (Str × Nat)) :
    ((countryTotals ipAddress resolver totals ipCounts).items.map Prod.snd).sum =
      (totals.items.map Prod.snd).sum + (ipCounts.map Prod.snd).sum := by
  induction ipCounts generalizing resolver totals with
  | nil => simp [countryTotals]
  | cons entry rest inductionHypothesis =>
    obtain ⟨ip, count⟩ := entry
    rw [countryTotals, inductionHypothesis]
    have added := totals.sum_setItem (countryKey (resolver.resolve ipAddress (some ip)).2)
      ((totals.get (countryKey (resolver.resolve ipAddress (some ip)).2)).getD 0 + count)
    simp only [List.map_cons, List.sum_cons]
    omega

/-- What is returned adds up to what was put in, unless countries are cut off. The
order of the results does not matter to their sum. -/
theorem sum_aggregate (ipCounts : List (Str × Nat)) (resolver : GeoIPResolver)
    (maxCountries : Int)
    (few : ((countryTotals ipAddress resolver .empty ipCounts).items.length : Int) ≤
      maxCountries) :
    ((aggregate ipAddress ipCounts resolver maxCountries).map CountryCount.count).sum =
      (ipCounts.map Prod.snd).sum := by
  have counts := sum_countryTotals ipAddress resolver .empty ipCounts
  rw [OrderedDict.empty_items, List.map_nil, List.sum_nil, Nat.zero_add] at counts
  rw [← counts]
  simp only [aggregate]
  generalize (countryTotals ipAddress resolver .empty ipCounts).items = items at *
  have whole {α : Type} (items : List α) (length : (items.length : Int) ≤ maxCountries) :
      sliceTo items maxCountries = items := by
    rw [sliceTo, if_pos (by omega), List.take_of_length_le (by omega)]
  rw [whole]
  · rw [((List.perm_insertionSort _ _).map CountryCount.count).sum_eq, List.map_map]
    rfl
  · rw [List.length_insertionSort, List.length_map]
    exact few

end Countries

/-- A table as the worker and the backfill leave it: events over the two
protocols, with both an attack type and a severity or neither. -/
structure ObservedEvents where
  table : AttackEvents
  protocols : ∀ row ∈ table.rows, row.protocol = literal "ssh" ∨ row.protocol = literal "http"
  classified : ∀ row ∈ table.rows, row.attackType.isSome = row.severity.isSome

/-- The counts of a grouping add up to the rows it was given. -/
theorem sum_counts {Key : Type} [DecidableEq Key] (key : AttackEventModel → Key)
    (rows : List AttackEventModel) :
    (((groupBy key rows).map fun group => (group.1, group.2.length)).map Prod.snd).sum =
      rows.length := by
  rw [List.map_map]
  exact sum_groupBy key rows

/-- Events over two protocols are those over the one and those over the other, so
the two counts of the summary add up to its total. -/
theorem protocols_split (rows : List AttackEventModel)
    (protocols : ∀ row ∈ rows, row.protocol = literal "ssh" ∨ row.protocol = literal "http") :
    (rows.filter fun row => decide (row.protocol = literal "ssh")).length +
        (rows.filter fun row => decide (row.protocol = literal "http")).length = rows.length := by
  have apart : literal "ssh" ≠ literal "http" := by decide
  induction rows with
  | nil => rfl
  | cons row rest inductionHypothesis =>
    have counted := inductionHypothesis fun other member =>
      protocols other (List.mem_cons_of_mem _ member)
    rcases protocols row (List.mem_cons_self ..) with ssh | http
    · simp only [List.filter_cons, ssh, apart, decide_true, decide_false, if_true, if_false,
        List.length_cons, Bool.false_eq_true]
      omega
    · simp only [List.filter_cons, http, apart.symm, decide_true, decide_false, if_true, if_false,
        List.length_cons, Bool.false_eq_true]
      omega

/-- With an upper bound, `get_ip_counts` selects the events of the other queries,
although it builds its conditions on its own. -/
theorem ipGroups_eq (table : AttackEvents) (since : Option DateTime) (untilTime : DateTime) :
    ipGroups table since (some untilTime) =
      (groupBy AttackEventModel.sourceIp (inRange table since untilTime)).map
        fun group => (group.1, group.2.length) := by
  have same : (table.rows.filter fun row =>
      whenGiven since (fun since => decide (since ≤ row.timestamp)) &&
        whenGiven (some untilTime) fun bound => decide (row.timestamp ≤ bound)) =
      inRange table since untilTime := by
    rw [inRange]
    apply List.filter_congr
    intro row _
    -- rewriting keeps the kernel from comparing the dates of the two sides
    rw [Bool.and_comm, whenGiven_some]
    congr 1
    cases since with
    | none => exact whenGiven_none _
    | some since => exact whenGiven_some since fun since => decide (since ≤ row.timestamp)
  rw [ipGroups, same]

/-- The counts of the addresses add up to the selected events. -/
theorem sum_ipCounts {table : AttackEvents} {since : Option DateTime} {untilTime : DateTime}
    (counts : IpCounts table since (some untilTime)) :
    (counts.val.map Prod.snd).sum = (inRange table since untilTime).length := by
  rw [(counts.property.perm.map Prod.snd).sum_eq, ipGroups_eq]
  exact sum_counts AttackEventModel.sourceIp _

/-- One count for each address. -/
theorem length_ipCounts {table : AttackEvents} {since : Option DateTime} {untilTime : DateTime}
    (counts : IpCounts table since (some untilTime)) :
    counts.val.length = (getSummary table since untilTime).uniqueIps := by
  rw [counts.property.perm.length_eq, ipGroups_eq, List.length_map, groupBy, List.length_map]
  rfl

/-- A ranking that leaves out no address adds up to the selected events, since every
one of them is in the group of its address. -/
theorem sum_topIps {table : AttackEvents} {since : Option DateTime} {untilTime : DateTime}
    (top : TopIps table since untilTime) (limit : Nat)
    (enough : (getSummary table since untilTime).uniqueIps ≤ limit) :
    ((getTopIps top.val limit).map IpRow.total).sum = (inRange table since untilTime).length := by
  have all : top.val.length ≤ limit := by
    rw [top.property.perm.length_eq, grouped, List.length_map]
    exact enough
  rw [getTopIps, List.take_of_length_le all, (top.property.perm.map IpRow.total).sum_eq, grouped,
    List.map_map]
  have groups := sum_groupBy AttackEventModel.sourceIp (inRange table since untilTime)
  rw [groupBy, List.map_map] at groups
  exact groups

/-- Beyond a quarter of an hour the database knows the unit of the buckets; up to it
the function makes up a name for a unit or takes minutes. -/
theorem truncUnit_isSome {intervalMinutes : Int} (long : 15 < intervalMinutes) :
    ∃ unit, truncUnit intervalMinutes = some unit := by
  unfold truncUnit
  split
  · exact ⟨_, rfl⟩
  · rw [if_neg (by omega), if_neg (by omega)]
    exact ⟨_, rfl⟩

/-- The buckets of a timeline add up to the selected events, and in each of them
the two protocols add up to its total. -/
theorem getTimeline_adds_up {table : AttackEvents} {since : Option DateTime}
    {untilTime : DateTime}
    (protocols : ∀ row ∈ inRange table since untilTime,
      row.protocol = literal "ssh" ∨ row.protocol = literal "http")
    {intervalMinutes : Int} (long : 15 < intervalMinutes) :
    ∃ rows, getTimeline table since untilTime intervalMinutes = some rows ∧
      (rows.map TimelineRow.total).sum = (inRange table since untilTime).length ∧
      ∀ row ∈ rows, row.ssh + row.http = row.total := by
  obtain ⟨unit, chosen⟩ := truncUnit_isSome long
  refine ⟨timelineRows unit (inRange table since untilTime), by rw [getTimeline, chosen], ?_, ?_⟩
  · rw [timelineRows, ((List.perm_insertionSort _ _).map TimelineRow.total).sum_eq, List.map_map]
    exact sum_groupBy (fun row : AttackEventModel => dateTrunc unit row.timestamp) _
  · intro row member
    obtain ⟨bucket, grouped, rfl⟩ := List.mem_map.mp ((List.mem_insertionSort _).mp member)
    apply protocols_split
    intro event inside
    rw [mem_groupBy grouped] at inside
    exact protocols event (List.mem_of_mem_filter inside)

/-- The attack types add up to the events that have one. -/
theorem sum_attackTypes {table : AttackEvents} {since : Option DateTime} {untilTime : DateTime}
    (types : AttackTypeCounts table since untilTime) :
    (types.val.map Prod.snd).sum =
      ((inRange table since untilTime).filter fun row => row.attackType.isSome).length := by
  rw [(types.property.perm.map Prod.snd).sum_eq, attackTypeGroups, sum_counts]

/-- For every table, every period, and every order in which the database returns
ties: the counts of the addresses, the buckets of the timeline by the hour or by
the month, and the ranking of enough addresses add up to the total of the
summary; so do the two protocols, over all and in every bucket. The addresses
are as many as the summary says. Attack types and severities add up to the same
number, which is at most the total. The countries add up to the total unless some
are cut off. -/
theorem aggregates_agree (observed : ObservedEvents) (since : Option DateTime)
    (untilTime : DateTime) (counts : IpCounts observed.table since (some untilTime))
    (top : TopIps observed.table since untilTime)
    (types : AttackTypeCounts observed.table since untilTime)
    (ipAddress : Str → Option IPAddress) (resolver : GeoIPResolver) :
    let summary := getSummary observed.table since untilTime
    (counts.val.map Prod.snd).sum = summary.total ∧
      counts.val.length = summary.uniqueIps ∧
      (∀ limit, summary.uniqueIps ≤ limit →
        ((getTopIps top.val limit).map IpRow.total).sum = summary.total) ∧
      (∀ intervalMinutes, 15 < intervalMinutes →
        ∃ rows, getTimeline observed.table since untilTime intervalMinutes = some rows ∧
          (rows.map TimelineRow.total).sum = summary.total ∧
          ∀ row ∈ rows, row.ssh + row.http = row.total) ∧
      summary.sshAttempts + summary.httpAttacks = summary.total ∧
      (types.val.map Prod.snd).sum =
        ((countBySeverity observed.table since untilTime).map Prod.snd).sum ∧
      (types.val.map Prod.snd).sum ≤ summary.total ∧
      ∀ maxCountries,
        ((countryTotals ipAddress resolver .empty counts.val).items.length : Int) ≤
          maxCountries →
        ((aggregate ipAddress counts.val resolver maxCountries).map CountryCount.count).sum =
          summary.total := by
  intro summary
  have known : ∀ row ∈ inRange observed.table since untilTime, row ∈ observed.table.rows :=
    fun row member => List.mem_of_mem_filter member
  have protocols : ∀ row ∈ inRange observed.table since untilTime,
      row.protocol = literal "ssh" ∨ row.protocol = literal "http" :=
    fun row member => observed.protocols row (known row member)
  refine ⟨sum_ipCounts counts, length_ipCounts counts, sum_topIps top, ?_,
    protocols_split _ protocols, ?_, ?_, ?_⟩
  · intro intervalMinutes long
    exact getTimeline_adds_up protocols long
  · rw [sum_attackTypes, countBySeverity, sum_counts]
    congr 1
    apply List.filter_congr
    intro row member
    exact observed.classified row (known row member)
  · rw [sum_attackTypes]
    exact List.length_filter_le _ _
  · intro maxCountries few
    rw [sum_aggregate ipAddress counts.val resolver maxCountries few]
    exact sum_ipCounts counts

/-- The event before the worker or a backfill has classified it. -/
def unseen (row : AttackEventModel) : AttackEventModel :=
  { row with attackType := none, severity := none }

/-- The event over HTTP. -/
def overHttp (row : AttackEventModel) : AttackEventModel :=
  { row with
    destinationPort := 8080
    protocol := literal "http"
    eventType := literal "http_request" }

/-- Events of two addresses over both protocols, of each protocol one that is
classified and one that is not, and an event in the evening. -/
def mixedEvents : ObservedEvents where
  table :=
    { rows :=
        [sighting (numbered 0) (hourOf 9) (literal "10.0.0.1") .bruteForce .high,
          unseen (sighting (numbered 1) (hourOf 9) (literal "10.0.0.2") .bruteForce .high),
          overHttp (sighting (numbered 2) (hourOf 10) (literal "10.0.0.2") .commandInjection .high),
          unseen (overHttp
            (sighting (numbered 3) (hourOf 11) (literal "10.0.0.2") .bruteForce .high)),
          sighting (numbered 4) (hourOf 18) (literal "10.0.0.1") .bruteForce .high]
      distinct := by decide }
  protocols := by simp [sighting, unseen, overHttp]
  classified := by simp [sighting, unseen, overHttp]

/-- Until noon there are four events of two addresses, two over each protocol,
and two of the four have an attack type and a severity. -/
theorem aggregates_agree_mixed :
    let table := mixedEvents.table
    let counts := arrange Prod.snd (ipGroups table none (some (atHour 12)))
    let summary := getSummary table none (atHour 12)
    [summary.total, summary.uniqueIps, summary.sshAttempts, summary.httpAttacks] = [4, 2, 2, 2] ∧
      (counts.map Prod.snd).sum = summary.total ∧
      counts.length = summary.uniqueIps ∧
      ((getTopIps (arrange IpRow.total (grouped (inRange table none (atHour 12)))) 2).map
        IpRow.total).sum = summary.total ∧
      (∃ rows, getTimeline table none (atHour 12) 60 = some rows ∧
        (rows.map TimelineRow.total).sum = summary.total ∧
        ∀ row ∈ rows, row.ssh + row.http = row.total) ∧
      ((arrange Prod.snd (attackTypeGroups table none (atHour 12))).map Prod.snd).sum = 2 ∧
      ((countBySeverity table none (atHour 12)).map Prod.snd).sum = 2 ∧
      ((aggregate (fun _ => some { isPrivate := true }) counts (.load (fun _ => none) 10) 10).map
        CountryCount.count).sum = summary.total := by
  intro table counts summary
  obtain ⟨addresses, several, ranked, bucketed, -, classified, -, countries⟩ :=
    aggregates_agree mixedEvents none (atHour 12) ⟨_, arrange_ordered _ _⟩ ⟨_, arrange_ordered _ _⟩
      ⟨_, arrange_ordered _ _⟩ (fun _ => some { isPrivate := true }) (.load (fun _ => none) 10)
  have two : ((countBySeverity table none (atHour 12)).map Prod.snd).sum = 2 := by decide +kernel
  refine ⟨by decide +kernel, addresses, several, ranked 2 (by decide +kernel),
    bucketed 60 (by decide), classified.trans two, two, countries 10 (by decide +kernel)⟩

end Honeywatch.Api
