import Honeywatch.Api.RiskRanking
import Honeywatch.Api.Attacks

/-!
# Reading the event list while events arrive

A reader fetches the pages one after the other until the page is not below the
number of pages of its own response, and events are inserted between the
requests. The list shows the latest events first, so an insertion can only push
an event to a later place. What was before the reader stays before the reader,
and the reader stops only when there is nothing before it. An event may be
returned twice.
-/

namespace Honeywatch.Api

open Text Collector Db OrderBy

/-- A reader of the event list: the table and the sorted events at the request
of each page, from page one on, and the last page that is fetched. -/
structure Reading (filter : EventFilter) (perPage : PerPage) where
  tables : Nat → AttackEvents
  sorted : Nat → List AttackEventModel
  last : Nat
  inserted : ∀ page, ∃ rows, (tables (page + 1)).rows = (tables page).rows ++ rows
  apart : ∀ page, ((tables page).rows.map AttackEventModel.timestamp).Nodup
  ordered : ∀ page,
    Ordered AttackEventModel.timestamp (matching (tables page) filter) (sorted page)
  started : 1 ≤ last
  continued : ∀ page, 1 ≤ page → page < last →
    page < (listEventsRoute (tables page) filter page perPage (sorted page)).totalPages
  stopped : (listEventsRoute (tables last) filter last perPage (sorted last)).totalPages ≤ last

section Reader

variable {filter : EventFilter} {perPage : PerPage}

/-- The response to the request of a page. -/
def Reading.response (reading : Reading filter perPage) (page : Nat) : EventList :=
  listEventsRoute (reading.tables page) filter page perPage (reading.sorted page)

/-- The place of an event in the list at the request of a page. -/
def Reading.place (reading : Reading filter perPage) (page : Nat) (event : AttackEventModel) :
    Nat :=
  rank AttackEventModel.timestamp (matching (reading.tables page) filter) event

/-- Insertions keep the matching events in the list. -/
theorem Reading.matching_sublist (reading : Reading filter perPage) (page : Nat) :
    (matching (reading.tables page) filter).Sublist
      (matching (reading.tables (page + 1)) filter) := by
  obtain ⟨rows, grown⟩ := reading.inserted page
  rw [matching, matching, grown]
  exact (List.sublist_append_left _ _).filter _

/-- An event of the first request is in the list at every later one, as rows are
only added and the filter stays. -/
theorem Reading.still_matching (reading : Reading filter perPage) {event : AttackEventModel}
    (member : event ∈ matching (reading.tables 1) filter) (page : Nat) :
    event ∈ matching (reading.tables (page + 1)) filter := by
  induction page with
  | zero => exact member
  | succ page inductionHypothesis =>
    exact (reading.matching_sublist (page + 1)).subset inductionHypothesis

/-- The event whose place is on a page is in the response. The place is the one
among the sorted events at the request of this page. -/
theorem Reading.returned (reading : Reading filter perPage) {event : AttackEventModel} (page : Nat)
    (member : event ∈ matching (reading.tables (page + 1)) filter)
    (begun : page * perPage ≤ reading.place (page + 1) event)
    (ends : reading.place (page + 1) event < (page + 1) * perPage) :
    eventData event ∈ (reading.response (page + 1)).events := by
  have distinct : ((matching (reading.tables (page + 1)) filter).map
      AttackEventModel.timestamp).Nodup :=
    (reading.apart (page + 1)).sublist (List.filter_sublist.map _)
  have cut := (reading.ordered (page + 1)).mem_page distinct member perPage page begun ends
  exact List.mem_map_of_mem cut

/-- What has not been returned is still before the reader. Events are only added
between two pages, so the place of an event never moves back over a border. -/
theorem Reading.returned_or_ahead (reading : Reading filter perPage) {event : AttackEventModel}
    (member : event ∈ matching (reading.tables 1) filter) (page : Nat) :
    (∃ fetched, 1 ≤ fetched ∧ fetched ≤ page ∧
        eventData event ∈ (reading.response fetched).events) ∨
      page * perPage ≤ reading.place (page + 1) event := by
  induction page with
  | zero => exact .inr (by simp)
  | succ page inductionHypothesis =>
    rcases inductionHypothesis with ⟨fetched, first, before, returned⟩ | ahead
    · exact .inl ⟨fetched, first, Nat.le_succ_of_le before, returned⟩
    · by_cases on_page : reading.place (page + 1) event < (page + 1) * perPage
      · have returned := reading.returned page (reading.still_matching member page) ahead on_page
        exact .inl ⟨page + 1, Nat.succ_pos page, Nat.le_refl _, returned⟩
      · -- the insertions before the next request push the event further away
        have pushed : reading.place (page + 1) event ≤ reading.place (page + 2) event :=
          rank_mono _ (reading.matching_sublist (page + 1)) event
        exact .inr ((Nat.le_of_not_lt on_page).trans pushed)

end Reader

/-- An event of the given hour. -/
def hourly (hour : Nat) : AttackEventModel :=
  sighting (numbered hour) ⟨hour % 24, Nat.mod_lt _ (by decide)⟩ (address 1) .suspiciousRequest .low

/-- The events of two hours. -/
def twoHours : AttackEvents := { rows := [hourly 1, hourly 2], distinct := by decide }

/-- One hour later. -/
def threeHours : AttackEvents :=
  { rows := [hourly 1, hourly 2, hourly 3], distinct := by decide }

/-- The slow reader goes to its third page. -/
theorem slow_started : 1 ≤ 3 := by decide

/-- A reader of one event a page, and an event between its first two requests:
the second event is returned twice, the first one on the third page. -/
def slowReading : Reading {} ⟨1, by decide⟩ where
  tables page := if page ≤ 1 then twoHours else threeHours
  sorted page :=
    if page ≤ 1 then [hourly 2, hourly 1] else [hourly 3, hourly 2, hourly 1]
  last := 3
  inserted := by
    intro page
    rcases page with _ | _ | page
    · exact ⟨[], rfl⟩
    · exact ⟨[hourly 3], rfl⟩
    · exact ⟨[], rfl⟩
  apart := by
    intro page
    split
    · decide +kernel
    · decide +kernel
  ordered := by
    intro page
    split
    · exact ⟨List.Perm.swap _ _ _, by decide +kernel⟩
    · refine ⟨?_, by decide +kernel⟩
      exact (List.reverse_perm [hourly 1, hourly 2, hourly 3])
  started := slow_started
  continued := by
    intro page first before
    rcases page with _ | _ | _ | page
    · cases first
    · decide +kernel
    · decide +kernel
    · omega
  stopped := by decide +kernel

end Honeywatch.Api
