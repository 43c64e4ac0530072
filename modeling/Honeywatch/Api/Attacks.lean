import Honeywatch.Db.Models
import Honeywatch.Foundation.OrderBy
import Mathlib.Data.List.Perm.Subperm

/-!
# The event list

`AttackEventRepository.list_events` and the route over it. The matching events
are counted by one query and a page of them is cut from another, which sorts by
timestamp only. Events with equal timestamps come in any order, and each request
makes its queries anew, so the order may differ from page to page.
-/

namespace Honeywatch.Api

open Text Json Collector Db OrderBy

/-- The filters of the event list. -/
structure EventFilter where
  protocol : Option Str := none
  sourceIp : Option Str := none
  since : Option DateTime := none
  untilTime : Option DateTime := none

/-- A condition that a filter adds when it is given. -/
def whenGiven {α : Type} (given : Option α) (condition : α → Bool) : Bool :=
  match given with
  | none => true
  | some value => condition value

/-- A filter that is not given lets everything through, -/
theorem whenGiven_none {α : Type} (condition : α → Bool) :
    whenGiven none condition = true := rfl

/-- and one that is given decides. -/
theorem whenGiven_some {α : Type} (value : α) (condition : α → Bool) :
    whenGiven (some value) condition = condition value := rfl

/-- The condition binds the value that is given, and where none is given it binds
nothing. -/
theorem whenGiven_iff {α : Type} (given : Option α) (condition : α → Prop)
    [DecidablePred condition] :
    whenGiven given (fun value => decide (condition value)) = true ↔
      ∀ value, given = some value → condition value := by
  cases given with
  | none => simp [whenGiven]
  | some value => simp [whenGiven]

/-- The conditions of `list_events`. -/
def EventFilter.accepts (filter : EventFilter) (row : AttackEventModel) : Bool :=
  whenGiven filter.protocol (fun protocol => decide (row.protocol = protocol)) &&
    whenGiven filter.sourceIp (fun sourceIp => decide (row.sourceIp = sourceIp)) &&
    whenGiven filter.since (fun since => decide (since ≤ row.timestamp)) &&
    whenGiven filter.untilTime (fun bound => decide (row.timestamp ≤ bound))

/-- The events that match the filters. -/
def matching (table : AttackEvents) (filter : EventFilter) : List AttackEventModel :=
  table.rows.filter filter.accepts

/-- `per_page` as the route accepts it. -/
abbrev PerPage := { perPage : Nat // 1 ≤ perPage ∧ perPage ≤ 100 }

/-- `AttackEventRepository.list_events`, given the order in which the database
returns the sorted events: the events of the page, and the number of all. -/
def listEvents (table : AttackEvents) (filter : EventFilter) (page perPage : Nat)
    (sorted : List AttackEventModel) : List AttackEventModel × Nat :=
  let total := (matching table filter).length
  let offset := (page - 1) * perPage
  ((sorted.drop offset).take perPage, total)

/-- An event as the route returns it. -/
structure EventData where
  id : List Char
  timestamp : List Char
  sourceIp : Str
  sourcePort : Int
  destinationPort : Int
  protocol : Str
  eventType : Str
  rawData : Dict

def eventData (event : AttackEventModel) : EventData :=
  { id := printUuid event.id
    timestamp := event.timestamp.isoformat
    sourceIp := event.sourceIp
    sourcePort := event.sourcePort
    destinationPort := event.destinationPort
    protocol := event.protocol
    eventType := event.eventType
    rawData := event.rawData }

/-- The answer of the route. -/
structure EventList where
  events : List EventData
  page : Nat
  perPage : Nat
  total : Nat
  totalPages : Nat

/-- The route `list_events`. -/
def listEventsRoute (table : AttackEvents) (filter : EventFilter) (page : Nat)
    (perPage : PerPage) (sorted : List AttackEventModel) : EventList :=
  let (events, total) := listEvents table filter page perPage sorted
  { events := events.map eventData
    page
    perPage
    total
    totalPages := (total + perPage - 1) / perPage }

/-- The events that a reader of the pages `1..total_pages` is given, where the
database may sort anew for each page. -/
def readPages (table : AttackEvents) (filter : EventFilter) (perPage : PerPage)
    (sorted : Nat → List AttackEventModel) : List EventData :=
  let totalPages := (listEventsRoute table filter 1 perPage (sorted 1)).totalPages
  (List.range totalPages).flatMap fun number =>
    (listEventsRoute table filter (number + 1) perPage (sorted (number + 1))).events

/-- The pages are cut one after the other. -/
theorem readPages_eq (table : AttackEvents) (filter : EventFilter) (perPage : PerPage)
    (sorted : Nat → List AttackEventModel) :
    readPages table filter perPage sorted =
      (pages perPage (fun number => sorted (number + 1))
        (((matching table filter).length + perPage - 1) / perPage)).map eventData := by
  simp [readPages, listEventsRoute, listEvents, pages, page, List.map_flatMap]

/-- The pages have room for all events, as the division rounds up. -/
theorem totalPages_covers (total : Nat) (perPage : PerPage) :
    total ≤ (total + perPage - 1) / perPage * perPage := by
  obtain ⟨size, positive, _⟩ := perPage
  have rest := Nat.mod_lt (total + size - 1) positive
  have whole := Nat.div_add_mod (total + size - 1) size
  rw [Nat.mul_comm] at whole
  simp only
  omega

/-- Two identifiers with one text are the same, for the text can be read back. -/
theorem printUuid_injective : Function.Injective printUuid := by
  intro left right same
  have parsed := congrArg parseUuid same
  simpa only [parseUuid_print, Option.some.injEq] using parsed

/-- Rows of the table are the matching events, each once, when what is returned
of them is. -/
theorem perm_of_eventData (table : AttackEvents) (filter : EventFilter)
    (rows : List AttackEventModel) (known : rows ⊆ matching table filter)
    (same : (rows.map eventData).Perm ((matching table filter).map eventData)) :
    rows.Perm (matching table filter) := by
  have ids : (rows.map AttackEventModel.id).Perm
      ((matching table filter).map AttackEventModel.id) := by
    have printed := same.map EventData.id
    simp only [List.map_map] at printed
    have composed : EventData.id ∘ eventData = printUuid ∘ AttackEventModel.id := rfl
    rw [composed, ← List.map_map, ← List.map_map] at printed
    exact (List.map_perm_map_iff printUuid_injective).mp printed
  have distinct : (rows.map AttackEventModel.id).Nodup := by
    refine ids.nodup_iff.mpr (table.distinct.sublist ?_)
    exact List.Sublist.map _ List.filter_sublist
  refine (List.subperm_of_subset (List.Nodup.of_map _ distinct) known).perm_of_length_le ?_
  simpa using ids.length_eq.ge

/-- For every table, every filters and every page size, the pages give each
matching event exactly once and nothing else, in whatever order the database
returns events with equal timestamps, exactly when at no end of a page the
matching events, sorted by timestamp, have the same timestamp on both sides. -/
theorem paging_complete_iff (table : AttackEvents) (filter : EventFilter) (perPage : PerPage) :
    (∀ sorted : Nat → List AttackEventModel,
        (∀ page, Ordered AttackEventModel.timestamp (matching table filter) (sorted page)) →
        (readPages table filter perPage sorted).Perm ((matching table filter).map eventData)) ↔
      ∀ page, 0 < page → page * perPage < (matching table filter).length →
        Separates AttackEventModel.timestamp (matching table filter) (page * perPage) := by
  rw [← pages_perm_iff AttackEventModel.timestamp (matching table filter) (table.nodup.filter _)
    perPage _ (totalPages_covers _ perPage)]
  constructor
  · intro complete results ordered
    have returned := complete (fun number => results (number - 1)) fun number => ordered _
    rw [readPages_eq] at returned
    simp only [Nat.add_sub_cancel] at returned
    refine perm_of_eventData table filter _ ?_ returned
    intro row member
    obtain ⟨number, _, cut⟩ := List.mem_flatMap.mp member
    exact (ordered number).perm.subset (List.mem_of_mem_drop (List.mem_of_mem_take cut))
  · intro complete sorted ordered
    rw [readPages_eq]
    exact (complete _ fun number => ordered (number + 1)).map eventData

/-- An event of a burst: all of them at one moment. -/
def burst (id : Uuid) : AttackEventModel :=
  { id
    timestamp := someStamp.timestamp
    sourceIp := literal "10.0.0.1"
    sourcePort := 4000
    destinationPort := 22
    protocol := literal "ssh"
    eventType := literal "ssh_login_attempt"
    rawData := [] }

/-- Two events at one moment. -/
def twins : AttackEvents :=
  { rows := [burst (numbered 0), burst (numbered 1)], distinct := by decide }

/-- They are sorted one way for the first page and the other way afterwards. -/
def twinsSorted (page : Nat) : List AttackEventModel :=
  if page = 1 then [burst (numbered 0), burst (numbered 1)]
  else [burst (numbered 1), burst (numbered 0)]

/-- With one event on a page, the first event is on both pages and the second
event on none. -/
theorem tied_events_skipped :
    (∀ page, Ordered AttackEventModel.timestamp (matching twins {}) (twinsSorted page)) ∧
      (readPages twins {} ⟨1, by decide⟩ twinsSorted).map EventData.id =
        [printUuid (numbered 0), printUuid (numbered 0)] ∧
      ¬ (readPages twins {} ⟨1, by decide⟩ twinsSorted).Perm
        ((matching twins {}).map eventData) := by
  have seen : (readPages twins {} ⟨1, by decide⟩ twinsSorted).map EventData.id =
      [printUuid (numbered 0), printUuid (numbered 0)] := by decide +kernel
  refine ⟨?_, seen, ?_⟩
  · intro page
    have all : matching twins {} = [burst (numbered 0), burst (numbered 1)] := rfl
    unfold twinsSorted
    split
    · exact ⟨by rw [all], by simp [burst]⟩
    · exact ⟨by rw [all]; exact List.Perm.swap _ _ [], by simp [burst]⟩
  · intro complete
    have ids := complete.map EventData.id
    rw [seen] at ids
    have distinct : (((matching twins {}).map eventData).map EventData.id).Nodup := by
      decide +kernel
    exact absurd (ids.nodup_iff.mpr distinct) (by simp)

end Honeywatch.Api
