import Honeywatch.Frontend.Paging

/-!
# Clicking through the event list

Insertions only push events to later places, and a button never leads more than one page
beyond the furthest page that has been listed. So what has not been shown is still ahead
of the reader, whatever comes in between. Once the right button is disabled nothing is
ahead, save for what insertions have pushed out of the last page between its two queries.
-/

namespace Honeywatch.Frontend.Paging

open Text Effects Transition Collector Api Db OrderBy
open EventList (EventsResponse Deps Call Request)

variable {validation : Validation} {state next : State}

/-- The place of an event in the list of a filter. -/
def State.place (state : State) (filter : EventFilter) (event : AttackEventModel) : Nat :=
  rank AttackEventModel.timestamp (matching state.table filter) event

/-- Events that matched when the filters were chosen are among those shown, or still have
so many others before them. -/
def State.Ahead (state : State) (filter : EventFilter) (shown : List EventData)
    (places : Nat) : Prop :=
  ∀ event ∈ matching state.chosen filter,
    eventData event ∈ shown ∨ places ≤ state.place filter event

/-- All events that matched when the filters were chosen are among those shown, but for
at most so many. -/
def State.Complete (state : State) (filter : EventFilter) (shown : List EventData)
    (between : Nat) : Prop :=
  ∃ missed : List AttackEventModel, missed.length ≤ between ∧
    ∀ event ∈ matching state.chosen filter, eventData event ∈ shown ∨ event ∈ missed

/-- What a response for the current filters adds to what has been shown. -/
structure Carries (validation : Validation) (state : State)
    (response : EventsResponse EventData Pagination) (between page : Nat) : Prop where
  echoed : response.pagination.page = page
  ahead : ∀ filter, filterOf validation state.client.filters.contents = some filter →
    state.Ahead filter (state.seen ++ response.events) (page * 50)
  complete : ∀ filter, filterOf validation state.client.filters.contents = some filter →
    response.pagination.totalPages ≤ page →
    state.Complete filter (state.seen ++ response.events) between

/-- The request of the last instance and its response, if it is one for the current
filters. -/
inductive Latest (validation : Validation) (state : State) : Prop
  | fresh (effect : state.client.effect = Effect.initial)
  | current (deps : Deps Nat Filters)
      (former : List (Instance (Request EventData Pagination)))
      (request : Request EventData Pagination)
      (latest : Current state.client.effect deps former request)
      (made : request.query =
        eventsQuery hook.text deps.page hook.perPage deps.filters.contents)
      (first : 1 ≤ deps.page) (known : deps.filters.number ≤ state.objects)
      (near : deps.filters = state.client.filters → deps.page ≤ state.furthest + 1)
      (counted : ∀ counted, state.counts former.length = some counted →
        readQuery validation request.query = some counted.arguments)
      (reply : deps.filters = state.client.filters → ∀ response between,
        state.replies former.length = some { answer := .success response, between } →
        Carries validation state response between deps.page)

/-- The reader has skipped nothing. -/
structure Thorough (validation : Validation) (state : State) : Prop where
  apart : (state.table.rows.map AttackEventModel.timestamp).Nodup
  grown : ∃ rows, state.table.rows = state.chosen.rows ++ rows
  readable : (filterOf validation state.client.filters.contents).isSome = true
  known : state.client.filters.number ≤ state.objects
  listedKnown : ∀ filters, state.listed = some filters → filters.number ≤ state.objects
  first : 1 ≤ state.client.page
  near : state.client.page ≤ state.furthest + 1
  listed : state.listed = some state.client.filters → ∀ pagination,
    state.client.pagination = some pagination → pagination.page ≤ state.furthest
  ahead : ∀ filter, filterOf validation state.client.filters.contents = some filter →
    state.Ahead filter state.seen (state.furthest * 50)
  complete : state.listed = some state.client.filters → ∀ pagination,
    state.client.pagination = some pagination → pagination.totalPages ≤ pagination.page →
    ∀ filter, filterOf validation state.client.filters.contents = some filter →
      state.Complete filter state.seen state.between
  accepted : ∀ entry ∈ state.client.effect.instances,
    (readQuery validation entry.work.query).isSome = true
  latest : Latest validation state

/-- At the start nothing is shown and nothing is ahead. What has to hold already is
that the timestamps of the table are apart. -/
theorem mount_thorough {table : AttackEvents}
    (apart : (table.rows.map AttackEventModel.timestamp).Nodup) :
    Thorough validation (mount table) where
  apart := apart
  grown := ⟨[], (List.append_nil _).symm⟩
  readable := rfl
  known := Nat.le_refl 0
  listedKnown := nofun
  first := Nat.le_refl 1
  near := Nat.le_refl 1
  listed := nofun
  ahead := fun _ _ _ _ => .inr (by simp [mount])
  complete := nofun
  accepted := nofun
  latest := .fresh rfl

/-! ## What goes on while the filters stay -/

/-- The filters stay, the table only grows, and what has been shown has been shown. -/
structure Onward (state next : State) : Prop where
  filters : next.client.filters = state.client.filters
  chosen : next.chosen = state.chosen
  grown : ∃ rows, next.table.rows = state.table.rows ++ rows
  seen : ∀ data ∈ state.seen, data ∈ next.seen
  furthest : state.furthest ≤ next.furthest
  objects : next.objects = state.objects

/-- What the reader's progress is about. -/
def State.progress (state : State) :
    Filters × AttackEvents × AttackEvents × List EventData × Nat × Nat :=
  (state.client.filters, state.chosen, state.table, state.seen, state.furthest, state.objects)

/-- None of it changes: a move that leaves the reader's progress as it is goes on in
every respect. -/
theorem onward_of_progress (same : next.progress = state.progress) : Onward state next := by
  simp only [State.progress, Prod.mk.injEq] at same
  obtain ⟨filters, chosen, table, seen, furthest, objects⟩ := same
  exact
    { filters
      chosen
      grown := ⟨[], by rw [table, List.append_nil]⟩
      seen := fun data shown => seen ▸ shown
      furthest := furthest.ge
      objects }

/-- What is shown stays shown, and what is ahead was ahead: an insertion only pushes
an event further on, never back over the border of what has been shown. -/
theorem Onward.ahead (onward : Onward state next) {filter : EventFilter}
    {shown later : List EventData}
    {places : Nat} (kept : ∀ data ∈ shown, data ∈ later)
    (ahead : state.Ahead filter shown places) : next.Ahead filter later places := by
  intro event member
  rw [onward.chosen] at member
  rcases ahead event member with inside | beyond
  · exact .inl (kept _ inside)
  · obtain ⟨rows, grown⟩ := onward.grown
    have sublist : (matching state.table filter).Sublist (matching next.table filter) := by
      rw [matching, matching, grown]
      exact (List.sublist_append_left _ _).filter _
    exact .inr (beyond.trans (rank_mono _ sublist event))

/-- A list that is complete but for a few late events stays so: the chosen table is
the same, and what was shown has been shown. -/
theorem Onward.complete (onward : Onward state next) {filter : EventFilter}
    {shown later : List EventData} {between : Nat} (kept : ∀ data ∈ shown, data ∈ later)
    (complete : state.Complete filter shown between) : next.Complete filter later between := by
  obtain ⟨missed, few, covered⟩ := complete
  refine ⟨missed, few, fun event member => ?_⟩
  rw [onward.chosen] at member
  exact (covered event member).imp_left (kept _)

/-- An answer that is under way carries as much after a move as it did before it.
The move may have added to what was seen, and that only helps. -/
theorem Onward.carries (onward : Onward state next)
    {response : EventsResponse EventData Pagination} {between page : Nat}
    (carries : Carries validation state response between page) :
    Carries validation next response between page := by
  have kept : ∀ data ∈ state.seen ++ response.events, data ∈ next.seen ++ response.events := by
    intro data member
    rcases List.mem_append.mp member with before | new
    · exact List.mem_append_left _ (onward.seen data before)
    · exact List.mem_append_right _ new
  refine { echoed := carries.echoed, ahead := ?_, complete := ?_ }
  · intro filter read
    rw [onward.filters] at read
    exact onward.ahead kept (carries.ahead filter read)
  · intro filter read last
    rw [onward.filters] at read
    exact onward.complete kept (carries.complete filter read last)

/-- The last instance is as before, and so is what is on its way to it. What is
known of both speaks of the table and of what has been shown, and these only grow.
-/
theorem Onward.latest (onward : Onward state next)
    (effect : next.client.effect = state.client.effect) (counts : next.counts = state.counts)
    (replies : next.replies = state.replies) (latest : Latest validation state) :
    Latest validation next := by
  cases latest with
  | fresh started => exact .fresh (effect.trans started)
  | current deps former request latest made first known near counted reply =>
    refine .current deps former request (effect ▸ latest) made first (onward.objects ▸ known) ?_
      (counts ▸ counted) ?_
    · intro same
      exact (near (same.trans onward.filters)).trans (Nat.succ_le_succ onward.furthest)
    · intro same response between served
      rw [replies] at served
      exact onward.carries (reply (same.trans onward.filters) response between served)

/-! ## Choosing filters and turning pages -/

/-- Filters that are chosen are new: what is listed and what is asked for is not
theirs. Nothing has been shown of them, so nothing of them can have been skipped. -/
theorem choose_thorough (thorough : Thorough validation state) {contents : EventListFilters}
    (readable : (filterOf validation contents).isSome = true) :
    Thorough validation (state.choose contents) := by
  have new {filters : Filters} (known : filters.number ≤ state.objects) :
      filters ≠ { number := state.objects + 1, contents } := by
    rintro rfl
    exact absurd known (by simp)
  exact
    { apart := thorough.apart
      grown := ⟨[], (List.append_nil _).symm⟩
      readable := readable
      known := Nat.le_refl _
      listedKnown := fun filters listed => Nat.le_succ_of_le (thorough.listedKnown filters listed)
      first := Nat.le_refl 1
      near := Nat.le_refl 1
      listed := fun listed => absurd rfl (new (thorough.listedKnown _ listed))
      ahead := fun _ _ _ _ => .inr (by simp [State.choose])
      complete := fun listed => absurd rfl (new (thorough.listedKnown _ listed))
      accepted := thorough.accepted
      latest := by
        cases thorough.latest with
        | fresh effect => exact .fresh effect
        | current deps former request latest made first known near counted reply =>
          exact .current deps former request latest made first (Nat.le_succ_of_le known)
            (fun same => absurd same (new known)) counted
            (fun same => absurd same (new known)) }

/-- A button leads to a page that is at most one further than any that was listed,
so between two listed pages none is left out. -/
theorem turn_thorough (thorough : Thorough validation state) {page : Nat} (first : 1 ≤ page)
    (near : page ≤ state.furthest + 1) :
    Thorough validation { state with client := Call.apply state.client (.setPage page) } := by
  have onward : Onward state { state with client := Call.apply state.client (.setPage page) } :=
    onward_of_progress rfl
  exact
    { thorough with
      first := first
      near := near
      latest := onward.latest rfl rfl rfl thorough.latest }

/-- The left button of the current list leads back, to a page that has been listed.
-/
theorem previous_thorough (thorough : Thorough validation state)
    (listed : state.listed = some state.client.filters)
    (taken : step validation state .previous = some next) : Thorough validation next := by
  obtain ⟨page, enabled, rfl⟩ := Option.map_eq_some_iff.mp taken
  obtain ⟨pagination, shown, back⟩ := Option.bind_eq_some_iff.mp enabled
  simp only [Pagination.previous, Option.ite_none_left_eq_some, Option.some.injEq] at back
  have reached := thorough.listed listed pagination shown
  exact turn_thorough thorough (by omega) (by omega)

/-- The right button of the current list leads to the page behind it, the furthest
that may be asked for. -/
theorem next_thorough (thorough : Thorough validation state)
    (listed : state.listed = some state.client.filters)
    (taken : step validation state .next = some next) : Thorough validation next := by
  obtain ⟨page, enabled, rfl⟩ := Option.map_eq_some_iff.mp taken
  obtain ⟨pagination, shown, forth⟩ := Option.bind_eq_some_iff.mp enabled
  simp only [Pagination.next, Option.ite_none_left_eq_some, Option.some.injEq] at forth
  have reached := thorough.listed listed pagination shown
  exact turn_thorough thorough (by omega) (by omega)

/-! ## Requests -/

/-- A request of the page is one that the route accepts. -/
theorem request_accepted {page : Nat} (first : 1 ≤ page) {contents : EventListFilters}
    (readable : (filterOf validation contents).isSome = true) :
    (readQuery validation (eventsQuery hook.text page hook.perPage contents)).isSome = true := by
  rw [readQuery_eventsQuery first, Option.isSome_map]
  exact readable

/-- A request is sent with the filters and the page of its time. If the page is the
next one in turn, its answer will carry on what is shown. -/
theorem effects_thorough (thorough : Thorough validation state) (unserved : state.Unserved)
    (taken : step validation state .effects = some next) : Thorough validation next := by
  obtain ⟨client, ran, rfl⟩ := Option.map_eq_some_iff.mp taken
  simp only [EventList.step, Option.ite_none_left_eq_some, Option.some.injEq] at ran
  obtain ⟨-, rfl⟩ := ran
  have accepted := request_accepted thorough.first thorough.readable
  have begun : state.client.effect = Effect.initial ∨
      ∃ deps former request, Current state.client.effect deps former request := by
    cases thorough.latest with
    | fresh started => exact .inl started
    | current deps former request latest => exact .inr ⟨deps, former, request, latest⟩
  obtain ⟨former, latest, works⟩ := exists_current_rerun begun (state.client.deps hook)
    ((state.client.deps hook).request hook)
  have length : former.length = state.client.effect.instances.length := by
    simpa using congrArg List.length works
  exact
    { thorough with
      accepted := by
        intro entry member
        rw [latest.instances] at member
        rcases List.mem_append.mp member with before | last
        · have work : entry.work ∈ state.client.effect.instances.map Instance.work :=
            works ▸ List.mem_map_of_mem before
          obtain ⟨other, known, same⟩ := List.mem_map.mp work
          exact same ▸ thorough.accepted other known
        · rw [List.mem_singleton.mp last]
          exact accepted
      latest := by
        obtain ⟨uncounted, unanswered⟩ := unserved former.length length.ge
        refine .current _ former _ latest rfl thorough.first thorough.known
          (fun _ => thorough.near) ?_ ?_
        · intro counted served
          rw [uncounted] at served
          cases served
        · intro _ response between served
          rw [unanswered] at served
          cases served }

/-! ## Insertions and responses -/

/-- A new event has a timestamp of its own, so it gets a place of its own in every
list. -/
theorem insert_thorough (thorough : Thorough validation state) {row : AttackEventModel}
    (new : row.timestamp ∉ state.table.rows.map AttackEventModel.timestamp)
    (taken : step validation state (.insert row) = some next) : Thorough validation next := by
  obtain ⟨table, inserted, rfl⟩ := Option.map_eq_some_iff.mp taken
  obtain ⟨rows, -⟩ := AttackEvents.insertRow_rows inserted
  have onward : Onward state { state with table } :=
    { filters := rfl
      chosen := rfl
      grown := ⟨[row], rows⟩
      seen := fun _ => id
      furthest := Nat.le_refl _
      objects := rfl }
  exact
    { thorough with
      apart := by
        rw [rows, List.map_append, List.map_singleton, ← List.concat_eq_append]
        exact thorough.apart.concat new
      grown := by
        obtain ⟨before, grown⟩ := thorough.grown
        exact ⟨before ++ [row], by rw [rows, grown, List.append_assoc]⟩
      ahead := fun filter read => onward.ahead (fun _ => id) (thorough.ahead filter read)
      complete := fun listed pagination shown last filter read =>
        onward.complete (fun _ => id) (thorough.complete listed pagination shown last filter read)
      latest := onward.latest rfl rfl rfl thorough.latest }

/-- The events that matched at first are in the list of every later table, as rows
are only added. -/
theorem Thorough.still_matching (thorough : Thorough validation state) {filter : EventFilter}
    {event : AttackEventModel} (member : event ∈ matching state.chosen filter) :
    event ∈ matching state.table filter := by
  obtain ⟨rows, grown⟩ := thorough.grown
  have sublist : (matching state.chosen filter).Sublist (matching state.table filter) := by
    rw [matching, matching, grown]
    exact (List.sublist_append_left _ _).filter _
  exact sublist.subset member

/-- A page that is at most one further than any that was listed adds what it is to. If it
is the last one, what it leaves out has come between its two queries. -/
theorem respond_carries (thorough : Thorough validation state) {page : Nat} (first : 1 ≤ page)
    (near : page ≤ state.furthest + 1) {filter : EventFilter}
    (read : filterOf validation state.client.filters.contents = some filter)
    {perPage : PerPage} (fifty : perPage.val = 50) {table : AttackEvents}
    {sorted : List AttackEventModel}
    (ordered : Ordered AttackEventModel.timestamp (matching state.table filter) sorted) :
    Carries validation state (respond table { page, perPage, filter } sorted)
      ((matching state.table filter).length - (matching table filter).length) page := by
  have distinct : ((matching state.table filter).map AttackEventModel.timestamp).Nodup :=
    thorough.apart.sublist (List.filter_sublist.map _)
  have ahead : state.Ahead filter
      (state.seen ++ (respond table { page, perPage, filter } sorted).events)
      (page * 50) := by
    intro event member
    rcases thorough.ahead filter read event member with shown | beyond
    · exact .inl (List.mem_append_left _ shown)
    · by_cases before : state.place filter event < page * 50
      · have begun : (page - 1) * 50 ≤ state.place filter event := by omega
        have ends : state.place filter event < (page - 1 + 1) * 50 := by omega
        have cut := ordered.mem_page distinct (thorough.still_matching member) 50 (page - 1)
          begun ends
        have listed : eventData event ∈
            (respond table { page, perPage, filter } sorted).events := by
          simp only [respond, listEventsRoute, listEvents, fifty]
          exact List.mem_map_of_mem cut
        exact .inl (List.mem_append_right _ listed)
      · exact .inr (Nat.le_of_not_lt before)
  refine { echoed := rfl, ahead := ?_, complete := ?_ }
  · intro other same
    obtain rfl : filter = other := Option.some.inj (read.symm.trans same)
    exact ahead
  · intro other same last
    obtain rfl : filter = other := Option.some.inj (read.symm.trans same)
    have covers := totalPages_covers (matching table filter).length perPage
    have few : ((matching table filter).length + perPage - 1) / perPage ≤ page := last
    have room := Nat.mul_le_mul_right perPage.val few
    rw [fifty] at covers room
    refine ⟨sorted.drop (page * 50), ?_, fun event member => ?_⟩
    · rw [List.length_drop, ordered.perm.length_eq]
      omega
    · refine (ahead event member).imp_right fun beyond => ?_
      exact ordered.mem_drop distinct (thorough.still_matching member) beyond

/-- The API comes to a request. Those of the page are valid, so it makes its first
query on the table as it is now. -/
theorem count_thorough (thorough : Thorough validation state) {index : Nat}
    (taken : step validation state (.count index) = some next) : Thorough validation next := by
  simp only [step] at taken
  cases found : state.client.effect.instances[index]? with
  | none => simp [found] at taken
  | some entry =>
    simp only [found, Option.ite_none_left_eq_some, Option.some.injEq] at taken
    obtain ⟨-, rfl⟩ := taken
    obtain ⟨arguments, valid⟩ :=
      Option.isSome_iff_exists.mp (thorough.accepted entry (List.mem_of_getElem? found))
    rw [state.count_valid index valid]
    generalize counting : ({ arguments, table := state.table } : Counted) = fresh
    have onward : Onward state
        { state with counts := Function.update state.counts index (some fresh) } :=
      onward_of_progress rfl
    refine { thorough with latest := ?_ }
    cases thorough.latest with
    | fresh started => exact .fresh started
    | current deps former request latest made first known near counted reply =>
      refine .current deps former request latest made first known near ?_
        fun same response between served => onward.carries (reply same response between served)
      intro held counts
      by_cases last : former.length = index
      · subst last
        rw [latest.instances, List.getElem?_concat_length] at found
        cases found
        obtain rfl : fresh = held :=
          Option.some.inj
            ((Function.update_self former.length (some fresh) state.counts).symm.trans counts)
        rw [valid, ← counting]
      · exact counted held ((Function.update_of_ne last _ _).symm.trans counts)

/-- The API has made both queries of a request. Between them the table may have
grown, which is why the response keeps what came in between. -/
theorem select_thorough (thorough : Thorough validation state) {index : Nat}
    {sorted : List AttackEventModel} (sorting : Sorting state (.select index sorted))
    (taken : step validation state (.select index sorted) = some next) :
    Thorough validation next := by
  simp only [step] at taken
  cases counts : state.counts index with
  | none => simp [counts] at taken
  | some held =>
    simp only [counts, Option.ite_none_left_eq_some, Option.some.injEq] at taken
    obtain ⟨-, rfl⟩ := taken
    generalize replied : state.reply held sorted = answer
    have onward : Onward state
        { state with replies := Function.update state.replies index (some answer) } :=
      onward_of_progress rfl
    refine { thorough with latest := ?_ }
    cases thorough.latest with
    | fresh started => exact .fresh started
    | current deps former request latest made first known near counted reply =>
      refine .current deps former request latest made first known near counted ?_
      intro same response between served
      refine onward.carries ?_
      by_cases last : former.length = index
      · subst last
        obtain ⟨filter, read⟩ := Option.isSome_iff_exists.mp thorough.readable
        have asked := counted held counts
        rw [made, readQuery_eventsQuery first, same, read, Option.map_some] at asked
        obtain ⟨_, table⟩ := held
        cases asked
        obtain rfl : answer = { answer := .success response, between } :=
          Option.some.inj
            ((Function.update_self former.length (some answer) state.replies).symm.trans served)
        cases replied
        exact respond_carries thorough first (near same) read rfl (sorting _ counts)
      · exact reply same response between ((Function.update_of_ne last _ _).symm.trans served)

/-! ## Answers -/

/-- An answer is noted with its request, and nothing else changes; whether it is
shown is decided by the flag of its instance. -/
theorem noted_thorough (thorough : Thorough validation state) {index : Nat}
    {entry : Instance (Request EventData Pagination)}
    (found : state.client.effect.instances[index]? = some entry)
    (answer : Answer (EventsResponse EventData Pagination)) :
    Thorough validation { state with client := state.client.answered index entry answer } := by
  have onward : Onward state { state with client := state.client.answered index entry answer } :=
    onward_of_progress rfl
  refine { thorough with accepted := ?_, latest := ?_ }
  · intro other member
    rcases List.mem_or_eq_of_mem_set member with before | rfl
    · exact thorough.accepted other before
    · exact thorough.accepted entry (List.mem_of_getElem? found)
  · cases thorough.latest with
    | fresh started => simp [started, Effect.initial] at found
    | current deps former request latest made first known near counted reply =>
      have carried (same : deps.filters = state.client.filters)
          (response : EventsResponse EventData Pagination) (between : Nat)
          (served : state.replies former.length =
            some { answer := .success response, between }) :=
        onward.carries (reply same response between served)
      cases up : entry.mounted with
      | false =>
        have later := latest.advance_former found up { entry.work with answer := some answer }
        refine .current deps _ request later made first known near ?_ ?_
        · rw [List.length_set]
          exact counted
        · rw [List.length_set]
          exact carried
      | true =>
        obtain ⟨same, later⟩ :=
          latest.advance_last found up { entry.work with answer := some answer }
        rw [← same] at made counted
        exact .current deps former _ later made first known near counted carried

/-- A response is listed. If it is one for the current filters, it adds to what has been
shown. -/
theorem show_thorough (thorough : Thorough validation state) {deps : Deps Nat Filters}
    (ran : state.client.effect.ran = some deps) (known : deps.filters.number ≤ state.objects)
    {response : EventsResponse EventData Pagination} {between : Nat}
    (carries : deps.filters = state.client.filters →
      Carries validation state response between deps.page) :
    Thorough validation
      { state.show response between with client := state.client.load (.success response) } := by
  have listed : state.client.effect.ran.map Deps.filters = some deps.filters := by
    rw [ran, Option.map_some]
  by_cases same : deps.filters = state.client.filters
  · have shown : state.show response between = { state with
        listed := some deps.filters
        between
        seen := state.seen ++ response.events
        furthest := max state.furthest response.pagination.page } := by
      simp [State.show, listed, same]
    have added := carries same
    have onward : Onward state { state with
        client := state.client.load (.success response)
        listed := some deps.filters
        between
        seen := state.seen ++ response.events
        furthest := max state.furthest response.pagination.page } :=
      { filters := rfl
        chosen := rfl
        grown := ⟨[], (List.append_nil _).symm⟩
        seen := fun _ shown => List.mem_append_left _ shown
        furthest := Nat.le_max_left _ _
        objects := rfl }
    rw [shown]
    refine
      { thorough with
        listedKnown := ?_
        near := thorough.near.trans (Nat.succ_le_succ (Nat.le_max_left _ _))
        listed := ?_
        ahead := ?_
        complete := ?_
        latest := onward.latest rfl rfl rfl thorough.latest }
    · intro filters listed
      exact Option.some.inj listed ▸ known
    · intro _ pagination newest
      cases newest
      exact Nat.le_max_right _ _
    · intro filter read event member
      rcases thorough.ahead filter read event member with before | beyond
      · exact .inl (List.mem_append_left _ before)
      · rcases added.ahead filter read event member with inside | further
        · exact .inl inside
        · rw [← added.echoed] at further
          have both := Nat.max_le.mpr ⟨beyond, further⟩
          rw [← max_mul_of_nonneg _ _ (Nat.zero_le 50)] at both
          exact .inr both
    · intro _ pagination newest last filter read
      cases newest
      exact added.complete filter read (added.echoed ▸ last)
  · have shown : state.show response between =
        { state with listed := some deps.filters, between } := by
      simp [State.show, listed, same]
    have onward : Onward state { state with
        client := state.client.load (.success response)
        listed := some deps.filters
        between } :=
      onward_of_progress rfl
    rw [shown]
    refine
      { thorough with
        listedKnown := ?_
        listed := fun listed => absurd (Option.some.inj listed) same
        complete := fun listed => absurd (Option.some.inj listed) same
        latest := onward.latest rfl rfl rfl thorough.latest }
    intro filters listed
    exact Option.some.inj listed ▸ known

/-- Whether something is loading or has failed makes no difference, since progress
is about the list, the page and the requests. -/
theorem client_thorough (thorough : Thorough validation state)
    {client : EventList.State Nat Filters EventData Pagination}
    (filters : client.filters = state.client.filters) (page : client.page = state.client.page)
    (pagination : client.pagination = state.client.pagination)
    (effect : client.effect = state.client.effect) : Thorough validation { state with client } := by
  obtain ⟨_, _, reloadToken, events, _, loading, error, _⟩ := client
  subst filters page pagination effect
  have onward : Onward state { state with
      client := { state.client with reloadToken, events, loading, error } } :=
    onward_of_progress rfl
  exact { thorough with latest := onward.latest rfl rfl rfl thorough.latest }

/-- An answer arrives: a response of the API, or none. Only that of the latest
request is listed, and its page is at most one further than those before it. -/
theorem receive_thorough (thorough : Thorough validation state) {index : Nat}
    {reply : Reply}
    (genuine : ∀ response, reply.answer = .success response → state.replies index = some reply)
    (taken : state.receive index reply = some next) : Thorough validation next := by
  obtain ⟨answer, between⟩ := reply
  obtain ⟨client, advanced, rfl⟩ := Option.map_eq_some_iff.mp taken
  simp only [EventList.step] at advanced
  cases found : state.client.effect.instances[index]? with
  | none => simp [found] at advanced
  | some entry =>
    simp only [found, Option.ite_none_left_eq_some, Option.some.injEq] at advanced
    obtain ⟨-, rfl⟩ := advanced
    have noted := noted_thorough thorough found answer
    cases up : entry.mounted with
    | false => cases answer <;> simpa [up] using noted
    | true =>
      cases answer with
      | unauthorized | refused _ _ | thrown _ =>
        exact client_thorough noted rfl rfl rfl rfl
      | success response =>
        cases thorough.latest with
        | fresh started => simp [started, Effect.initial] at found
        | current deps former request latest made first known near counted reply =>
          have last := (latest.mounted_iff found).mp up
          rw [latest.instances, List.length_append, List.length_singleton] at last
          have served := genuine response rfl
          rw [show index = former.length by omega] at served
          have onward : Onward state
              { state with client := state.client.answered index entry (.success response) } :=
            onward_of_progress rfl
          have shown := show_thorough noted latest.ran known
            fun same => onward.carries (reply same response between served)
          simp only [up, Option.any_some, if_true]
          exact shown

/-- Every regular move keeps the reader from skipping anything. The cases are the
moves, with one lemma for each that concerns the list or its requests. -/
theorem step_thorough {move : Move} (thorough : Thorough validation state)
    (unserved : state.Unserved)
    (regular : Regular validation state move) (taken : step validation state move = some next) :
    Thorough validation next := by
  cases move with
  | apply inputs =>
    cases taken
    exact choose_thorough thorough (filterOf_handleApply regular.1 regular.2)
  | clear =>
    cases taken
    exact choose_thorough thorough rfl
  | previous => exact previous_thorough thorough regular taken
  | next => exact next_thorough thorough regular taken
  | effects => exact effects_thorough thorough unserved taken
  | insert row => exact insert_thorough thorough regular taken
  | count index => exact count_thorough thorough taken
  | select index sorted => exact select_thorough thorough regular taken
  | receive index =>
    simp only [step] at taken
    cases served : state.replies index with
    | none => simp [served] at taken
    | some answer =>
      rw [served] at taken
      exact receive_thorough thorough (fun _ _ => served) taken
  | fail index answer =>
    cases answer with
    | success response => cases taken
    | unauthorized | refused _ _ | thrown _ =>
      exact receive_thorough thorough (fun _ same => by cases same) taken

/-- In every run of the event list in front of the API, with insertions at any time, also
between the two queries of a request, with late and lost answers, with any inputs of the
form, and with buttons pressed in a list of the current filters at any time: no request of
the page is refused as invalid, and once the right button of a list of the current filters
is disabled, the events that matched the filters when they were chosen have been shown
since, but for at most as many as came between the two queries of that list. -/
theorem clicking_through_shows_everything (validation : Validation) (table : AttackEvents)
    (apart : (table.rows.map AttackEventModel.timestamp).Nodup) (schedule : List Move)
    (state : State)
    (regular : (system validation).Admitted (Regular validation) (mount table) schedule)
    (reached : (system validation).run (mount table) schedule = some state) :
    (∀ entry ∈ state.client.effect.instances,
      (readQuery validation entry.work.query).isSome = true) ∧
      ∀ filter pagination, filterOf validation state.client.filters.contents = some filter →
        state.listed = some state.client.filters →
        state.client.pagination = some pagination → pagination.next = none →
        ∃ missed : List AttackEventModel, missed.length ≤ state.between ∧
          ∀ event ∈ matching state.chosen filter,
            eventData event ∈ state.seen ∨ event ∈ missed := by
  obtain ⟨-, thorough⟩ := (system validation).admitted_invariant _
    (fun state => state.Unserved ∧ Thorough validation state)
    (fun state move next kept regular taken =>
      ⟨step_unserved kept.1 taken, step_thorough kept.2 kept.1 regular taken⟩)
    (mount table) state schedule ⟨mount_unserved table, mount_thorough apart⟩ regular reached
  refine ⟨thorough.accepted, ?_⟩
  intro filter pagination read listed shown disabled
  have last : pagination.totalPages ≤ pagination.page := by
    by_contra more
    rw [Pagination.next, if_neg more] at disabled
    cases disabled
  exact thorough.complete listed pagination shown last filter read

/-- An event of the given minute. -/
def minutely (minute : Fin 60) : AttackEventModel :=
  { hourly 1 with
    id := numbered minute
    timestamp :=
      { year := 2025, month := 1, day := 1, hour := 1, minute := minute, second := 0
        microsecond := 0
        valid := ⟨by decide, by decide, by decide, by decide, minute.isLt, by decide, by decide⟩ } }

/-- The events of the first minutes. -/
def minutes (count : Nat) : List AttackEventModel := ((List.finRange 60).take count).map minutely

/-- One event more than there are on a page. -/
def fiftyOne : AttackEvents := { rows := minutes 51, distinct := by decide +kernel }

/-- The first page is listed, the right button is pressed, and another event arrives before
the second page is counted and cut. -/
def arrival : List Move :=
  [.effects, .count 0, .select 0 (minutes 51).reverse, .receive 0, .next, .effects,
    .insert (minutely 51), .count 1, .select 1 (minutes 52).reverse, .receive 1]

/-- In the example the second queries return their rows in order, and the event that
arrives has a new timestamp. -/
theorem arrival_regular :
    (system digitsOnly).Admitted (Regular digitsOnly) (mount fiftyOne) arrival := by
  have fresh : (minutely 51).timestamp ∉ (minutes 51).map AttackEventModel.timestamp := by
    decide +kernel
  refine ⟨trivial, fun _ asked => ⟨trivial, fun _ counting => ⟨?_, fun _ sorting => ⟨trivial,
    fun _ listing => ⟨?_, fun _ turning => ⟨trivial, fun _ asking => ⟨?_, fun _ grown =>
      ⟨trivial, fun _ recounting => ⟨?_, fun _ _ => ⟨trivial, fun _ _ => trivial⟩⟩⟩⟩⟩⟩⟩⟩⟩⟩
  · cases asked; cases counting
    intro counted held
    cases held
    exact ⟨List.reverse_perm _, by decide +kernel⟩
  · cases asked; cases counting; cases sorting; cases listing
    rfl
  · cases asked; cases counting; cases sorting; cases listing; cases turning; cases asking
    exact fresh
  · cases asked; cases counting; cases sorting; cases listing; cases turning; cases asking
    cases grown; cases recounting
    intro counted held
    cases held
    exact ⟨List.reverse_perm _, by decide +kernel⟩

/-- The second page is the last one. It begins with an event that the first page had listed
already, and the two pages together have shown the table that the reader began with. -/
theorem clicking_through_shows_everything_arrival : ∃ state,
    (system digitsOnly).run (mount fiftyOne) arrival = some state ∧
      state.client.pagination =
        some { page := 2, perPage := 50, total := 52, totalPages := 2 } ∧
      state.client.events.map EventData.id = [printUuid (numbered 1), printUuid (numbered 0)] ∧
      ∀ event ∈ fiftyOne.rows, eventData event ∈ state.seen := by
  obtain ⟨state, reached⟩ : ∃ state,
      (system digitsOnly).run (mount fiftyOne) arrival = some state := ⟨_, rfl⟩
  have shown : ((system digitsOnly).run (mount fiftyOne) arrival).map (fun state =>
      (state.client.pagination, state.client.events.map EventData.id, state.between,
        state.listed, state.client.filters)) =
      some (some { page := 2, perPage := 50, total := 52, totalPages := 2 },
        [printUuid (numbered 1), printUuid (numbered 0)], 0, some hook.noFilters,
        hook.noFilters) := by
    decide +kernel
  rw [reached, Option.map_some, Option.some.injEq] at shown
  simp only [Prod.mk.injEq] at shown
  obtain ⟨pagination, events, between, listed, filters⟩ := shown
  have chosen : state.chosen = fiftyOne := by
    obtain rfl := Option.some.inj reached
    rfl
  refine ⟨state, reached, pagination, events, fun event member => ?_⟩
  obtain ⟨missed, few, covered⟩ := (clicking_through_shows_everything digitsOnly fiftyOne
    (by decide +kernel) arrival state arrival_regular reached).2 {} _ (by rw [filters]; rfl)
    (by rw [listed, filters]) pagination rfl
  obtain rfl := List.length_eq_zero_iff.mp (Nat.le_zero.mp (between ▸ few))
  have matched : event ∈ matching state.chosen {} := by
    rw [chosen]
    exact List.mem_filter.mpr ⟨member, rfl⟩
  exact (covered event matched).resolve_right List.not_mem_nil

end Honeywatch.Frontend.Paging
