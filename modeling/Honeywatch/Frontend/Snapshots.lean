import Honeywatch.Frontend.ClickThrough

/-!
# What the event list has seen of the table

Every list on the page is a page of the table as it was at one moment, with a number of
events that was counted no later. Answers may come late and in any order, but the page
takes one in only for its latest request, and that request was made after whatever is
shown had been answered. So the page never goes back in time.
-/

namespace Honeywatch.Frontend.Paging

open Text Effects Transition Collector Api Db OrderBy
open EventList (EventsResponse Deps Call Request)

variable {validation : Validation} {state next : State} {counted selected : AttackEvents}

/-- A response for these filters: the events were counted in the first table, and a page
of them was cut from the second one. -/
inductive PageOf (validation : Validation) (counted selected : AttackEvents)
    (filters : Filters) : EventsResponse EventData Pagination → Prop
  | cut (page : Nat) (filter : EventFilter)
      (read : filterOf validation filters.contents = some filter) (sorted : List AttackEventModel)
      (ordered : Ordered AttackEventModel.timestamp (matching selected filter) sorted) :
      PageOf validation counted selected filters
        (respond counted { page, perPage := ⟨50, by decide⟩, filter } sorted)

/-- The list on the page, if there is one, is such a response. -/
def State.Lists (validation : Validation) (counted selected : AttackEvents)
    (state : State) : Prop :=
  ∀ filters, state.listed = some filters → ∃ pagination,
    state.client.pagination = some pagination ∧
      PageOf validation counted selected filters { events := state.client.events, pagination }

/-- A response that was counted no earlier than the given table, and cut from the table
as it is or was. -/
def Genuine (validation : Validation) (since : AttackEvents) (state : State)
    (filters : Filters) (response : EventsResponse EventData Pagination) : Prop :=
  ∃ counted selected : AttackEvents, since.rows <+: counted.rows ∧
    counted.rows <+: selected.rows ∧ selected.rows <+: state.table.rows ∧
    PageOf validation counted selected filters response

/-- What the API knows of a request that is not answered yet comes from tables that are no
older than the given one. -/
structure Later (validation : Validation) (since : AttackEvents) (state : State)
    (filters : Filters) (index : Nat) (query : List (String × Str)) : Prop where
  counts : ∀ held, state.counts index = some held →
    readQuery validation query = some held.arguments ∧ since.rows <+: held.table.rows ∧
      held.table.rows <+: state.table.rows
  replies : ∀ response between,
    state.replies index = some { answer := .success response, between } →
    Genuine validation since state filters response

/-- The latest request was made after the given table was seen. -/
inductive Awaited (validation : Validation) (since : AttackEvents) (state : State) : Prop
  | fresh (effect : state.client.effect = Effect.initial)
  | current (deps : Deps Nat Filters)
      (former : List (Instance (Request EventData Pagination)))
      (request : Request EventData Pagination)
      (latest : Current state.client.effect deps former request)
      (made : request.query =
        eventsQuery hook.text deps.page hook.perPage deps.filters.contents)
      (first : 1 ≤ deps.page)
      (later : request.answer = none →
        Later validation since state deps.filters former.length request.query)

/-- The page shows the second table, with what was counted in the first one, and nothing
older can come. -/
structure Shows (validation : Validation) (counted selected : AttackEvents)
    (state : State) : Prop where
  order : counted.rows <+: selected.rows
  past : selected.rows <+: state.table.rows
  first : 1 ≤ state.client.page
  lists : state.Lists validation counted selected
  awaited : Awaited validation selected state

/-- On a page that has just been opened there is no list, and both tables are the
one there is. -/
theorem mount_shows (table : AttackEvents) : Shows validation table table (mount table) where
  order := List.prefix_rfl
  past := List.prefix_rfl
  first := Nat.le_refl 1
  lists := nofun
  awaited := .fresh rfl

/-! ## Moves that leave the list -/

/-- The same list is shown, with the same pagination and for the same filters. -/
structure SameList (state next : State) : Prop where
  listed : next.listed = state.listed
  events : next.client.events = state.client.events
  pagination : next.client.pagination = state.client.pagination

/-- What has not changed is the same list. -/
theorem SameList.refl (state : State) : SameList state state := ⟨rfl, rfl, rfl⟩

/-- Moves that leave the list alone leave it alone together. -/
theorem SameList.trans {middle : State} (first : SameList state middle)
    (second : SameList middle next) : SameList state next :=
  ⟨second.listed.trans first.listed, second.events.trans first.events,
    second.pagination.trans first.pagination⟩

/-- The move is the arrival of an answer. -/
def Move.answers : Move → Bool
  | .receive _ => true
  | .fail _ _ => true
  | _ => false

/-- Only an answer can replace the list: choosing filters, pressing a button and whatever
the API does leave it on the page. -/
theorem step_sameList {move : Move} (silent : move.answers = false)
    (taken : step validation state move = some next) : SameList state next := by
  cases move with
  | apply _ | clear =>
    cases taken
    exact ⟨rfl, rfl, rfl⟩
  | previous | next | insert _ =>
    obtain ⟨_, -, rfl⟩ := Option.map_eq_some_iff.mp taken
    exact ⟨rfl, rfl, rfl⟩
  | effects =>
    obtain ⟨client, ran, rfl⟩ := Option.map_eq_some_iff.mp taken
    simp only [EventList.step, Option.ite_none_left_eq_some, Option.some.injEq] at ran
    obtain ⟨-, rfl⟩ := ran
    exact ⟨rfl, rfl, rfl⟩
  | count index =>
    simp only [step] at taken
    split at taken
    · simp at taken
    · next entry found =>
      simp only [Option.ite_none_left_eq_some, Option.some.injEq] at taken
      obtain ⟨-, rfl⟩ := taken
      unfold State.count
      split <;> exact ⟨rfl, rfl, rfl⟩
  | select index sorted =>
    simp only [step] at taken
    split at taken
    · simp at taken
    · next held counts =>
      simp only [Option.ite_none_left_eq_some, Option.some.injEq] at taken
      obtain ⟨-, rfl⟩ := taken
      exact ⟨rfl, rfl, rfl⟩
  | receive _ | fail _ _ => simp [Move.answers] at silent

/-- What is known of a request stays while the table grows, as it only says that the
tables it has seen are not older than the given one. -/
theorem Later.onward {since : AttackEvents} {filters : Filters} {index : Nat}
    {query : List (String × Str)} (later : Later validation since state filters index query)
    (grown : state.table.rows <+: next.table.rows) (counts : next.counts = state.counts)
    (replies : next.replies = state.replies) : Later validation since next filters index query where
  counts := by
    intro held known
    rw [counts] at known
    obtain ⟨asked, after, before⟩ := later.counts held known
    exact ⟨asked, after, before.trans grown⟩
  replies := by
    intro response between known
    rw [replies] at known
    obtain ⟨counted, selected, after, order, before, page⟩ := later.replies response between known
    exact ⟨counted, selected, after, order, before.trans grown, page⟩

/-- The list and the requests stay while the table grows; so do the two tables that
the list comes from. -/
theorem Shows.onward (shows : Shows validation counted selected state)
    (grown : state.table.rows <+: next.table.rows) (first : 1 ≤ next.client.page)
    (list : SameList state next) (effect : next.client.effect = state.client.effect)
    (counts : next.counts = state.counts)
    (replies : next.replies = state.replies) : Shows validation counted selected next where
  order := shows.order
  past := shows.past.trans grown
  first := first
  lists := by
    intro filters known
    rw [list.listed] at known
    rw [list.events, list.pagination]
    exact shows.lists filters known
  awaited := by
    cases shows.awaited with
    | fresh started => exact .fresh (effect.trans started)
    | current deps former request latest made first later =>
      exact .current deps former request (effect ▸ latest) made first
        fun unanswered => (later unanswered).onward grown counts replies

/-- A button never leads before the first page. -/
theorem turn_shows (shows : Shows validation counted selected state) {page : Option Nat}
    (first : ∀ number, page = some number → 1 ≤ number) (taken : state.turn page = some next) :
    Shows validation counted selected next := by
  obtain ⟨number, enabled, rfl⟩ := Option.map_eq_some_iff.mp taken
  exact shows.onward List.prefix_rfl (first number enabled) ⟨rfl, rfl, rfl⟩ rfl rfl rfl

/-- The button for the page before is enabled by the pagination on the screen and
asks for a page number of at least one. -/
theorem previous_shows (shows : Shows validation counted selected state)
    (taken : step validation state .previous = some next) :
    Shows validation counted selected next := by
  refine turn_shows shows (fun number enabled => ?_) taken
  obtain ⟨pagination, -, back⟩ := Option.bind_eq_some_iff.mp enabled
  simp only [Pagination.previous, Option.ite_none_left_eq_some, Option.some.injEq] at back
  omega

/-- The other button asks for a page that the pagination on the screen has. -/
theorem next_shows (shows : Shows validation counted selected state)
    (taken : step validation state .next = some next) : Shows validation counted selected next := by
  refine turn_shows shows (fun number enabled => ?_) taken
  obtain ⟨pagination, -, forth⟩ := Option.bind_eq_some_iff.mp enabled
  simp only [Pagination.next, Option.ite_none_left_eq_some, Option.some.injEq] at forth
  omega

/-- An insertion changes neither the list nor the tables it came from, only what
comes after them. -/
theorem insert_shows (shows : Shows validation counted selected state) {row : AttackEventModel}
    (taken : step validation state (.insert row) = some next) :
    Shows validation counted selected next := by
  obtain ⟨table, inserted, rfl⟩ := Option.map_eq_some_iff.mp taken
  obtain ⟨rows, -⟩ := AttackEvents.insertRow_rows inserted
  exact shows.onward ⟨[row], rows.symm⟩ shows.first ⟨rfl, rfl, rfl⟩ rfl rfl rfl

/-- The API knows nothing of a request that has just been made. Whatever it will see
of the table is not older than what is shown now. -/
theorem effects_shows (shows : Shows validation counted selected state) (unserved : state.Unserved)
    (taken : step validation state .effects = some next) :
    Shows validation counted selected next := by
  obtain ⟨client, ran, rfl⟩ := Option.map_eq_some_iff.mp taken
  simp only [EventList.step, Option.ite_none_left_eq_some, Option.some.injEq] at ran
  obtain ⟨-, rfl⟩ := ran
  have begun : state.client.effect = Effect.initial ∨
      ∃ deps former request, Current state.client.effect deps former request := by
    cases shows.awaited with
    | fresh started => exact .inl started
    | current deps former request latest => exact .inr ⟨deps, former, request, latest⟩
  obtain ⟨former, latest, works⟩ := exists_current_rerun begun (state.client.deps hook)
    ((state.client.deps hook).request hook)
  have length : former.length = state.client.effect.instances.length := by
    simpa using congrArg List.length works
  obtain ⟨uncounted, unanswered⟩ := unserved former.length length.ge
  refine { shows with awaited := .current _ former _ latest rfl shows.first fun _ => ?_ }
  exact
    { counts := fun held known => by
        rw [uncounted] at known
        cases known
      replies := fun response between known => by
        rw [unanswered] at known
        cases known }

/-! ## The two queries of a request -/

section

variable {since : AttackEvents} {filters : Filters} {index : Nat} {query : List (String × Str)}

/-- The first query sees the table as it is, which has grown from the given one. -/
theorem Later.count (later : Later validation since state filters index query)
    (past : since.rows <+: state.table.rows) {other : Nat} {arguments : Arguments}
    (asked : index = other → readQuery validation query = some arguments) :
    Later validation since
      { state with
        counts := Function.update state.counts other (some { arguments, table := state.table }) }
      filters index query where
  counts := by
    intro held known
    by_cases own : index = other
    · subst own
      simp only [Function.update_self] at known
      cases known
      exact ⟨asked rfl, past, List.prefix_rfl⟩
    · simp only [Function.update_of_ne own] at known
      exact later.counts held known
  replies := later.replies

/-- A reply is genuine if it is one to the request; to any other request it makes no
difference here. -/
theorem Later.reply (later : Later validation since state filters index query) {other : Nat}
    {reply : Reply}
    (genuine : index = other → ∀ response, reply.answer = .success response →
      Genuine validation since state filters response) :
    Later validation since
      { state with replies := Function.update state.replies other (some reply) }
      filters index query where
  counts := later.counts
  replies := by
    intro response between known
    by_cases own : index = other
    · subst own
      simp only [Function.update_self] at known
      cases known
      exact genuine rfl response rfl
    · simp only [Function.update_of_ne own] at known
      exact later.replies response between known

end

/-- The API comes to a request. Its first query is made on the present table, and
the list stays. -/
theorem count_shows (shows : Shows validation counted selected state) {index : Nat}
    (taken : step validation state (.count index) = some next) :
    Shows validation counted selected next := by
  simp only [step] at taken
  cases found : state.client.effect.instances[index]? with
  | none => simp [found] at taken
  | some entry =>
    simp only [found, Option.ite_none_left_eq_some, Option.some.injEq] at taken
    obtain ⟨-, rfl⟩ := taken
    cases asked : readQuery validation entry.work.query with
    | none =>
      rw [state.count_invalid index asked]
      refine { shows with awaited := ?_ }
      cases shows.awaited with
      | fresh started => exact .fresh started
      | current deps former request latest made first later =>
        exact .current deps former request latest made first fun unanswered =>
          (later unanswered).reply (by simp)
    | some arguments =>
      rw [state.count_valid index asked]
      refine { shows with awaited := ?_ }
      cases shows.awaited with
      | fresh started => exact .fresh started
      | current deps former request latest made first later =>
        refine .current deps former request latest made first fun unanswered =>
          (later unanswered).count shows.past ?_
        rintro rfl
        rw [latest.instances, List.getElem?_concat_length] at found
        cases found
        exact asked

/-- The API has made both queries of a request, and the database has sorted. The
second table is the present one, so it comes after the first. -/
theorem select_shows (shows : Shows validation counted selected state) {index : Nat}
    {sorted : List AttackEventModel} (sorting : Sorting state (.select index sorted))
    (taken : step validation state (.select index sorted) = some next) :
    Shows validation counted selected next := by
  simp only [step] at taken
  cases counts : state.counts index with
  | none => simp [counts] at taken
  | some held =>
    simp only [counts, Option.ite_none_left_eq_some, Option.some.injEq] at taken
    obtain ⟨-, rfl⟩ := taken
    refine { shows with awaited := ?_ }
    cases shows.awaited with
    | fresh started => exact .fresh started
    | current deps former request latest made first later =>
      refine .current deps former request latest made first fun unanswered =>
        (later unanswered).reply ?_
      rintro rfl response answered
      cases answered
      obtain ⟨asked, after, before⟩ := (later unanswered).counts held counts
      rw [made, readQuery_eventsQuery first] at asked
      obtain ⟨filter, read, arguments⟩ := Option.map_eq_some_iff.mp asked
      have ordered := sorting held counts
      rw [← arguments] at ordered ⊢
      exact ⟨held.table, state.table, after, before, List.prefix_rfl,
        .cut deps.page filter read sorted ordered⟩

/-! ## Answers -/

/-- An answer is noted with its request, and the list stays; whether it becomes the
list is another matter. -/
theorem noted_shows (shows : Shows validation counted selected state) {index : Nat}
    {entry : Instance (Request EventData Pagination)}
    (found : state.client.effect.instances[index]? = some entry)
    (answer : Answer (EventsResponse EventData Pagination)) :
    Shows validation counted selected
      { state with client := state.client.answered index entry answer } := by
  refine { shows with awaited := ?_ }
  cases shows.awaited with
  | fresh started => simp [started, Effect.initial] at found
  | current deps former request latest made first later =>
    cases up : entry.mounted with
    | false =>
      have still := latest.advance_former found up { entry.work with answer := some answer }
      refine .current deps _ request still made first fun unanswered => ?_
      rw [List.length_set]
      exact (later unanswered).onward List.prefix_rfl rfl rfl
    | true =>
      obtain ⟨same, answered⟩ :=
        latest.advance_last found up { entry.work with answer := some answer }
      rw [← same] at made
      exact .current deps former _ answered made first (by simp)

/-- The list on the page is still the same one, cut from the same table, or it is one that
was counted no earlier than the former one was cut. -/
inductive Forward (counted selected counted' selected' : AttackEvents) (state next : State) : Prop
  | same (counts : counted' = counted) (selects : selected' = selected)
      (list : SameList state next)
  | newer (after : selected.rows <+: counted'.rows)

/-- What is shown moves forward over two stretches of a run if it does over each of them:
either no list came in, or the last that did was counted after the first list was cut. -/
theorem Forward.trans {counted' selected' counted'' selected'' : AttackEvents} {middle : State}
    (forward : Forward counted selected counted' selected' state middle)
    (order : counted'.rows <+: selected'.rows)
    (further : Forward counted' selected' counted'' selected'' middle next) :
    Forward counted selected counted'' selected'' state next := by
  cases further with
  | same counts selects list =>
    cases forward with
    | same counts' selects' list' =>
      exact .same (counts.trans counts') (selects.trans selects') (list'.trans list)
    | newer after => exact .newer (counts ▸ after)
  | newer later =>
    cases forward with
    | same counts selects list => exact .newer (selects ▸ later)
    | newer after => exact .newer ((after.trans order).trans later)

/-- An answer arrives: a response of the API, or none. If it is listed, the list
moves forward, since the tables it comes from are not older than those of the list
before; in all other cases the list is the one there was. -/
theorem receive_shows (shows : Shows validation counted selected state) {index : Nat}
    {reply : Reply}
    (genuine : ∀ response, reply.answer = .success response → state.replies index = some reply)
    (taken : state.receive index reply = some next) :
    ∃ counted' selected', Forward counted selected counted' selected' state next ∧
      Shows validation counted' selected' next := by
  obtain ⟨answer, between⟩ := reply
  obtain ⟨client, advanced, rfl⟩ := Option.map_eq_some_iff.mp taken
  simp only [EventList.step] at advanced
  cases found : state.client.effect.instances[index]? with
  | none => simp [found] at advanced
  | some entry =>
    simp only [found, Option.ite_none_left_eq_some, Option.some.injEq] at advanced
    obtain ⟨pending, rfl⟩ := advanced
    have noted := noted_shows shows found answer
    cases up : entry.mounted with
    | false =>
      have same : SameList state { state with
          client := state.client.answered index entry answer } := ⟨rfl, rfl, rfl⟩
      refine ⟨counted, selected, .same rfl rfl ?_, ?_⟩
      · cases answer <;> simpa [up] using same
      · cases answer <;> simpa [up] using noted
    | true =>
      cases answer with
      | unauthorized | refused _ _ | thrown _ =>
        exact ⟨counted, selected, .same rfl rfl ⟨rfl, rfl, rfl⟩,
          noted.onward List.prefix_rfl noted.first ⟨rfl, rfl, rfl⟩ rfl rfl rfl⟩
      | success response =>
        cases shows.awaited with
        | fresh started => simp [started, Effect.initial] at found
        | current deps former request latest made first later =>
          obtain ⟨same, answered⟩ :=
            latest.advance_last found up { entry.work with answer := some (.success response) }
          have last := (latest.mounted_iff found).mp up
          rw [latest.instances, List.length_append, List.length_singleton] at last
          have served := genuine response rfl
          rw [show index = former.length by omega] at served
          have unanswered : request.answer = none := same ▸ Option.not_isSome_iff_eq_none.mp pending
          obtain ⟨counted', selected', after, order, before, page⟩ :=
            (later unanswered).replies response between served
          rw [← same] at made
          simp only [up, Option.any_some, if_true]
          refine ⟨counted', selected', .newer after, ?_⟩
          refine
            { order
              past := before
              first := noted.first
              lists := ?_
              awaited := .current deps former _ answered made first (by simp) }
          intro filters listed
          have own : deps.filters = filters := by
            have ran : state.client.effect.ran.map Deps.filters = some deps.filters := by
              rw [latest.ran, Option.map_some]
            exact Option.some.inj (ran.symm.trans listed)
          exact own ▸ ⟨_, rfl, page⟩

/-- Every move leaves the list that is shown, or brings one that was counted after that
was cut. -/
theorem step_shows {move : Move} (shows : Shows validation counted selected state)
    (unserved : state.Unserved) (sorting : Sorting state move)
    (taken : step validation state move = some next) :
    ∃ counted' selected', Forward counted selected counted' selected' state next ∧
      Shows validation counted' selected' next := by
  -- A move without an answer keeps the list, and what can still come.
  have keeps (silent : move.answers = false) (still : Shows validation counted selected next) :
      ∃ counted' selected', Forward counted selected counted' selected' state next ∧
        Shows validation counted' selected' next :=
    ⟨counted, selected, .same rfl rfl (step_sameList silent taken), still⟩
  cases move with
  | apply _ | clear =>
    refine keeps rfl ?_
    cases taken
    exact shows.onward List.prefix_rfl (Nat.le_refl 1) ⟨rfl, rfl, rfl⟩ rfl rfl rfl
  | previous => exact keeps rfl (previous_shows shows taken)
  | next => exact keeps rfl (next_shows shows taken)
  | effects => exact keeps rfl (effects_shows shows unserved taken)
  | insert row => exact keeps rfl (insert_shows shows taken)
  | count index => exact keeps rfl (count_shows shows taken)
  | select index sorted => exact keeps rfl (select_shows shows sorting taken)
  | receive index =>
    simp only [step] at taken
    cases served : state.replies index with
    | none => simp [served] at taken
    | some reply =>
      rw [served] at taken
      exact receive_shows shows (fun _ _ => served) taken
  | fail index answer =>
    cases answer with
    | success response => cases taken
    | unauthorized | refused _ _ | thrown _ =>
      exact receive_shows shows (fun _ same => by cases same) taken

/-- The same for a run, by induction on it: what is carried is that the lists have moved
forward since its beginning, and what may still come. -/
theorem run_shows {schedule : List Move} (shows : Shows validation counted selected state)
    (unserved : state.Unserved)
    (sorting : (system validation).Admitted Sorting state schedule)
    (reached : (system validation).run state schedule = some next) :
    ∃ counted' selected', Forward counted selected counted' selected' state next ∧
      Shows validation counted' selected' next := by
  have kept := (system validation).admitted_invariant Sorting
    (fun later => later.Unserved ∧ ∃ counted' selected',
      Forward counted selected counted' selected' state later ∧
        Shows validation counted' selected' later)
    (fun later move next kept sorting taken => by
      obtain ⟨unserved, counted', selected', forward, shows⟩ := kept
      obtain ⟨counted'', selected'', further, still⟩ := step_shows shows unserved sorting taken
      exact ⟨step_unserved unserved taken, counted'', selected'', forward.trans shows.order further,
        still⟩)
    state next schedule ⟨unserved, counted, selected, .same rfl rfl (.refl state), shows⟩ sorting
    reached
  exact kept.2

/-! ## The page never goes back -/

/-- Filters with which a page was answered could be read, -/
theorem PageOf.readable {filters : Filters} {response : EventsResponse EventData Pagination}
    (page : PageOf validation counted selected filters response) :
    ∃ filter, filterOf validation filters.contents = some filter := by
  obtain ⟨_, filter, read, _, _⟩ := page
  exact ⟨filter, read⟩

/-- and the total of the answer counts the table of the first query with these
filters. -/
theorem PageOf.total {filters : Filters} {response : EventsResponse EventData Pagination}
    (page : PageOf validation counted selected filters response) {filter : EventFilter}
    (read : filterOf validation filters.contents = some filter) :
    response.pagination.total = (matching counted filter).length := by
  obtain ⟨number, own, same, sorted, -⟩ := page
  obtain rfl : own = filter := Option.some.inj (same.symm.trans read)
  rfl

/-- Lists of the same filters, the second one counted later. The table has only
grown between the two counts. -/
theorem PageOf.total_le {counted' selected' : AttackEvents} {filters filters' : Filters}
    {response response' : EventsResponse EventData Pagination}
    (page : PageOf validation counted selected filters response)
    (page' : PageOf validation counted' selected' filters' response')
    (same : filters'.contents = filters.contents) (later : counted.rows <+: counted'.rows) :
    response.pagination.total ≤ response'.pagination.total := by
  obtain ⟨filter, read⟩ := page.readable
  rw [page.total read, page'.total (same ▸ read)]
  exact (later.sublist.filter _).length_le

/-- In every run of the event list in front of the API, and between any two moments of it:
each list on the page is a page of the table as it was when the database sorted it, with a
number of events that was counted no later; the second list is still the first one, with
the same events and pagination, or was counted after the first one had been cut; and for
the same filters the number of all events never falls, however late and in whatever order
the answers arrive. -/
theorem lists_move_forward (validation : Validation) (table : AttackEvents)
    (earlier later : List Move) (first second : State)
    (sorting : (system validation).Admitted Sorting (mount table) (earlier ++ later))
    (reached : (system validation).run (mount table) earlier = some first)
    (went : (system validation).run first later = some second) :
    ∃ counted selected counted' selected' : AttackEvents,
      first.Lists validation counted selected ∧ second.Lists validation counted' selected' ∧
      table.rows <+: counted.rows ∧ counted.rows <+: selected.rows ∧
      selected.rows <+: first.table.rows ∧ counted'.rows <+: selected'.rows ∧
      selected'.rows <+: second.table.rows ∧
      Forward counted selected counted' selected' first second ∧
      ∀ filters filters' pagination pagination',
        first.listed = some filters → second.listed = some filters' →
        first.client.pagination = some pagination → second.client.pagination = some pagination' →
        filters'.contents = filters.contents → pagination.total ≤ pagination'.total := by
  obtain ⟨counted, selected, started, shows⟩ :=
    run_shows (mount_shows table) (mount_unserved table) sorting.first reached
  have unserved := (system validation).run_invariant State.Unserved
    (fun _ _ _ unserved taken => step_unserved unserved taken)
    (mount table) first earlier (mount_unserved table) reached
  obtain ⟨counted', selected', forward, still⟩ :=
    run_shows shows unserved (sorting.second reached) went
  have begun : table.rows <+: counted.rows := by
    cases started with
    | same counts => rw [counts]
    | newer after => exact after
  have after : counted.rows <+: counted'.rows := by
    cases forward with
    | same counts => rw [counts]
    | newer after => exact shows.order.trans after
  refine ⟨counted, selected, counted', selected', shows.lists, still.lists, begun, shows.order,
    shows.past, still.order, still.past, forward, ?_⟩
  intro filters filters' pagination pagination' listed listed' shown shown' same
  obtain ⟨_, own, page⟩ := shows.lists filters listed
  obtain ⟨_, own', page'⟩ := still.lists filters' listed'
  obtain rfl := Option.some.inj (own.symm.trans shown)
  obtain rfl := Option.some.inj (own'.symm.trans shown')
  exact page.total_le page' same after

/-- An event arrives between the two queries: it is listed, and not counted. -/
def uncounted : List Move :=
  [.effects, .count 0, .insert (hourly 3), .select 0 [hourly 3, hourly 2, hourly 1], .receive 0]

/-- The same filters are chosen again. -/
def again : List Move :=
  [.clear, .effects, .count 1, .select 1 [hourly 3, hourly 2, hourly 1], .receive 1]

/-- In the example every second query returns its rows in the order that it asks
for. -/
theorem again_sorting :
    (system digitsOnly).Admitted Sorting (mount twoHours) (uncounted ++ again) := by
  have ordered : Ordered AttackEventModel.timestamp [hourly 1, hourly 2, hourly 3]
      [hourly 3, hourly 2, hourly 1] :=
    ⟨List.reverse_perm [hourly 1, hourly 2, hourly 3], by decide +kernel⟩
  refine ⟨trivial, fun _ first => ⟨trivial, fun _ second => ⟨trivial, fun _ third =>
    ⟨?_, fun _ fourth => ⟨trivial, fun _ fifth => ⟨trivial, fun _ sixth =>
      ⟨trivial, fun _ seventh => ⟨trivial, fun _ eighth =>
        ⟨?_, fun _ _ => ⟨trivial, fun _ _ => trivial⟩⟩⟩⟩⟩⟩⟩⟩⟩⟩
  · cases first; cases second; cases third
    intro held known
    cases known
    exact ordered
  · cases first; cases second; cases third; cases fourth
    cases fifth; cases sixth; cases seventh; cases eighth
    intro held known
    cases known
    exact ordered

/-- What the page says of its list. -/
def State.heading (state : State) : Option Filters × Option Pagination :=
  (state.listed, state.client.pagination)

/-- Two visits of the list, with an event in between: the second list counts no
less. -/
theorem lists_move_forward_again : ∃ first second pagination pagination',
    (system digitsOnly).run (mount twoHours) uncounted = some first ∧
      (system digitsOnly).run first again = some second ∧
      first.client.pagination = some pagination ∧ second.client.pagination = some pagination' ∧
      pagination.total = 2 ∧ pagination.total ≤ pagination'.total := by
  obtain ⟨first, reached⟩ : ∃ first,
      (system digitsOnly).run (mount twoHours) uncounted = some first := ⟨_, rfl⟩
  obtain ⟨second, finished⟩ : ∃ second,
      (system digitsOnly).run (mount twoHours) (uncounted ++ again) = some second := ⟨_, rfl⟩
  have went := ((system digitsOnly).run_append _ _ uncounted again reached).symm.trans finished
  have one : ((system digitsOnly).run (mount twoHours) uncounted).map State.heading =
      some (some hook.noFilters,
        some { page := 1, perPage := 50, total := 2, totalPages := 1 }) := by
    decide +kernel
  have two : ((system digitsOnly).run (mount twoHours) (uncounted ++ again)).map
        State.heading =
      some (some { number := 1, contents := noContents },
        some { page := 1, perPage := 50, total := 3, totalPages := 1 }) := by
    decide +kernel
  rw [reached, Option.map_some, Option.some.injEq, State.heading, Prod.mk.injEq] at one
  rw [finished, Option.map_some, Option.some.injEq, State.heading, Prod.mk.injEq] at two
  obtain ⟨_, _, _, _, -, -, -, -, -, -, -, -, grows⟩ := lists_move_forward digitsOnly twoHours
    uncounted again first second again_sorting reached went
  exact ⟨first, second, _, _, reached, went, one.2, two.2, rfl,
    grows _ _ _ _ one.1 two.1 one.2 two.2 rfl⟩

end Honeywatch.Frontend.Paging
