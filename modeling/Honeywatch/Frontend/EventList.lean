import Honeywatch.Foundation.Effects
import Honeywatch.Foundation.Transition
import Honeywatch.Frontend.Client

/-!
# The event list

`useEventList`: a page number, filters and a counter for reloading, and an effect
that asks for the events whenever one of them has changed. Requests may be under
way in any number and answered in any order; every answer finds the flag of the
instance that made the request.

A handler applies its updates together, and the effect runs some time after it,
so answers and further handlers may come in between. Filters are compared by
identity, and so stand for references here.
-/

namespace Honeywatch.Frontend.EventList

open Text Effects Transition

variable {Number Reference Event Pagination : Type}

/-- `EventsResponse`. -/
structure EventsResponse (Event Pagination : Type) where
  events : List Event
  pagination : Pagination

/-- A call of `fetchEvents`, and its answer once there is one. -/
structure Request (Event Pagination : Type) where
  query : List (String × Str)
  answer : Option (Answer (EventsResponse Event Pagination))

structure Deps (Number Reference : Type) where
  page : Number
  perPage : Number
  filters : Reference
  reloadToken : Number
  deriving DecidableEq

/-- What the hook is called with, and what filters hold. -/
structure Hook (Number Reference : Type) where
  perPage : Number
  text : Number → Str
  contents : Reference → EventListFilters
  /-- The `{}` of the first render. -/
  noFilters : Reference

structure State (Number Reference Event Pagination : Type) where
  page : Number
  filters : Reference
  reloadToken : Number
  events : List Event
  pagination : Option Pagination
  loading : Bool
  error : Option Str
  effect : Effect (Deps Number Reference) (Request Event Pagination)

/-- A call that a handler makes. -/
inductive Call (Number Reference : Type)
  | setPage (next : Number)
  | setFilters (next : Reference)
  | reload

inductive Move (Number Reference Event Pagination : Type)
  | handler (calls : List (Call Number Reference))
  | effects
  | answer (index : Nat) (answer : Answer (EventsResponse Event Pagination))

/-- The dependencies of the effect in a render. -/
def State.deps (hook : Hook Number Reference) (state : State Number Reference Event Pagination) :
    Deps Number Reference :=
  { page := state.page, perPage := hook.perPage, filters := state.filters
    reloadToken := state.reloadToken }

/-- The request of an instance with these dependencies. -/
def Deps.request (hook : Hook Number Reference) (deps : Deps Number Reference) :
    Request Event Pagination :=
  { query := eventsQuery hook.text deps.page deps.perPage (hook.contents deps.filters)
    answer := none }

/-- What `load` does with an answer, its flag being up. -/
def State.load (state : State Number Reference Event Pagination) :
    Answer (EventsResponse Event Pagination) → State Number Reference Event Pagination
  | .success response =>
    { state with
      events := response.events, pagination := some response.pagination
      error := none, loading := false }
  | .unauthorized => { state with loading := false }
  | failure => { state with error := failure.message, loading := false }

/-- The answer is the request's from now on. -/
def State.answered (state : State Number Reference Event Pagination) (index : Nat)
    (entry : Instance (Request Event Pagination))
    (answer : Answer (EventsResponse Event Pagination)) :
    State Number Reference Event Pagination :=
  { state with
    effect := state.effect.advance index entry { entry.work with answer := some answer } }

/-- The effects have run: there is no change that they have not seen. -/
def State.Settled (hook : Hook Number Reference)
    (state : State Number Reference Event Pagination) : Prop :=
  state.effect.ran = some (state.deps hook)

/-- What the page shows of the requests. -/
def State.shown (state : State Number Reference Event Pagination) :
    List Event × Option Pagination × Bool × Option Str :=
  (state.events, state.pagination, state.loading, state.error)

/-- The answer of the move is none to an unauthenticated call. -/
def Authorized : Move Number Reference Event Pagination → Prop
  | .answer _ .unauthorized => False
  | _ => True

/-- What is shown agrees with what has come of the latest request. -/
def Agrees (state : State Number Reference Event Pagination) :
    Option (Answer (EventsResponse Event Pagination)) → Prop
  | none => state.loading = true
  | some (.success response) =>
    state.shown = (response.events, some response.pagination, false, none)
  | some .unauthorized => False
  | some failure => state.loading = false ∧ state.error = failure.message

/-- The effect is yet to run, or the page agrees with the latest request, which is
the current instance's. -/
inductive Consistent (hook : Hook Number Reference)
    (state : State Number Reference Event Pagination) : Prop
  | fresh (effect : state.effect = Effect.initial)
  | current (deps : Deps Number Reference)
      (former : List (Instance (Request Event Pagination))) (request : Request Event Pagination)
      (latest : Current state.effect deps former request)
      (made : request.query =
        eventsQuery hook.text deps.page deps.perPage (hook.contents deps.filters))
      (agrees : Agrees state request.answer)

/-- The page shows the answer to its latest request, which was made for the page
and the filters it says. -/
def State.ShowsLatest (hook : Hook Number Reference)
    (state : State Number Reference Event Pagination) : Prop :=
  ∃ former request response,
    state.effect.instances = former ++ [{ mounted := true, work := request }] ∧
      request.query =
        eventsQuery hook.text state.page hook.perPage (hook.contents state.filters) ∧
      request.answer = some (.success response) ∧
      state.events = response.events ∧ state.pagination = some response.pagination

section Shown

variable {hook : Hook Number Reference} {state next : State Number Reference Event Pagination}

/-- Agreement is about what is shown, so a change of anything else keeps it. -/
theorem agrees_of_shown {answer : Option (Answer (EventsResponse Event Pagination))}
    (same : next.shown = state.shown) (agrees : Agrees state answer) : Agrees next answer := by
  have loading : next.loading = state.loading := congrArg (fun shown => shown.2.2.1) same
  have error : next.error = state.error := congrArg (fun shown => shown.2.2.2) same
  match answer with
  | none => exact loading.trans agrees
  | some (.success response) => exact same.trans agrees
  | some .unauthorized => exact agrees.elim
  | some (.refused _ _) => exact ⟨loading.trans agrees.1, error.trans agrees.2⟩
  | some (.thrown _) => exact ⟨loading.trans agrees.1, error.trans agrees.2⟩

/-- Loading an answer makes the page agree with it: the events of a success, or the
message of a failure. -/
theorem load_agrees {index : Nat} {answer : Answer (EventsResponse Event Pagination)}
    (authorized : Authorized
      (.answer index answer : Move Number Reference Event Pagination)) :
    Agrees (state.load answer) (some answer) := by
  cases answer with
  | success response => rfl
  | unauthorized => exact authorized
  | refused status statusText => exact ⟨rfl, rfl⟩
  | thrown message => exact ⟨rfl, rfl⟩

/-- An answer changes the list and not the effect that asked for it. -/
@[simp] theorem load_effect (answer : Answer (EventsResponse Event Pagination)) :
    (state.load answer).effect = state.effect := by
  cases answer <;> rfl

/-- Nothing is loading and nothing has failed only after a success: any other answer
leaves a message, and before any answer the page is loading. -/
theorem Agrees.success {answer : Option (Answer (EventsResponse Event Pagination))}
    (agrees : Agrees state answer) (loaded : state.loading = false) (well : state.error = none) :
    ∃ response, answer = some (.success response) ∧ state.events = response.events ∧
      state.pagination = some response.pagination := by
  match answer with
  | none => exact absurd (loaded.symm.trans agrees) Bool.false_ne_true
  | some (.success response) =>
    exact ⟨response, rfl, congrArg (fun shown => shown.1) agrees,
      congrArg (fun shown => shown.2.1) agrees⟩
  | some .unauthorized => exact agrees.elim
  | some (.refused _ _) => exact nomatch well.symm.trans agrees.2
  | some (.thrown _) => exact nomatch well.symm.trans agrees.2

/-- A consistent page that says it has loaded shows what it says, namely the answer
to the request for its present page and filters. -/
theorem Consistent.showsLatest (consistent : Consistent hook state)
    (settled : state.Settled hook) (loaded : state.loading = false) (well : state.error = none) :
    state.ShowsLatest hook := by
  cases consistent with
  | fresh started =>
    rw [State.Settled, started] at settled
    cases settled
  | current deps former request latest made agrees =>
    obtain rfl : deps = state.deps hook := Option.some.inj (latest.ran.symm.trans settled)
    obtain ⟨response, answered, events, pagination⟩ := agrees.success loaded well
    exact ⟨former, request, response, latest.instances, made, answered, events, pagination⟩

end Shown

section Calls

variable [OfNat Number 1] [Add Number]

/-- The updates of a call. -/
def Call.apply (state : State Number Reference Event Pagination) :
    Call Number Reference → State Number Reference Event Pagination
  | setPage next => { state with page := next }
  | setFilters next => { state with page := 1, filters := next }
  | reload => { state with reloadToken := state.reloadToken + 1 }

/-- A handler changes neither what is shown nor the requests; both wait for the
effects of the next render. -/
theorem handler_frame (calls : List (Call Number Reference))
    (state : State Number Reference Event Pagination) :
    (calls.foldl Call.apply state).effect = state.effect ∧
      (calls.foldl Call.apply state).shown = state.shown := by
  induction calls generalizing state with
  | nil => exact ⟨rfl, rfl⟩
  | cons call rest inductionHypothesis =>
    obtain ⟨effect, shown⟩ := inductionHypothesis (call.apply state)
    rw [List.foldl_cons, effect, shown]
    cases call <;> exact ⟨rfl, rfl⟩

/-- Only `setPage` can lead away from the first page, since new filters set it to
the first one. -/
theorem handler_page (calls : List (Call Number Reference))
    (state : State Number Reference Event Pagination)
    (others : ∀ page, Call.setPage page ∉ calls) (first : state.page = 1) :
    (calls.foldl Call.apply state).page = 1 := by
  induction calls generalizing state with
  | nil => exact first
  | cons call rest inductionHypothesis =>
    refine inductionHypothesis (call.apply state)
      (fun page later => others page (List.mem_cons_of_mem call later)) ?_
    cases call with
    | setPage page => exact absurd List.mem_cons_self (others page)
    | setFilters filters => rfl
    | reload => exact first

end Calls

section Runs

variable [OfNat Number 1] [Add Number] [DecidableEq Number] [DecidableEq Reference]
variable {hook : Hook Number Reference} {state next : State Number Reference Event Pagination}

def step (hook : Hook Number Reference) (state : State Number Reference Event Pagination) :
    Move Number Reference Event Pagination → Option (State Number Reference Event Pagination)
  | .handler calls => some (calls.foldl Call.apply state)
  | .effects =>
    let deps := state.deps hook
    if state.effect.ran = some deps then none
    else some { state with loading := true, effect := state.effect.rerun deps (deps.request hook) }
  | .answer index answer =>
    match state.effect.instances[index]? with
    | none => none
    | some entry =>
      if entry.work.answer.isSome then none
      else
        let noted := state.answered index entry answer
        some (if entry.mounted then noted.load answer else noted)

def system (hook : Hook Number Reference) :
    System (State Number Reference Event Pagination) (Move Number Reference Event Pagination) where
  step := step hook

/-- One move keeps the page consistent. The cases are the moves: a handler leaves
the requests, the effects make a new one the current one, and an answer counts if
its instance is still mounted. -/
theorem step_consistent (move : Move Number Reference Event Pagination)
    (consistent : Consistent hook state) (authorized : Authorized move)
    (taken : step hook state move = some next) : Consistent hook next := by
  cases move with
  | handler calls =>
    cases taken
    obtain ⟨effect, shown⟩ := handler_frame calls state
    cases consistent with
    | fresh started => exact .fresh (effect.trans started)
    | current deps former request latest made agrees =>
      exact .current deps former request (effect ▸ latest) made (agrees_of_shown shown agrees)
  | effects =>
    simp only [step, Option.ite_none_left_eq_some] at taken
    obtain ⟨-, kept⟩ := taken
    cases kept
    cases consistent with
    | fresh started =>
      exact .current _ [] ((state.deps hook).request hook) (started ▸ current_first _ _) rfl rfl
    | current deps former request latest made agrees =>
      exact .current _ _ ((state.deps hook).request hook) (latest.rerun _ _) rfl rfl
  | answer index answer =>
    cases found : state.effect.instances[index]? with
    | none => simp [step, found] at taken
    | some entry =>
      simp only [step, found, Option.ite_none_left_eq_some] at taken
      obtain ⟨-, kept⟩ := taken
      cases kept
      cases consistent with
      | fresh started => simp [started, Effect.initial] at found
      | current deps former request latest made agrees =>
        cases up : entry.mounted with
        | false =>
          exact .current deps _ request (latest.advance_former found up _) made agrees
        | true =>
          obtain ⟨same, live⟩ :=
            latest.advance_last found up { entry.work with answer := some answer }
          rw [← same] at made
          refine .current deps former { entry.work with answer := some answer } ?_ made ?_
          · rw [if_pos rfl, load_effect]
            exact live
          · rw [if_pos rfl]
            exact load_agrees authorized

/-- An answer to a superseded request changes nothing that is shown, whatever it
brings and however late it comes. -/
theorem superseded_ignored (consistent : Consistent hook state) {index : Nat}
    {answer : Answer (EventsResponse Event Pagination)}
    (superseded : index + 1 < state.effect.instances.length)
    (taken : step hook state (.answer index answer) = some next) : next.shown = state.shown := by
  cases consistent with
  | fresh started => simp [started, Effect.initial] at superseded
  | current deps former request latest made agrees =>
    cases found : state.effect.instances[index]? with
    | none => simp [step, found] at taken
    | some entry =>
      simp only [step, found, Option.ite_none_left_eq_some] at taken
      obtain ⟨-, kept⟩ := taken
      have down : ¬entry.mounted = true := by
        rw [latest.mounted_iff found]
        omega
      rw [if_neg down] at kept
      cases kept
      rfl

variable [OfNat Number 0]

def initial (hook : Hook Number Reference) : State Number Reference Event Pagination :=
  { page := 1, filters := hook.noFilters, reloadToken := 0, events := [], pagination := none
    loading := true, error := none, effect := Effect.initial }

/-- The page is consistent in every state that a run without a rejection reaches, by
the step lemma and the rule for runs. -/
theorem run_consistent (schedule : List (Move Number Reference Event Pagination))
    (reached : (system hook).run (initial hook) schedule = some state)
    (authorized : ∀ move ∈ schedule, Authorized move) : Consistent hook state := by
  have admitted := (system hook).admitted_of_moves Authorized (initial hook) schedule authorized
  exact (system hook).admitted_invariant _ (Consistent hook)
    (fun state move next consistent accepted taken =>
      step_consistent move consistent accepted taken)
    _ state schedule (.fresh rfl) admitted reached

/-- In every state of a run without a rejection: once the effects have run, what is
shown as loaded is the answer to the latest request, made for the current page and
filters; answers to superseded requests change nothing; and a handler that sets
filters, and no page after them, leads to the first page. -/
theorem event_list_shows_its_page (hook : Hook Number Reference)
    (schedule : List (Move Number Reference Event Pagination))
    (state : State Number Reference Event Pagination)
    (reached : (system hook).run (initial hook) schedule = some state)
    (authorized : ∀ move ∈ schedule, Authorized move) :
    (state.Settled hook → state.loading = false → state.error = none → state.ShowsLatest hook) ∧
      (∀ index answer next, step hook state (.answer index answer) = some next →
        index + 1 < state.effect.instances.length → next.shown = state.shown) ∧
      ∀ before filters after next, (∀ page, Call.setPage page ∉ after) →
        step hook state (.handler (before ++ .setFilters filters :: after)) = some next →
          next.page = 1 := by
  have consistent := run_consistent schedule reached authorized
  refine ⟨consistent.showsLatest, ?_, ?_⟩
  · intro index answer next taken superseded
    exact superseded_ignored consistent superseded taken
  · intro before filters after next others taken
    cases taken
    rw [List.foldl_append, List.foldl_cons]
    exact handler_page after _ others rfl

end Runs

/-- Fifty events a page, and two filter objects: one without and one with an address. -/
def pagingHook : Hook Nat Bool where
  perPage := 50
  text page := ofChars (Digits.decimal page)
  contents given :=
    { protocol := none, sourceIp := if given then some (literal "203.0.113.5") else none
      since := none, untilTime := none }
  noFilters := false

/-- The third page is asked for and then filters are set; the answers come in the
other order, and the first one after all. -/
def pagingSchedule : List (Move Nat Bool Nat Nat) :=
  [.effects, .handler [.setPage 3], .effects, .handler [.setFilters true], .effects,
    .answer 2 (.success ⟨[7, 8], 1⟩), .answer 1 (.success ⟨[5], 3⟩),
    .answer 0 (.thrown none)]

/-- After a change of the page the list shows the answer for this page, and not the
late one for the page before. -/
theorem event_list_shows_its_page_paging :
    ∃ state, (system pagingHook).run (initial pagingHook) pagingSchedule = some state ∧
      state.page = 1 ∧ state.events = [7, 8] ∧ state.ShowsLatest pagingHook := by
  refine ⟨_, rfl, rfl, rfl, (event_list_shows_its_page pagingHook pagingSchedule _ rfl ?_).1
    rfl rfl rfl⟩
  intro move member
  simp only [pagingSchedule, List.mem_cons, List.not_mem_nil, or_false] at member
  rcases member with rfl | rfl | rfl | rfl | rfl | rfl | rfl | rfl <;> trivial

end Honeywatch.Frontend.EventList
