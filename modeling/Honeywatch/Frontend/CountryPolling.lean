import Honeywatch.Foundation.Spacing
import Honeywatch.Frontend.Dashboard

/-!
# How often the country ranking is asked for

The effect of `useCountrySummary` depends on the range that the page computes in
each render. A later render has a later range, unless all of the past is asked for,
and so every answer that renders the page anew makes the effect ask again: neither a
tick nor a change of period lies between these requests. The ranking is polled in
the runs whose renders for fetched data find the clock where the last render left
it, and in no others.
-/

namespace Honeywatch.Frontend.Dashboard

open Text Transition Spacing

variable {Body : Type}

def IsRequest (event : Event) : Prop := event = .requested .countrySummary

/-- A tick of the ranking's timer, or a change of period. -/
def IsOccasion (event : Event) : Prop :=
  event = .ticked .countrySummary ∨ event = .periodChanged

/-- Between any two requests there is an occasion for the second one. -/
def Polled (log : List Event) : Prop := Spaced IsRequest IsOccasion log

/-- A render for fetched data finds the range unchanged: all of the past is shown,
or the clock reads what it read in the last render. Without credentials there is
nothing to ask with. -/
def Steady (state : State Body) : Move Body → Prop
  | .render now => state.asks = true → state.period = .all ∨ now = state.rendered
  | _ => True

/-- The ranges of two renders agree only for one period, and without bounds or at
one moment. -/
theorem country_deps_eq_iff (option period : PeriodOption) (now rendered : Int) :
    Hook.deps option now .countrySummary = Hook.deps period rendered .countrySummary ↔
      option = period ∧ (period = .all ∨ now = rendered) := by
  cases option <;> cases period <;>
    simp [Hook.deps, periodToRange, PeriodOption.ms] <;> omega

/-- The effect of the ranking has run with the range of the last render, and while
there are credentials, nothing has happened since its last request that would
occasion another. -/
structure Asked (state : State Body) : Prop where
  ran : (state.hooks .countrySummary).effect.ran =
    some (Hook.deps state.period state.rendered .countrySummary)
  requested : state.asks = true → openAfter IsRequest IsOccasion False state.log

variable {state next : State Body}

/-- The effects of a render are no occasions. -/
theorem requests_through (state : State Body) (now : Int) :
    ∀ event ∈ state.requests now, ¬IsOccasion event := by
  rintro event member occasion
  obtain ⟨-, hook, rfl, -⟩ := mem_requests.mp member
  rcases occasion with same | same <;> cases same

/-- A render asks for the ranking when it can and its range is not the one that the
effect has run with. -/
theorem requests_country {now : Int} :
    (∃ event ∈ state.requests now, IsRequest event) ↔
      state.asks = true ∧ (state.hooks .countrySummary).effect.ran ≠
        some (Hook.deps state.period now .countrySummary) := by
  constructor
  · rintro ⟨event, member, rfl⟩
    obtain ⟨asks, hook, same, stale⟩ := mem_requests.mp member
    cases same
    exact ⟨asks, stale⟩
  · rintro ⟨asks, stale⟩
    exact ⟨_, mem_requests.mpr ⟨asks, .countrySummary, rfl, stale⟩, rfl⟩

/-- The first render asks for the ranking, and its bounds are those of this render.
-/
theorem initial_asked (credentials : Credentials) (now : Int) :
    Asked (initial credentials now : State Body) where
  ran := render_ran _ now .countrySummary
  requested asks := by
    rw [initial, State.render, openAfter_append,
      openAfter_of_no_barrier (requests_through _ now), requests_country]
    exact .inr ⟨asks, by simp [Effects.Effect.initial]⟩

/-- The first render asks once. -/
theorem initial_polled (credentials : Credentials) (now : Int) :
    Polled (initial credentials now : State Body).log := by
  rw [Polled, initial, State.render, List.nil_append, spaced_iff]
  exact spacedFrom_once (fun _ marked => marked) (requests_nodup _ now)

/-- A chosen period asks for the ranking, once and for a reason. The bounds of two
periods differ, so the effect runs again, and the change is its occasion. -/
theorem select_asked (asked : Asked state) {option : PeriodOption} (now : Int)
    (changed : option ≠ state.period) :
    let chosen : State Body :=
      { state with period := option, log := state.log ++ [.periodChanged] }
    Asked (chosen.render now) ∧ (Polled (chosen.render now).log ↔ Polled state.log) := by
  intro chosen
  have stale : (chosen.hooks .countrySummary).effect.ran ≠
      some (Hook.deps chosen.period now .countrySummary) := by
    rw [asked.ran]
    intro same
    exact changed ((country_deps_eq_iff option state.period now state.rendered).mp
      (Option.some.inj same).symm).1
  have closed : openAfter IsRequest IsOccasion False (state.log ++ [.periodChanged]) = False := by
    rw [openAfter_append]
    simp [openAfter, Open, IsRequest, IsOccasion]
  constructor
  · refine ⟨render_ran chosen now .countrySummary, fun asks => ?_⟩
    rw [State.render, openAfter_append, openAfter_of_no_barrier (requests_through chosen now),
      requests_country]
    exact .inr ⟨asks, stale⟩
  · have spaced : SpacedFrom IsRequest IsOccasion False (chosen.requests now) :=
      spacedFrom_once (fun _ marked => marked) (requests_nodup chosen now)
    rw [State.render, Polled, spaced_append, closed, and_iff_left spaced, spaced_append]
    exact and_iff_left ⟨fun marked => Event.noConfusion marked, trivial⟩

/-- A render for fetched data asks for no ranking exactly when it is steady: its
effect runs again when its bounds are new strings, and there is no occasion for
that. -/
theorem render_asked (asked : Asked state) (now : Int) :
    Asked (state.render now) ∧
      (Polled (state.render now).log ↔ Polled state.log ∧ Steady state (.render now)) := by
  constructor
  · refine ⟨render_ran state now .countrySummary, fun asks => ?_⟩
    rw [State.render, openAfter_append, openAfter_of_no_barrier (requests_through state now)]
    exact .inl (asked.requested asks)
  · have unasked : (∀ event ∈ state.requests now, ¬IsRequest event) ↔
        Steady state (.render now) := by
      have range := country_deps_eq_iff state.period state.period now state.rendered
      have absent : (∀ event ∈ state.requests now, ¬IsRequest event) ↔
          ¬∃ event ∈ state.requests now, IsRequest event := by
        simp only [not_exists, not_and]
      rw [absent, requests_country, asked.ran, Steady, not_and, not_not, Option.some.injEq,
        eq_comm (a := Hook.deps _ _ _), range]
      simp
    rw [State.render, Polled, spaced_append]
    refine and_congr_right fun _ => ?_
    cases asks : state.asks with
    | false =>
      have nothing : state.requests now = [] := by
        simp [State.requests, State.requestsOf, asks]
      rw [nothing]
      exact iff_of_true trivial (fun able => by simp [asks] at able)
    | true =>
      rw [eq_true (asked.requested asks), spacedFrom_open (requests_through state now), unasked]

/-- A tick of any timer is its own occasion, so a request that it makes keeps the
ranking polled. -/
theorem tick_asked (asked : Asked state) (hook : Hook) (quiet : Quiet state next)
    (credentials : next.credentials = state.credentials)
    (log : next.log = state.log ++ .ticked hook :: state.requestsOf [hook]) :
    Asked next ∧ (Polled next.log ↔ Polled state.log) := by
  constructor
  · refine ⟨by rw [quiet.ran, quiet.period, quiet.rendered, asked.ran], fun able => ?_⟩
    have asks : state.asks = true := by rwa [State.asks, ← credentials]
    rw [log, openAfter_append, eq_true (asked.requested asks), State.requestsOf, if_pos asks]
    by_cases this : hook = .countrySummary <;>
      simp [openAfter, Open, IsRequest, IsOccasion, this]
  · rw [Polled, log, spaced_append]
    refine and_iff_left ?_
    unfold State.requestsOf
    split_ifs
    · by_cases this : hook = .countrySummary <;>
        simp [SpacedFrom, Open, IsRequest, IsOccasion, this]
    · simp [SpacedFrom, IsRequest]

/-- One move keeps the ranking asked for, and keeps it polled exactly when steady.
Of all moves only the render for fetched data can ask without an occasion. -/
theorem step_polled {move : Move Body} (asked : Asked state)
    (taken : step state move = some next) :
    Asked next ∧ (Polled next.log ↔ Polled state.log ∧ Steady state move) := by
  cases step_cases taken with
  | silent elsewhere quiet log =>
    constructor
    · refine ⟨by rw [quiet.ran, quiet.period, quiet.rendered, asked.ran], fun able => ?_⟩
      rw [log]
      rcases quiet.credentials with same | none_left
      · exact asked.requested (by rwa [State.asks, ← same])
      · simp [State.asks, isAuthenticated, none_left] at able
    · rw [log]
      refine (and_iff_left ?_).symm
      cases move with
      | render now => exact absurd rfl (elsewhere now)
      | _ => trivial
  | selected option now changed =>
    obtain ⟨kept, polled⟩ := select_asked asked now changed
    exact ⟨kept, polled.trans (and_iff_left trivial).symm⟩
  | rendered now due => exact render_asked asked now
  | ticked hook quiet credentials log =>
    obtain ⟨kept, polled⟩ := tick_asked asked hook quiet credentials log
    exact ⟨kept, polled.trans (and_iff_left trivial).symm⟩

/-- In every run of the page: between any two requests for the country ranking there
is a tick of its timer or a change of period, exactly when every render for fetched
data shows all of the past, finds the clock where the last render left it, or finds no
credentials any more. -/
theorem country_ranking_polled_iff (credentials : Credentials) (now : Int)
    (schedule : List (Move Body)) (state : State Body)
    (reached : system.run (initial credentials now) schedule = some state) :
    Polled state.log ↔ system.Admitted Steady (initial credentials now) schedule := by
  have exact_run := system.kept_iff_admitted Steady Asked (fun state => Polled state.log)
    (fun state move next asked taken => (step_polled asked taken).1)
    (fun state move next asked taken => (step_polled asked taken).2)
    (initial credentials now) state schedule (initial_asked credentials now) reached
  exact exact_run.trans (and_iff_right (initial_polled credentials now))

/-- What the login has stored. -/
def stored : Credentials := some (literal "YWRtaW46c2VjcmV0")

/-- All of the past is chosen, an answer renders the page a minute later, and the
timer ticks. -/
def steadySchedule : List (Move Unit) :=
  [.select .all 5, .answer .timeline 1 (.success ()), .render 60005, .tick .countrySummary]

/-- With the period of everything the dependencies stay the same from render to
render, and the ranking is polled at the interval. -/
theorem country_ranking_polled_iff_all : ∃ state : State Unit,
    system.run (initial stored 0) steadySchedule = some state ∧ Polled state.log := by
  refine ⟨_, rfl, (country_ranking_polled_iff stored 0 steadySchedule _ rfl).mpr ?_⟩
  refine ⟨trivial, fun chosen first => ⟨trivial, fun answered second => ⟨fun _ => .inl ?_,
    fun rendered third => ⟨trivial, fun ticked fourth => trivial⟩⟩⟩⟩
  cases first
  cases second
  rfl

/-- The first answer with the ranking renders the page a millisecond later, and the
ranking is asked for again. -/
theorem country_ranking_hammered : ∃ state : State Unit,
    system.run (initial stored 0)
        [.answer .countrySummary 0 (.success ()), .render 1] = some state ∧
      ¬Polled state.log := by
  refine ⟨_, rfl, fun polled => ?_⟩
  obtain ⟨event, member, occasion⟩ :=
    polled ([.dashboardSummary, .timeline, .geoTopIPs, .attackTypes, .severitySummary,
      .riskRanking].map .requested) _ [.requested .recentEvents] _ [] rfl rfl rfl
  rw [List.mem_singleton.mp member] at occasion
  rcases occasion with same | same <;> cases same

/-! ## The loop of answers and requests -/

/-- There are credentials, every effect has run with the dependencies of the last render,
and the ranking's last instance waits for an answer. -/
structure Waiting (state : State Body) : Prop where
  asks : state.asks = true
  ran : ∀ hook, (state.hooks hook).effect.ran = some (hook.deps state.period state.rendered)
  asked : ∃ former, Effects.Current (state.hooks .countrySummary).effect
    (Hook.deps state.period state.rendered .countrySummary) former 1

/-- After the first render the current request of every hook waits for its answers.
-/
theorem initial_waiting (now : Int) : Waiting (initial stored now : State Body) where
  asks := rfl
  ran := render_ran _ now
  asked := ⟨[], Effects.current_first _ _⟩

/-- With bounds, the range of a render is not the range of another moment. -/
theorem range_changes (bounded : state.period ≠ .all) {now : Int} (later : now ≠ state.rendered) :
    Hook.deps state.period now .countrySummary ≠
      Hook.deps state.period state.rendered .countrySummary := by
  intro same
  exact ((country_deps_eq_iff _ _ now state.rendered).mp same).2.elim bounded later

/-- With bounds, a later render makes the ranking's effect run again and no other,
as only that one has the bounds among its dependencies. -/
theorem requests_later (asks : state.asks = true)
    (ran : ∀ hook, (state.hooks hook).effect.ran = some (hook.deps state.period state.rendered))
    (bounded : state.period ≠ .all) {now : Int} (later : now ≠ state.rendered) :
    state.requests now = [.requested .countrySummary] := by
  have stale : ∀ hook, (state.hooks hook).stale (hook.deps state.period now) =
      decide (hook = .countrySummary) := by
    intro hook
    rw [HookState.stale, ran]
    by_cases this : hook = .countrySummary
    · have changed := range_changes bounded later
      simp [this, changed.symm]
    · cases hook <;> first | exact absurd rfl this | simp [Hook.deps]
  rw [State.requests, List.filter_congr fun hook _ => stale hook, State.requestsOf, if_pos asks]
  rfl

/-- The page when a hook has taken a success in. -/
def State.received (state : State Body) (hook : Hook) (index : Nat)
    (entry : Effects.Instance Nat) (remaining : Nat) (body : Body) : State Body :=
  { state.setHook hook
      { data := some body, loading := false, error := none
        effect := (state.hooks hook).effect.advance index entry remaining } with
    due := true }

/-- An answer that is a success is received by the instance that asked, while its
effect is mounted. -/
theorem step_success {hook : Hook} {index remaining : Nat} {entry : Effects.Instance Nat}
    (found : (state.hooks hook).effect.instances[index]? = some entry)
    (waits : entry.work = remaining + 1) (up : entry.mounted = true) (body : Body) :
    step state (.answer hook index (.success body)) =
      some (state.received hook index entry remaining body) := by
  simp [step, found, waits, up, HookState.changes, HookState.load, State.received,
    State.setHook, fetchWithAuth]

/-- It moves the effect of its hook on, -/
theorem received_effect (state : State Body) (hook : Hook) (index : Nat)
    (entry : Effects.Instance Nat) (remaining : Nat) (body : Body) :
    ((state.received hook index entry remaining body).hooks hook).effect =
      (state.hooks hook).effect.advance index entry remaining := by
  rw [State.received, setHook_self]

/-- and runs no effect again. -/
theorem received_ran (state : State Body) (hook : Hook) (index : Nat)
    (entry : Effects.Instance Nat) (remaining : Nat) (body : Body) (other : Hook) :
    ((state.received hook index entry remaining body).hooks other).effect.ran =
      (state.hooks other).effect.ran := by
  unfold State.received
  apply setHook_ran
  rfl

/-- Once its answer has been taken in, a later render asks for the ranking again, and for
nothing else. -/
theorem waiting_round (waiting : Waiting state) (bounded : state.period ≠ .all) (body : Body) :
    ∃ index next, system.run state
        [.answer .countrySummary index (.success body), .render (state.rendered + 1)] = some next ∧
      Waiting next ∧ next.period = state.period ∧
      next.log = state.log ++ [.requested .countrySummary] := by
  obtain ⟨former, current⟩ := waiting.asked
  have found : (state.hooks .countrySummary).effect.instances[former.length]? =
      some { mounted := true, work := 1 } := by
    rw [current.instances, List.getElem?_concat_length]
  let answered := state.received .countrySummary former.length
    { mounted := true, work := 1 } 0 body
  have asks : answered.asks = true := waiting.asks
  have ran : ∀ hook, (answered.hooks hook).effect.ran =
      some (hook.deps answered.period answered.rendered) := by
    intro hook
    rw [received_ran]
    exact waiting.ran hook
  have later : answered.rendered + 1 ≠ answered.rendered := by omega
  have changed : (answered.hooks .countrySummary).effect.ran ≠
      some (Hook.deps answered.period (answered.rendered + 1) .countrySummary) := by
    rw [ran]
    exact fun same => range_changes bounded later (Option.some.inj same).symm
  refine ⟨former.length, answered.render (answered.rendered + 1), ?_, ?_, rfl, ?_⟩
  · rw [System.run_cons_iff]
    exact ⟨answered, step_success found rfl rfl body, rfl⟩
  · refine ⟨asks, render_ran answered _, former ++ [{ mounted := false, work := 0 }], ?_⟩
    rw [render_rerun changed, received_effect, asks]
    exact (current.advance_last found rfl 0).2.rerun _ 1
  · rw [State.render, requests_later asks ran bounded later]
    rfl

/-- For any number of requests there is a run of answers and renders that makes so many
after the first ones, in as many milliseconds, and nothing else happens in it. -/
theorem country_ranking_loop (now : Int) (body : Body) (rounds : Nat) :
    ∃ (schedule : List (Move Body)) (state : State Body),
      system.run (initial stored now) schedule = some state ∧
      state.log = (initial stored now : State Body).log ++
        List.replicate rounds (.requested .countrySummary) := by
  suffices looped : ∃ (schedule : List (Move Body)) (state : State Body),
      system.run (initial stored now) schedule = some state ∧ Waiting state ∧ state.period ≠ .all ∧
        state.log = (initial stored now : State Body).log ++
          List.replicate rounds (.requested .countrySummary) by
    obtain ⟨schedule, state, reached, -, -, log⟩ := looped
    exact ⟨schedule, state, reached, log⟩
  induction rounds with
  | zero =>
    exact ⟨[], initial stored now, rfl, initial_waiting now, nofun, (List.append_nil _).symm⟩
  | succ rounds inductionHypothesis =>
    obtain ⟨schedule, state, reached, waiting, bounded, log⟩ := inductionHypothesis
    obtain ⟨index, next, taken, still, period, more⟩ := waiting_round waiting bounded body
    refine ⟨schedule ++ _, next, (system.run_append _ _ _ _ reached).trans taken, still,
      period ▸ bounded, ?_⟩
    rw [more, log, List.append_assoc, List.replicate_succ']

end Honeywatch.Frontend.Dashboard
