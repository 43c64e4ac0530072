import Mathlib.Data.List.Nodup
import Honeywatch.Foundation.Effects
import Honeywatch.Foundation.Transition
import Honeywatch.Frontend.Client

/-!
# The dashboard

`DashboardPage`: a period, and eight hooks of one shape that ask the API when their
effect runs and again at each tick of a timer. The country ranking is asked for by
a range of moments, and the page computes that range anew in every render, from
the clock.

Answers of superseded instances change nothing that is shown. An answer that a hook
takes in makes a render due, since the data it sets is a new object. Choosing a period
is rendered at once. Without credentials a call is no request; a 401, here or in a call
of another page, discards them.
-/

namespace Honeywatch.Frontend.Dashboard

open Text Effects Transition

/-- `UNIFIED_PERIOD_OPTIONS`. -/
inductive PeriodOption
  | oneHour | sixHours | day | week | year | all
  deriving DecidableEq

/-- The text of an option. -/
def PeriodOption.text : PeriodOption → Str
  | oneHour => literal "1h"
  | sixHours => literal "6h"
  | day => literal "24h"
  | week => literal "7d"
  | year => literal "1y"
  | all => literal "all"

/-- The milliseconds of a period; all of the past is no number of them. -/
def PeriodOption.ms : PeriodOption → Option Int
  | oneHour => some 3600000
  | sixHours => some (6 * 3600000)
  | day => some (24 * 3600000)
  | week => some (7 * 24 * 3600000)
  | year => some (365 * 24 * 3600000)
  | all => none

/-- A dependency of an effect. A moment in milliseconds stands for its ISO text,
which is another one for every moment. -/
inductive Arg
  | text (value : Str)
  | number (value : Nat)
  | moment (value : Int)
  | undefined
  deriving DecidableEq

/-- `periodToRange`, at a reading of the clock: `start` and `end`. -/
def periodToRange (period : PeriodOption) (now : Int) : Arg × Arg :=
  match period.ms with
  | none => (.undefined, .undefined)
  | some ms => (.moment (now - ms), .moment now)

inductive Hook
  | dashboardSummary | timeline | geoTopIPs | attackTypes | severitySummary | riskRanking
  | countrySummary | recentEvents
  deriving DecidableEq

/-- The hooks in the order in which the page calls them. -/
def Hook.all : List Hook :=
  [dashboardSummary, timeline, geoTopIPs, attackTypes, severitySummary, riskRanking,
    countrySummary, recentEvents]

/-- The dependencies of a hook's effect in a render. -/
def Hook.deps (period : PeriodOption) (now : Int) : Hook → List Arg
  | dashboardSummary => [.text period.text]
  | timeline => [.text period.text, .text (literal "1h")]
  | geoTopIPs => [.number 20, .text period.text]
  | attackTypes => [.text period.text]
  | severitySummary => [.text period.text]
  | riskRanking => [.number 10, .text period.text]
  | countrySummary => [(periodToRange period now).1, (periodToRange period now).2]
  | recentEvents => [.number 10]

/-- What has happened to the page. -/
inductive Event
  | periodChanged
  | ticked (hook : Hook)
  | requested (hook : Hook)
  deriving DecidableEq

variable {Body : Type}

/-- The state of a hook; the work of an instance is the number of its requests
under way. -/
structure HookState (Body : Type) where
  data : Option Body
  loading : Bool
  error : Option Str
  effect : Effect (List Arg) Nat

structure State (Body : Type) where
  credentials : Credentials
  period : PeriodOption
  /-- The clock in the last render. -/
  rendered : Int
  due : Bool
  hooks : Hook → HookState Body
  log : List Event

inductive Move (Body : Type)
  | select (option : PeriodOption) (now : Int)
  | answer (hook : Hook) (index : Nat) (answer : Answer Body)
  /-- A call without credentials ends in its hook. -/
  | unauthenticated (hook : Hook)
  /-- A 401 to a call of another page. -/
  | discarded
  | render (now : Int)
  | tick (hook : Hook)

/-- A dependency has changed since the effect ran. -/
def HookState.stale (hook : HookState Body) (deps : List Arg) : Bool :=
  decide (hook.effect.ran ≠ some deps)

/-- `fetchWithAuth` makes a request when it is called. -/
def State.asks (state : State Body) : Bool := isAuthenticated state.credentials

/-- The effect after a render: `load()` makes a request, if it can. -/
def HookState.afterRender (hook : HookState Body) (deps : List Arg) (asks : Bool) :
    HookState Body :=
  if hook.stale deps then { hook with effect := hook.effect.rerun deps asks.toNat } else hook

/-- The requests of hooks that call `load`. -/
def State.requestsOf (state : State Body) (hooks : List Hook) : List Event :=
  if state.asks then hooks.map .requested else []

/-- The requests that the effects make after a render. -/
def State.requests (state : State Body) (now : Int) : List Event :=
  state.requestsOf
    (Hook.all.filter fun hook => (state.hooks hook).stale (hook.deps state.period now))

/-- A render and the effects after it. -/
def State.render (state : State Body) (now : Int) : State Body :=
  { state with
    rendered := now
    due := false
    hooks := fun hook => (state.hooks hook).afterRender (hook.deps state.period now) state.asks
    log := state.log ++ state.requests now }

/-- The page after it has been mounted. -/
def initial (credentials : Credentials) (now : Int) : State Body :=
  let hook : HookState Body :=
    { data := none, loading := true, error := none, effect := Effect.initial }
  State.render
    { credentials, period := .day, rendered := now, due := true, hooks := fun _ => hook, log := [] }
    now

/-- What `load` does with an answer, its flag being up. -/
def HookState.load (hook : HookState Body) : Answer Body → HookState Body
  | .success body => { hook with data := some body, error := none, loading := false }
  | failure => { hook with error := failure.message, loading := false }

/-- Whether an answer changes the state of the hook. -/
def HookState.changes (hook : HookState Body) : Answer Body → Bool
  | .success _ => true
  | failure => decide (hook.error ≠ failure.message) || hook.loading

def State.setHook (state : State Body) (hook : Hook) (value : HookState Body) : State Body :=
  { state with hooks := Function.update state.hooks hook value }

def step (state : State Body) : Move Body → Option (State Body)
  | .select option now =>
    if option = state.period then some state
    else
      some (State.render
        { state with period := option, log := state.log ++ [.periodChanged] } now)
  | .answer hook index answer =>
    let current := state.hooks hook
    match current.effect.instances[index]? with
    | none => none
    | some entry =>
      match entry.work with
      | 0 => none
      | remaining + 1 =>
        let noted := { current with effect := current.effect.advance index entry remaining }
        let credentials := fetchWithAuth state.credentials answer
        if entry.mounted then
          some { state.setHook hook (noted.load answer) with
                 credentials, due := state.due || current.changes answer }
        else some { state.setHook hook noted with credentials }
  | .unauthenticated hook =>
    let failure : Answer Body := .thrown (some (literal "未ログインです"))
    if state.asks then none
    else
      some { state.setHook hook ((state.hooks hook).load failure) with
             due := state.due || (state.hooks hook).changes failure }
  | .discarded => some { state with credentials := none }
  | .render now => if state.due then some (state.render now) else none
  | .tick hook =>
    let current := state.hooks hook
    match current.effect.instances.getLast? with
    | none => none
    | some entry =>
      if entry.mounted then
        let ticked := { current with
          effect :=
            current.effect.advance (current.effect.instances.length - 1) entry
              (entry.work + state.asks.toNat) }
        some { state.setHook hook ticked with
               log := state.log ++ .ticked hook :: state.requestsOf [hook] }
      else none

def system : System (State Body) (Move Body) where
  step := step

/-! ## What each move does to the effects and to the log -/

variable {state next : State Body}

/-- Of some hooks each asks once where the page asks at all, that is, where there
are credentials to ask with. -/
theorem mem_requestsOf {hooks : List Hook} {event : Event} :
    event ∈ state.requestsOf hooks ↔
      state.asks = true ∧ ∃ hook ∈ hooks, event = .requested hook := by
  unfold State.requestsOf
  split_ifs with asks
  · simp [asks, eq_comm]
  · simp [asks]

/-- Hooks that call `load` once each make one request each. -/
theorem requestsOf_nodup {hooks : List Hook} (once : hooks.Nodup) :
    (state.requestsOf hooks).Nodup := by
  unfold State.requestsOf
  split_ifs
  · exact List.Nodup.map (fun left right same => Event.requested.inj same) once
  · exact List.nodup_nil

/-- After a render every effect has run with the dependencies of that render. -/
theorem render_ran (state : State Body) (now : Int) (hook : Hook) :
    ((state.render now).hooks hook).effect.ran = some (hook.deps state.period now) := by
  simp only [State.render, HookState.afterRender]
  split_ifs with stale
  · rfl
  · simpa [HookState.stale] using stale

/-- An effect whose dependencies have changed runs again. -/
theorem render_rerun {now : Int} {hook : Hook}
    (changed : (state.hooks hook).effect.ran ≠ some (hook.deps state.period now)) :
    ((state.render now).hooks hook).effect =
      (state.hooks hook).effect.rerun (hook.deps state.period now) state.asks.toNat := by
  simp [State.render, HookState.afterRender, HookState.stale, changed]

/-- In a render those hooks ask whose dependencies have changed. All hooks are
called in every render. -/
theorem mem_requests {now : Int} {event : Event} :
    event ∈ state.requests now ↔
      state.asks = true ∧ ∃ hook, event = .requested hook ∧
        (state.hooks hook).effect.ran ≠ some (hook.deps state.period now) := by
  have called : ∀ hook : Hook, hook ∈ Hook.all := by
    intro hook
    cases hook <;> decide
  simp only [State.requests, mem_requestsOf, List.mem_filter, HookState.stale,
    decide_eq_true_eq, called, true_and]
  simp only [and_comm]

/-- No hook asks twice in one render. -/
theorem requests_nodup (state : State Body) (now : Int) : (state.requests now).Nodup := by
  have once : Hook.all.Nodup := by decide
  exact requestsOf_nodup (once.filter _)

/-- What is set for a hook is what the hook then has. -/
theorem setHook_self (state : State Body) (hook : Hook) (value : HookState Body) :
    (state.setHook hook value).hooks hook = value := by
  simp only [State.setHook, Function.update_self]

/-- Where the last run of the effect is kept, it is kept for every hook. -/
theorem setHook_ran {hook : Hook} {value : HookState Body}
    (same : value.effect.ran = (state.hooks hook).effect.ran) (other : Hook) :
    ((state.setHook hook value).hooks other).effect.ran = (state.hooks other).effect.ran := by
  by_cases this : other = hook
  · simp only [State.setHook, this, Function.update_self, same]
  · simp only [State.setHook, Function.update_of_ne this]

/-- An answer sets the data or the error and leaves the effect alone. -/
theorem load_effect (hook : HookState Body) (answer : Answer Body) :
    (hook.load answer).effect = hook.effect := by
  cases answer <;> rfl

/-- A step outside the renders: the page, its clock and the dependencies that the effects
have run with stay, and credentials are at most discarded. -/
structure Quiet (state next : State Body) : Prop where
  period : next.period = state.period
  rendered : next.rendered = state.rendered
  ran : ∀ hook, (next.hooks hook).effect.ran = (state.hooks hook).effect.ran
  credentials : next.credentials = state.credentials ∨ next.credentials = none

/-- An answer leaves the credentials, or takes them away after a 401. It never sets
any. -/
theorem fetchWithAuth_cases {Body : Type} (credentials : Credentials) (answer : Answer Body) :
    fetchWithAuth credentials answer = credentials ∨ fetchWithAuth credentials answer = none := by
  cases answer
  · exact .inl rfl
  · exact .inr rfl
  · exact .inl rfl
  · exact .inl rfl

/-- What a move does: a period is chosen, the page is rendered, a timer ticks, or
nothing is logged. -/
inductive Step (state : State Body) : Move Body → State Body → Prop
  | silent {move : Move Body} {next : State Body} (elsewhere : ∀ now, move ≠ .render now)
      (quiet : Quiet state next) (log : next.log = state.log) : Step state move next
  | selected (option : PeriodOption) (now : Int) (changed : option ≠ state.period) :
      Step state (.select option now)
        (State.render { state with period := option, log := state.log ++ [.periodChanged] } now)
  | rendered (now : Int) (due : state.due = true) : Step state (.render now) (state.render now)
  | ticked (hook : Hook) {next : State Body} (quiet : Quiet state next)
      (credentials : next.credentials = state.credentials)
      (log : next.log = state.log ++ .ticked hook :: state.requestsOf [hook]) :
      Step state (.tick hook) next

/-- Every move is one of these, each with its guard and with what it changes, so
that no proof has to unfold the step. -/
theorem step_cases {move : Move Body} (taken : step state move = some next) :
    Step state move next := by
  cases move with
  | select option now =>
    by_cases same : option = state.period
    · obtain rfl : state = next := by simpa [step, same] using taken
      exact .silent nofun ⟨rfl, rfl, fun _ => rfl, .inl rfl⟩ rfl
    · simp only [step, if_neg same, Option.some.injEq] at taken
      exact taken ▸ .selected option now same
  | answer hook index answer =>
    simp only [step] at taken
    split at taken
    · cases taken
    · split at taken
      · cases taken
      · split_ifs at taken with up
        · cases taken
          exact .silent nofun ⟨rfl, rfl, setHook_ran (by rw [load_effect]; rfl),
            fetchWithAuth_cases _ _⟩ rfl
        · cases taken
          exact .silent nofun ⟨rfl, rfl, setHook_ran rfl, fetchWithAuth_cases _ _⟩ rfl
  | unauthenticated hook =>
    simp only [step] at taken
    split_ifs at taken
    cases taken
    exact .silent nofun ⟨rfl, rfl, setHook_ran rfl, .inl rfl⟩ rfl
  | discarded =>
    cases taken
    exact .silent nofun ⟨rfl, rfl, fun _ => rfl, .inr rfl⟩ rfl
  | render now =>
    simp only [step, Option.ite_none_right_eq_some] at taken
    obtain ⟨due, kept⟩ := taken
    cases kept
    exact .rendered now due
  | tick hook =>
    simp only [step] at taken
    split at taken
    · cases taken
    · split_ifs at taken with up
      cases taken
      exact .ticked hook ⟨rfl, rfl, setHook_ran rfl, .inl rfl⟩ rfl rfl

end Honeywatch.Frontend.Dashboard
