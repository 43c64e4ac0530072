import Honeywatch.Api.Reading
import Honeywatch.Frontend.EventList

/-!
# The page of the event list

`EventListPage` in front of the route `list_events`: the buttons of `Pagination`, the
filters that `EventFilters` makes of its inputs, and the requests of `useEventList`. For
each of them the API makes two queries, one for the number of events and then one for a
page of them, and each query sees the table as it is when it is made. Meanwhile events
are inserted. Answers arrive late, in any order, or not at all.

With the page goes a record of what it has shown since its filters were chosen.
-/

namespace Honeywatch.Frontend.Paging

open Text Digits Effects Transition Collector Api Db OrderBy
open EventList (EventsResponse Hook Deps Call)

deriving instance DecidableEq for EventListFilters

/-- The object `pagination` of a response. -/
structure Pagination where
  page : Nat
  perPage : Nat
  total : Nat
  totalPages : Nat
  deriving DecidableEq

/-- The page behind the left button, unless it is disabled. -/
def Pagination.previous (pagination : Pagination) : Option Nat :=
  if pagination.page ≤ 1 then none else some (pagination.page - 1)

/-- The page behind the right button, unless it is disabled. -/
def Pagination.next (pagination : Pagination) : Option Nat :=
  if pagination.totalPages ≤ pagination.page then none else some (pagination.page + 1)

/-- A filter object. Objects with the same contents are told apart by their numbers. -/
structure Filters where
  number : Nat
  contents : EventListFilters
  deriving DecidableEq

def noContents : EventListFilters :=
  { protocol := none, sourceIp := none, since := none, untilTime := none }

/-- `useEventList()`. -/
def hook : Hook Nat Filters where
  perPage := 50
  text number := ofChars (decimal number)
  contents := Filters.contents
  noFilters := { number := 0, contents := noContents }

/-! ## The route reads a query -/

/-- A parameter of a query. -/
def param (query : List (String × Str)) (name : String) : Option Str :=
  (query.find? fun entry => decide (entry.1 = name)).map Prod.snd

/-- What the validation library makes of the text of a parameter that is an `int` or a
`datetime`. A row of decimal digits, as the browser writes a number, is that number. -/
structure Validation where
  integer : Str → Option Int
  datetime : Str → Option DateTime
  decimals : ∀ value : Nat, integer (ofChars (decimal value)) = some (value : Int)

/-- An `int` with a default. -/
def readNumber (validation : Validation) (default : Int) : Option Str → Option Int
  | none => some default
  | some text => validation.integer text

/-- `pattern="^(ssh|http)$"`. -/
def readProtocol : Option Str → Option (Option Str)
  | none => some none
  | some text => if text = literal "ssh" ∨ text = literal "http" then some (some text) else none

/-- A `datetime` without a default. -/
def readDate (validation : Validation) : Option Str → Option (Option DateTime)
  | none => some none
  | some text => (validation.datetime text).map some

/-- The arguments of `list_events`. -/
structure Arguments where
  page : Nat
  perPage : PerPage
  filter : EventFilter

/-- The filters of a request, as far as they are valid. -/
def readFilter (validation : Validation) (protocol sourceIp since untilTime : Option Str) :
    Option EventFilter := do
  let protocol ← readProtocol protocol
  let since ← readDate validation since
  let untilTime ← readDate validation untilTime
  return { protocol, sourceIp, since, untilTime }

/-- The arguments of a request; `none` is the response 422. -/
def readQuery (validation : Validation) (query : List (String × Str)) :
    Option Arguments := do
  let page ← readNumber validation 1 (param query "page")
  let perPage ← readNumber validation 50 (param query "per_page")
  let filter ← readFilter validation (param query "protocol") (param query "source_ip")
    (param query "since") (param query "until")
  if valid : 1 ≤ perPage ∧ perPage ≤ 100 then
    if 1 ≤ page then
      some { page := page.toNat, perPage := ⟨perPage.toNat, by omega⟩, filter }
    else none
  else none

/-- A value that `fetchEvents` puts into the query. -/
def given : Option Str → Option Str
  | some (point :: rest) => some (point :: rest)
  | _ => none

/-- What the route makes of filters that are applied. -/
def filterOf (validation : Validation) (contents : EventListFilters) : Option EventFilter :=
  readFilter validation (given contents.protocol) (given contents.sourceIp) (given contents.since)
    (given contents.untilTime)

/-! ## The form of the filters -/

/-- White space and line ends, as `trim` removes them. -/
def isWhiteSpace (point : CodePoint) : Bool :=
  decide (point.val ∈ [0x09, 0x0A, 0x0B, 0x0C, 0x0D, 0x20, 0xA0, 0x1680, 0x2028, 0x2029, 0x202F,
    0x205F, 0x3000, 0xFEFF] ∨ 0x2000 ≤ point.val ∧ point.val ≤ 0x200A)

def trim (text : Str) : Str := (text.dropWhile isWhiteSpace).rdropWhile isWhiteSpace

/-- The inputs of `EventFilters`. A date is what `localInputToIso` makes of its input. -/
structure Inputs where
  protocol : Str
  sourceIp : Str
  since : Option Str
  untilTime : Option Str

def handleApply (inputs : Inputs) : EventListFilters :=
  { protocol :=
      if inputs.protocol = literal "ssh" ∨ inputs.protocol = literal "http" then
        some inputs.protocol
      else none
    sourceIp := given (some (trim inputs.sourceIp))
    since := given inputs.since
    untilTime := given inputs.untilTime }

/-- A date that the route reads, if there is one. -/
def Readable (validation : Validation) (date : Option Str) : Prop :=
  ∀ text, given date = some text → (validation.datetime text).isSome = true

/-- An empty filter counts as none, and once is enough. -/
theorem given_given (value : Option Str) : given (given value) = given value := by
  rcases value with _ | _ | ⟨point, rest⟩ <;> rfl

/-- A date that the form let through is read by the API, or none was given. -/
theorem Readable.readDate {validation : Validation} {date : Option Str}
    (readable : Readable validation date) :
    ∃ bound, readDate validation (given date) = some bound := by
  cases written : given date with
  | none => exact ⟨none, rfl⟩
  | some text =>
    obtain ⟨moment, read⟩ := Option.isSome_iff_exists.mp (readable text written)
    exact ⟨some moment, by rw [Paging.readDate, read, Option.map_some]⟩

/-- What the form makes of its inputs is valid: an empty input is left out, and a
date is what the browser has made of it. -/
theorem filterOf_handleApply {validation : Validation} {inputs : Inputs}
    (since : Readable validation inputs.since) (untilTime : Readable validation inputs.untilTime) :
    (filterOf validation (handleApply inputs)).isSome = true := by
  obtain ⟨first, begun⟩ := since.readDate
  obtain ⟨last, ended⟩ := untilTime.readDate
  have protocol : ∃ chosen, readProtocol (given (handleApply inputs).protocol) = some chosen := by
    simp only [handleApply]
    split
    · next known =>
      rcases known with ssh | http
      · rw [ssh]; exact ⟨_, rfl⟩
      · rw [http]; exact ⟨_, rfl⟩
    · exact ⟨none, rfl⟩
  obtain ⟨chosen, read⟩ := protocol
  have dates : given (handleApply inputs).since = given inputs.since ∧
      given (handleApply inputs).untilTime = given inputs.untilTime :=
    ⟨given_given _, given_given _⟩
  simp [filterOf, readFilter, read, dates, begun, ended]

/-! ## The queries of the page -/

/-- A parameter is in the query exactly where the filter is given. -/
theorem setParam_eq (name : String) (value : Option Str) :
    setParam name value = ((given value).map fun text => (name, text)).toList := by
  rcases value with _ | _ | ⟨point, rest⟩ <;> rfl

/-- The route reads the number that the page has written. -/
theorem readNumber_decimal (validation : Validation) (default : Int) (value : Nat) :
    readNumber validation default (some (ofChars (decimal value))) = some (value : Int) :=
  validation.decimals value

/-- A row of digits is a number. -/
def digitRow (text : Str) : Option Int :=
  match toChars text with
  | none => none
  | some chars =>
    if chars ≠ [] ∧ chars.all (isDigit 10) then some (number 10 chars : Int) else none

/-- The number that the client writes is the number that the API reads. This is what
the witness of the reader of integers rests on. -/
theorem digitRow_decimal (value : Nat) :
    digitRow (ofChars (decimal value)) = some (value : Int) := by
  have digits : (decimal value).all (isDigit 10) = true :=
    List.all_eq_true.mpr (decimal_digits value)
  obtain ⟨first, rest, nonempty, -⟩ := decimal_cons value
  have written : decimal value ≠ [] := by simp [nonempty]
  simp [digitRow, digits, written]

/-- Numbers are read, dates are not. -/
def digitsOnly : Validation where
  integer := digitRow
  datetime _ := none
  decimals := digitRow_decimal

/-- The parameters of a request of the event list. A filter that is not given has
none, so each name occurs at most once. -/
theorem param_eventsQuery (page perPage : Nat) (contents : EventListFilters) :
    let query := eventsQuery hook.text page perPage contents
    param query "page" = some (ofChars (decimal page)) ∧
      param query "per_page" = some (ofChars (decimal perPage)) ∧
      param query "protocol" = given contents.protocol ∧
      param query "source_ip" = given contents.sourceIp ∧
      param query "since" = given contents.since ∧
      param query "until" = given contents.untilTime := by
  simp only [eventsQuery, setParam_eq]
  cases given contents.protocol <;> cases given contents.sourceIp <;>
    cases given contents.since <;> cases given contents.untilTime <;>
    exact ⟨rfl, rfl, rfl, rfl, rfl, rfl⟩

/-- A request for a page from one on is read as it is meant: the page and its length
by their digits, the filters as the form gave them. -/
theorem readQuery_eventsQuery {validation : Validation} {page : Nat} (first : 1 ≤ page)
    (contents : EventListFilters) :
    readQuery validation (eventsQuery hook.text page hook.perPage contents) =
      (filterOf validation contents).map fun filter =>
        { page, perPage := ⟨50, by decide⟩, filter } := by
  obtain ⟨pageText, perPageText, protocol, sourceIp, since, untilTime⟩ :=
    param_eventsQuery page hook.perPage contents
  rw [readQuery, pageText, perPageText, protocol, sourceIp, since, untilTime,
    readNumber_decimal, readNumber_decimal]
  unfold filterOf
  cases readFilter validation (given contents.protocol) (given contents.sourceIp)
    (given contents.since) (given contents.untilTime) <;> simp [first, hook]

/-! ## The page and the API -/

/-- The response of the route: the events have been counted in `table`, and later on the
database has sorted those that the page is cut from. -/
def respond (table : AttackEvents) (arguments : Arguments) (sorted : List AttackEventModel) :
    EventsResponse EventData Pagination :=
  let answer := listEventsRoute table arguments.filter arguments.page arguments.perPage sorted
  { events := answer.events
    pagination :=
      { page := answer.page, perPage := answer.perPage, total := answer.total
        totalPages := answer.totalPages } }

/-- A request between its two queries: its arguments, and the table that it has counted. -/
structure Counted where
  arguments : Arguments
  table : AttackEvents

/-- An answer on its way to the page. -/
structure Reply where
  answer : Answer (EventsResponse EventData Pagination)
  /-- How many events came between the two queries. -/
  between : Nat

structure State where
  table : AttackEvents
  client : EventList.State Nat Filters EventData Pagination
  /-- The number of the last filter object. -/
  objects : Nat
  /-- What has become of the requests at the API, by their numbers. -/
  counts : Nat → Option Counted
  replies : Nat → Option Reply
  /-- The table when the filters were chosen. -/
  chosen : AttackEvents
  /-- The filters of the list that is shown, and how many events came between its queries. -/
  listed : Option Filters
  between : Nat
  /-- What has been shown of the filters since they were chosen. -/
  seen : List EventData
  /-- The highest page of it. -/
  furthest : Nat

inductive Move
  | apply (inputs : Inputs)
  | clear
  | previous
  | next
  | effects
  | insert (row : AttackEventModel)
  /-- The first query of a request, if the request is valid. -/
  | count (index : Nat)
  /-- The second one; the database sorts the matching events. -/
  | select (index : Nat) (sorted : List AttackEventModel)
  | receive (index : Nat)
  /-- No response of the route: the network, a 401, a 500. -/
  | fail (index : Nat) (answer : Answer (EventsResponse EventData Pagination))

def mount (table : AttackEvents) : State :=
  { table, client := EventList.initial hook, objects := 0, counts := fun _ => none
    replies := fun _ => none, chosen := table, listed := none, between := 0, seen := []
    furthest := 0 }

/-- A page is asked for. -/
def State.turn (state : State) (page : Option Nat) : Option State :=
  page.map fun page => { state with client := Call.apply state.client (.setPage page) }

/-- `setFilters` with an object of its own. -/
def State.choose (state : State) (contents : EventListFilters) : State :=
  let filters := { number := state.objects + 1, contents }
  { state with
    client := Call.apply state.client (.setFilters filters)
    objects := state.objects + 1
    chosen := state.table
    seen := []
    furthest := 0 }

/-- The API comes to a request. -/
def State.count (validation : Validation) (state : State) (index : Nat)
    (query : List (String × Str)) : State :=
  match readQuery validation query with
  | none =>
    let answer := .refused 422 (literal "Unprocessable Content")
    { state with
      replies := Function.update state.replies index (some { answer, between := 0 }) }
  | some arguments =>
    let counted := { arguments, table := state.table }
    { state with counts := Function.update state.counts index (some counted) }

/-- A request with a query that cannot be read is answered at once, with 422, -/
theorem State.count_invalid {validation : Validation} (state : State) (index : Nat)
    {query : List (String × Str)} (invalid : readQuery validation query = none) :
    state.count validation index query = { state with
      replies := Function.update state.replies index
        (some { answer := .refused 422 (literal "Unprocessable Content"), between := 0 }) } := by
  rw [State.count, invalid]

/-- and one with a query that can be read waits for its first query. -/
theorem State.count_valid {validation : Validation} (state : State) (index : Nat)
    {query : List (String × Str)} {arguments : Arguments}
    (valid : readQuery validation query = some arguments) :
    state.count validation index query = { state with
      counts := Function.update state.counts index
        (some { arguments, table := state.table }) } := by
  rw [State.count, valid]

/-- What the API answers once both queries have been made. -/
def State.reply (state : State) (counted : Counted) (sorted : List AttackEventModel) : Reply where
  answer := .success (respond counted.table counted.arguments sorted)
  between :=
    (matching state.table counted.arguments.filter).length -
      (matching counted.table counted.arguments.filter).length

/-- What is listed once a response has been taken in. -/
def State.show (state : State) (response : EventsResponse EventData Pagination)
    (between : Nat) : State :=
  let listed := state.client.effect.ran.map Deps.filters
  let current := decide (listed = some state.client.filters)
  { state with
    listed
    between
    seen := if current then state.seen ++ response.events else state.seen
    furthest := if current then max state.furthest response.pagination.page else state.furthest }

/-- An answer arrives. It is shown only if its request is the latest. -/
def State.receive (state : State) (index : Nat) (reply : Reply) : Option State :=
  (EventList.step hook state.client (.answer index reply.answer)).map fun client =>
    match reply.answer, state.client.effect.instances[index]?.any Instance.mounted with
    | .success response, true => { state.show response reply.between with client }
    | _, _ => { state with client }

def step (validation : Validation) (state : State) : Move → Option State
  | .apply inputs => some (state.choose (handleApply inputs))
  | .clear => some (state.choose noContents)
  | .previous => state.turn (state.client.pagination.bind Pagination.previous)
  | .next => state.turn (state.client.pagination.bind Pagination.next)
  | .effects =>
    (EventList.step hook state.client .effects).map fun client => { state with client }
  | .insert row => (state.table.insertRow row).map fun table => { state with table }
  | .count index =>
    match state.client.effect.instances[index]? with
    | none => none
    | some entry =>
      if (state.counts index).isSome || (state.replies index).isSome then none
      else some (state.count validation index entry.work.query)
  | .select index sorted =>
    match state.counts index with
    | none => none
    | some counted =>
      if (state.replies index).isSome then none
      else
        let reply := state.reply counted sorted
        some { state with replies := Function.update state.replies index (some reply) }
  | .receive index =>
    match state.replies index with
    | none => none
    | some reply => state.receive index reply
  | .fail index answer =>
    match answer with
    | .success _ => none
    | failure => state.receive index { answer := failure, between := 0 }

def system (validation : Validation) : System State Move where
  step := step validation

/-- The database sorts the events that match when the second query is made. -/
def Sorting (state : State) : Move → Prop
  | .select index sorted => ∀ counted, state.counts index = some counted →
    Ordered AttackEventModel.timestamp (matching state.table counted.arguments.filter) sorted
  | _ => True

/-- Events have timestamps of their own, the database sorts by them, the route reads the
dates that the browser writes, and a button is pressed in a list of the current filters. -/
def Regular (validation : Validation) (state : State) : Move → Prop
  | .apply inputs => Readable validation inputs.since ∧ Readable validation inputs.untilTime
  | .previous | .next => state.listed = some state.client.filters
  | .insert row => row.timestamp ∉ state.table.rows.map AttackEventModel.timestamp
  | move => Sorting state move

/-! ## Requests that have not been made -/

/-- The API knows of no request before it is made. -/
def State.Unserved (state : State) : Prop :=
  ∀ index, state.client.effect.instances.length ≤ index →
    state.counts index = none ∧ state.replies index = none

/-- No request is being served before one was sent. -/
theorem mount_unserved (table : AttackEvents) : (mount table).Unserved := fun _ _ => ⟨rfl, rfl⟩

section

variable {validation : Validation} {state next : State}

/-- The number of the instances and what the API knows stay, so a request that was
not served is not served still. -/
theorem State.Unserved.same (unserved : state.Unserved)
    (length : next.client.effect.instances.length = state.client.effect.instances.length)
    (counts : next.counts = state.counts) (replies : next.replies = state.replies) :
    next.Unserved := by
  intro index beyond
  rw [counts, replies]
  exact unserved index (length ▸ beyond)

/-- Requests are only added, so what the API has answered belongs to requests that
were there. -/
theorem State.receive_unserved (unserved : state.Unserved) {index : Nat} {reply : Reply}
    (taken : state.receive index reply = some next) : next.Unserved := by
  obtain ⟨client, advanced, rfl⟩ := Option.map_eq_some_iff.mp taken
  have length : client.effect.instances.length = state.client.effect.instances.length := by
    simp only [EventList.step] at advanced
    cases found : state.client.effect.instances[index]? with
    | none => simp [found] at advanced
    | some entry =>
      simp only [found, Option.ite_none_left_eq_some, Option.some.injEq] at advanced
      obtain ⟨-, rfl⟩ := advanced
      cases entry.mounted <;> simp [EventList.State.answered, Effect.advance]
  split
  · exact unserved.same length rfl rfl
  · exact unserved.same length rfl rfl

/-- The first query of a request is noted under its number, or an error is its answer.
The request was sent, so no later one is touched. -/
theorem count_unserved (unserved : state.Unserved) {index : Nat}
    (taken : step validation state (.count index) = some next) : next.Unserved := by
  simp only [step] at taken
  cases found : state.client.effect.instances[index]? with
  | none => simp [found] at taken
  | some entry =>
    simp only [found, Option.ite_none_left_eq_some, Option.some.injEq] at taken
    obtain ⟨-, rfl⟩ := taken
    have within := (List.getElem?_eq_some_iff.mp found).1
    cases asked : readQuery validation entry.work.query with
    | none =>
      rw [state.count_invalid index asked]
      intro other beyond
      obtain ⟨uncounted, unanswered⟩ := unserved other beyond
      have elsewhere : other ≠ index := (within.trans_le beyond).ne'
      exact ⟨uncounted, (Function.update_of_ne elsewhere _ _).trans unanswered⟩
    | some arguments =>
      rw [state.count_valid index asked]
      intro other beyond
      obtain ⟨uncounted, unanswered⟩ := unserved other beyond
      have elsewhere : other ≠ index := (within.trans_le beyond).ne'
      exact ⟨(Function.update_of_ne elsewhere _ _).trans uncounted, unanswered⟩

/-- The second query follows the first one, so its request was sent, too. -/
theorem select_unserved (unserved : state.Unserved) {index : Nat}
    {sorted : List AttackEventModel}
    (taken : step validation state (.select index sorted) = some next) : next.Unserved := by
  simp only [step] at taken
  cases counts : state.counts index with
  | none => simp [counts] at taken
  | some held =>
    simp only [counts, Option.ite_none_left_eq_some, Option.some.injEq] at taken
    obtain ⟨-, rfl⟩ := taken
    intro other beyond
    obtain ⟨uncounted, unanswered⟩ := unserved other beyond
    have elsewhere : other ≠ index := by
      rintro rfl
      rw [uncounted] at counts
      cases counts
    exact ⟨uncounted, (Function.update_of_ne elsewhere _ _).trans unanswered⟩

/-- The server works on requests that were sent and not yet answered. Each move
either sends, takes a request one query further, or delivers its answer, and none
goes back. -/
theorem step_unserved {move : Move} (unserved : state.Unserved)
    (taken : step validation state move = some next) : next.Unserved := by
  cases move with
  | apply _ | clear =>
    cases taken
    exact unserved
  | previous | next =>
    obtain ⟨page, -, rfl⟩ := Option.map_eq_some_iff.mp taken
    exact unserved
  | insert row =>
    obtain ⟨table, -, rfl⟩ := Option.map_eq_some_iff.mp taken
    exact unserved
  | effects =>
    obtain ⟨client, ran, rfl⟩ := Option.map_eq_some_iff.mp taken
    simp only [EventList.step, Option.ite_none_left_eq_some, Option.some.injEq] at ran
    obtain ⟨-, rfl⟩ := ran
    intro index beyond
    simp only [Effect.rerun, List.length_append, length_cleanup, List.length_singleton] at beyond
    exact unserved index (by omega)
  | count index => exact count_unserved unserved taken
  | select index sorted => exact select_unserved unserved taken
  | receive index =>
    simp only [step] at taken
    cases served : state.replies index with
    | none => simp [served] at taken
    | some reply =>
      rw [served] at taken
      exact state.receive_unserved unserved taken
  | fail index answer =>
    cases answer with
    | success response => cases taken
    | unauthorized | refused _ _ | thrown _ => exact state.receive_unserved unserved taken

end

end Honeywatch.Frontend.Paging
