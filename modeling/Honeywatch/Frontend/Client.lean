import Honeywatch.Foundation.Digits
import Honeywatch.Foundation.Text

/-!
# The API client

The queries of the requests, what may come of one, and what that does to the stored
credentials.
-/

namespace Honeywatch.Frontend

open Text Digits

/-- `EventListFilters`; a field may be missing. The last one is `until`. -/
structure EventListFilters where
  protocol : Option Str
  sourceIp : Option Str
  since : Option Str
  untilTime : Option Str

/-- `if (value) params.set(name, value)`: a missing or empty value sets nothing. -/
def setParam (name : String) : Option Str → List (String × Str)
  | some (point :: rest) => [(name, point :: rest)]
  | _ => []

/-- The query of `fetchEvents`; `text` is `String` of a number. -/
def eventsQuery {Number : Type} (text : Number → Str) (page perPage : Number)
    (filters : EventListFilters) : List (String × Str) :=
  [("page", text page), ("per_page", text perPage)] ++
    setParam "protocol" filters.protocol ++ setParam "source_ip" filters.sourceIp ++
    setParam "since" filters.since ++ setParam "until" filters.untilTime

/-- What comes of a request through `fetchWithAuth` and `response.json()`. -/
inductive Answer (Body : Type)
  | success (body : Body)
  /-- Not authenticated: `AuthError`. -/
  | unauthorized
  /-- A response that is not ok, of another status. -/
  | refused (status : Nat) (statusText : Str)
  /-- The network or the parser threw; `none` is a value that is no `Error`. -/
  | thrown (message : Option Str)

/-- `e instanceof Error ? e.message : "Unknown error"`, of what is thrown. -/
def Answer.message {Body : Type} : Answer Body → Option Str
  | success _ => none
  | unauthorized => some (literal "認証に失敗しました")
  | refused status statusText =>
    some (literal "API Error: " ++ ofChars (decimal status) ++ literal " " ++ statusText)
  | thrown message => some (message.getD (literal "Unknown error"))

/-- What `localStorage` holds for the credentials. -/
abbrev Credentials := Option Str

def isAuthenticated (credentials : Credentials) : Bool := credentials.isSome

/-- The credentials after a response to `fetchWithAuth`: a 401 discards them. -/
def fetchWithAuth {Body : Type} (credentials : Credentials) : Answer Body → Credentials
  | .unauthorized => none
  | _ => credentials

/-- The credentials after a response to `login`: whatever fails discards them. -/
def login {Body : Type} (credentials : Credentials) : Answer Body → Credentials
  | .success _ => credentials
  | _ => none

end Honeywatch.Frontend
