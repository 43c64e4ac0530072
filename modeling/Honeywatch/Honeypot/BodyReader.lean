import Honeywatch.Foundation.Transition
import Honeywatch.Honeypot.Recording

/-!
# The bounded body reader

`_read_body_limited` as a loop over deliveries: the next chunk, the end of the
body, or a read error. The loop keeps its chunks and their total length, and it
lets go of a chunk that exceeds the limit. What it returns is `readBodyLimited`.
-/

namespace Honeywatch.Honeypot.Http

open Transition Utf8

/-- The loop between two deliveries, or what the function has returned. -/
inductive BodyReading
  | reading (total : Nat) (chunks : List (List Byte))
  | returned (body : Option (List Byte))
deriving DecidableEq

/-- What `iter_chunked` does next. -/
inductive Delivery
  | chunk (bytes : List Byte)
  | ended
  | raised

/-- `_read_body_limited` up to its loop: a declared length may end it at once. -/
def openBody (contentLength : Option Int) : BodyReading :=
  match contentLength with
  | some declared =>
    if (maxBodySize : Int) < declared then .returned none else .reading 0 []
  | none => .reading 0 []

/-- The body of the loop, its end, and its except clause. -/
def bodyReader : System BodyReading Delivery where
  step state delivery :=
    match state, delivery with
    | .reading total chunks, .chunk bytes =>
      if maxBodySize < total + bytes.length then some (.returned none)
      else some (.reading (total + bytes.length) (chunks ++ [bytes]))
    | .reading _ chunks, .ended => some (.returned (some chunks.flatten))
    | .reading _ _, .raised => some (.returned (some []))
    | .returned _, _ => none

/-- The bytes in the chunk list. -/
def BodyReading.retained : BodyReading → List Byte
  | .reading _ chunks => chunks.flatten
  | .returned _ => []

/-- `total` is what the chunks hold, and it is within the limit. -/
def BodyReading.Within : BodyReading → Prop
  | .reading total chunks => total = chunks.flatten.length ∧ total ≤ maxBodySize
  | .returned _ => True

/-- A body that is declared too long is refused at once; otherwise nothing has been
read. -/
theorem openBody_within (contentLength : Option Int) : (openBody contentLength).Within := by
  have fresh : (BodyReading.reading 0 []).Within := ⟨rfl, Nat.zero_le _⟩
  unfold openBody
  cases contentLength with
  | none => exact fresh
  | some declared =>
    dsimp only
    split
    · trivial
    · exact fresh

/-- What is read never exceeds the limit: the chunk that would is the one at which
the reader gives up. The cases are the deliveries. -/
theorem within_step (state : BodyReading) (delivery : Delivery) (next : BodyReading)
    (within : state.Within) (taken : bodyReader.step state delivery = some next) :
    next.Within := by
  cases state with
  | returned body => cases delivery <;> cases taken
  | reading total chunks =>
    cases delivery with
    | chunk bytes =>
      simp only [bodyReader] at taken
      split at taken
      · obtain rfl := Option.some.inj taken
        trivial
      · rename_i small
        obtain rfl := Option.some.inj taken
        obtain ⟨counted, _⟩ := within
        refine ⟨?_, Nat.le_of_not_lt small⟩
        simp [counted]
    | ended =>
      obtain rfl := Option.some.inj taken
      trivial
    | raised =>
      obtain rfl := Option.some.inj taken
      trivial

/-- The chunk list never holds more than the limit allows, since the last chunk is
cut to what is left of it. -/
theorem retained_within (contentLength : Option Int) (deliveries : List Delivery)
    (state : BodyReading)
    (reached : bodyReader.run (openBody contentLength) deliveries = some state) :
    state.retained.length ≤ maxBodySize := by
  have within := bodyReader.run_invariant BodyReading.Within
    (fun state delivery next => within_step state delivery next) _ state deliveries
    (openBody_within contentLength) reached
  cases state with
  | returned body => exact Nat.zero_le _
  | reading total chunks =>
    obtain ⟨counted, small⟩ := within
    exact counted ▸ small

/-- What `iter_chunked` delivers of a request. -/
def Request.deliveries (request : Request) : List Delivery :=
  request.chunks.map .chunk ++ [if request.interrupted then .raised else .ended]

/-- The loop reads from any point on what `readChunks` does. The induction is on the
chunks, with those kept so far in front. -/
theorem loop_returns (interrupted : Bool) (total : Nat) (kept chunks : List (List Byte)) :
    ∃ taken, taken <+: chunks.map Delivery.chunk ++ [if interrupted then .raised else .ended] ∧
      bodyReader.run (.reading total kept) taken =
        some (.returned (readChunks interrupted total kept.flatten chunks)) := by
  induction chunks generalizing total kept with
  | nil =>
    refine ⟨_, List.prefix_rfl, ?_⟩
    cases interrupted <;> rfl
  | cons bytes rest inductionHypothesis =>
    rw [List.map_cons, List.cons_append, readChunks]
    by_cases exceeds : maxBodySize < total + bytes.length
    · refine ⟨[.chunk bytes], ⟨_, rfl⟩, ?_⟩
      simp [System.run, bodyReader, exceeds]
    · obtain ⟨taken, first, returned⟩ :=
        inductionHypothesis (total + bytes.length) (kept ++ [bytes])
      refine ⟨.chunk bytes :: taken, (List.prefix_cons_inj _).mpr first, ?_⟩
      have step : bodyReader.step (.reading total kept) (.chunk bytes) =
          some (.reading (total + bytes.length) (kept ++ [bytes])) := by
        simp [bodyReader, exceeds]
      rw [System.run, step, if_neg exceeds]
      simpa using returned

/-- Of the deliveries of a request as many are taken as it needs to return; what
comes behind the limit is never read. -/
theorem readBodyLimited_returned (request : Request) :
    ∃ taken, taken <+: request.deliveries ∧
      bodyReader.run (openBody request.contentLength) taken =
        some (.returned (readBodyLimited request)) := by
  have loop := loop_returns request.interrupted 0 [] request.chunks
  unfold openBody readBodyLimited
  cases request.contentLength with
  | none => exact loop
  | some declared =>
    by_cases exceeds : (maxBodySize : Int) < declared
    · refine ⟨[], List.nil_prefix, ?_⟩
      simp [exceeds, System.run]
    · simp only [exceeds, if_false]
      exact loop

/-- The limit is exceeded by the declared length or by the bytes that arrive. -/
def ExceedsLimit (contentLength : Option Int) (received : List Byte) : Prop :=
  (∃ declared, contentLength = some declared ∧ (maxBodySize : Int) < declared) ∨
    maxBodySize < received.length

/-- Both ways of saying that a body is too large agree. -/
theorem bodyTooLarge_iff (request : Request) :
    request.BodyTooLarge ↔ ExceedsLimit request.contentLength request.chunks.flatten := by
  rw [Request.BodyTooLarge, ExceedsLimit, List.length_flatten]

/-- For every declared length, every list of chunks and whether or not a read error
follows them: the reader returns nothing exactly when the declared length or the
bytes exceed the limit, and otherwise the bytes, or the empty body after an error.
So the answer does not depend on where the chunks are cut. It is what the loop
returns after some of the deliveries, and after any deliveries its chunk list is
within the limit. -/
theorem body_reader_exact (request : Request) :
    (readBodyLimited request = none ↔
      ExceedsLimit request.contentLength request.chunks.flatten) ∧
    (¬ ExceedsLimit request.contentLength request.chunks.flatten →
      readBodyLimited request =
        some (if request.interrupted then [] else request.chunks.flatten)) ∧
    (∀ other : Request, other.contentLength = request.contentLength →
      other.interrupted = request.interrupted →
      other.chunks.flatten = request.chunks.flatten →
      readBodyLimited other = readBodyLimited request) ∧
    (∃ taken, taken <+: request.deliveries ∧
      bodyReader.run (openBody request.contentLength) taken =
        some (.returned (readBodyLimited request))) ∧
    ∀ deliveries state,
      bodyReader.run (openBody request.contentLength) deliveries = some state →
      state.retained.length ≤ maxBodySize := by
  have refused (request : Request) : readBodyLimited request = none ↔
      ExceedsLimit request.contentLength request.chunks.flatten :=
    (readBodyLimited_none_iff request).trans (bodyTooLarge_iff request)
  have read (request : Request)
      (within : ¬ ExceedsLimit request.contentLength request.chunks.flatten) :
      readBodyLimited request =
        some (if request.interrupted then [] else request.chunks.flatten) := by
    obtain ⟨body, returned⟩ := Option.ne_none_iff_exists'.mp (mt (refused request).mp within)
    rw [returned, readBodyLimited_some returned]
  refine ⟨refused request, read request, ?_, readBodyLimited_returned request,
    retained_within request.contentLength⟩
  intro other declared interrupted bytes
  by_cases exceeds : ExceedsLimit request.contentLength request.chunks.flatten
  · rw [(refused request).mpr exceeds, refused other, declared, bytes]
    exact exceeds
  · rw [read request exceeds, read other (by rwa [declared, bytes]), interrupted, bytes]

end Honeywatch.Honeypot.Http
