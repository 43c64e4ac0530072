import Honeywatch.Foundation.Utf8Search
import Honeywatch.Honeypot.Evidence

/-!
# Payloads in bodies of any bytes

The honeypot records the beginning of a body, decoded with replacement, and the
classifier searches it for the patterns of a command injection. Whatever bytes
surround a payload, the search finds an ASCII pattern exactly where the body has
its bytes.
-/

namespace Honeywatch.Honeypot.Http

open Text Utf8 FormEncoding Collector Detection

/-- A pattern as a string of the rules. -/
def patternStr (pattern : Pattern) : Str := ofChars pattern.chars

/-- Different characters are different code points. -/
theorem ofChar_injective : Function.Injective ofChar := by
  intro left right same
  have values : left.toNat = right.toNat :=
    congrArg (fun point : CodePoint => point.val) same
  exact Char.toNat_inj.mp values

/-- A string of text occurs in another as the text does, as each character is one
code point. -/
theorem ofChars_infix_iff (searched text : List Char) :
    ofChars searched <:+: ofChars text ↔ searched <:+: text := by
  constructor
  · intro found
    obtain ⟨part, inside, same⟩ := List.infix_map_iff.mp found
    rwa [List.map_injective_iff.mpr ofChar_injective same]
  · intro found
    exact found.map ofChar

/-- A pattern occurs in the preview of a body exactly when its bytes occur in the
bytes that the preview is made of. -/
theorem bodyPreview_infix_iff (pattern : Pattern) (body : List Byte) :
    (∃ preview, bodyPreviewFromBytes body = some preview ∧ patternStr pattern <:+: preview) ↔
      pattern.chars.map asciiByte <:+: body.take bodyPreviewLimit := by
  unfold bodyPreviewFromBytes
  by_cases empty : body = []
  · rw [if_pos empty, empty]
    have some_bytes : pattern.chars.map asciiByte ≠ [] := by
      simpa using pattern.nonempty
    simp [some_bytes]
  · rw [if_neg empty, ← infix_decodeReplace_iff pattern, ← ofChars_infix_iff]
    simp [patternStr]

/-- With a single pattern that the path does not hold, an event over HTTP is an
injection when its preview holds the pattern. -/
theorem isCommandInjection_preview_iff (rules : DetectionRules) (event : AttackEvent)
    (pattern : Str) (only : rules.attackTypes.commandInjection.patterns = [pattern])
    (http : event.protocol = .http)
    (plain : ∀ path, event.getStr "path" = some path → ¬ pattern <:+: path) :
    isCommandInjection rules event = true ↔
      ∃ preview, event.getStr "body_preview" = some preview ∧ pattern <:+: preview := by
  have injects (text : Str) : Injects rules text ↔ pattern <:+: text := by
    simp only [Injects, only, List.mem_singleton, exists_eq_left]
  simp only [isCommandInjection_http_iff rules event http, injects]
  constructor
  · rintro (⟨path, known, occurs⟩ | found)
    · exact absurd occurs (plain path known)
    · exact found
  · exact .inr

/-- For every body and every nonempty ASCII pattern: the pattern occurs in the
preview of the body exactly when its bytes occur, one after the other, in the
first 8192 bytes of the body, whatever surrounds them. So with rules that have it
as their only pattern, an HTTP event whose path does not hold it and whose
preview is that of the body is a command injection exactly in that case, in every
context. -/
theorem payload_detected_iff (pattern : Pattern) (body : List Byte) :
    ((∃ preview, bodyPreviewFromBytes body = some preview ∧ patternStr pattern <:+: preview) ↔
      pattern.chars.map asciiByte <:+: body.take bodyPreviewLimit) ∧
    ∀ (rules : DetectionRules) (event : AttackEvent) (context : IPContext),
      rules.attackTypes.commandInjection.patterns = [patternStr pattern] →
      event.protocol = .http →
      (∀ path, event.getStr "path" = some path → ¬ patternStr pattern <:+: path) →
      event.getStr "body_preview" = bodyPreviewFromBytes body →
      ((classify rules event context).attackType = .commandInjection ↔
        pattern.chars.map asciiByte <:+: body.take bodyPreviewLimit) := by
  refine ⟨bodyPreview_infix_iff pattern body, ?_⟩
  intro rules event context only http plain recorded
  rw [commandInjection_iff, isCommandInjection_preview_iff rules event _ only http plain,
    recorded]
  exact bodyPreview_infix_iff pattern body

/-- A semicolon. -/
def semicolon : Pattern where
  chars := [';']
  ascii := List.forall_mem_singleton.mpr (by decide)
  nonempty := List.cons_ne_nil _ _

/-- The event of `GET /api` with a body. -/
def apiEvent (body : List Byte) : AttackEvent :=
  let request := { apiRequest.request with read := some body }
  webHoneypot.attackEvent someStamp request "http_request" (requestEventData request)

/-- A semicolon after the first byte of a sequence that is broken off is found: the
byte is replaced and the semicolon kept. -/
theorem payload_detected_iff_broken :
    (classify (onePattern ";") (apiEvent [0xC3, 0x3B])
      { recentAttempts := 1, distinctPorts := {80} }).attackType = .commandInjection := by
  have detected := (payload_detected_iff semicolon [0xC3, 0x3B]).2 (onePattern ";")
    (apiEvent [0xC3, 0x3B]) { recentAttempts := 1, distinctPorts := {80} } rfl rfl
    (by decide) (by decide)
  exact detected.mpr (by decide)

end Honeywatch.Honeypot.Http
