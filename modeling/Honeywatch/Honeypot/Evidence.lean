import Honeywatch.Detection.Classifier
import Honeywatch.Honeypot.Recording

/-!
# What a request leaves for the classifier

The handler and the classifier together. The classifier looks for injections in
the recorded path and body preview only. The path comes without the query
string, which is recorded nowhere, and a body that the framework refuses to read
leaves no preview at all.
-/

namespace Honeywatch.Honeypot.Http

open Text Json Utf8 FormEncoding Collector Detection

/-- A text contains one of the rule's patterns. -/
def Injects (rules : DetectionRules) (text : Str) : Prop :=
  ∃ pattern ∈ rules.attackTypes.commandInjection.patterns, pattern <:+: text

/-- A request to a path other than the login. -/
structure PlainRequest where
  request : Request
  elsewhere : ¬ request.IsLogin

/-- What the handler records of such a request. -/
def PlainRequest.event (honeypot : HTTPHoneypot) (stamp : Stamp) (plain : PlainRequest) :
    AttackEvent :=
  honeypot.attackEvent stamp plain.request "http_request" (requestEventData plain.request)

/-- A request for any other path emits one event, whatever becomes of the emission.
-/
theorem PlainRequest.emitted (honeypot : HTTPHoneypot) (stamp : Stamp) (plain : PlainRequest)
    (outcome : Except Raised Unit) :
    (handleRequest honeypot stamp plain.request outcome).emitted =
      [plain.event honeypot stamp] := by
  have elsewhere : normalizedPath plain.request.path ≠ loginPath := plain.elsewhere
  simp only [handleRequest, elsewhere, if_false, emitThenRespond, PlainRequest.event]

/-- Command injection has the highest priority: the context and the other types do
not matter for it. -/
theorem commandInjection_iff (rules : DetectionRules) (event : AttackEvent)
    (context : IPContext) :
    (classify rules event context).attackType = .commandInjection ↔
      isCommandInjection rules event = true := by
  simp only [classify, determineAttackType]
  cases isCommandInjection rules event with
  | true => simp
  | false =>
    simp only [Bool.false_eq_true, if_false, iff_false]
    repeat' split
    all_goals simp

/-- An event over HTTP is an injection when its path or its body preview is; the
other fields are not looked at. -/
theorem isCommandInjection_http_iff (rules : DetectionRules) (event : AttackEvent)
    (http : event.protocol = .http) :
    isCommandInjection rules event = true ↔
      (∃ path, event.getStr "path" = some path ∧ Injects rules path) ∨
        ∃ preview, event.getStr "body_preview" = some preview ∧ Injects rules preview := by
  have searched (text : Option Str) :
      (text.toList.any fun target => rules.attackTypes.commandInjection.patterns.any fun pattern =>
          decide (pattern <:+: target)) = true ↔
        ∃ target, text = some target ∧ Injects rules target := by
    cases text with
    | none => simp
    | some target => simp [Injects]
  rw [isCommandInjection, if_pos http]
  simp only [List.any_append, Bool.or_eq_true, searched]

/-- A plain request is an injection when its path or its body preview is, in the
event that the handler records for it. -/
theorem PlainRequest.isCommandInjection_iff (honeypot : HTTPHoneypot) (stamp : Stamp)
    (plain : PlainRequest) (rules : DetectionRules) :
    isCommandInjection rules (plain.event honeypot stamp) = true ↔
      Injects rules plain.request.path ∨
        ∃ preview, plain.request.read.bind bodyPreviewFromBytes = some preview ∧
          Injects rules preview := by
  have path : (plain.event honeypot stamp).getStr "path" = some plain.request.path := rfl
  have body : (plain.event honeypot stamp).getStr "body_preview" =
      plain.request.read.bind bodyPreviewFromBytes := AttackEvent.getStr_optionalStr rfl
  rw [isCommandInjection_http_iff rules _ rfl, path, body]
  simp only [Option.some.injEq, exists_eq_left']

/-- The percent-decoded request target: the path and, after a question mark, the
query string if there is one. -/
def decodedTarget (plain : PlainRequest) (query : Option Str) : Str :=
  match query with
  | none => plain.request.path
  | some query => plain.request.path ++ ofChar '?' :: query

/-- For every rule set, every context and every request to a path other than the
login, an injection anywhere in the decoded target makes the emitted event a
command injection exactly when the target has none, or has one within the path,
or the recorded start of the body has one as well. -/
theorem target_injection_iff (rules : DetectionRules) (context : IPContext)
    (honeypot : HTTPHoneypot) (stamp : Stamp) (outcome : Except Raised Unit)
    (plain : PlainRequest) (query : Option Str) :
    (Injects rules (decodedTarget plain query) →
      ∃ event, (handleRequest honeypot stamp plain.request outcome).emitted = [event] ∧
        (classify rules event context).attackType = .commandInjection) ↔
    ¬ Injects rules (decodedTarget plain query) ∨ Injects rules plain.request.path ∨
      ∃ preview, plain.request.read.bind bodyPreviewFromBytes = some preview ∧
        Injects rules preview := by
  rw [imp_iff_not_or, ← plain.isCommandInjection_iff honeypot stamp rules, plain.emitted]
  simp only [List.cons.injEq, and_true, exists_eq_left', commandInjection_iff]

/-- A honeypot on the port of the web. -/
def webHoneypot : HTTPHoneypot := { reportedPort := 80, maxCredentialLengthRaw := some 256 }

/-- `GET /api?cmd=ls;cat /etc/passwd`, without its query. -/
def apiRequest : PlainRequest where
  request := { method := literal "GET", path := literal "/api" }
  elsewhere := by
    unfold Request.IsLogin
    decide

/-- A rule set with one pattern. -/
def onePattern (pattern : String) : DetectionRules :=
  { attackTypes := { commandInjection := { patterns := [literal pattern] } } }

/-- An injection in the query string of the first request of an address is a
suspicious request. -/
theorem query_injection_missed :
    Injects (onePattern ";cat")
        (decodedTarget apiRequest (some (literal "cmd=ls;cat /etc/passwd"))) ∧
      ∃ event, (handleRequest webHoneypot someStamp apiRequest.request (.ok ())).emitted =
          [event] ∧
        (classify (onePattern ";cat") event
          { recentAttempts := 1, distinctPorts := {80} }).attackType = .suspiciousRequest := by
  constructor
  · exact ⟨literal ";cat", List.mem_singleton_self _, by decide⟩
  · rw [apiRequest.emitted]
    exact ⟨_, rfl, by decide⟩

/-- `client_max_size` of an application that is given none. -/
def clientMaxSize : Nat := 1024 * 1024

/-- The outcome of `request.read()` for a body: it raises as soon as the limit
is reached. -/
def readBody (body : List Byte) : Option (List Byte) :=
  if clientMaxSize ≤ body.length then none else some body

/-- The request with this body. -/
def PlainRequest.withBody (plain : PlainRequest) (body : List Byte) : PlainRequest where
  request := { plain.request with read := readBody body }
  elsewhere := plain.elsewhere

/-- The body of the request is what the reader returns, -/
@[simp] theorem withBody_read (plain : PlainRequest) (body : List Byte) :
    (plain.withBody body).request.read = readBody body := rfl

/-- and the path is the same for every body. -/
@[simp] theorem withBody_path (plain : PlainRequest) (body : List Byte) :
    (plain.withBody body).request.path = plain.request.path := rfl

/-- The replacement-decoding of the first bytes of a body; none only when it is empty. -/
def previewOf (body : List Byte) : Option Str :=
  if body.take bodyPreviewLimit = [] then none
  else some (ofChars (decodeReplace (body.take bodyPreviewLimit)))

/-- The preview that an event holds is this one. -/
def Previews (event : AttackEvent) (preview : Option Str) : Prop :=
  Json.get event.rawData (literal "body_preview") = some (optionalStr preview)

/-- The preview is the decoded beginning of the body, or none for an empty body.
Both ways of saying so agree, for the limit is positive. -/
theorem previewOf_eq (body : List Byte) : previewOf body = bodyPreviewFromBytes body := by
  have empty : body.take bodyPreviewLimit = [] ↔ body = [] := by simp [bodyPreviewLimit]
  simp only [previewOf, bodyPreviewFromBytes, empty]

/-- An absent value and an empty one are stored differently. -/
theorem optionalStr_injective : Function.Injective optionalStr := by
  intro left right same
  cases left <;> cases right <;> simp_all [optionalStr]

/-- The preview that is recorded for a body is the one of what is read of it. -/
theorem withBody_previews (honeypot : HTTPHoneypot) (stamp : Stamp) (plain : PlainRequest)
    (body : List Byte) (preview : Option Str) :
    Previews ((plain.withBody body).event honeypot stamp) preview ↔
      (readBody body).bind bodyPreviewFromBytes = preview := by
  have stored : Json.get ((plain.withBody body).event honeypot stamp).rawData
      (literal "body_preview") = some (optionalStr ((readBody body).bind bodyPreviewFromBytes)) :=
    rfl
  rw [Previews, stored, Option.some.injEq, optionalStr_injective.eq_iff]

/-- It is the decoding of the first bytes exactly when the framework reads the
body. -/
theorem readBody_previewOf_iff (body : List Byte) :
    (readBody body).bind bodyPreviewFromBytes = previewOf body ↔ body.length < clientMaxSize := by
  rw [previewOf_eq, readBody]
  by_cases large : clientMaxSize ≤ body.length
  · have some_bytes : body ≠ [] := by
      rintro rfl
      exact absurd large (by decide)
    simp [large, bodyPreviewFromBytes, some_bytes]
  · simp [large, Nat.lt_of_not_le large]

/-- Bodies with one preview leave events that are classified the same, since
identifier and time are not looked at. -/
theorem classify_withBody (rules : DetectionRules) (context : IPContext)
    (honeypot : HTTPHoneypot) (first second : Stamp) (plain : PlainRequest)
    (body padded : List Byte) (same : (readBody body).bind bodyPreviewFromBytes =
      (readBody padded).bind bodyPreviewFromBytes) :
    classify rules ((plain.withBody body).event honeypot first) context =
      classify rules ((plain.withBody padded).event honeypot second) context := by
  have data : ((plain.withBody body).event honeypot first).rawData =
      ((plain.withBody padded).event honeypot second).rawData := by
    change HTTPEventData.modelDump { requestEventData plain.request with
        bodyPreview := (readBody body).bind bodyPreviewFromBytes } =
      HTTPEventData.modelDump { requestEventData plain.request with
        bodyPreview := (readBody padded).bind bodyPreviewFromBytes }
    rw [same]
  have renamed : (plain.withBody body).event honeypot first =
      { (plain.withBody padded).event honeypot second with
        id := first.id, timestamp := first.timestamp } := by
    change ({ (plain.withBody padded).event honeypot second with
      id := first.id, timestamp := first.timestamp,
      rawData := ((plain.withBody body).event honeypot first).rawData } : AttackEvent) = _
    rw [data]
  rw [renamed]
  rfl

/-- For every request to a path other than the login and every two bodies of it
with the same first bytes, both events hold the decoding of those bytes and are
classified the same in every context exactly when the framework reads both. -/
theorem padding_hides_nothing_iff (honeypot : HTTPHoneypot) (plain : PlainRequest)
    (body padded : List Byte) (first second : Stamp) (outcome later : Except Raised Unit)
    (agree : body.take bodyPreviewLimit = padded.take bodyPreviewLimit) :
    (∃ event other,
      (handleRequest honeypot first (plain.withBody body).request outcome).emitted = [event] ∧
      (handleRequest honeypot second (plain.withBody padded).request later).emitted = [other] ∧
      Previews event (previewOf body) ∧ Previews other (previewOf body) ∧
      ∀ rules context, classify rules event context = classify rules other context) ↔
    body.length < clientMaxSize ∧ padded.length < clientMaxSize := by
  have same : previewOf body = previewOf padded := by simp only [previewOf, agree]
  have readable := readBody_previewOf_iff padded
  rw [← same] at readable
  rw [← readBody_previewOf_iff body, ← readable]
  simp only [PlainRequest.emitted, List.cons.injEq, and_true]
  constructor
  · rintro ⟨_, _, rfl, rfl, previews, others, _⟩
    exact ⟨(withBody_previews _ _ _ _ _).mp previews, (withBody_previews _ _ _ _ _).mp others⟩
  · rintro ⟨previews, others⟩
    refine ⟨_, _, rfl, rfl, (withBody_previews _ _ _ _ _).mpr previews,
      (withBody_previews _ _ _ _ _).mpr others, fun rules context => ?_⟩
    exact classify_withBody rules context honeypot first second plain body padded
      (previews.trans others.symm)

/-- A short body and the same body with more bytes after the first ones, which the
preview does not reach. -/
theorem padding_hides_nothing_short :
    ∃ event other,
      (handleRequest webHoneypot someStamp
        (apiRequest.withBody (List.replicate 9000 0x41)).request (.ok ())).emitted = [event] ∧
      (handleRequest webHoneypot someStamp
        (apiRequest.withBody (List.replicate 10000 0x41)).request (.ok ())).emitted = [other] ∧
      Previews event (previewOf (List.replicate 9000 0x41)) ∧
      Previews other (previewOf (List.replicate 9000 0x41)) ∧
      ∀ rules context, classify rules event context = classify rules other context :=
  (padding_hides_nothing_iff webHoneypot apiRequest (List.replicate 9000 0x41)
    (List.replicate 10000 0x41) someStamp someStamp (.ok ()) (.ok ())
    (by rw [List.take_replicate, List.take_replicate]; rfl)).mpr
    (by rw [List.length_replicate, List.length_replicate]; decide)

/-- An ASCII byte is decoded alone. -/
theorem decodeReplace_ascii (byte : Byte) (rest : List Byte) (ascii : byte.val < 0x80) :
    decodeReplace (byte :: rest) = Char.ofNat byte.val :: decodeReplace rest := by
  simp [decodeReplace, pieces, step, start, ascii, Piece.replaced]

/-- `$(`, and so many bytes after it. -/
def payload (padding : Nat) : List Byte :=
  asciiByte '$' :: asciiByte '(' :: List.replicate padding (asciiByte 'A')

/-- The payload of the example is as long as its padding and its two marks. -/
theorem payload_length (padding : Nat) : (payload padding).length = padding + 2 := by
  simp [payload]

/-- Cut at the limit it is a payload of the same kind, with less padding, -/
theorem payload_take (padding : Nat) :
    (payload padding).take bodyPreviewLimit = payload (min 8190 padding) := by
  have bytes : (payload padding).take bodyPreviewLimit =
      asciiByte '$' :: asciiByte '(' :: (List.replicate padding (asciiByte 'A')).take 8190 := rfl
  rw [bytes, List.take_replicate]
  rfl

/-- so its preview begins with the two marks, however long the padding is. -/
theorem payload_preview (padding : Nat) :
    ∃ rest, previewOf (payload padding) = some (literal "$(" ++ rest) := by
  refine ⟨ofChars (decodeReplace (List.replicate (min 8190 padding) (asciiByte 'A'))), ?_⟩
  have first : Char.ofNat (asciiByte '$').val = '$' := by decide
  have second : Char.ofNat (asciiByte '(').val = '(' := by decide
  rw [previewOf, payload_take, payload, if_neg (by simp), decodeReplace_ascii _ _ (by decide),
    decodeReplace_ascii _ _ (by decide), first, second]
  rfl

/-- A body of one mebibyte is not read, so the payload at its start leaves no
preview and no command injection. -/
theorem padding_hides_payload :
    (payload 8190).take bodyPreviewLimit = (payload 1048574).take bodyPreviewLimit ∧
      ∃ event other,
        (handleRequest webHoneypot someStamp (apiRequest.withBody (payload 8190)).request
          (.ok ())).emitted = [event] ∧
        (handleRequest webHoneypot someStamp (apiRequest.withBody (payload 1048574)).request
          (.ok ())).emitted = [other] ∧
        Previews other none ∧
        ∀ context,
          (classify (onePattern "$(") event context).attackType = .commandInjection ∧
          (classify (onePattern "$(") other context).attackType ≠ .commandInjection := by
  have unread : readBody (payload 1048574) = none :=
    if_pos (by rw [payload_length]; decide)
  have read : (readBody (payload 8190)).bind bodyPreviewFromBytes = previewOf (payload 8190) :=
    (readBody_previewOf_iff _).mpr (by rw [payload_length]; decide)
  have agree : (payload 8190).take bodyPreviewLimit = (payload 1048574).take bodyPreviewLimit := by
    rw [payload_take, payload_take, Nat.min_self, Nat.min_eq_left (by decide)]
  refine ⟨agree, _, _, PlainRequest.emitted _ _ _ _,
    PlainRequest.emitted _ _ _ _, ?_, fun context => ⟨?_, ?_⟩⟩
  · rw [withBody_previews, unread]
    rfl
  · rw [commandInjection_iff, PlainRequest.isCommandInjection_iff, withBody_read]
    obtain ⟨rest, preview⟩ := payload_preview 8190
    exact .inr ⟨_, read.trans preview, literal "$(", List.mem_singleton_self _,
      (List.prefix_append _ rest).isInfix⟩
  · rw [ne_eq, commandInjection_iff, PlainRequest.isCommandInjection_iff, withBody_read, unread,
      withBody_path]
    rintro (⟨pattern, member, inside⟩ | ⟨preview, recorded, _⟩)
    · rw [List.mem_singleton.mp member] at inside
      exact absurd inside (by decide)
    · simp only [Option.bind_none, reduceCtorEq] at recorded

end Honeywatch.Honeypot.Http
