import Honeywatch.Core.Config
import Honeywatch.Foundation.Base64

/-!
# Basic authentication

What the login screen stores, what the client sends of it, and what the API makes of
that. The browser writes the characters of the input as single bytes; the framework
reads the bytes as ASCII and takes the user to end at the first colon.
-/

namespace Honeywatch.Api

open Text Utf8 Config

/-- The byte of a character up to U+00FF. -/
def latin1 (point : CodePoint) : Option Byte :=
  if small : point.val < 256 then some ⟨point.val, small⟩ else none

/-- The browser's `btoa`; it throws where a character is no byte. -/
def btoa (text : Str) : Option Str :=
  (text.mapM latin1).map fun bytes => ofChars (Base64.encode bytes)

/-- What `setCredentials` stores. -/
def setCredentials (username password : Str) : Option Str :=
  btoa (username ++ literal ":" ++ password)

/-- The header `Authorization` of a request. -/
def authorization (credentials : Str) : Str := literal "Basic " ++ credentials

structure HTTPBasicCredentials where
  username : Str
  password : Str
  deriving DecidableEq

/-- What a request fails with before its route runs. -/
inductive Failure
  | httpException (status : Nat) (detail : Str) (headers : List (Str × Str))
  /-- Nothing catches it: the response is 500. -/
  | unicodeEncodeError
  deriving DecidableEq

def colon : CodePoint := ofChar ':'

/-- `data.partition(":")`, where a colon is there. -/
def partitionColon (data : Str) : Option HTTPBasicCredentials :=
  if data.contains colon then
    some
      { username := data.takeWhile (· ≠ colon)
        password := (data.dropWhile (· ≠ colon)).tail }
  else none

/-- The code point of a byte of ASCII. -/
def ofByte (byte : Byte) : CodePoint := ⟨byte.val, by omega⟩

/-- The credentials in the bytes that a header has carried. -/
def readCredentials (bytes : List Byte) : Option HTTPBasicCredentials :=
  if bytes.all fun byte => decide (byte.val < 0x80) then partitionColon (bytes.map ofByte)
  else none

/-- `HTTPBasic` of the framework reads the base64 of some bytes as these bytes, and
refuses bytes that are no credentials. -/
structure DecodesBasic (security : Str → Except Failure HTTPBasicCredentials) : Prop where
  reads : ∀ bytes credentials, readCredentials bytes = some credentials →
    security (authorization (ofChars (Base64.encode bytes))) = .ok credentials
  refuses : ∀ bytes, readCredentials bytes = none → ∃ detail headers,
    security (authorization (ofChars (Base64.encode bytes))) =
      .error (.httpException 401 detail headers)

/-- `text.encode("utf-8")`. -/
def encodeUtf8 (text : Str) : Except Failure (List Byte) :=
  match toChars text with
  | none => .error .unicodeEncodeError
  | some chars => .ok (encode chars)

/-- `secrets.compare_digest` of two encoded texts. -/
def compareDigest (received expected : Str) : Except Failure Bool := do
  let left ← encodeUtf8 received
  let right ← encodeUtf8 expected
  return decide (left = right)

def invalidCredentials : Failure :=
  .httpException 401 (literal "Invalid credentials") [(literal "WWW-Authenticate", literal "Basic")]

def verifyCredentials (settings : APISettings) (credentials : HTTPBasicCredentials) :
    Except Failure Str := do
  let isUserCorrect ← compareDigest credentials.username settings.authUser
  let isPasswordCorrect ← compareDigest credentials.password settings.authPassword
  if !(isUserCorrect && isPasswordCorrect) then throw invalidCredentials
  return credentials.username

/-- The dependency `AuthUser` of a route, for a header. -/
def authUser (security : Str → Except Failure HTTPBasicCredentials) (settings : APISettings)
    (header : Str) : Except Failure Str := do
  let credentials ← security header
  verifyCredentials settings credentials

/-- `HTTPBasic` for headers as the client writes them. -/
def httpBasic (header : Str) : Except Failure HTTPBasicCredentials :=
  let credentials :=
    if literal "Basic " <+: header then do
      let chars ← toChars (header.drop 6)
      let bytes ← Base64.decode chars
      readCredentials bytes
    else none
  match credentials with
  | some credentials => .ok credentials
  | none =>
    .error (.httpException 401 (literal "Invalid authentication credentials")
      [(literal "WWW-Authenticate", literal "Basic")])

/-- Text that can be written in Latin-1 is its own bytes, character by character. By
induction over the text. -/
theorem latin1_mapM {text : Str} {bytes : List Byte} (written : text.mapM latin1 = some bytes) :
    bytes.map ofByte = text := by
  induction text generalizing bytes with
  | nil => cases written; rfl
  | cons point rest inductionHypothesis =>
    rw [List.mapM_cons] at written
    obtain ⟨byte, first, written⟩ := Option.bind_eq_some_iff.mp written
    obtain ⟨others, later, same⟩ := Option.bind_eq_some_iff.mp written
    cases same
    simp only [latin1, Option.dite_none_right_eq_some, Option.some.injEq] at first
    obtain ⟨small, rfl⟩ := first
    rw [List.map_cons, inductionHypothesis later]
    rfl

/-- What is stored is the base64 of bytes that stand for the input. -/
theorem btoa_eq_some {text encoded : Str} (written : btoa text = some encoded) :
    ∃ bytes : List Byte, encoded = ofChars (Base64.encode bytes) ∧ bytes.map ofByte = text := by
  obtain ⟨bytes, each, same⟩ := Option.map_eq_some_iff.mp written
  exact ⟨bytes, same.symm, latin1_mapM each⟩

/-- The data is cut at its first colon, so a user name holds none, while a password
may. -/
theorem partitionColon_eq_some {data : Str} {credentials : HTTPBasicCredentials} :
    partitionColon data = some credentials ↔
      data = credentials.username ++ colon :: credentials.password ∧
        colon ∉ credentials.username := by
  constructor
  · intro cut
    simp only [partitionColon, Option.ite_none_right_eq_some, Option.some.injEq] at cut
    obtain ⟨found, rfl⟩ := cut
    have present := List.contains_iff_mem.mp found
    refine ⟨?_, fun member => by simpa using List.mem_takeWhile_imp member⟩
    have rest : data.dropWhile (· ≠ colon) ≠ [] := by
      intro none
      have absent := List.dropWhile_eq_nil_iff.mp none colon present
      simp at absent
    have first := List.head_dropWhile_not _ rest
    have found : (data.dropWhile (· ≠ colon)).head rest = colon := by simpa using first
    have whole := @List.takeWhile_append_dropWhile _ (fun point => decide (point ≠ colon)) data
    rw [← List.cons_head_tail rest, found] at whole
    exact whole.symm
  · rintro ⟨rfl, absent⟩
    have each : ∀ point ∈ credentials.username, decide (point ≠ colon) = true := by
      intro point member
      have other : point ≠ colon := fun same => absent (same ▸ member)
      simpa using other
    rw [partitionColon, if_pos (by simp), List.takeWhile_append_of_pos each,
      List.dropWhile_append_of_pos each]
    simp

/-- What is encoded is text without lone surrogates, and the bytes are those of its
characters. -/
theorem encodeUtf8_ok {text : Str} {bytes : List Byte} (encoded : encodeUtf8 text = .ok bytes) :
    ∃ chars, toChars text = some chars ∧ encode chars = bytes := by
  unfold encodeUtf8 at encoded
  cases denoted : toChars text with
  | none => rw [denoted] at encoded; cases encoded
  | some chars => rw [denoted] at encoded; cases encoded; exact ⟨chars, rfl, rfl⟩

/-- Text without lone surrogates can be encoded, so a comparison of such texts does
not raise. -/
theorem encodeUtf8_wellFormed {text : Str} (wellFormed : WellFormed text) :
    ∃ bytes, encodeUtf8 text = .ok bytes := by
  obtain ⟨chars, denoted⟩ := Option.isSome_iff_exists.mp ((toChars_isSome_iff text).mpr wellFormed)
  exact ⟨encode chars, by rw [encodeUtf8, denoted]⟩

/-- Texts are encoded alike only if they are equal, so to compare the bytes is to
compare the texts. -/
theorem encodeUtf8_injective {left right : Str} {bytes : List Byte}
    (first : encodeUtf8 left = .ok bytes) (second : encodeUtf8 right = .ok bytes) :
    left = right := by
  obtain ⟨chars, denoted, written⟩ := encodeUtf8_ok first
  obtain ⟨chars', denoted', written'⟩ := encodeUtf8_ok second
  have same : chars = chars' := by
    rw [← decodeReplace_encode chars, ← decodeReplace_encode chars', written, written']
  rw [← ofChars_of_toChars denoted, ← ofChars_of_toChars denoted', same]

/-- The comparison in constant time compares the encoded bytes, and two texts are
encoded to the same bytes only where they are the same text. -/
theorem compareDigest_wellFormed {received expected : Str} (left : WellFormed received)
    (right : WellFormed expected) :
    compareDigest received expected = .ok (decide (received = expected)) := by
  obtain ⟨bytes, encoded⟩ := encodeUtf8_wellFormed left
  obtain ⟨bytes', encoded'⟩ := encodeUtf8_wellFormed right
  have same : bytes = bytes' ↔ received = expected := by
    constructor
    · rintro rfl
      exact encodeUtf8_injective encoded encoded'
    · rintro rfl
      exact Except.ok.inj (encoded.symm.trans encoded')
  rw [compareDigest, encoded, encoded']
  exact congrArg Except.ok (decide_eq_decide.mpr same)

/-- Where the comparison says so the texts are the same, also when it might have
raised. -/
theorem compareDigest_true {received expected : Str}
    (equal : compareDigest received expected = .ok true) : received = expected := by
  unfold compareDigest at equal
  cases first : encodeUtf8 received with
  | error failure => rw [first] at equal; cases equal
  | ok bytes =>
    cases second : encodeUtf8 expected with
    | error failure => rw [first, second] at equal; cases equal
    | ok bytes' =>
      rw [first, second] at equal
      have same : bytes = bytes' := of_decide_eq_true (Except.ok.inj equal)
      exact encodeUtf8_injective (same ▸ first) second

/-- The check compares the name and the password in full. Both comparisons are made,
but only both together let a request through. -/
theorem verifyCredentials_wellFormed {settings : APISettings} {credentials : HTTPBasicCredentials}
    (settingsUser : WellFormed settings.authUser)
    (settingsPassword : WellFormed settings.authPassword)
    (username : WellFormed credentials.username) (password : WellFormed credentials.password) :
    verifyCredentials settings credentials =
      if credentials.username = settings.authUser ∧
          credentials.password = settings.authPassword then
        .ok credentials.username
      else .error invalidCredentials := by
  rw [verifyCredentials, compareDigest_wellFormed username settingsUser,
    compareDigest_wellFormed password settingsPassword]
  by_cases user : credentials.username = settings.authUser <;>
    by_cases pass : credentials.password = settings.authPassword <;> simp [user, pass] <;> rfl

/-- Whoever is let in has given what is configured. The two comparisons are made on
the UTF-8 bytes, and the encoding of a text determines it. -/
theorem verifyCredentials_ok {settings : APISettings} {credentials : HTTPBasicCredentials}
    {user : Str} (verified : verifyCredentials settings credentials = .ok user) :
    user = credentials.username ∧ credentials.username = settings.authUser ∧
      credentials.password = settings.authPassword := by
  unfold verifyCredentials at verified
  cases first : compareDigest credentials.username settings.authUser with
  | error failure => rw [first] at verified; cases verified
  | ok isUserCorrect =>
    cases second : compareDigest credentials.password settings.authPassword with
    | error failure => rw [first, second] at verified; cases verified
    | ok isPasswordCorrect =>
      rw [first, second] at verified
      cases isUserCorrect with
      | false => cases verified
      | true =>
        cases isPasswordCorrect with
        | false => cases verified
        | true =>
          exact ⟨(Except.ok.inj verified).symm, compareDigest_true first,
            compareDigest_true second⟩

/-- Every character is ASCII. -/
def Ascii (text : Str) : Prop := ∀ point ∈ text, point.val < 0x80

instance (text : Str) : Decidable (Ascii text) :=
  decidable_of_iff ((text.all fun point => decide (point.val < 0x80)) = true) (by simp [Ascii])

/-- ASCII text has no surrogates. -/
theorem Ascii.wellFormed {text : Str} (ascii : Ascii text) : WellFormed text := by
  intro point member
  have small := ascii point member
  by_contra surrogate
  have range := (isSurrogate_iff point).mp (by simpa using surrogate)
  omega

/-- What is read of the bytes of a text: it has to be ASCII, and is cut at its first
colon. -/
theorem readCredentials_eq_some {bytes : List Byte} {credentials : HTTPBasicCredentials} :
    readCredentials bytes = some credentials ↔
      Ascii (bytes.map ofByte) ∧
        bytes.map ofByte = credentials.username ++ colon :: credentials.password ∧
        colon ∉ credentials.username := by
  have ascii : (bytes.all fun byte => decide (byte.val < 0x80)) = true ↔
      Ascii (bytes.map ofByte) := by
    simp [Ascii, ofByte]
  rw [readCredentials, Option.ite_none_right_eq_some, ascii, partitionColon_eq_some]

/-- What is read consists of ASCII, so it can be encoded again and no comparison
with it raises. -/
theorem readCredentials_ascii {bytes : List Byte} {credentials : HTTPBasicCredentials}
    (read : readCredentials bytes = some credentials) :
    Ascii credentials.username ∧ Ascii credentials.password := by
  obtain ⟨ascii, whole, -⟩ := readCredentials_eq_some.mp read
  rw [whole] at ascii
  exact ⟨fun point member => ascii point (List.mem_append_left _ member),
    fun point member => ascii point (List.mem_append_right _ (List.mem_cons_of_mem _ member))⟩

section Framework

variable {security : Str → Except Failure HTTPBasicCredentials} {settings : APISettings}

/-- Of what the framework reads, the comparison decides. -/
theorem authUser_read (decodes : DecodesBasic security) {bytes : List Byte}
    {credentials : HTTPBasicCredentials} (read : readCredentials bytes = some credentials) :
    authUser security settings (authorization (ofChars (Base64.encode bytes))) =
      verifyCredentials settings credentials := by
  rw [authUser, decodes.reads bytes credentials read]
  rfl

/-- Bytes let in are read as what is configured, and whatever is read so is let in;
that the framework decodes the header is the assumption on it. -/
theorem authUser_ok_iff (decodes : DecodesBasic security) (bytes : List Byte) (user : Str) :
    authUser security settings (authorization (ofChars (Base64.encode bytes))) = .ok user ↔
      user = settings.authUser ∧
        readCredentials bytes = some ⟨settings.authUser, settings.authPassword⟩ := by
  constructor
  · intro letIn
    cases read : readCredentials bytes with
    | none =>
      obtain ⟨detail, headers, refused⟩ := decodes.refuses bytes read
      rw [authUser, refused] at letIn
      cases letIn
    | some credentials =>
      rw [authUser_read decodes read] at letIn
      obtain ⟨rfl, username, password⟩ := verifyCredentials_ok letIn
      exact ⟨username, by rw [← username, ← password]⟩
  · rintro ⟨rfl, read⟩
    obtain ⟨username, password⟩ := readCredentials_ascii read
    rw [authUser_read decodes read,
      verifyCredentials_wellFormed username.wellFormed password.wellFormed username.wellFormed
        password.wellFormed, if_pos ⟨rfl, rfl⟩]

/-- Bytes not let in are answered with 401, whether they cannot be read or are read
as other credentials. The configured texts can be encoded, so no comparison raises.
-/
theorem authUser_refused (decodes : DecodesBasic security) (bytes : List Byte)
    (username : WellFormed settings.authUser) (password : WellFormed settings.authPassword)
    (refused : ∀ user,
      authUser security settings (authorization (ofChars (Base64.encode bytes))) ≠ .ok user) :
    ∃ detail headers, authUser security settings (authorization (ofChars (Base64.encode bytes))) =
      .error (.httpException 401 detail headers) := by
  cases read : readCredentials bytes with
  | none =>
    obtain ⟨detail, headers, same⟩ := decodes.refuses bytes read
    exact ⟨detail, headers, by rw [authUser, same]; rfl⟩
  | some credentials =>
    obtain ⟨first, second⟩ := readCredentials_ascii read
    have compared := verifyCredentials_wellFormed username password first.wellFormed
      second.wellFormed
    rw [authUser_read decodes read, compared] at refused ⊢
    split_ifs at refused ⊢ with equal
    · exact absurd rfl (refused credentials.username)
    · exact ⟨_, _, rfl⟩

/-- What a login must be to be let in. The client joins both inputs by a colon and
the server cuts at the first one, so a configured name with a colon lets nobody in,
and inputs that divide the same text elsewhere are the same login. -/
theorem authUser_setCredentials_iff (decodes : DecodesBasic security)
    {username password encoded : Str} (stored : setCredentials username password = some encoded)
    (user : Str) :
    authUser security settings (authorization encoded) = .ok user ↔
      user = settings.authUser ∧
        username ++ literal ":" ++ password =
          settings.authUser ++ literal ":" ++ settings.authPassword ∧
        Ascii (settings.authUser ++ settings.authPassword) ∧ colon ∉ settings.authUser := by
  obtain ⟨bytes, rfl, typed⟩ := btoa_eq_some stored
  rw [authUser_ok_iff decodes, readCredentials_eq_some, typed]
  have separator : literal ":" = [colon] := rfl
  have ascii : Ascii [colon] := by simp [Ascii, colon, ofChar]
  simp only [separator, List.append_assoc, List.singleton_append]
  refine and_congr_right fun _ => ⟨?_, ?_⟩
  · rintro ⟨whole, same, absent⟩
    rw [same] at whole
    refine ⟨same, fun point member => whole point ?_, absent⟩
    rcases List.mem_append.mp member with inUser | inPassword
    · exact List.mem_append_left _ inUser
    · exact List.mem_append_right _ (List.mem_cons_of_mem _ inPassword)
  · rintro ⟨same, whole, absent⟩
    refine ⟨?_, same, absent⟩
    rw [same]
    intro point member
    rcases List.mem_append.mp member with inUser | later
    · exact whole point (List.mem_append_left _ inUser)
    · rcases List.mem_cons.mp later with rfl | inPassword
      · exact ascii _ (List.mem_singleton_self _)
      · exact whole point (List.mem_append_right _ inPassword)

end Framework

/-- A login is let in exactly when what is typed, with the colon between, is what is
configured, all of it is ASCII and no colon is in the configured user. Otherwise, unless
the configuration is no text, the response is 401. -/
theorem login_accepted_iff (security : Str → Except Failure HTTPBasicCredentials)
    (decodes : DecodesBasic security) (settings : APISettings)
    (username password encoded : Str) (stored : setCredentials username password = some encoded) :
    (∀ user, authUser security settings (authorization encoded) = .ok user ↔
      user = settings.authUser ∧
        username ++ literal ":" ++ password =
          settings.authUser ++ literal ":" ++ settings.authPassword ∧
        Ascii (settings.authUser ++ settings.authPassword) ∧ colon ∉ settings.authUser) ∧
      (WellFormed (settings.authUser ++ settings.authPassword) →
        (∀ user, authUser security settings (authorization encoded) ≠ .ok user) →
        ∃ detail headers, authUser security settings (authorization encoded) =
          .error (.httpException 401 detail headers)) := by
  refine ⟨authUser_setCredentials_iff decodes stored, fun wellFormed refused => ?_⟩
  obtain ⟨bytes, rfl, -⟩ := btoa_eq_some stored
  obtain ⟨user, password⟩ := (wellFormed_append _ _).mp wellFormed
  exact authUser_refused decodes bytes user password refused

/-- The header of the client is read as the framework is to read it, which shows
that the assumption can be met. -/
theorem httpBasic_decodes : DecodesBasic httpBasic := by
  have chars (bytes : List Byte) :
      toChars ((authorization (ofChars (Base64.encode bytes))).drop 6) =
        some (Base64.encode bytes) :=
    toChars_ofChars (Base64.encode bytes)
  have scheme (bytes : List Byte) :
      literal "Basic " <+: authorization (ofChars (Base64.encode bytes)) :=
    List.prefix_append _ _
  constructor
  · intro bytes credentials read
    simp [httpBasic, scheme, chars, Base64.decode_encode, read]
  · intro bytes read
    exact ⟨literal "Invalid authentication credentials",
      [(literal "WWW-Authenticate", literal "Basic")], by
        simp [httpBasic, scheme, chars, Base64.decode_encode, read]⟩

/-- A colon may move between the user that is typed and the password: the text of
the header is the same, and the server cuts it once. -/
theorem login_accepted_iff_colon :
    authUser httpBasic
      { host := literal "0.0.0.0", port := 8000, authUser := literal "admin"
        authPassword := literal "change:me" }
      (authorization (literal "YWRtaW46Y2hhbmdlOm1l")) = .ok (literal "admin") :=
  ((login_accepted_iff httpBasic httpBasic_decodes _ (literal "admin:change") (literal "me") _
    (by decide)).1 _).mpr ⟨rfl, by decide, by decide, by decide⟩

end Honeywatch.Api
