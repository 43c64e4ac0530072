import Honeywatch.Detection.ShippedRules
import Honeywatch.Honeypot.Evidence
import Honeywatch.Honeypot.FormExtraction
import Honeywatch.Honeypot.LoginLogs

/-!
# The credentials of a login and their classification

A submitted form on its way from the body to the classifier: it is decoded and
taken apart as it was put together, its email and its password are cut to the
configured length, and what is left is compared with the lists of the rules. So
a value is compared by its first characters. A listed value that is longer than
the limit is never met, and a longer value with a listed beginning is.
-/

namespace Honeywatch.Honeypot.Http

open Text Json Utf8 FormEncoding Collector Detection

/-- A POST to the login whose body is the urlencoding of a form, with one email
and one password at most. -/
structure LoginForm where
  request : Request
  fields : List (List Char × List Char)
  login : request.IsLogin
  post : request.method = literal "POST"
  body : request.chunks.flatten = asciiBytes (urlencode fields)
  complete : request.interrupted = false
  declared : ∀ length ∈ request.contentLength, length = (urlencode fields).length
  small : (urlencode fields).length ≤ maxBodySize
  oneEmail : (fields.filter fun field => decide (field.1 = "email".toList)).length ≤ 1
  onePassword : (fields.filter fun field => decide (field.1 = "password".toList)).length ≤ 1

/-- The submitted email, empty when there is none. -/
def LoginForm.email (form : LoginForm) : List Char := firstValue form.fields "email"

/-- The submitted password, empty when there is none. -/
def LoginForm.password (form : LoginForm) : List Char := firstValue form.fields "password"

/-- Neither the path nor the preview of the body matches an injection pattern. -/
def LoginForm.Harmless (rules : DetectionRules) (form : LoginForm) : Prop :=
  ¬ Injects rules form.request.path ∧
    ∀ preview, bodyPreviewFromBytes (asciiBytes (urlencode form.fields)) = some preview →
      ¬ Injects rules preview

/-- Rules that classify logins over HTTP. -/
abbrev HttpRules :=
  { rules : DetectionRules // rules.attackTypes.credentialAttack.httpEnabled = true }

/-- A value that is not empty and on a list. -/
def Listed (value : List Char) (known : List Str) : Prop := value ≠ [] ∧ ofChars value ∈ known

/-- The limit is positive whatever is configured, so a known password that is not
empty is not cut to nothing. -/
theorem maxCredentialLength_pos (honeypot : HTTPHoneypot) : 0 < honeypot.maxCredentialLength := by
  unfold HTTPHoneypot.maxCredentialLength
  cases honeypot.maxCredentialLengthRaw with
  | none => exact Nat.succ_pos _
  | some value =>
    dsimp only
    split
    · omega
    · exact Nat.succ_pos _

/-- An optional text is listed when it is not empty and on the list. -/
theorem isListed_nonEmpty (value : List Char) (known : List Str) :
    isListed (nonEmpty value) known = true ↔ Listed value known := by
  by_cases missing : value = []
  · simp [nonEmpty, isListed, Listed, missing]
  · simp [nonEmpty, isListed, Listed, missing, ofChars]

/-- Cutting leaves something of what is not empty. -/
theorem listed_take (value : List Char) (known : List Str) (limit : Nat) (positive : 0 < limit) :
    Listed (value.take limit) known ↔ value ≠ [] ∧ ofChars (value.take limit) ∈ known := by
  have kept : value.take limit ≠ [] ↔ value ≠ [] := by
    rw [ne_eq, List.take_eq_nil_iff]
    simp [Nat.ne_of_gt positive]
  rw [Listed, kept]

/-- The whole body is read: a form that fits the limit is delivered in chunks, and
together they are its bytes. -/
theorem LoginForm.read (form : LoginForm) :
    readBodyLimited form.request = some (asciiBytes (urlencode form.fields)) := by
  have received : (form.request.chunks.map List.length).sum = (urlencode form.fields).length := by
    rw [← List.length_flatten, form.body, asciiBytes, List.length_map]
  have within : ¬ form.request.BodyTooLarge := by
    rintro (⟨length, declared, _⟩ | _)
    · have same := form.declared length declared
      exact absurd form.small (by omega)
    · exact absurd form.small (by omega)
  obtain ⟨body, read⟩ := Option.ne_none_iff_exists'.mp
    (mt (readBodyLimited_none_iff form.request).mp within)
  rw [read, readBodyLimited_some read, form.complete, ← form.body]
  rfl

/-- What is extracted of a form is what was submitted, cut to the limit. -/
theorem LoginForm.extracted (form : LoginForm) (honeypot : HTTPHoneypot) :
    honeypot.extractCredentials (asciiBytes (urlencode form.fields)) =
      { email := form.email.take honeypot.maxCredentialLength
        password := form.password.take honeypot.maxCredentialLength
        parsed := true } :=
  extractCredentials_urlencode honeypot form.fields

/-- The event of a login. -/
def LoginForm.event (form : LoginForm) (honeypot : HTTPHoneypot) (stamp : Stamp) : AttackEvent :=
  honeypot.attackEvent stamp form.request "http_login_attempt"
    (loginEventData honeypot form.request (asciiBytes (urlencode form.fields)))

/-- A login emits one event with the fields of its form, whatever becomes of the
emission. -/
theorem LoginForm.emitted (form : LoginForm) (honeypot : HTTPHoneypot) (stamp : Stamp)
    (outcome : Except Raised Unit) :
    (handleRequest honeypot stamp form.request outcome).emitted = [form.event honeypot stamp] := by
  have login : normalizedPath form.request.path = loginPath := form.login
  have allowed : loginAllowedMethods.contains form.request.method = true := by
    rw [form.post]
    decide
  have notGet : form.request.method ≠ literal "GET" := by
    rw [form.post]
    decide
  simp only [handleRequest, login, if_true, handleLogin, allowed, Bool.not_true, Bool.false_eq_true,
    if_false, notGet, form.read, emitThenRespond]
  rfl

/-- A harmless form is no injection, as neither the path nor the preview of the body
holds a pattern. -/
theorem LoginForm.not_injection (form : LoginForm) (rules : DetectionRules)
    (harmless : form.Harmless rules) (honeypot : HTTPHoneypot) (stamp : Stamp) :
    isCommandInjection rules (form.event honeypot stamp) = false := by
  have path : (form.event honeypot stamp).getStr "path" = some form.request.path := rfl
  have preview : (form.event honeypot stamp).getStr "body_preview" =
      bodyPreviewFromBytes (asciiBytes (urlencode form.fields)) :=
    AttackEvent.getStr_optionalStr rfl
  rw [Bool.eq_false_iff, ne_eq, isCommandInjection_http_iff rules _ rfl, path, preview]
  rintro (⟨target, own, injects⟩ | ⟨target, body, injects⟩)
  · exact harmless.1 (Option.some.inj own ▸ injects)
  · exact harmless.2 target body injects

/-- The event of a form is a credential attack by what is left of the email and
the password. -/
theorem LoginForm.isCredentialAttack_iff (form : LoginForm) (rules : HttpRules)
    (honeypot : HTTPHoneypot) (stamp : Stamp) :
    isCredentialAttack rules.val (form.event honeypot stamp) = true ↔
      Listed (form.email.take honeypot.maxCredentialLength)
          rules.val.attackTypes.credentialAttack.emails ∨
        Listed (form.password.take honeypot.maxCredentialLength)
          rules.val.attackTypes.credentialAttack.passwords := by
  have http : (form.event honeypot stamp).protocol = .http := rfl
  have kind : (form.event honeypot stamp).eventType = literal "http_login_attempt" := rfl
  have email : (form.event honeypot stamp).getStr "email" =
      nonEmpty (form.email.take honeypot.maxCredentialLength) := by
    apply AttackEvent.getStr_optionalStr
    rw [LoginForm.event, loginEventData, form.extracted]
    rfl
  have password : (form.event honeypot stamp).getStr "password" =
      nonEmpty (form.password.take honeypot.maxCredentialLength) := by
    apply AttackEvent.getStr_optionalStr
    rw [LoginForm.event, loginEventData, form.extracted]
    rfl
  simp only [isCredentialAttack, http, kind, if_true, rules.property, Bool.true_and, email,
    password, Bool.or_eq_true, isListed_nonEmpty]

/-- For every limit, every rule set that classifies logins, every context and
every harmless form: one event is emitted, and it is a credential attack exactly
when the submitted email is not empty and its first characters, as many as the
limit allows, are a listed email, or the same holds of the password. -/
theorem login_classified_iff (rules : HttpRules) (honeypot : HTTPHoneypot) (stamp : Stamp)
    (form : LoginForm) (harmless : form.Harmless rules.val) (outcome : Except Raised Unit)
    (context : IPContext) :
    ∃ event, (handleRequest honeypot stamp form.request outcome).emitted = [event] ∧
      ((classify rules.val event context).attackType = .credentialAttack ↔
        (form.email ≠ [] ∧ ofChars (form.email.take honeypot.maxCredentialLength) ∈
            rules.val.attackTypes.credentialAttack.emails) ∨
          (form.password ≠ [] ∧ ofChars (form.password.take honeypot.maxCredentialLength) ∈
            rules.val.attackTypes.credentialAttack.passwords)) := by
  refine ⟨form.event honeypot stamp, form.emitted honeypot stamp outcome, ?_⟩
  have positive := maxCredentialLength_pos honeypot
  rw [credentialAttack_iff, form.not_injection rules.val harmless honeypot stamp,
    form.isCredentialAttack_iff, listed_take _ _ _ positive, listed_take _ _ _ positive]
  simp only [true_and]

/-- A login with one password. -/
def passwordForm : LoginForm where
  request :=
    { method := literal "POST"
      path := literal "/login"
      chunks := [asciiBytes "password=ab".toList] }
  fields := [("password".toList, "ab".toList)]
  login := by
    unfold Request.IsLogin
    decide
  post := rfl
  body := by decide +kernel
  complete := rfl
  declared := by simp
  small := by decide +kernel
  oneEmail := by decide
  onePassword := by decide

/-- Passwords are cut to one character. -/
def shortHoneypot : HTTPHoneypot := { reportedPort := 80, maxCredentialLengthRaw := some 1 }

/-- Rules that know one password. -/
def knowing (password : String) : HttpRules :=
  ⟨{ attackTypes :=
      { shippedRules.attackTypes with
        credentialAttack := { passwords := [literal password] }
        commandInjection := {} } }, rfl⟩

/-- The form of the example matches no pattern of an injection, whatever password
the rules know. -/
theorem passwordForm_harmless (password : String) :
    passwordForm.Harmless (knowing password).val := by
  constructor
  · rintro ⟨pattern, known, _⟩
    cases known
  · rintro preview _ ⟨pattern, known, _⟩
    cases known

/-- With a limit of one character the password is cut before it is compared, so a
longer one is taken for the known letter it begins with. -/
theorem login_classified_iff_short :
    ∃ event, (handleRequest shortHoneypot someStamp passwordForm.request (.ok ())).emitted =
        [event] ∧
      ((classify (knowing "a").val event { recentAttempts := 1, distinctPorts := {80} }).attackType =
          .credentialAttack ↔
        (passwordForm.email ≠ [] ∧
            ofChars (passwordForm.email.take shortHoneypot.maxCredentialLength) ∈
              (knowing "a").val.attackTypes.credentialAttack.emails) ∨
          (passwordForm.password ≠ [] ∧
            ofChars (passwordForm.password.take shortHoneypot.maxCredentialLength) ∈
              (knowing "a").val.attackTypes.credentialAttack.passwords)) :=
  login_classified_iff (knowing "a") shortHoneypot someStamp passwordForm
    (passwordForm_harmless "a") (.ok ()) { recentAttempts := 1, distinctPorts := {80} }

/-- With a limit of one character, the password `ab` is taken for the listed `a`,
and is not recognised where it is listed itself. -/
theorem cut_password_misjudged :
    (handleRequest shortHoneypot someStamp passwordForm.request (.ok ())).emitted =
        [passwordForm.event shortHoneypot someStamp] ∧
      ((classify (knowing "a").val (passwordForm.event shortHoneypot someStamp)
            { recentAttempts := 1, distinctPorts := {80} }).attackType = .credentialAttack ∧
          ¬ Listed passwordForm.email (knowing "a").val.attackTypes.credentialAttack.emails ∧
          ¬ Listed passwordForm.password
            (knowing "a").val.attackTypes.credentialAttack.passwords) ∧
      (classify (knowing "ab").val (passwordForm.event shortHoneypot someStamp)
            { recentAttempts := 1, distinctPorts := {80} }).attackType = .suspiciousRequest ∧
        Listed passwordForm.password
          (knowing "ab").val.attackTypes.credentialAttack.passwords := by
  refine ⟨passwordForm.emitted _ _ _, ⟨by decide +kernel, ?_, ?_⟩, by decide +kernel, ?_, ?_⟩
  · intro listed
    exact listed.1 rfl
  · intro listed
    exact absurd listed.2 (by decide)
  · decide
  · decide

end Honeywatch.Honeypot.Http
