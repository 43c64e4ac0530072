import Honeywatch.Detection.ShippedRules
import Honeywatch.Honeypot.PayloadSearch

/-!
# The admin paths of the honeypot and of the shipped rules

The honeypot answers an admin path with its login form whatever the case of its
letters and however many slashes end it. The classifier compares the beginning
of the path as it was sent, so it sees a scan in the lower-case spelling only.
Any other spelling leaves a suspicious request, unless the body holds an
injection or the address has tried enough ports.
-/

namespace Honeywatch.Honeypot.Http

open Text Utf8 FormEncoding Collector Detection

/-- The login form of the admin paths. -/
def AnswersLoginForm (method path : Str) : Prop :=
  determineResponse method path = (401, htmlLogin, "text/html")

/-- The path begins as the rules spell an admin path. -/
def SpelledLow (path : Str) : Prop :=
  ∃ spelled ∈ ["/admin", "/wp-admin", "/wp-login.php"].map literal, spelled <+: path

/-- `command_injection.patterns` of `config/detection_rules.yaml`. -/
def shippedPatterns : List String :=
  [";", "|", "$(", "&&", "../", "`", "wget ", "curl ", "/bin/sh", "/bin/bash"]

/-- The recorded start of a body that is read holds the bytes of a pattern. -/
def BodyInjects (request : Request) : Prop :=
  ∃ body, request.read = some body ∧
    ∃ pattern ∈ shippedPatterns,
      pattern.toList.map asciiByte <:+: body.take bodyPreviewLimit

/-- The patterns of the shipped rules, as they are written in the file. -/
theorem shippedRules_patterns :
    shippedRules.attackTypes.commandInjection.patterns = shippedPatterns.map literal := rfl

/-- The form is for the spellings of the admin paths: the response looks at the path
in lower case and without slashes at its end. -/
theorem answersLoginForm_admin {method path : Str} (answered : AnswersLoginForm method path) :
    normalizedPath path ∈ adminPaths := by
  unfold AnswersLoginForm determineResponse at answered
  split at answered
  · exact absurd (congrArg Prod.fst answered) (by decide)
  · split at answered
    · exact absurd (congrArg Prod.fst answered) (by decide)
    · split at answered
      · rename_i admin
        exact List.contains_iff_mem.mp admin
      · split at answered
        · exact absurd (congrArg Prod.fst answered) (by decide)
        · exact absurd (congrArg Prod.fst answered) (by decide)

/-- In lower case such a path is an admin path with slashes behind it, which is all
that the normalization has taken away. -/
theorem lower_admin {path : Str} (admin : normalizedPath path ∈ adminPaths) :
    ∃ known ∈ adminPaths, ∃ count,
      lower path = known ++ List.replicate count (ofChar '/') := by
  obtain ⟨count, split⟩ := rstrip_append (ofChar '/') path
  have slashes : lower (List.replicate count (ofChar '/')) =
      List.replicate count (ofChar '/') := by
    have slash : lowerPoint (ofChar '/') = [ofChar '/'] := by decide
    simp only [lower, List.flatMap_replicate, slash, List.flatten_replicate_singleton]
  refine ⟨normalizedPath path, admin, count, ?_⟩
  calc lower path
      = lower (rstrip (ofChar '/') path ++ List.replicate count (ofChar '/')) := by rw [← split]
    _ = normalizedPath path ++ List.replicate count (ofChar '/') := by
      rw [lower_append, slashes, normalizedPath]

/-- A character, other than a slash, that the pattern has more of. -/
def outdoes (pattern known : Str) : Bool :=
  pattern.any fun point =>
    decide (point ≠ ofChar '/') && decide (known.count point < pattern.count point)

/-- Every pattern has more of some character than an admin path has. -/
theorem patterns_outdo :
    ∀ pattern ∈ shippedPatterns.map literal, ∀ known ∈ adminPaths,
      lower pattern = pattern ∧ outdoes pattern known = true := by
  decide +kernel

/-- So no spelling of an admin path holds a pattern: each pattern has some character
more often than the path has it, whatever letters are capitals. -/
theorem admin_not_injects {path : Str} (admin : normalizedPath path ∈ adminPaths) :
    ¬ Injects shippedRules path := by
  rintro ⟨pattern, shipped, inside⟩
  obtain ⟨known, member, count, lowered⟩ := lower_admin admin
  obtain ⟨low, outdone⟩ := patterns_outdo pattern shipped known member
  obtain ⟨point, _, telling⟩ := List.any_eq_true.mp outdone
  obtain ⟨other, more⟩ := Bool.and_eq_true_iff.mp telling
  have fits := (lower_inside inside).sublist.count_le point
  rw [lowered, low, List.count_append, List.count_replicate] at fits
  simp only [beq_iff_eq, Ne.symm (of_decide_eq_true other), if_false] at fits
  exact absurd (of_decide_eq_true more) (by omega)

/-- The paths of the rules that no spelling of an admin path begins with. -/
theorem others_differ :
    ∀ scanned ∈ ["/phpmyadmin", "/.env", "/.git", "/manager/html"].map literal,
      ∀ known ∈ adminPaths, 2 ≤ known.length ∧ (lower scanned).take 2 ≠ known.take 2 ∧
        2 ≤ (lower scanned).length := by
  decide +kernel

/-- Every path of the shipped rules is one of four that the honeypot answers like
any other, or it begins with one of the three that it answers as an admin page. -/
theorem scanned_paths :
    ∀ scanned ∈ shippedRules.attackTypes.httpScan.paths,
      scanned ∈ ["/phpmyadmin", "/.env", "/.git", "/manager/html"].map literal ∨
        ∃ spelled ∈ ["/admin", "/wp-admin", "/wp-login.php"].map literal, spelled <+: scanned := by
  decide +kernel

/-- The three are among the paths of the rules. -/
theorem spelled_scanned :
    ∀ spelled ∈ ["/admin", "/wp-admin", "/wp-login.php"].map literal,
      spelled ∈ shippedRules.attackTypes.httpScan.paths := by
  decide +kernel

/-- The rules see a scan in an admin path exactly when it is spelled as they
spell it. -/
theorem admin_scanned_iff {path : Str} (admin : normalizedPath path ∈ adminPaths) :
    (∃ scanned ∈ shippedRules.attackTypes.httpScan.paths, scanned <+: path) ↔ SpelledLow path := by
  have absent : ∀ scanned ∈ ["/phpmyadmin", "/.env", "/.git", "/manager/html"].map literal,
      ¬ scanned <+: path := by
    intro scanned member begins
    obtain ⟨known, among, count, lowered⟩ := lower_admin admin
    obtain ⟨long, differ, enough⟩ := others_differ scanned member known among
    refine differ ?_
    obtain ⟨rest, split⟩ := lower_begins begins
    have same := congrArg (List.take 2) (split.trans lowered)
    rwa [List.take_append_of_le_length enough, List.take_append_of_le_length long] at same
  constructor
  · rintro ⟨scanned, member, begins⟩
    rcases scanned_paths scanned member with other | ⟨spelled, known, first⟩
    · exact absurd begins (absent scanned other)
    · exact ⟨spelled, known, first.trans begins⟩
  · rintro ⟨spelled, member, begins⟩
    exact ⟨spelled, spelled_scanned spelled member, begins⟩

/-- Every shipped pattern is nonempty ASCII, as the search through decoded bytes
requires. -/
theorem shippedPatterns_ascii :
    ∀ pattern ∈ shippedPatterns,
      (∀ char ∈ pattern.toList, char.toNat < 0x80) ∧ pattern.toList ≠ [] := by
  have checked : shippedPatterns.all (fun pattern =>
      pattern.toList.all (fun char => decide (char.toNat < 0x80)) &&
        !pattern.toList.isEmpty) = true := by
    decide +kernel
  intro pattern shipped
  simpa using List.all_eq_true.mp checked pattern shipped

/-- The recorded preview injects exactly when the body that it is made of does.
Decoding with replacement neither makes nor hides an ASCII pattern. -/
theorem preview_injects_iff (request : Request) :
    (∃ preview, request.read.bind bodyPreviewFromBytes = some preview ∧
      Injects shippedRules preview) ↔ BodyInjects request := by
  have found (pattern : String) (shipped : pattern ∈ shippedPatterns) (body : List Byte) :
      (∃ preview, bodyPreviewFromBytes body = some preview ∧ literal pattern <:+: preview) ↔
        pattern.toList.map asciiByte <:+: body.take bodyPreviewLimit :=
    bodyPreview_infix_iff
      { chars := pattern.toList
        ascii := (shippedPatterns_ascii pattern shipped).1
        nonempty := (shippedPatterns_ascii pattern shipped).2 } body
  constructor
  · rintro ⟨preview, recorded, _, member, inside⟩
    obtain ⟨body, read, kept⟩ := Option.bind_eq_some_iff.mp recorded
    rw [shippedRules_patterns] at member
    obtain ⟨pattern, shipped, rfl⟩ := List.mem_map.mp member
    exact ⟨body, read, pattern, shipped,
      (found pattern shipped body).mp ⟨preview, kept, inside⟩⟩
  · rintro ⟨body, read, pattern, shipped, occurs⟩
    obtain ⟨preview, kept, inside⟩ := (found pattern shipped body).mpr occurs
    refine ⟨preview, by rw [read, Option.bind_some, kept], literal pattern, ?_, inside⟩
    rw [shippedRules_patterns]
    exact List.mem_map_of_mem shipped

/-- Under the shipped rules an `http_request` is a suspicious request in no context
exactly when it is an injection or a scan. -/
theorem never_suspicious_iff (event : AttackEvent) (http : event.protocol = .http)
    (request : event.eventType = literal "http_request") :
    (∀ context, (classify shippedRules event context).attackType ≠ .suspiciousRequest) ↔
      isCommandInjection shippedRules event = true ∨ isHttpScan shippedRules event = true := by
  have other : event.eventType ≠ literal "http_login_attempt" := by
    rw [request]
    decide
  have credential : isCredentialAttack shippedRules event = false := by
    simp only [isCredentialAttack, http, other, if_false]
  constructor
  · intro always
    have here := always { recentAttempts := 0, distinctPorts := ∅ }
    by_contra neither
    obtain ⟨plain, unscanned⟩ := not_or.mp neither
    refine here ?_
    have attempts : isBruteForce shippedRules event { recentAttempts := 0, distinctPorts := ∅ } =
        false := by
      simp [isBruteForce, shippedRules]
    have ports : isPortScan shippedRules { recentAttempts := 0, distinctPorts := ∅ } = false := by
      decide
    simp [classify, determineAttackType, plain, credential, attempts, ports, unscanned]
  · rintro (injected | scanned) context
    · simp [classify, determineAttackType, injected]
    · simp only [classify, determineAttackType, scanned, if_true]
      repeat' split
      all_goals simp

/-- For every honeypot and every request whose path `_determine_response` answers
with the login form of the admin paths: the event that is emitted for it is an
`http_request` that no context makes a suspicious request under the shipped
rules exactly when the path begins as the rules spell an admin path, or the
recorded start of the body holds one of their patterns. -/
theorem admin_path_seen_iff (honeypot : HTTPHoneypot) (stamp : Stamp) (request : Request)
    (outcome : Except Raised Unit) (answered : AnswersLoginForm request.method request.path) :
    (∃ event, (handleRequest honeypot stamp request outcome).emitted = [event] ∧
      event.eventType = literal "http_request" ∧
      ∀ context, (classify shippedRules event context).attackType ≠ .suspiciousRequest) ↔
    SpelledLow request.path ∨ BodyInjects request := by
  have admin := answersLoginForm_admin answered
  have elsewhere : ¬ request.IsLogin := by
    intro login
    rw [Request.IsLogin] at login
    rw [login] at admin
    exact absurd admin (by decide)
  let plain : PlainRequest := { request, elsewhere }
  have emitted : (handleRequest honeypot stamp request outcome).emitted =
      [plain.event honeypot stamp] := plain.emitted honeypot stamp outcome
  have injection : isCommandInjection shippedRules (plain.event honeypot stamp) = true ↔
      BodyInjects request := by
    rw [plain.isCommandInjection_iff, preview_injects_iff]
    exact or_iff_right (admin_not_injects admin)
  have scan : isHttpScan shippedRules (plain.event honeypot stamp) = true ↔
      SpelledLow request.path := by
    rw [← admin_scanned_iff admin]
    have path : (plain.event honeypot stamp).getStr "path" = some request.path := rfl
    have http : (plain.event honeypot stamp).protocol = .http := rfl
    simp [isHttpScan, path, http]
  rw [emitted, or_comm, ← injection, ← scan, ← never_suspicious_iff _ rfl rfl]
  constructor
  · rintro ⟨event, same, _, always⟩
    rwa [(List.cons.inj same).1]
  · intro always
    exact ⟨_, rfl, rfl, always⟩

/-- `GET` of a path. -/
def pageRequest (path : String) : Request := { method := literal "GET", path := literal path }

/-- Capitals behind what the rules compare with do no harm, as the classifier looks
at how the path begins. -/
theorem admin_path_seen_iff_spelling :
    (∃ event, (handleRequest webHoneypot someStamp (pageRequest "/adminISTRATOR/")
        (.ok ())).emitted = [event] ∧
      event.eventType = literal "http_request" ∧
      ∀ context, (classify shippedRules event context).attackType ≠ .suspiciousRequest) ↔
    SpelledLow (pageRequest "/adminISTRATOR/").path ∨
      BodyInjects (pageRequest "/adminISTRATOR/") :=
  admin_path_seen_iff webHoneypot someStamp (pageRequest "/adminISTRATOR/") (.ok ()) (by
    unfold AnswersLoginForm determineResponse
    rw [if_neg (by decide), if_neg (by decide), if_pos (by decide)])

/-- The first request of an address for `/ADMIN` is answered with the login form
and is a suspicious request. -/
theorem capital_admin_suspicious :
    AnswersLoginForm (pageRequest "/ADMIN").method (pageRequest "/ADMIN").path ∧
      ∃ event, (handleRequest webHoneypot someStamp (pageRequest "/ADMIN") (.ok ())).emitted =
          [event] ∧
        (classify shippedRules event
          { recentAttempts := 1, distinctPorts := {80} }).attackType = .suspiciousRequest := by
  have answered : AnswersLoginForm (pageRequest "/ADMIN").method (pageRequest "/ADMIN").path := by
    unfold AnswersLoginForm determineResponse
    rw [if_neg (by decide), if_neg (by decide), if_pos (by decide)]
  refine ⟨answered, _, PlainRequest.emitted webHoneypot someStamp
    { request := pageRequest "/ADMIN"
      elsewhere := by
        unfold Request.IsLogin
        decide } _, ?_⟩
  decide +kernel

end Honeywatch.Honeypot.Http
