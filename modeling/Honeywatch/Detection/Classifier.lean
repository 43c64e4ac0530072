import Honeywatch.Collector.Events
import Mathlib.Data.Finset.Card

/-!
# Detection rules and the classifier

The rules carry the bounds of their validation. The classifier tries the attack
types in the order of their priority and the severities from high to low. It
sees the event and the `IPContext` of its source address only.
-/

namespace Honeywatch.Detection

open Text Collector

/-- `BruteForceRule`. -/
structure BruteForceRule where
  protocol : Str := literal "ssh"
  minAttempts : Nat := 5
  timeWindow : Nat := 600
  someAttempts : 1 ≤ minAttempts := by decide
  someWindow : 1 ≤ timeWindow := by decide

/-- `PortScanRule`. -/
structure PortScanRule where
  minDistinctPorts : Nat := 3
  timeWindow : Nat := 300
  somePorts : 1 ≤ minDistinctPorts := by decide
  someWindow : 1 ≤ timeWindow := by decide

/-- `HTTPScanRule`. The classifier does not read the protocol. -/
structure HTTPScanRule where
  protocol : Str := literal "http"
  paths : List Str := []

/-- `CredentialAttackRule`. The classifier does not read the protocol. -/
structure CredentialAttackRule where
  protocol : Str := literal "ssh"
  usernames : List Str := []
  passwords : List Str := []
  httpEnabled : Bool := true
  emails : List Str := []

/-- `CommandInjectionRule`. -/
structure CommandInjectionRule where
  patterns : List Str := []

/-- `AttackTypeRules`. -/
structure AttackTypeRules where
  bruteForce : BruteForceRule := {}
  portScan : PortScanRule := {}
  httpScan : HTTPScanRule := {}
  credentialAttack : CredentialAttackRule := {}
  commandInjection : CommandInjectionRule := {}

/-- `SeverityCondition`; the attack type is compared as a string. -/
structure SeverityCondition where
  attackType : Str
  minAttempts : Option Int := none

/-- `SeverityRules`. -/
structure SeverityRules where
  high : List SeverityCondition := []
  medium : List SeverityCondition := []
  low : List SeverityCondition := []

/-- `DetectionRules`. -/
structure DetectionRules where
  attackTypes : AttackTypeRules := {}
  severityRules : SeverityRules := {}

/-- The constants `ATTACK_*`. -/
inductive AttackType
  | bruteForce
  | portScan
  | httpScan
  | credentialAttack
  | commandInjection
  | suspiciousRequest
deriving DecidableEq, Repr

def AttackType.value : AttackType → Str
  | .bruteForce => literal "brute_force"
  | .portScan => literal "port_scan"
  | .httpScan => literal "http_scan"
  | .credentialAttack => literal "credential_attack"
  | .commandInjection => literal "command_injection"
  | .suspiciousRequest => literal "suspicious_request"

/-- The constants `SEVERITY_*`. -/
inductive Severity
  | high
  | medium
  | low
deriving DecidableEq, Repr

def Severity.value : Severity → Str
  | .high => literal "HIGH"
  | .medium => literal "MEDIUM"
  | .low => literal "LOW"

/-- `IPContext`. -/
structure IPContext where
  recentAttempts : Nat
  distinctPorts : Finset Int

/-- `ClassificationResult`. -/
structure ClassificationResult where
  attackType : AttackType
  severity : Severity
deriving DecidableEq, Repr

/-- `_is_command_injection`. -/
def isCommandInjection (rules : DetectionRules) (event : AttackEvent) : Bool :=
  let patterns := rules.attackTypes.commandInjection.patterns
  let targets :=
    if event.protocol = .http then
      (event.getStr "path").toList ++ (event.getStr "body_preview").toList
    else []
  targets.any fun target => patterns.any fun pattern => decide (pattern <:+: target)

/-- A nonempty string on a list of known values. -/
def isListed (value : Option Str) (known : List Str) : Bool :=
  match value with
  | some text => decide (text ≠ []) && decide (text ∈ known)
  | none => false

/-- `_is_credential_attack`. The `ssh` branch has no test for the empty string. -/
def isCredentialAttack (rules : DetectionRules) (event : AttackEvent) : Bool :=
  let rule := rules.attackTypes.credentialAttack
  match event.protocol with
  | .ssh =>
    ((event.getStr "username").any fun username => decide (username ∈ rule.usernames)) ||
      ((event.getStr "password").any fun password => decide (password ∈ rule.passwords))
  | .http =>
    if event.eventType = literal "http_login_attempt" then
      rule.httpEnabled && (isListed (event.getStr "email") rule.emails ||
        isListed (event.getStr "password") rule.passwords)
    else false

/-- `_is_brute_force`. -/
def isBruteForce (rules : DetectionRules) (event : AttackEvent) (context : IPContext) : Bool :=
  let rule := rules.attackTypes.bruteForce
  if event.protocol.value ≠ rule.protocol then false
  else decide (rule.minAttempts ≤ context.recentAttempts)

/-- `_is_port_scan`. -/
def isPortScan (rules : DetectionRules) (context : IPContext) : Bool :=
  decide (rules.attackTypes.portScan.minDistinctPorts ≤ context.distinctPorts.card)

/-- `_is_http_scan`. -/
def isHttpScan (rules : DetectionRules) (event : AttackEvent) : Bool :=
  if event.protocol ≠ .http then false
  else
    match event.getStr "path" with
    | none => false
    | some path => rules.attackTypes.httpScan.paths.any fun scanned => decide (scanned <+: path)

/-- `_determine_attack_type`. -/
def determineAttackType (rules : DetectionRules) (event : AttackEvent) (context : IPContext) :
    AttackType :=
  if isCommandInjection rules event then .commandInjection
  else if isCredentialAttack rules event then .credentialAttack
  else if isBruteForce rules event context then .bruteForce
  else if isPortScan rules context then .portScan
  else if isHttpScan rules event then .httpScan
  else .suspiciousRequest

/-- A condition of a severity level. -/
def SeverityCondition.isMet (condition : SeverityCondition) (attackType : AttackType)
    (context : IPContext) : Bool :=
  decide (condition.attackType = attackType.value) &&
    match condition.minAttempts with
    | none => true
    | some minAttempts => decide (minAttempts ≤ (context.recentAttempts : Int))

/-- `SeverityEvaluator.evaluate`. -/
def evaluate (rules : DetectionRules) (attackType : AttackType) (context : IPContext) : Severity :=
  let met := fun conditions : List SeverityCondition =>
    conditions.any fun condition => condition.isMet attackType context
  if met rules.severityRules.high then .high
  else if met rules.severityRules.medium then .medium
  else .low

/-- `AttackClassifier.classify`. -/
def classify (rules : DetectionRules) (event : AttackEvent) (context : IPContext) :
    ClassificationResult :=
  let attackType := determineAttackType rules event context
  { attackType, severity := evaluate rules attackType context }

/-- A command injection or a credential attack comes before the types that
depend on the context. -/
def hasPriority (rules : DetectionRules) (event : AttackEvent) : Bool :=
  isCommandInjection rules event || isCredentialAttack rules event

/-- Without a match of higher priority the context decides, the brute force
first and the port scan second. -/
theorem determine_without_priority (rules : DetectionRules) (event : AttackEvent)
    (context : IPContext) (plain : hasPriority rules event = false) :
    determineAttackType rules event context =
      if isBruteForce rules event context then .bruteForce
      else if isPortScan rules context then .portScan
      else if isHttpScan rules event then .httpScan
      else .suspiciousRequest := by
  obtain ⟨noInjection, noCredential⟩ := Bool.or_eq_false_iff.mp plain
  simp [determineAttackType, noInjection, noCredential]

/-- With one, the context does not matter: the first two tests look at the event
alone. -/
theorem determine_with_priority (rules : DetectionRules) (event : AttackEvent)
    (context : IPContext) (priority : hasPriority rules event = true) :
    determineAttackType rules event context = .commandInjection ∨
      determineAttackType rules event context = .credentialAttack := by
  rcases Bool.or_eq_true_iff.mp priority with injected | credential
  · exact .inl (by simp [determineAttackType, injected])
  · cases injected : isCommandInjection rules event with
    | true => exact .inl (by simp [determineAttackType, injected])
    | false => exact .inr (by simp [determineAttackType, injected, credential])

/-- The same type comes out in every context. -/
theorem determine_of_priority (rules : DetectionRules) (event : AttackEvent)
    (left right : IPContext) (priority : hasPriority rules event = true) :
    determineAttackType rules event left = determineAttackType rules event right := by
  rcases Bool.or_eq_true_iff.mp priority with injected | credential
  · simp [determineAttackType, injected]
  · simp [determineAttackType, credential]

/-- `credential_attack` is the type of an event with a listed credential that is not
an injection. -/
theorem credentialAttack_iff (rules : DetectionRules) (event : AttackEvent)
    (context : IPContext) :
    (classify rules event context).attackType = .credentialAttack ↔
      isCommandInjection rules event = false ∧ isCredentialAttack rules event = true := by
  simp only [classify, determineAttackType]
  cases isCommandInjection rules event with
  | true => simp
  | false =>
    cases isCredentialAttack rules event with
    | true => simp
    | false =>
      simp only [Bool.false_eq_true, if_false, and_false, iff_false]
      repeat' split
      all_goals simp

/-- `brute_force` is the type of an event over the rule's protocol from an
address with enough attempts, unless a type of higher priority matches. -/
theorem bruteForce_iff (rules : DetectionRules) (event : AttackEvent) (context : IPContext) :
    (classify rules event context).attackType = .bruteForce ↔
      hasPriority rules event = false ∧ isBruteForce rules event context = true := by
  cases priority : hasPriority rules event with
  | true =>
    rcases determine_with_priority rules event context priority with same | same <;>
      simp [classify, same]
  | false =>
    simp only [classify, determine_without_priority rules event context priority, true_and]
    cases isBruteForce rules event context with
    | true => simp
    | false =>
      simp only [Bool.false_eq_true, if_false, iff_false]
      split
      · simp
      · split <;> simp

/-- `port_scan` is the type of an event from an address with enough ports that
is not classified higher. -/
theorem portScan_iff (rules : DetectionRules) (event : AttackEvent) (context : IPContext) :
    (classify rules event context).attackType = .portScan ↔
      hasPriority rules event = false ∧ isBruteForce rules event context = false ∧
        isPortScan rules context = true := by
  cases priority : hasPriority rules event with
  | true =>
    rcases determine_with_priority rules event context priority with same | same <;>
      simp [classify, same]
  | false =>
    simp only [classify, determine_without_priority rules event context priority, true_and]
    cases isBruteForce rules event context with
    | true => simp
    | false =>
      cases isPortScan rules context with
      | true => simp
      | false =>
        simp only [Bool.false_eq_true, if_false, and_false, iff_false]
        split <;> simp

end Honeywatch.Detection
