import Honeywatch.Detection.Cumulative
import Honeywatch.Detection.Soundness

/-!
# The shipped rules

`config/detection_rules.yaml`, and how the severity it assigns moves with the
context. More attempts raise the severity of a type, but they can also turn a
port scan into a brute force, which is low until twenty attempts while every
port scan is medium. No other growth of the context lowers the severity.
-/

namespace Honeywatch.Detection

open Text Collector

/-- The numbers of the shipped rules are positive, as the settings ask for: the
attempts, -/
theorem shipped_minAttempts : 1 ≤ 5 := by decide

/-- their window, -/
theorem shipped_attemptWindow : 1 ≤ 600 := by decide

/-- the ports, -/
theorem shipped_minDistinctPorts : 1 ≤ 3 := by decide

/-- and their window. -/
theorem shipped_portWindow : 1 ≤ 300 := by decide

/-- `config/detection_rules.yaml`. -/
def shippedRules : DetectionRules where
  attackTypes :=
    { bruteForce :=
        { protocol := literal "ssh"
          minAttempts := 5
          timeWindow := 600
          someAttempts := shipped_minAttempts
          someWindow := shipped_attemptWindow }
      portScan :=
        { minDistinctPorts := 3
          timeWindow := 300
          somePorts := shipped_minDistinctPorts
          someWindow := shipped_portWindow }
      httpScan :=
        { protocol := literal "http"
          paths :=
            ["/admin", "/wp-admin", "/wp-login.php", "/phpmyadmin", "/.env", "/.git",
              "/administrator", "/manager/html"].map literal }
      credentialAttack :=
        { protocol := literal "ssh"
          usernames :=
            ["root", "admin", "administrator", "test", "user", "oracle", "postgres",
              "ubuntu"].map literal
          passwords := ["123456", "password", "admin", "root", "12345678", "qwerty"].map literal
          httpEnabled := true
          emails :=
            ["admin@example.com", "root@localhost", "test@test.com", "admin@admin.com",
              "user@example.com"].map literal }
      commandInjection :=
        { patterns :=
            [";", "|", "$(", "&&", "../", "`", "wget ", "curl ", "/bin/sh",
              "/bin/bash"].map literal } }
  severityRules :=
    { high :=
        [{ attackType := literal "brute_force", minAttempts := some 100 },
          { attackType := literal "command_injection" },
          { attackType := literal "credential_attack", minAttempts := some 50 }]
      medium :=
        [{ attackType := literal "brute_force", minAttempts := some 20 },
          { attackType := literal "port_scan" },
          { attackType := literal "credential_attack" }]
      low :=
        [{ attackType := literal "http_scan" },
          { attackType := literal "brute_force" },
          { attackType := literal "suspicious_request" }] }

/-- What the shipped rules say of a type and a number of attempts. -/
def shippedSeverity (attempts : Nat) : AttackType → Severity
  | .commandInjection => .high
  | .credentialAttack => if 50 ≤ attempts then .high else .medium
  | .bruteForce => if 100 ≤ attempts then .high else if 20 ≤ attempts then .medium else .low
  | .portScan => .medium
  | .httpScan => .low
  | .suspiciousRequest => .low

/-- A condition on attempts asks for its type and its number. -/
theorem isMet_some (text : Str) (minAttempts : Nat) (attackType : AttackType)
    (context : IPContext) :
    SeverityCondition.isMet { attackType := text, minAttempts := some (minAttempts : Int) }
        attackType context =
      (decide (text = attackType.value) && decide (minAttempts ≤ context.recentAttempts)) := by
  simp [SeverityCondition.isMet]

/-- A condition without a number of attempts is about the attack type alone. -/
theorem isMet_none (text : Str) (attackType : AttackType) (context : IPContext) :
    SeverityCondition.isMet { attackType := text } attackType context =
      decide (text = attackType.value) := by
  simp [SeverityCondition.isMet]

/-- The table of the rules, evaluated from high to low. Every condition of the file
names one attack type, so the rules say one thing for each of them. -/
theorem evaluate_shipped (attackType : AttackType) (context : IPContext) :
    evaluate shippedRules attackType context =
      shippedSeverity context.recentAttempts attackType := by
  have high : isMetBy shippedRules.severityRules.high attackType context =
      (decide (literal "brute_force" = attackType.value) &&
          decide (100 ≤ context.recentAttempts) ||
        (decide (literal "command_injection" = attackType.value) ||
          decide (literal "credential_attack" = attackType.value) &&
            decide (50 ≤ context.recentAttempts))) := by
    have hundred := isMet_some (literal "brute_force") 100 attackType context
    have fifty := isMet_some (literal "credential_attack") 50 attackType context
    have always := isMet_none (literal "command_injection") attackType context
    simp only [isMetBy, shippedRules, List.any_cons, List.any_nil, Bool.or_false, always]
    exact congrArg₂ _ hundred (congrArg₂ _ rfl fifty)
  have medium : isMetBy shippedRules.severityRules.medium attackType context =
      (decide (literal "brute_force" = attackType.value) &&
          decide (20 ≤ context.recentAttempts) ||
        (decide (literal "port_scan" = attackType.value) ||
          decide (literal "credential_attack" = attackType.value))) := by
    have twenty := isMet_some (literal "brute_force") 20 attackType context
    simp only [isMetBy, shippedRules, List.any_cons, List.any_nil, Bool.or_false, isMet_none]
    exact congrArg₂ _ twenty rfl
  rw [evaluate_eq, high, medium]
  cases attackType with
  | commandInjection => rfl
  | portScan => rfl
  | httpScan => rfl
  | suspiciousRequest => rfl
  | credentialAttack =>
    by_cases enough : 50 ≤ context.recentAttempts
    · simp only [enough, decide_true, shippedSeverity, if_true]
      rfl
    · simp only [enough, decide_false, shippedSeverity, if_false]
      rfl
  | bruteForce =>
    by_cases many : 100 ≤ context.recentAttempts
    · simp only [many, decide_true, shippedSeverity, if_true]
      rfl
    · by_cases enough : 20 ≤ context.recentAttempts
      · simp only [many, enough, decide_true, decide_false, shippedSeverity, if_true, if_false]
        rfl
      · simp only [many, enough, decide_false, shippedSeverity, if_false]
        rfl

/-- For one type, more attempts never lower the severity: the thresholds of a type
fall with its levels. -/
theorem shippedSeverity_mono (attackType : AttackType) {less more : Nat} (fewer : less ≤ more) :
    (shippedSeverity less attackType).rank ≤ (shippedSeverity more attackType).rank := by
  have table : ∀ attempts : Nat, shippedSeverity attempts attackType =
      SeverityEvaluator.evaluate shippedRules.severityRules attackType.value attempts := by
    intro attempts
    have context := evaluate_shipped attackType
      { recentAttempts := attempts, distinctPorts := ∅ }
    rw [← context, SeverityEvaluator.evaluate_classified]
  rw [table, table]
  exact SeverityEvaluator.evaluate_mono shippedRules.severityRules attackType.value
    (Int.ofNat_le.mpr fewer)

/-- For every event and every two contexts of which the second has no less
evidence, the severity falls exactly where a port scan becomes a brute force
with less than twenty attempts. -/
theorem severity_mono_iff (event : AttackEvent) (less more : IPContext)
    (fewer : less.recentAttempts ≤ more.recentAttempts)
    (contained : less.distinctPorts ⊆ more.distinctPorts) :
    (classify shippedRules event less).severity.rank ≤
        (classify shippedRules event more).severity.rank ↔
      ¬ ((classify shippedRules event less).attackType = .portScan ∧
        (classify shippedRules event more).attackType = .bruteForce ∧
        more.recentAttempts < 20) := by
  simp only [classify, evaluate_shipped]
  have higher := priority_mono shippedRules event fewer contained
  have injection := context_free_types shippedRules event less more _ (.inl rfl)
  have credential := context_free_types shippedRules event less more _ (.inr rfl)
  generalize determineAttackType shippedRules event less = former at *
  generalize determineAttackType shippedRules event more = latter at *
  by_cases same : former = latter
  · subst same
    have raised := shippedSeverity_mono former fewer
    simp only [raised, true_iff]
    rintro ⟨rfl, impossible, _⟩
    cases impossible
  · cases former with
    | commandInjection => exact absurd (injection.mp rfl).symm same
    | credentialAttack => exact absurd (credential.mp rfl).symm same
    | bruteForce =>
      cases latter with
      | commandInjection => cases injection.mpr rfl
      | credentialAttack => cases credential.mpr rfl
      | bruteForce => exact absurd rfl same
      | portScan => simp [AttackType.priority] at higher
      | httpScan => simp [AttackType.priority] at higher
      | suspiciousRequest => simp [AttackType.priority] at higher
    | portScan =>
      cases latter with
      | commandInjection => cases injection.mpr rfl
      | credentialAttack => cases credential.mpr rfl
      | bruteForce =>
        -- the only change of type that can cost a level
        simp only [shippedSeverity, true_and, not_lt]
        by_cases many : 100 ≤ more.recentAttempts
        · have enough : 20 ≤ more.recentAttempts := by omega
          simp [many, enough, Severity.rank]
        · by_cases enough : 20 ≤ more.recentAttempts
          · simp [many, enough, Severity.rank]
          · simp [many, enough, Severity.rank]
      | portScan => exact absurd rfl same
      | httpScan => simp [AttackType.priority] at higher
      | suspiciousRequest => simp [AttackType.priority] at higher
    | httpScan => simp [shippedSeverity, Severity.rank]
    | suspiciousRequest => simp [shippedSeverity, Severity.rank]

/-- The four attempts of an address that has tried three ports. -/
def fourAttempts : IPContext := { recentAttempts := 4, distinctPorts := {22, 23, 80} }

/-- One attempt later. -/
def fiveAttempts : IPContext := { recentAttempts := 5, distinctPorts := {22, 23, 80} }

/-- One more attempt turns a port scan into a brute force, whose severity below
twenty attempts is lower. -/
theorem severity_mono_iff_scan :
    (classify shippedRules (connection 22) fourAttempts).severity.rank ≤
        (classify shippedRules (connection 22) fiveAttempts).severity.rank ↔
      ¬ ((classify shippedRules (connection 22) fourAttempts).attackType = .portScan ∧
        (classify shippedRules (connection 22) fiveAttempts).attackType = .bruteForce ∧
        fiveAttempts.recentAttempts < 20) :=
  severity_mono_iff (connection 22) fourAttempts fiveAttempts (by decide) (by decide)

/-- The fifth attempt turns a medium port scan into a low brute force. -/
theorem fifth_attempt_lowers :
    (fourAttempts.recentAttempts ≤ fiveAttempts.recentAttempts ∧
      fourAttempts.distinctPorts ⊆ fiveAttempts.distinctPorts) ∧
      (classify shippedRules (connection 22) fourAttempts).severity = .medium ∧
      (classify shippedRules (connection 22) fiveAttempts).severity = .low := by
  decide +kernel

end Honeywatch.Detection
