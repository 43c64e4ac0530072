import Honeywatch.Detection.Classifier
import Honeywatch.Foundation.Levels

/-!
# The severity evaluator

`SeverityEvaluator` for any text as the attack type and any integer as the attempts,
with its loops as the source has them. It answers the highest level with a condition
that is met. The classifier asks it about its six types and about counts, which are
natural numbers.
-/

namespace Honeywatch.Detection

open Text Levels

/-- The order of the severities, the lowest first. -/
def Severity.rank : Severity → Nat
  | .low => 0
  | .medium => 1
  | .high => 2

/-- Severities of one rank are the same, so the ranks order them linearly. -/
theorem Severity.rank_injective : Function.Injective Severity.rank := by
  intro left right same
  cases left <;> cases right <;> first | rfl | cases same

instance : LinearOrder Severity := LinearOrder.lift' Severity.rank Severity.rank_injective

/-- No severity is below the one that the loop falls back to. -/
theorem Severity.low_isBot : IsBot Severity.low := fun level => Nat.zero_le level.rank

/-- The conditions of a level. -/
def SeverityRules.conditions (rules : SeverityRules) : Severity → List SeverityCondition
  | .high => rules.high
  | .medium => rules.medium
  | .low => rules.low

/-- The levels in the order in which `evaluate` goes through them. -/
def SeverityRules.levels (rules : SeverityRules) : List (Severity × List SeverityCondition) :=
  [(.high, rules.high), (.medium, rules.medium), (.low, rules.low)]

/-- The same rules but for the order of the conditions of a level and their number. -/
def SeverityRules.Rearranged (rules others : SeverityRules) : Prop :=
  ∀ level, Levels.Rearranged (rules.conditions level) (others.conditions level)

/-- A condition for the attack type with no threshold or one that is reached. -/
def SeverityCondition.Met (condition : SeverityCondition) (attackType : Str)
    (recentAttempts : Int) : Prop :=
  condition.attackType = attackType ∧
    (condition.minAttempts = none ∨
      ∃ minAttempts ≤ recentAttempts, condition.minAttempts = some minAttempts)

/-- The same as a test. -/
def SeverityCondition.meets (condition : SeverityCondition) (attackType : Str)
    (recentAttempts : Int) : Bool :=
  decide (condition.attackType = attackType) &&
    match condition.minAttempts with
    | none => true
    | some minAttempts => decide (minAttempts ≤ recentAttempts)

/-- The test of a condition and its meaning agree. A condition without a number of
attempts asks for the attack type only. -/
theorem SeverityCondition.meets_iff {condition : SeverityCondition} {attackType : Str}
    {recentAttempts : Int} :
    condition.meets attackType recentAttempts = true ↔ condition.Met attackType recentAttempts := by
  rw [meets, Met, Bool.and_eq_true, decide_eq_true_eq]
  refine and_congr_right fun _ => ?_
  cases condition.minAttempts with
  | none => simp
  | some minAttempts => simp

/-- The classifier's test, for its types and for counts. -/
theorem SeverityCondition.isMet_iff {condition : SeverityCondition} {attackType : AttackType}
    {context : IPContext} :
    condition.isMet attackType context = true ↔
      condition.Met attackType.value context.recentAttempts :=
  meets_iff

/-- With more attempts a condition stays met. -/
theorem SeverityCondition.Met.mono {condition : SeverityCondition} {attackType : Str}
    {less more : Int} (fewer : less ≤ more) (met : condition.Met attackType less) :
    condition.Met attackType more := by
  obtain ⟨same, unset | ⟨minAttempts, reached, threshold⟩⟩ := met
  · exact ⟨same, .inl unset⟩
  · exact ⟨same, .inr ⟨minAttempts, reached.trans fewer, threshold⟩⟩

namespace SeverityEvaluator

/-- The loop over the conditions of a level, from a condition on: what it returns, if it
returns. -/
def conditionsLoop (level : Severity) (attackType : Str) (recentAttempts : Int) :
    List SeverityCondition → Option Severity
  | [] => none
  | condition :: rest =>
    if condition.attackType ≠ attackType then conditionsLoop level attackType recentAttempts rest
    else
      match condition.minAttempts with
      | some minAttempts =>
        if recentAttempts ≥ minAttempts then some level
        else conditionsLoop level attackType recentAttempts rest
      | none => some level

/-- The loop over the levels, from a level on, and the default after it. -/
def levelsLoop (attackType : Str) (recentAttempts : Int) :
    List (Severity × List SeverityCondition) → Severity
  | [] => .low
  | (level, conditions) :: rest =>
    match conditionsLoop level attackType recentAttempts conditions with
    | some returned => returned
    | none => levelsLoop attackType recentAttempts rest

/-- `SeverityEvaluator.evaluate`. Of the context it reads the attempts only. -/
def evaluate (rules : SeverityRules) (attackType : Str) (recentAttempts : Int) : Severity :=
  levelsLoop attackType recentAttempts rules.levels

/-- The levels with a condition that is met. -/
def metLevels (rules : SeverityRules) (attackType : Str) (recentAttempts : Int) : Set Severity :=
  {level | ∃ condition ∈ rules.conditions level, condition.Met attackType recentAttempts}

/-! ## The loops -/

/-- The inner loop returns its level when some condition is met: a condition for
another type is passed over, as is one whose threshold is not reached. -/
theorem conditionsLoop_eq (level : Severity) (attackType : Str) (recentAttempts : Int)
    (conditions : List SeverityCondition) :
    conditionsLoop level attackType recentAttempts conditions =
      if conditions.any (·.meets attackType recentAttempts) then some level else none := by
  induction conditions with
  | nil => rfl
  | cons condition rest inductionHypothesis =>
    by_cases same : condition.attackType = attackType
    · cases threshold : condition.minAttempts with
      | none => simp [conditionsLoop, SeverityCondition.meets, same, threshold]
      | some minAttempts =>
        by_cases reached : minAttempts ≤ recentAttempts
        · simp [conditionsLoop, SeverityCondition.meets, same, threshold, reached]
        · simp [conditionsLoop, SeverityCondition.meets, same, threshold, reached,
            inductionHypothesis]
    · simp [conditionsLoop, SeverityCondition.meets, same, inductionHypothesis]

/-- The two loops find the first match, with `low` where no condition of a level is
met. -/
theorem levelsLoop_eq (attackType : Str) (recentAttempts : Int)
    (levels : List (Severity × List SeverityCondition)) :
    levelsLoop attackType recentAttempts levels =
      firstMatch (·.meets attackType recentAttempts) .low levels := by
  induction levels with
  | nil => rfl
  | cons head rest inductionHypothesis =>
    obtain ⟨level, conditions⟩ := head
    rw [levelsLoop, firstMatch, conditionsLoop_eq]
    split_ifs with met
    · rfl
    · exact inductionHypothesis

/-- The loop tries the severities from the highest to the lowest, which is what the
general facts about first matches ask for. -/
theorem levels_falling (rules : SeverityRules) : Falling rules.levels := by
  have medium : Severity.medium < Severity.high := by decide
  have low : Severity.low < Severity.medium := by decide
  simp [Falling, SeverityRules.levels, medium, low, low.trans medium]

/-- The levels at which the loop could stop are those that hold a condition that is
met. -/
theorem matched_levels (rules : SeverityRules) (attackType : Str) (recentAttempts : Int) :
    matched (·.meets attackType recentAttempts) rules.levels =
      metLevels rules attackType recentAttempts := by
  ext level
  cases level <;>
    simp [matched, metLevels, SeverityRules.levels, SeverityRules.conditions,
      SeverityCondition.meets_iff]

/-! ## What the evaluator answers -/

/-- More attempts leave every condition met that was met. -/
theorem metLevels_mono (rules : SeverityRules) (attackType : Str) {less more : Int}
    (fewer : less ≤ more) : metLevels rules attackType less ⊆ metLevels rules attackType more := by
  rintro level ⟨condition, listed, met⟩
  exact ⟨condition, listed, met.mono fewer⟩

/-- Rearranged rules have the same conditions at every level. -/
theorem metLevels_rearranged {rules others : SeverityRules} (rearranged : rules.Rearranged others)
    (attackType : Str) (recentAttempts : Int) :
    metLevels others attackType recentAttempts = metLevels rules attackType recentAttempts := by
  ext level
  simp only [metLevels, Set.mem_ofPred_eq, (rearranged level).mem_iff]

/-- The evaluation is a first match over the levels, so the library speaks about it.
-/
theorem evaluate_firstMatch (rules : SeverityRules) (attackType : Str) (recentAttempts : Int) :
    evaluate rules attackType recentAttempts =
      firstMatch (·.meets attackType recentAttempts) .low rules.levels :=
  levelsLoop_eq attackType recentAttempts rules.levels

/-- Where some condition is met, the answer is the greatest level that has one, and
no other level can be the answer. -/
theorem evaluate_isGreatest (rules : SeverityRules) (attackType : Str) (recentAttempts : Int)
    (nonempty : (metLevels rules attackType recentAttempts).Nonempty) :
    IsGreatest (metLevels rules attackType recentAttempts)
      (evaluate rules attackType recentAttempts) := by
  rw [← matched_levels] at nonempty ⊢
  rw [evaluate_firstMatch]
  exact firstMatch_isGreatest (levels_falling rules) nonempty

/-- Where none is met, the answer is the lowest severity. -/
theorem evaluate_lowest (rules : SeverityRules) (attackType : Str) (recentAttempts : Int)
    (unmet : metLevels rules attackType recentAttempts = ∅) :
    evaluate rules attackType recentAttempts = .low := by
  rw [← matched_levels] at unmet
  rw [evaluate_firstMatch]
  exact firstMatch_lowest unmet

/-- The order of the conditions within a level makes no difference, nor do repeated
ones: only which levels are met counts. -/
theorem evaluate_rearranged {rules others : SeverityRules} (rearranged : rules.Rearranged others)
    (attackType : Str) (recentAttempts : Int) :
    evaluate others attackType recentAttempts = evaluate rules attackType recentAttempts := by
  rw [evaluate_firstMatch, evaluate_firstMatch]
  apply firstMatch_congr (levels_falling others) (levels_falling rules) Severity.low_isBot
  rw [matched_levels, matched_levels, metLevels_rearranged rearranged]

/-- More attempts meet more conditions, so they never lower the severity, whatever
the rules are. -/
theorem evaluate_mono (rules : SeverityRules) (attackType : Str) {less more : Int}
    (fewer : less ≤ more) :
    evaluate rules attackType less ≤ evaluate rules attackType more := by
  rw [evaluate_firstMatch, evaluate_firstMatch]
  apply firstMatch_mono (levels_falling rules) (levels_falling rules) Severity.low_isBot
  rw [matched_levels, matched_levels]
  exact metLevels_mono rules attackType fewer

/-- The evaluator answers the highest level with a condition for the attack type that
is met, and low without one. It does not matter how the conditions of a level are
ordered and how often they are listed, and more attempts never lower the answer. -/
theorem highest_met_level (rules : SeverityRules) (attackType : Str) :
    (∀ recentAttempts, (metLevels rules attackType recentAttempts).Nonempty →
      IsGreatest (metLevels rules attackType recentAttempts)
        (evaluate rules attackType recentAttempts)) ∧
    (∀ recentAttempts, metLevels rules attackType recentAttempts = ∅ →
      evaluate rules attackType recentAttempts = .low) ∧
    (∀ others, rules.Rearranged others → ∀ recentAttempts,
      evaluate others attackType recentAttempts = evaluate rules attackType recentAttempts) ∧
    (∀ less more : Int, less ≤ more →
      evaluate rules attackType less ≤ evaluate rules attackType more) := by
  constructor
  · exact evaluate_isGreatest rules attackType
  constructor
  · exact evaluate_lowest rules attackType
  constructor
  · intro others rearranged
    exact evaluate_rearranged rearranged attackType
  · intro less more fewer
    exact evaluate_mono rules attackType fewer

/-- The classifier's evaluation is this one, for its types and for counts, so what
is shown here holds of the classifier. -/
theorem evaluate_classified (rules : DetectionRules) (attackType : AttackType)
    (context : IPContext) :
    Detection.evaluate rules attackType context =
      evaluate rules.severityRules attackType.value context.recentAttempts := by
  rw [evaluate_firstMatch]
  simp only [SeverityRules.levels, firstMatch, ite_self]
  rfl

end SeverityEvaluator

end Honeywatch.Detection
