import Honeywatch.Db.Models
import Honeywatch.Detection.Classifier
import Mathlib.Data.Finset.Sort
import Mathlib.Data.List.Lex
import Mathlib.Order.Lattice.Nat

/-!
# Risk scores and profiles of source addresses

`RiskScorer` and `IPAnalyzer`. The frequency score is computed over floating
point numbers and cut to an integer, which gives the same number as exact
division for every count of events.
-/

namespace Honeywatch.Analysis

open Text Detection

/-- `_SEVERITY_SCORE.get(s, 0)`. -/
def severityScore (severity : Str) : Nat :=
  if severity = Severity.high.value then 30
  else if severity = Severity.medium.value then 15
  else if severity = Severity.low.value then 5
  else 0

def frequencyScoreMax : Nat := 40

def diversityScoreMax : Nat := 30

def diversityScorePerType : Nat := 10

def frequencySaturation : Nat := 200

/-- `RiskScorer.calculate`. -/
def calculate (totalEvents : Nat) (attackTypes severities : List Str) : Nat :=
  let frequencyScore :=
    min frequencyScoreMax (totalEvents * frequencyScoreMax / frequencySaturation)
  let distinctTypes := attackTypes.toFinset.card
  let diversityScore := min diversityScoreMax (distinctTypes * diversityScorePerType)
  let severityScore := severities.toFinset.sup severityScore
  min 100 (frequencyScore + diversityScore + severityScore)

/-- More events never lower a score. Only its first part depends on their number,
and that one is capped. -/
theorem calculate_mono {fewer more : Nat} (least : fewer ≤ more)
    (attackTypes severities : List Str) :
    calculate fewer attackTypes severities ≤ calculate more attackTypes severities := by
  have frequency : fewer * frequencyScoreMax / frequencySaturation ≤
      more * frequencyScoreMax / frequencySaturation :=
    Nat.div_le_div_right (Nat.mul_le_mul_right _ least)
  simp only [calculate]
  gcongr

/-- `RiskScorer.to_risk_level`. -/
def toRiskLevel (score : Nat) : Str :=
  if 70 ≤ score then Severity.high.value
  else if 40 ≤ score then Severity.medium.value
  else Severity.low.value

/-- `IPProfile`. -/
structure IPProfile where
  sourceIp : Str
  firstSeen : Option (List Char)
  lastSeen : Option (List Char)
  totalEvents : Nat
  attackTypes : List Str
  riskScore : Nat
  riskLevel : Str
deriving DecidableEq

/-- `IPAnalyzer.build_profile`. -/
def buildProfile (sourceIp : Str) (firstSeen lastSeen : Option (List Char)) (totalEvents : Nat)
    (attackTypes severities : List Str) : IPProfile :=
  let riskScore := calculate totalEvents attackTypes severities
  { sourceIp
    firstSeen
    lastSeen
    totalEvents
    attackTypes := attackTypes.toFinset.sort (· ≤ ·)
    riskScore
    riskLevel := toRiskLevel riskScore }

/-- Only which types and severities were observed matters to a profile, not how
often or in which order. -/
theorem buildProfile_congr (sourceIp : Str) (firstSeen lastSeen : Option (List Char))
    (totalEvents : Nat) {types otherTypes severities otherSeverities : List Str}
    (sameTypes : types.toFinset = otherTypes.toFinset)
    (sameSeverities : severities.toFinset = otherSeverities.toFinset) :
    buildProfile sourceIp firstSeen lastSeen totalEvents types severities =
      buildProfile sourceIp firstSeen lastSeen totalEvents otherTypes otherSeverities := by
  simp only [buildProfile, calculate, sameTypes, sameSeverities]

end Honeywatch.Analysis
