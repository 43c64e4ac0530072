import Honeywatch.Detection.IpContext
import Mathlib.Tactic.NormNum

/-!
# Classification and the worker's clock

The context store counts by the time at which the worker takes an event up, not
by the event's own timestamp. Two runs over the same events give every event the
same classification when, among the events of one address, their clocks compare
alike: the same pairs share a reading, lie within the window and lie within the
time to live of the keys. A constant delay is such a case; a burst after an
outage is not.
-/

namespace Honeywatch.Detection

open Text Redis Collector

/-- The classification of every event of a run, the latest first. -/
def results (rules : DetectionRules) : List Visit → List ClassificationResult
  | [] => []
  | visit :: earlier =>
    (classifyEvent rules (stored rules earlier) visit).2 :: results rules earlier

/-- An event and the times at which it is processed in either of two runs. -/
structure Twin where
  event : AttackEvent
  now : ℚ
  later : ℚ

/-- The event in the first run. -/
def Twin.first (twin : Twin) : Visit := { now := twin.now, event := twin.event }

/-- The event in the second run. -/
def Twin.second (twin : Twin) : Visit := { now := twin.later, event := twin.event }

/-- The clocks of both runs compare two processing times alike. -/
structure Alike (rules : DetectionRules) (latest sooner : Twin) : Prop where
  reading : latest.now = sooner.now ↔ latest.later = sooner.later
  window : latest.now - rules.attackTypes.bruteForce.timeWindow < sooner.now ↔
    latest.later - rules.attackTypes.bruteForce.timeWindow < sooner.later
  expiry : latest.now ≤ sooner.now + contextTtl ↔ latest.later ≤ sooner.later + contextTtl

/-- Two runs over the same events, the latest first. Each has a clock that counts
from the epoch and does not run backwards. -/
structure TwoRuns where
  twins : List Twin
  started : ∀ twin ∈ twins, 0 ≤ twin.now ∧ 0 ≤ twin.later
  ordered : twins.Pairwise fun latest sooner =>
    sooner.now ≤ latest.now ∧ sooner.later ≤ latest.later

def TwoRuns.first (runs : TwoRuns) : List Visit := runs.twins.map Twin.first

def TwoRuns.second (runs : TwoRuns) : List Visit := runs.twins.map Twin.second

/-- The clocks compare the processing times of any two events of one address alike. -/
def TwoRuns.CompareAlike (rules : DetectionRules) (runs : TwoRuns) : Prop :=
  runs.twins.Pairwise fun latest sooner =>
    latest.event.sourceIp = sooner.event.sourceIp → Alike rules latest sooner

/-- Images are equally many when the same elements are identified, whatever the
images are; the identifiers of the attempts depend on the clock, their number does
not. -/
theorem card_image_congr {α β γ : Type} [DecidableEq β] [DecidableEq γ] (items : List α)
    (f : α → β) (g : α → γ)
    (same : ∀ left ∈ items, ∀ right ∈ items, f left = f right ↔ g left = g right) :
    (items.map f).toFinset.card = (items.map g).toFinset.card := by
  induction items with
  | nil => rfl
  | cons first rest inductionHypothesis =>
    have known : f first ∈ (rest.map f).toFinset ↔ g first ∈ (rest.map g).toFinset := by
      simp only [List.mem_toFinset, List.mem_map]
      constructor
      · rintro ⟨other, member, equal⟩
        exact ⟨other, member, (same other (by simp [member]) first (by simp)).mp equal⟩
      · rintro ⟨other, member, equal⟩
        exact ⟨other, member, (same other (by simp [member]) first (by simp)).mpr equal⟩
    have counts := inductionHypothesis fun left one right other =>
      same left (List.mem_cons_of_mem _ one) right (List.mem_cons_of_mem _ other)
    simp only [List.map_cons, List.toFinset_cons]
    rw [Finset.card_insert_eq_ite, Finset.card_insert_eq_ite, counts]
    simp only [known]

/-- The session of an address in terms of the twins. -/
def sessionTwins : List Twin → List Twin
  | [] => []
  | [twin] => [twin]
  | twin :: previous :: earlier =>
    if twin.now ≤ previous.now + contextTtl then twin :: sessionTwins (previous :: earlier)
    else [twin]

/-- A session is the latest part of a timeline; twins that are alike keep their
order and their silences in it. -/
theorem sessionTwins_sublist (twins : List Twin) : (sessionTwins twins).Sublist twins := by
  induction twins with
  | nil => exact List.Sublist.refl _
  | cons twin earlier inductionHypothesis =>
    cases earlier with
    | nil => exact List.Sublist.refl _
    | cons previous rest =>
      simp only [sessionTwins]
      split
      · exact inductionHypothesis.cons_cons twin
      · exact List.singleton_sublist.mpr (by simp)

/-- Either run's session is made of the same twins: a silence that breaks the one
breaks the other. -/
theorem unbroken_twins (rules : DetectionRules) (twins : List Twin)
    (alike : twins.Pairwise (Alike rules)) :
    unbroken (twins.map Twin.first) = (sessionTwins twins).map Twin.first ∧
      unbroken (twins.map Twin.second) = (sessionTwins twins).map Twin.second := by
  induction twins with
  | nil => exact ⟨rfl, rfl⟩
  | cons twin earlier inductionHypothesis =>
    cases earlier with
    | nil => exact ⟨rfl, rfl⟩
    | cons previous rest =>
      obtain ⟨head, tail⟩ := List.pairwise_cons.mp alike
      obtain ⟨first, second⟩ := inductionHypothesis tail
      have expiry := (head previous (by simp)).expiry
      have renewed : twin.first.now ≤ previous.first.now + contextTtl ↔
          twin.second.now ≤ previous.second.now + contextTtl := expiry
      simp only [List.map_cons] at first second ⊢
      by_cases kept : twin.now ≤ previous.now + contextTtl
      · have keptFirst : twin.first.now ≤ previous.first.now + contextTtl := kept
        simp [unbroken, sessionTwins, keptFirst, renewed.mp keptFirst, kept, first, second]
      · have lost : ¬ twin.first.now ≤ previous.first.now + contextTtl := kept
        simp [unbroken, sessionTwins, lost, mt renewed.mpr lost, kept]

/-- The attempts in the window are equally many in both runs. Two of them share an
identifier in the one run exactly where they do in the other. -/
theorem attempts_card_twins (rules : DetectionRules) (latest : Twin) (mine : List Twin)
    (alike : (latest :: mine).Pairwise (Alike rules)) :
    let window := rules.attackTypes.bruteForce.timeWindow
    (asAttempts (within latest.now window
        ((sessionTwins (latest :: mine)).map Twin.first))).card =
      (asAttempts (within latest.later window
        ((sessionTwins (latest :: mine)).map Twin.second))).card := by
  intro window
  have some_window : (0 : ℚ) < window := by
    exact_mod_cast rules.attackTypes.bruteForce.someWindow
  have alike_self (twin : Twin) : Alike rules twin twin :=
    ⟨by simp, by simp, by simp [contextTtl]⟩
  have inside : ∀ twin ∈ sessionTwins (latest :: mine),
      decide (latest.now - window < twin.now) = decide (latest.later - window < twin.later) := by
    intro twin member
    refine decide_eq_decide.mpr ?_
    rcases List.mem_cons.mp ((sessionTwins_sublist _).subset member) with rfl | earlier
    · exact (alike_self twin).window
    · exact ((List.pairwise_cons.mp alike).1 twin earlier).window
  have readings : ∀ left ∈ latest :: mine, ∀ right ∈ latest :: mine,
      (left.now = right.now ↔ left.later = right.later) := by
    intro left one right other
    refine List.Pairwise.forall_of_forall_of_flip (R := fun left right : Twin =>
      left.now = right.now ↔ left.later = right.later) (fun _ _ => by simp)
      (alike.imp Alike.reading) (alike.imp fun both => ?_) one other
    exact eq_comm.trans (both.reading.trans eq_comm)
  simp only [asAttempts, within, List.filter_map, List.map_map]
  have kept : (sessionTwins (latest :: mine)).filter
      ((fun visit : Visit => decide (latest.now - window < visit.now)) ∘ Twin.first) =
      (sessionTwins (latest :: mine)).filter
        ((fun visit : Visit => decide (latest.later - window < visit.now)) ∘ Twin.second) :=
    List.filter_congr inside
  rw [kept]
  apply card_image_congr
  intro left one right other
  have known : ∀ twin, twin ∈ (sessionTwins (latest :: mine)).filter
      ((fun visit : Visit => decide (latest.later - window < visit.now)) ∘ Twin.second) →
      twin ∈ latest :: mine :=
    fun twin member => (sessionTwins_sublist _).subset (List.mem_of_mem_filter member)
  have reading := readings left (known left one) right (known right other)
  simp [Twin.first, Twin.second, reading]

/-- The events of one address, in either run and as twins. Twins share their event,
so they come from one address. -/
theorem comingFrom_twins (sourceIp : Str) (twins : List Twin) (side : Twin → Visit)
    (same : ∀ twin, (side twin).event = twin.event) :
    comingFrom sourceIp (twins.map side) =
      (twins.filter fun twin => decide (twin.event.sourceIp = sourceIp)).map side := by
  rw [comingFrom, List.filter_map]
  congr 1
  exact List.filter_congr fun twin _ => by simp [same]

/-- The latest event of a run that is not over yet. -/
def timelineOf (side : Twin → Visit) (latest : Twin) (earlier : List Twin)
    (started : ∀ twin ∈ latest :: earlier, 0 ≤ (side twin).now)
    (ordered : (latest :: earlier).Pairwise fun later sooner =>
      (side sooner).now ≤ (side later).now) : Timeline where
  latest := side latest
  earlier := earlier.map side
  started := by
    rw [← List.map_cons]
    exact List.forall_mem_map.mpr started
  ordered := by
    rw [← List.map_cons]
    exact List.pairwise_map.mpr ordered

/-- For every rule set and every two runs over the same events whose clocks
compare alike, every event has the same attack type and severity in both. -/
theorem results_of_alike_clocks (rules : DetectionRules) (runs : TwoRuns)
    (alike : runs.CompareAlike rules) :
    results rules runs.first = results rules runs.second := by
  obtain ⟨twins, started, ordered⟩ := runs
  simp only [TwoRuns.first, TwoRuns.second, TwoRuns.CompareAlike] at alike ⊢
  induction twins with
  | nil => rfl
  | cons latest earlier inductionHypothesis =>
    have rest := inductionHypothesis
      (fun twin member => started twin (List.mem_cons_of_mem _ member))
      (List.pairwise_cons.mp ordered).2 (List.pairwise_cons.mp alike).2
    let mine := earlier.filter fun twin => decide (twin.event.sourceIp = latest.event.sourceIp)
    have latest_first : ((latest :: earlier).filter fun twin =>
        decide (twin.event.sourceIp = latest.event.sourceIp)) = latest :: mine := by
      simp [mine]
    have alikeMine : (latest :: mine).Pairwise (Alike rules) := by
      rw [← latest_first]
      refine (alike.filter _).imp_of_mem ?_
      intro left right one other similar
      have one := of_decide_eq_true (List.mem_filter.mp one).2
      have other := of_decide_eq_true (List.mem_filter.mp other).2
      exact similar (one.trans other.symm)
    have context : (timelineOf Twin.first latest earlier
        (fun twin member => (started twin member).1) (ordered.imp And.left)).context rules =
        (timelineOf Twin.second latest earlier
          (fun twin member => (started twin member).2) (ordered.imp And.right)).context rules := by
      obtain ⟨one, other⟩ := unbroken_twins rules (latest :: mine) alikeMine
      rw [← latest_first, ← comingFrom_twins _ _ Twin.first fun _ => rfl] at one
      rw [← latest_first, ← comingFrom_twins _ _ Twin.second fun _ => rfl] at other
      rw [latest_first] at one other
      have attempts := attempts_card_twins rules latest mine alikeMine
      rw [← one, ← other] at attempts
      have ports : portsOf ((sessionTwins (latest :: mine)).map Twin.first) =
          portsOf ((sessionTwins (latest :: mine)).map Twin.second) := by
        simp only [portsOf, List.map_map]
        rfl
      rw [← one, ← other] at ports
      exact congrArg₂ IPContext.mk attempts ports
    have first := (timelineOf Twin.first latest earlier (fun twin member => (started twin member).1)
      (ordered.imp And.left)).classifyEvent_eq rules
    have second := (timelineOf Twin.second latest earlier
      (fun twin member => (started twin member).2) (ordered.imp And.right)).classifyEvent_eq rules
    have same := first.trans ((congrArg (classify rules latest.event) context).trans second.symm)
    simp only [List.map_cons, results, rest]
    exact congrArg (· :: _) same

/-- A run whose events are all processed so much later. -/
def TwoRuns.delayed (timeline : Timeline) (delay : ℚ) (forward : 0 ≤ delay) : TwoRuns where
  twins := (timeline.latest :: timeline.earlier).map fun visit =>
    { event := visit.event, now := visit.now, later := visit.now + delay }
  started := by
    intro twin member
    obtain ⟨visit, known, rfl⟩ := List.mem_map.mp member
    have positive := timeline.started visit known
    exact ⟨positive, add_nonneg positive forward⟩
  ordered := by
    refine List.pairwise_map.mpr (timeline.ordered.imp fun sooner => ?_)
    exact ⟨sooner, add_le_add_left sooner delay⟩

/-- A constant delay compares alike. -/
theorem delayed_alike (rules : DetectionRules) (timeline : Timeline) (delay : ℚ)
    (forward : 0 ≤ delay) : (TwoRuns.delayed timeline delay forward).CompareAlike rules := by
  refine List.pairwise_map.mpr (timeline.ordered.imp fun {latest sooner} _ _ => ⟨?_, ?_, ?_⟩)
  · simp
  · simp only [add_sub_right_comm, add_lt_add_iff_right]
  · rw [add_right_comm, add_le_add_iff_right]

/-- A login attempt of one address, by the hour. -/
def attemptAt (hour : Nat) : AttackEvent :=
  { id := ⟨hour % 24, by omega⟩
    timestamp := { year := 2025, month := 1, day := 1, hour := hour % 24, minute := 0, second := 0,
                   microsecond := 0, valid := by
                     refine ⟨by decide, by decide, by decide, ?_, by decide, by decide, by decide⟩
                     exact Nat.mod_lt hour (by decide) }
    sourceIp := literal "10.0.0.1"
    sourcePort := 4000
    destinationPort := 22
    protocol := .ssh
    eventType := literal "ssh_login_attempt"
    rawData := [] }

/-- Two attempts, an hour apart. -/
def twoAttempts : Timeline where
  latest := ⟨7200, attemptAt 2⟩
  earlier := [⟨3600, attemptAt 1⟩]
  started := by simp
  ordered := by simp; norm_num

/-- They are processed at once or a minute later. -/
def aMinuteLater : TwoRuns := .delayed twoAttempts 60 (by norm_num)

/-- Two attempts that are processed a minute later have the same results. -/
theorem results_of_alike_clocks_delayed :
    results {} aMinuteLater.first = results {} aMinuteLater.second :=
  results_of_alike_clocks {} aMinuteLater (delayed_alike {} twoAttempts 60 (by norm_num))

/-- Five attempts, an hour apart when they happen and a second apart after an outage. -/
def drained : TwoRuns where
  twins := [⟨attemptAt 5, 18000, 20005⟩, ⟨attemptAt 4, 14400, 20004⟩, ⟨attemptAt 3, 10800, 20003⟩,
    ⟨attemptAt 2, 7200, 20002⟩, ⟨attemptAt 1, 3600, 20001⟩]
  started := by simp
  ordered := by simp; norm_num

/-- Live, the last attempt is a suspicious request; drained in a burst, it is a
brute force. -/
theorem burst_is_brute_force :
    ((results {} drained.first).map ClassificationResult.attackType).head? =
        some .suspiciousRequest ∧
      ((results {} drained.second).map ClassificationResult.attackType).head? =
        some .bruteForce := by
  decide +kernel

end Honeywatch.Detection
