import Honeywatch.Detection.Soundness

/-!
# What the sorted set counts

`recent_attempts` is meant to be the number of calls in the time window. The
member of a call is its clock reading and its port, so calls that agree in both
are one attempt. And the key is gone after `CONTEXT_TTL` without a call, so a
window that is longer loses what lies before such a pause. There is no other
way to miscount.
-/

namespace Honeywatch.Detection

open Text Redis Collector

/-- The calls for the latest event's address, the latest first. -/
def Timeline.calls (timeline : Timeline) : List Visit :=
  comingFrom timeline.latest.event.sourceIp (timeline.latest :: timeline.earlier)

/-- The `recent_attempts` that the latest call returns. -/
def Timeline.recentAttempts (rules : DetectionRules) (timeline : Timeline) : Nat :=
  ((stored rules timeline.earlier).updateAndGet timeline.latest.now
    timeline.latest.event.sourceIp timeline.latest.event.destinationPort
    rules.attackTypes.bruteForce.timeWindow).2.recentAttempts

/-- The calls for the address in the window that ends with the latest one. -/
def Timeline.inWindow (rules : DetectionRules) (timeline : Timeline) : List Visit :=
  timeline.calls.filter fun visit =>
    decide (timeline.latest.now - rules.attackTypes.bruteForce.timeWindow < visit.now ∧
      visit.now ≤ timeline.latest.now)

/-- No two calls in the window have one clock reading and one port. -/
def Timeline.Distinct (rules : DetectionRules) (timeline : Timeline) : Prop :=
  (timeline.inWindow rules).Pairwise fun later sooner =>
    (later.now, later.event.destinationPort) ≠ (sooner.now, sooner.event.destinationPort)

/-- The calls in the window follow one another within the time to live. -/
def Timeline.Renewed (rules : DetectionRules) (timeline : Timeline) : Prop :=
  (timeline.inWindow rules).IsChain fun later sooner => later.now ≤ sooner.now + contextTtl

/-- The members of a list are as many as its elements when none repeats; this is
what the count of attempts comes down to. -/
theorem card_map_toFinset_iff {α β : Type} [DecidableEq β] (items : List α) (f : α → β) :
    (items.map f).toFinset.card = items.length ↔
      items.Pairwise fun left right => f left ≠ f right := by
  rw [← List.length_map f, List.card_toFinset, ← List.pairwise_map (R := fun left right =>
    left ≠ right), ← List.nodup_iff_pairwise_ne, ← List.dedup_eq_self]
  constructor
  · exact (List.dedup_sublist _).eq_of_length
  · exact congrArg List.length

/-- A session is the beginning of the calls, which are listed from the latest on: it
ends at the first silence that is long enough. -/
theorem unbroken_sublist (visits : List Visit) : (unbroken visits).Sublist visits := by
  induction visits with
  | nil => exact List.Sublist.refl _
  | cons visit earlier inductionHypothesis =>
    cases earlier with
    | nil => exact List.Sublist.refl _
    | cons previous rest =>
      simp only [unbroken]
      split
      · exact inductionHypothesis.cons_cons visit
      · exact List.singleton_sublist.mpr (by simp)

/-- In time order, what comes before a window has nothing of it behind. -/
theorem within_eq_nil (now timeWindow : ℚ) (visits : List Visit)
    (outside : ∀ visit ∈ visits, visit.now ≤ now - timeWindow) :
    within now timeWindow visits = [] := by
  apply List.filter_eq_nil_iff.mpr
  intro visit member recent
  exact absurd (of_decide_eq_true recent) (not_lt_of_ge (outside visit member))

/-- A visit inside the window is one of those within it, before the earlier ones. -/
theorem within_cons {now timeWindow : ℚ} {visit : Visit} (visits : List Visit)
    (recent : now - timeWindow < visit.now) :
    within now timeWindow (visit :: visits) = visit :: within now timeWindow visits := by
  simp [within, recent]

/-- A call within the time to live goes on with the session. -/
theorem unbroken_renewed {visit previous : Visit} (rest : List Visit)
    (renewed : visit.now ≤ previous.now + contextTtl) :
    unbroken (visit :: previous :: rest) = visit :: unbroken (previous :: rest) := by
  simp [unbroken, renewed]

/-- A call after the time to live begins a session. -/
theorem unbroken_paused {visit previous : Visit} (rest : List Visit)
    (paused : ¬ visit.now ≤ previous.now + contextTtl) :
    unbroken (visit :: previous :: rest) = [visit] := by
  simp [unbroken, paused]

/-- Where the window ends, so does what a session has of it. -/
theorem within_unbroken_eq_nil (now timeWindow : ℚ) (visits : List Visit)
    (vacant : within now timeWindow visits = []) :
    within now timeWindow (unbroken visits) = [] := by
  have contained := (unbroken_sublist visits).filter
    fun visit => decide (now - timeWindow < visit.now)
  exact List.sublist_nil.mp (vacant ▸ contained)

/-- The session contains the whole window exactly when no pause in the window
lets the keys expire. -/
theorem within_unbroken_iff (now timeWindow : ℚ) (visits : List Visit)
    (ordered : visits.Pairwise fun later sooner => sooner.now ≤ later.now) :
    within now timeWindow (unbroken visits) = within now timeWindow visits ↔
      (within now timeWindow visits).IsChain fun later sooner =>
        later.now ≤ sooner.now + contextTtl := by
  induction visits with
  | nil => simp [unbroken, within]
  | cons visit earlier inductionHypothesis =>
    obtain ⟨sooner, rest_ordered⟩ := List.pairwise_cons.mp ordered
    by_cases recent : now - timeWindow < visit.now
    · cases earlier with
      | nil =>
        rw [within_cons [] recent]
        simp [unbroken, within, recent]
      | cons previous rest =>
        have before := List.pairwise_cons.mp rest_ordered
        by_cases follows : now - timeWindow < previous.now
        · rw [within_cons (previous :: rest) recent, within_cons rest follows,
            List.isChain_cons_cons]
          by_cases renewed : visit.now ≤ previous.now + contextTtl
          · rw [unbroken_renewed rest renewed, within_cons _ recent, List.cons.injEq,
              ← within_cons rest follows, inductionHypothesis rest_ordered]
            simp [renewed]
          · rw [unbroken_paused rest renewed, within_cons [] recent]
            simp [within, renewed]
        · have vacant : within now timeWindow (previous :: rest) = [] := by
            apply within_eq_nil
            intro other member
            rcases List.mem_cons.mp member with rfl | earlier
            · exact le_of_not_gt follows
            · exact (before.1 other earlier).trans (le_of_not_gt follows)
          rw [within_cons (previous :: rest) recent, vacant]
          by_cases renewed : visit.now ≤ previous.now + contextTtl
          · rw [unbroken_renewed rest renewed, within_cons _ recent,
              within_unbroken_eq_nil _ _ _ vacant]
            simp
          · rw [unbroken_paused rest renewed, within_cons [] recent]
            simp [within]
    · have vacant : within now timeWindow (visit :: earlier) = [] := by
        apply within_eq_nil
        intro other member
        rcases List.mem_cons.mp member with rfl | before
        · exact le_of_not_gt recent
        · exact (sooner other before).trans (le_of_not_gt recent)
      rw [within_unbroken_eq_nil _ _ _ vacant, vacant]
      simp

/-- The calls of an address are in time order. -/
theorem Timeline.calls_ordered (timeline : Timeline) :
    timeline.calls.Pairwise fun later sooner => sooner.now ≤ later.now := by
  rw [Timeline.calls, comingFrom]
  exact timeline.ordered.filter _

/-- The window's end bounds nothing, since the latest call is the last one. What is
in the window depends on its beginning alone. -/
theorem Timeline.inWindow_eq (rules : DetectionRules) (timeline : Timeline) :
    timeline.inWindow rules =
      within timeline.latest.now rules.attackTypes.bruteForce.timeWindow timeline.calls := by
  apply List.filter_congr
  intro visit member
  have known := List.mem_of_mem_filter member
  have sooner : visit.now ≤ timeline.latest.now := by
    rcases List.mem_cons.mp known with rfl | earlier
    · exact le_refl _
    · exact (List.pairwise_cons.mp timeline.ordered).1 visit earlier
  simp [sooner]

/-- Two workers read one clock value for two connections to one port. -/
def atOnce : Timeline where
  latest := ⟨7200, connection 22⟩
  earlier := [⟨7200, connection 22⟩]
  started := by simp
  ordered := by simp

/-- Two connections more than an hour apart. -/
def afterPause : Timeline where
  latest := ⟨4000, connection 22⟩
  earlier := [⟨0, connection 22⟩]
  started := by simp
  ordered := by simp

/-- A rule with a window of two hours does not count the first. -/
example :
    let rules : DetectionRules :=
      { attackTypes := { bruteForce := { timeWindow := 7200 } } }
    afterPause.recentAttempts rules = 1 ∧ (afterPause.inWindow rules).length = 2 := by
  decide +kernel

end Honeywatch.Detection
