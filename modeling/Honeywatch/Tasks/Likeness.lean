import Honeywatch.Tasks.Renaming

/-!
# Two runs on events that are alike

Events are alike when the pipeline takes the same from both and each payload of
the one that is read differently from a payload of the other is read as an event
alike. Two runs on such events are the two halves of one run on pairs, which
differ from it by renamings, so they have the same records up to what is erased.
-/

namespace Honeywatch.Tasks

open Collector Detection Text

variable {Event Payload Label Message : Type}

/-- A likeness of events for a handling of them. -/
structure Likeness (handling : Handling Event Payload Label Message) where
  Alike : Event → Event → Prop
  refl : ∀ own, Alike own own
  eventId : ∀ {own twin}, Alike own twin → handling.eventId own = handling.eventId twin
  protocol : ∀ {own twin}, Alike own twin → handling.protocol own = handling.protocol twin
  sourceIp : ∀ {own twin}, Alike own twin → handling.sourceIp own = handling.sourceIp twin
  destinationPort : ∀ {own twin}, Alike own twin →
    handling.destinationPort own = handling.destinationPort twin
  toJsonStr : ∀ {own twin}, Alike own twin → own = twin ∨
    (handling.toJsonStr own = none ∧ handling.toJsonStr twin = none) ∨
    ∃ left right, handling.toJsonStr own = some left ∧ handling.toJsonStr twin = some right ∧
      handling.fromJsonStr left = .ok own ∧ handling.fromJsonStr right = .ok twin

namespace Likeness

variable {handling : Handling Event Payload Label Message} (likeness : Likeness handling)

/-- Payloads that are the same or are read as events that are alike. -/
def PayloadsAlike (left right : Payload) : Prop :=
  left = right ∨ ∃ own twin, likeness.Alike own twin ∧ handling.fromJsonStr left = .ok own ∧
    handling.fromJsonStr right = .ok twin

/-- Two events that are alike. -/
def Pair : Type := { pair : Event × Event // likeness.Alike pair.1 pair.2 }

/-- Two payloads that are alike. -/
def PayloadPair : Type := { pair : Payload × Payload // likeness.PayloadsAlike pair.1 pair.2 }

variable {likeness}

def Pair.own (pair : likeness.Pair) : Event := pair.1.1
def Pair.twin (pair : likeness.Pair) : Event := pair.1.2
def PayloadPair.own (pair : likeness.PayloadPair) : Payload := pair.1.1
def PayloadPair.twin (pair : likeness.PayloadPair) : Payload := pair.1.2

/-- An event with itself. -/
def Pair.diagonal (event : Event) : likeness.Pair := ⟨(event, event), likeness.refl event⟩

/-- A payload with itself. -/
def PayloadPair.diagonal (payload : Payload) : likeness.PayloadPair :=
  ⟨(payload, payload), .inl rfl⟩

/-- Both events of a pair are serialized, to payloads that are alike, or neither is,
so the two runs take the same branch of the publish. -/
theorem exists_toJsonStr (pair : likeness.Pair) :
    ∃ payloads : Option likeness.PayloadPair,
      handling.toJsonStr pair.own = payloads.map PayloadPair.own ∧
      handling.toJsonStr pair.twin = payloads.map PayloadPair.twin := by
  obtain ⟨⟨own, twin⟩, alike⟩ := pair
  rcases likeness.toJsonStr alike with same | ⟨left, right⟩ | ⟨left, right, written⟩
  · change own = twin at same
    subst same
    cases written : handling.toJsonStr own with
    | none => exact ⟨none, written, written⟩
    | some payload => exact ⟨some (.diagonal payload), written, written⟩
  · exact ⟨none, left, right⟩
  · obtain ⟨leftWritten, rightWritten, leftRead, rightRead⟩ := written
    exact ⟨some ⟨(left, right), .inr ⟨own, twin, alike, leftRead, rightRead⟩⟩, leftWritten,
      rightWritten⟩

/-- Both payloads of a pair are read as events that are alike, or neither is read,
so the two workers take the same branch for the entry. -/
theorem exists_fromJsonStr (pair : likeness.PayloadPair) :
    ∃ events : Except Str likeness.Pair,
      handling.fromJsonStr pair.own = events.map Pair.own ∧
      handling.fromJsonStr pair.twin = events.map Pair.twin := by
  obtain ⟨⟨left, right⟩, same | ⟨own, twin, alike, leftRead, rightRead⟩⟩ := pair
  · change left = right at same
    subst same
    change ∃ events, handling.fromJsonStr left = _ ∧ handling.fromJsonStr left = _
    cases handling.fromJsonStr left with
    | error error => exact ⟨.error error, rfl, rfl⟩
    | ok event => exact ⟨.ok (.diagonal event), rfl, rfl⟩
  · exact ⟨.ok ⟨(own, twin), alike⟩, leftRead, rightRead⟩

variable (likeness)

/-- The handling of pairs, each half handled as it is by itself. -/
noncomputable def both :
    Handling likeness.Pair likeness.PayloadPair (Label × Label) (Message × Message) where
  toJsonStr pair := (exists_toJsonStr pair).choose
  fromJsonStr pair := (exists_fromJsonStr pair).choose
  eventId pair := handling.eventId pair.own
  protocol pair := handling.protocol pair.own
  sourceIp pair := handling.sourceIp pair.own
  destinationPort pair := handling.destinationPort pair.own
  timeWindow := handling.timeWindow
  classify pair context := (handling.classify pair.own context, handling.classify pair.twin context)
  statementError pair labels original :=
    (handling.statementError pair.own labels.1 original,
      handling.statementError pair.twin labels.2 original)

/-- The first half. -/
noncomputable def first : Renaming likeness.both handling where
  event := Pair.own
  payload := PayloadPair.own
  label := Prod.fst
  message := Prod.fst
  toJsonStr pair := (exists_toJsonStr pair).choose_spec.1
  fromJsonStr pair := (exists_fromJsonStr pair).choose_spec.1
  eventId _ := rfl
  protocol _ := rfl
  sourceIp _ := rfl
  destinationPort _ := rfl
  timeWindow := rfl
  classify _ _ := rfl
  statementError _ _ _ := rfl

/-- The second half. -/
noncomputable def second : Renaming likeness.both handling where
  event := Pair.twin
  payload := PayloadPair.twin
  label := Prod.snd
  message := Prod.snd
  toJsonStr pair := (exists_toJsonStr pair).choose_spec.2
  fromJsonStr pair := (exists_fromJsonStr pair).choose_spec.2
  eventId pair := (likeness.eventId pair.2).symm
  protocol pair := (likeness.protocol pair.2).symm
  sourceIp pair := (likeness.sourceIp pair.2).symm
  destinationPort pair := (likeness.destinationPort pair.2).symm
  timeWindow := rfl
  classify _ _ := rfl
  statementError _ _ _ := rfl

/-- What happens is the same, or it is a request whose event has one alike. -/
inductive HappensAlike :
    Happening Event Payload Label Message → Happening Event Payload Label Message → Prop
  | same (happening : Happening Event Payload Label Message) : HappensAlike happening happening
  | receive (before : List (LogRecord Label Message)) {own twin : Event}
      (alike : likeness.Alike own twin) (after : LogRecord Label Message) :
      HappensAlike (.receive before (some (own, after))) (.receive before (some (twin, after)))

/-- A record with itself. -/
def doubled : LogRecord Label Message → LogRecord (Label × Label) (Message × Message) :=
  LogRecord.map (fun label => (label, label)) fun error => (error, error)

/-- A record that is the same on both sides is itself on the first side -/
@[simp] theorem first_doubled (record : LogRecord Label Message) :
    likeness.first.record (doubled record) = record := by
  cases record <;> rfl

/-- and on the second. -/
@[simp] theorem second_doubled (record : LogRecord Label Message) :
    likeness.second.record (doubled record) = record := by
  cases record <;> rfl

/-- So is a log of such records, -/
@[simp] theorem first_records_doubled (log : List (LogRecord Label Message)) :
    likeness.first.records (log.map doubled) = log := by
  simp [Renaming.records, Function.comp_def]

/-- on either side. -/
@[simp] theorem second_records_doubled (log : List (LogRecord Label Message)) :
    likeness.second.records (log.map doubled) = log := by
  simp [Renaming.records, Function.comp_def]

variable {likeness}

/-- Payloads from elsewhere are the same in both runs, so they are paired with
themselves. -/
theorem payloads_paired (likeness : Likeness handling) (payloads : List Payload) :
    ∃ pairs : List likeness.PayloadPair, pairs.map PayloadPair.own = payloads ∧
      pairs.map PayloadPair.twin = payloads := by
  refine ⟨payloads.map .diagonal, ?_, ?_⟩
  · rw [List.map_map]
    exact List.map_id payloads
  · rw [List.map_map]
    exact List.map_id payloads

/-- A honeypot that receives alike requests in both runs receives the pair of their
events in the paired run, with the records that both runs log. -/
theorem receive_paired (before : List (LogRecord Label Message)) {own twin : Event}
    (alike : likeness.Alike own twin) (after : LogRecord Label Message) :
    ∃ happening, likeness.first.happening happening = .receive before (some (own, after)) ∧
      likeness.second.happening happening = .receive before (some (twin, after)) := by
  refine ⟨.receive (before.map doubled) (some (⟨(own, twin), alike⟩, doubled after)), ?_, ?_⟩
  · simp only [Renaming.happening, first_records_doubled, Option.map_some, Prod.map,
      first_doubled]
    rfl
  · simp only [Renaming.happening, second_records_doubled, Option.map_some, Prod.map,
      second_doubled]
    rfl

/-- What happens alike happens to pairs: of a happening and its twin there is one of
pairs, whose halves they are. -/
theorem HappensAlike.paired {own twin : Happening Event Payload Label Message}
    (alike : likeness.HappensAlike own twin) :
    ∃ happening, likeness.first.happening happening = own ∧
      likeness.second.happening happening = twin := by
  cases alike with
  | receive before alike after => exact receive_paired before alike after
  | same =>
    cases own with
    | receive before emitted =>
      cases emitted with
      | none =>
        exact ⟨.receive (before.map doubled) none, by simp [Renaming.happening],
          by simp [Renaming.happening]⟩
      | some item => exact receive_paired before (likeness.refl item.1) item.2
    | elsewhere redis payloads records =>
      obtain ⟨pairs, owns, twins⟩ := payloads_paired likeness payloads
      refine ⟨.elsewhere redis pairs (records.map doubled), ?_, ?_⟩
      · rw [Renaming.happening, first_records_doubled]
        exact congrArg (Happening.elsewhere redis · records) owns
      · rw [Renaming.happening, second_records_doubled]
        exact congrArg (Happening.elsewhere redis · records) twins
    | startFlushLoop => exact ⟨.startFlushLoop, rfl, rfl⟩
    | answer emission reply error => exact ⟨.answer emission reply error, rfl, rfl⟩
    | cancel emission executed => exact ⟨.cancel emission executed, rfl, rfl⟩
    | restartHoneypots redis records =>
      exact ⟨.restartHoneypots redis (records.map doubled), by simp [Renaming.happening],
        by simp [Renaming.happening]⟩
    | loseGroup => exact ⟨.loseGroup, rfl, rfl⟩
    | start => exact ⟨.start, rfl, rfl⟩
    | stop => exact ⟨.stop, rfl, rfl⟩
    | crash => exact ⟨.crash, rfl, rfl⟩
    | reply reply error => exact ⟨.reply reply error, rfl, rfl⟩
    | classify now degraded => exact ⟨.classify now degraded, rfl, rfl⟩
    | store reply error => exact ⟨.store reply error, rfl, rfl⟩
    | awake => exact ⟨.awake, rfl, rfl⟩

/-- Schedules that are alike move for move are the halves of one of pairs, so two
runs can be followed as one. -/
theorem schedules_paired {schedule other : List (Happening Event Payload Label Message)}
    (alike : List.Forall₂ likeness.HappensAlike schedule other) :
    ∃ pairs : List _, pairs.map likeness.first.happening = schedule ∧
      pairs.map likeness.second.happening = other := by
  induction alike with
  | nil => exact ⟨[], rfl, rfl⟩
  | cons head tail inductionHypothesis =>
    obtain ⟨happening, own, twin⟩ := head.paired
    obtain ⟨rest, firsts, seconds⟩ := inductionHypothesis
    refine ⟨happening :: rest, ?_, ?_⟩
    · rw [List.map_cons, own, firsts]
    · rw [List.map_cons, twin, seconds]

/-- Of two schedules that are alike, one is possible when the other is, and what
is erased of their records is all that differs. -/
theorem logs_alike {schedule other : List (Happening Event Payload Label Message)}
    (alike : List.Forall₂ likeness.HappensAlike schedule other) (redis : Bool)
    {final : Pipeline Event Payload Label Message}
    (reached : handling.pipeline.run (.initial redis) schedule = some final) :
    ∃ twin, handling.pipeline.run (.initial redis) other = some twin ∧
      twin.log.map LogRecord.erase = final.log.map LogRecord.erase := by
  obtain ⟨pairs, firsts, seconds⟩ := schedules_paired alike
  have ran := likeness.first.run_map redis pairs
  have ranTwin := likeness.second.run_map redis pairs
  rw [firsts, reached] at ran
  obtain ⟨both, reachedBoth, same⟩ := Option.map_eq_some_iff.mp ran.symm
  rw [seconds, reachedBoth] at ranTwin
  refine ⟨likeness.second.pipeline both, ranTwin, ?_⟩
  rw [← same, Renaming.erase_log, Renaming.erase_log]

end Likeness

end Honeywatch.Tasks
