import Honeywatch.Collector.Publish

/-!
# Publishing does not look at what it publishes

Other events and other payloads in the same places give the same answers,
attempts and outcomes, as long as the serializer agrees with the renaming.
-/

namespace Honeywatch.Collector

open Cooperative

variable {Event Payload Other Target : Type}

/-- The await with another payload. -/
def PublishPoint.map (g : Payload → Target) : PublishPoint Payload → PublishPoint Target
  | .connecting attempt => .connecting attempt
  | .adding attempt payload => .adding attempt (g payload)
  | .sleeping attempt => .sleeping attempt

namespace EventQueue

/-- Other payloads in the same places. -/
def map (g : Payload → Target) (queue : EventQueue Payload) : EventQueue Target :=
  { redis := queue.redis, entries := queue.entries.map g, record := queue.record }

/-- The queue and the await of a publish, renamed. -/
def mapPublish (g : Payload → Target) (result : EventQueue Payload × PublishProgress Payload) :
    EventQueue Target × PublishProgress Target :=
  (result.1.map g, result.2.map (PublishPoint.map g))

variable {toJsonStr : Event → Option Payload} {toTarget : Other → Option Target} {f : Event → Other}
  {g : Payload → Target}

/-- Calls of the library are logged without their payloads. -/
@[simp] theorem map_log (queue : EventQueue Payload) (call : LibraryCall) :
    (queue.log call).map g = (queue.map g).log call := rfl

/-- An append can be renamed. -/
@[simp] theorem map_append (queue : EventQueue Payload) (payload : Payload) :
    (queue.append payload).map g = (queue.map g).append (g payload) := by
  simp [map, append]

/-- A renaming leaves the client alone, -/
@[simp] theorem map_redis (queue : EventQueue Payload) : (queue.map g).redis = queue.redis := rfl

/-- also while it is dropped or replaced. -/
@[simp] theorem map_dropped (queue : EventQueue Payload) (redis : Bool) :
    { queue with redis := redis }.map g = { queue.map g with redis := redis } := rfl

/-- What is sent is the serialization of the event, and an event without one raises
on both sides. -/
theorem send_map (serialized : ∀ event, toTarget (f event) = (toJsonStr event).map g)
    (event : Event) (attempt : Nat) (queue : EventQueue Payload) :
    (queue.map g).send toTarget (f event) attempt =
      mapPublish g (queue.send toJsonStr event attempt) := by
  unfold send
  rw [map_redis, serialized]
  split
  · cases toJsonStr event <;> rfl
  · rfl

/-- An attempt connects first where there is no client, and both sides have one or
neither. -/
theorem attemptPublish_map (serialized : ∀ event, toTarget (f event) = (toJsonStr event).map g)
    (event : Event) (attempt : Nat) (queue : EventQueue Payload) :
    (queue.map g).attemptPublish toTarget (f event) attempt =
      mapPublish g (queue.attemptPublish toJsonStr event attempt) := by
  unfold attemptPublish
  rw [map_redis, send_map serialized]
  split
  · split <;> rfl
  · rfl

/-- A failed attempt is followed by another one or by the end, by its number and by
the failure, on both sides alike. -/
theorem publishFailed_map (attempt : Nat) (failure : RedisFailure) (queue : EventQueue Payload) :
    (queue.map g).publishFailed attempt failure =
      mapPublish g (queue.publishFailed attempt failure) := by
  unfold publishFailed
  split
  · split <;> rfl
  · rfl

/-- A publication begins with the renamed await, -/
theorem publish_enter_map (serialized : ∀ event, toTarget (f event) = (toJsonStr event).map g)
    (event : Event) (queue : EventQueue Payload) :
    (publish toTarget).enter (queue.map g) (f event) =
      mapPublish g ((publish toJsonStr).enter queue event) :=
  attemptPublish_map serialized event 0 queue

/-- and after every answer it goes on with the renamed one. So a queue learns
nothing from its payloads but their length. -/
theorem publish_resume_map (serialized : ∀ event, toTarget (f event) = (toJsonStr event).map g)
    (event : Event) (queue : EventQueue Payload) (point : PublishPoint Payload)
    (reply : RedisReply) :
    (publish toTarget).resume (queue.map g) (f event) (point.map g) reply =
      mapPublish g ((publish toJsonStr).resume queue event point reply) := by
  cases point with
  | connecting attempt =>
    cases reply with
    | answered =>
      simp only [publish, PublishPoint.map, ← map_log]
      exact send_map serialized event attempt _
    | failed failure executed =>
      simp only [publish, PublishPoint.map, ← map_log]
      split
      · exact send_map serialized event attempt _
      · exact publishFailed_map attempt failure _
  | adding attempt payload =>
    cases reply with
    | answered =>
      simp only [publish, PublishPoint.map, ← map_log, ← map_append]
      simp [mapPublish, Progress.map, map]
    | failed failure executed =>
      simp only [publish, PublishPoint.map, ← map_log, ← map_append, ← apply_ite (map g)]
      exact publishFailed_map attempt failure _
  | sleeping attempt => exact attemptPublish_map serialized event (attempt + 1) queue

end EventQueue

end Honeywatch.Collector
