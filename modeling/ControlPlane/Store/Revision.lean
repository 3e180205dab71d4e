import ControlPlane.Store.Idempotency

/-! The revision: every accepted event that is not a duplicate advances it by one and leaves one
update to broadcast; no other call moves it or the timeline. -/

namespace ControlPlane

open LruCache (peek)

section Revision

variable {C : Type → Type → Type} [LruCache C] [CounterArith]

theorem revision_applyEvent (inner : StoreInner C) (envelope : EventEnvelope) :
    (applyEvent inner envelope).revision = inner.revision := by
  have hframe : Frame fun before after : StoreInner C => after.revision = before.revision :=
    .of_field (fun _ _ _ => rfl) fun _ _ _ _ _ => rfl
  exact hframe.event (fun _ _ _ => rfl) inner envelope

theorem revision_accept (inner : StoreInner C) (event : EventEnvelope) (transport : Transport)
    (receivedAt : DateTime) :
    (accept inner event transport receivedAt).revision = U64.saturatingAdd inner.revision 1 := by
  simp only [accept, revision_applyEvent]

theorem events_accept (inner : StoreInner C) (event : EventEnvelope) (transport : Transport)
    (receivedAt : DateTime) :
    (accept inner event transport receivedAt).events =
      (LruCache.push inner.events event.eventId ⟨event, transport, receivedAt⟩).1 := by
  simp only [accept, pushWithEviction_fst, (KeepsEvents.applyEvent inner event).events]

def StoreInner.updateOf (inner : StoreInner C) : StoreOp → Option StoreUpdate
  | .ingest event transport receivedAt =>
    match (ingest inner event transport receivedAt).2 with
    | .ok ingested => ingested.update
    | .error _ => none
  | .recordRejection _ => none

def EventEnvelope.updateAt (event : EventEnvelope) (revision : Nat) (transport : Transport)
    (receivedAt : DateTime) : StoreUpdate where
  revision := revision
  eventId := event.eventId
  kind := event.kind
  agentId := event.agent.agentId
  taskId := event.taskId
  transport := transport
  receivedAt := receivedAt

variable [LawfulLruCache C]

theorem ingest_fresh_eq {inner : StoreInner C} {event : EventEnvelope} (h : Fresh inner event)
    (transport : Transport) (receivedAt : DateTime) :
    let revision := U64.saturatingAdd inner.revision 1
    ingest inner event transport receivedAt =
      (accept { inner with seenEventIds := (LruCache.get inner.seenEventIds event.eventId).2 }
          event transport receivedAt,
        .ok ⟨⟨true, false, event.eventId, revision, transport, receivedAt⟩,
          some (event.updateAt revision transport receivedAt)⟩) := by
  obtain ⟨hv, hseen⟩ := h
  have hget : (LruCache.get inner.seenEventIds event.eventId).1 = none := by
    rw [LawfulLruCache.get_fst, ← LawfulLruCache.peek_eq, hseen]
  simp only [ingest, hv, hget, revision_accept, EventEnvelope.updateAt]

theorem updateOf_of_not_fresh {inner : StoreInner C} {event : EventEnvelope}
    (h : ¬Fresh inner event) (transport : Transport) (receivedAt : DateTime) :
    inner.updateOf (.ingest event transport receivedAt) = none := by
  have hanswer := (ingest_of_not_fresh h transport receivedAt).answer
  rw [StoreInner.updateOf]
  cases he : (ingest inner event transport receivedAt).2 with
  | error error => rfl
  | ok ingested => exact (hanswer ingested he).2

theorem step_cases (inner : StoreInner C) (op : StoreOp) :
    (inner.updateOf op = none ∧ (inner.step op).revision = inner.revision ∧
      (inner.step op).events = inner.events) ∨
    ∃ event transport receivedAt, op = .ingest event transport receivedAt ∧ Fresh inner event ∧
      (inner.step op).revision = U64.saturatingAdd inner.revision 1 ∧
      inner.updateOf op = some (event.updateAt (inner.step op).revision transport receivedAt) ∧
      (inner.step op).events =
        (LruCache.push inner.events event.eventId ⟨event, transport, receivedAt⟩).1 := by
  cases op with
  | recordRejection transport => exact .inl ⟨rfl, rfl, rfl⟩
  | ingest event transport receivedAt =>
    by_cases hfresh : Fresh inner event
    · simp only [StoreInner.step, StoreInner.updateOf]
      rw [ingest_fresh_eq hfresh]
      refine .inr ⟨event, transport, receivedAt, rfl, hfresh, ?_, ?_, ?_⟩
      · exact revision_accept _ _ _ _
      · rw [revision_accept]
      · exact events_accept _ _ _ _
    · obtain ⟨window, counters, hstate, -⟩ :=
        (ingest_of_not_fresh hfresh transport receivedAt).state
      rw [StoreInner.step, hstate]
      exact .inl ⟨updateOf_of_not_fresh hfresh transport receivedAt, rfl, rfl⟩

theorem revision_le_step (inner : StoreInner C) (op : StoreOp) (h : inner.revision ≤ U64.MAX) :
    inner.revision ≤ (inner.step op).revision ∧ (inner.step op).revision ≤ U64.MAX := by
  rcases step_cases inner op with ⟨-, hr, -⟩ | ⟨_, _, _, -, -, hr, -, -⟩
  · rw [hr]
    exact ⟨le_rfl, h⟩
  · rw [hr, U64.saturatingAdd]
    exact ⟨le_min (Nat.le_succ _) h, min_le_right _ _⟩

end Revision

end ControlPlane
