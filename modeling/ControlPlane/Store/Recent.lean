import ControlPlane.Store.History

/-! The recent events of a snapshot: the latest accepted ids, whatever else is called. -/

namespace ControlPlane

open LruCache (peek iter push cap Window)
open Recency (keys recents MostRecent)

inductive StoreCall
  | write (op : StoreOp)
  | snapshot
  | metricsSnapshot
  | revision

section Recent

variable {C : Type → Type → Type} [LruCache C] [CounterArith]

def StoreInner.call (inner : StoreInner C) : StoreCall → StoreInner C
  | .write op => inner.step op
  | .snapshot => inner
  | .metricsSnapshot => inner
  | .revision => inner

def StoreInner.acceptedId (inner : StoreInner C) : StoreCall → Option Uuid
  | .write op => (inner.acceptedEvent op).map EventEnvelope.eventId
  | .snapshot => none
  | .metricsSnapshot => none
  | .revision => none

variable (C) in
def called (cache : CacheConfig) (startedAt : DateTime) (calls : List StoreCall) : StoreInner C :=
  Run.after StoreInner.call (.new cache startedAt) calls

variable (C) in
def acceptedIds (cache : CacheConfig) (startedAt : DateTime) (calls : List StoreCall) : List Uuid :=
  Run.emitted (fun inner call => (inner.acceptedId call).toList) StoreInner.call
    (StoreInner.new cache startedAt : StoreInner C) calls

def recentIds (inner : StoreInner C) (generatedAt : DateTime) : List Uuid :=
  (snapshot inner generatedAt).recentEvents.map fun record => record.event.eventId

structure Timeline (cache : CacheConfig) (history : List Uuid) (inner : StoreInner C) : Prop where
  window : Window inner.events history
  cap : LruCache.cap inner.events = cache.events.value
  filed : ∀ id record, peek inner.events id = some record → record.event.eventId = id

variable [LawfulLruCache C] {inner : StoreInner C}

omit [LawfulLruCache C] [CounterArith] in
theorem Timeline.congr {cache : CacheConfig} {history : List Uuid} {inner' : StoreInner C}
    (h : Timeline cache history inner) (hevents : inner'.events = inner.events) :
    Timeline cache history inner' where
  window := hevents ▸ h.window
  cap := hevents ▸ h.cap
  filed := hevents ▸ h.filed

theorem events_step_of_unaccepted {op : StoreOp} (h : inner.acceptedEvent op = none) :
    (inner.step op).events = inner.events := by
  obtain ⟨window, counters, he⟩ := step_eq_of_unaccepted h
  rw [he]

theorem events_step_of_accepted {op : StoreOp} {event : EventEnvelope}
    (h : inner.acceptedEvent op = some event) : ∃ transport receivedAt,
      (inner.step op).events =
        (push inner.events event.eventId ⟨event, transport, receivedAt⟩).1 := by
  obtain ⟨transport, receivedAt, rfl, hfresh⟩ := acceptedEvent_eq_some_iff.1 h
  obtain ⟨ingested, -, he⟩ := ingest_of_fresh hfresh transport receivedAt
  refine ⟨transport, receivedAt, ?_⟩
  rw [StoreInner.step, he]
  simp only [accept, pushWithEviction_fst, (KeepsEvents.applyEvent _ event).events]

theorem Timeline.step {cache : CacheConfig} {history : List Uuid}
    (h : Timeline cache history inner) (call : StoreCall) :
    Timeline cache (history ++ (inner.acceptedId call).toList) (inner.call call) := by
  cases call with
  | write op =>
    rw [StoreInner.acceptedId, StoreInner.call]
    cases haccepted : inner.acceptedEvent op with
    | none =>
      rw [Option.map_none, Option.toList_none, List.append_nil]
      exact h.congr (events_step_of_unaccepted haccepted)
    | some event =>
      obtain ⟨transport, receivedAt, hevents⟩ := events_step_of_accepted haccepted
      refine ⟨?_, ?_, ?_⟩
      · rw [hevents]
        exact h.window.push _ _
      · rw [hevents, LawfulLruCache.cap_push, h.cap]
      · intro id record hpeek
        rw [hevents] at hpeek
        by_cases hid : id = event.eventId
        · subst hid
          rw [LruCache.peek_push_self, Option.some.injEq] at hpeek
          rw [← hpeek]
        · exact h.filed id record (LruCache.peek_of_peek_push hid hpeek)
  | _ =>
    rw [StoreInner.acceptedId, Option.toList_none, List.append_nil]
    exact h

theorem timeline_called (cache : CacheConfig) (startedAt : DateTime) (calls : List StoreCall) :
    Timeline cache (acceptedIds C cache startedAt calls) (called C cache startedAt calls) := by
  have hstart : Timeline cache [] (StoreInner.new cache startedAt : StoreInner C) := by
    refine ⟨Window.start _, LawfulLruCache.cap_new _, ?_⟩
    intro id record hpeek
    have hempty : peek (StoreInner.new cache startedAt : StoreInner C).events id = none :=
      LruCache.peek_new _ _
    cases hempty.symm.trans hpeek
  have hrun : Timeline cache ([] ++ acceptedIds C cache startedAt calls)
      (called C cache startedAt calls) :=
    Run.invariant_emitted (fun _ _ call h => h.step call) hstart calls
  exact hrun

omit [CounterArith] in
theorem Timeline.recentIds {cache : CacheConfig} {history : List Uuid}
    (h : Timeline cache history inner) (generatedAt : DateTime) :
    recentIds inner generatedAt =
      (recents history).take (min cache.events.value SNAPSHOT_EVENT_LIMIT) := by
  have hkeys : ControlPlane.recentIds inner generatedAt =
      keys ((iter inner.events).take SNAPSHOT_EVENT_LIMIT) :=
    map_eventId_recentEvents h.filed generatedAt
  have hwindow : keys (iter inner.events) = (recents history).take cache.events.value := by
    rw [h.window, h.cap]
  calc ControlPlane.recentIds inner generatedAt
      = (keys (iter inner.events)).take SNAPSHOT_EVENT_LIMIT := by
        rw [hkeys, keys, List.map_take, keys]
    _ = (recents history).take (min cache.events.value SNAPSHOT_EVENT_LIMIT) := by
      rw [hwindow, List.take_take, min_comm]

theorem recentEvents_call {call : StoreCall} (h : inner.acceptedId call = none)
    (generatedAt laterAt : DateTime) :
    (snapshot (inner.call call) laterAt).recentEvents =
      (snapshot inner generatedAt).recentEvents := by
  cases call with
  | write op =>
    rw [StoreInner.acceptedId, Option.map_eq_none_iff] at h
    rw [StoreInner.call, snapshot, snapshot, events_step_of_unaccepted h]
  | _ => rfl

/-- In every run, the recent events of a snapshot are the latest accepted ids, newest first, cut at
the limits, and a call that gets no new event accepted leaves them alone. -/
theorem recent_events_exact (cache : CacheConfig) (startedAt : DateTime) (calls : List StoreCall)
    (generatedAt : DateTime) :
    MostRecent (acceptedIds C cache startedAt calls) (min cache.events.value SNAPSHOT_EVENT_LIMIT)
        (recentIds (called C cache startedAt calls) generatedAt) ∧
      ∀ call laterAt, (called C cache startedAt calls).acceptedId call = none →
        (snapshot ((called C cache startedAt calls).call call) laterAt).recentEvents =
          (snapshot (called C cache startedAt calls) generatedAt).recentEvents := by
  refine ⟨?_, ?_⟩
  · rw [(timeline_called cache startedAt calls).recentIds]
    exact Recency.mostRecent_take _ _
  · intro call laterAt h
    exact recentEvents_call h generatedAt laterAt

end Recent

namespace Sample

def returning : List StoreCall :=
  [.write (ingestAt 1 1 (created "a")), .write (ingestAt 2 2 (created "b")), .snapshot,
    .write (ingestAt 2 2 (created "b")), .write (ingestAt 3 3 (created "c")),
    .write (ingestAt 1 4 (created "d"))]

end Sample

/-- A capacity of two: the id that came back after the window forgot it is the newest, and the
duplicate in between counts for nothing. -/
theorem recent_events_exact_reaccepted :
    MostRecent (acceptedIds RecencyCache Sample.cache (Sample.instant 0) Sample.returning) 2
        (recentIds (called RecencyCache Sample.cache (Sample.instant 0) Sample.returning)
          (Sample.instant 9)) ∧
      recentIds (called RecencyCache Sample.cache (Sample.instant 0) Sample.returning)
        (Sample.instant 9) = [1, 3] :=
  ⟨(recent_events_exact Sample.cache (Sample.instant 0) Sample.returning (Sample.instant 9)).1,
    by decide⟩

end ControlPlane
