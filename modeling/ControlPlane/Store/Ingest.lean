import ControlPlane.Store.Reduce

/-! Ingestion under the write lock, and the runs it generates. -/

namespace ControlPlane

structure StoreUpdate where
  revision : Nat
  eventId : Uuid
  kind : String
  agentId : String
  taskId : Option String
  transport : Transport
  receivedAt : DateTime
  deriving DecidableEq, Repr

structure IngestAck where
  accepted : Bool
  duplicate : Bool
  eventId : Uuid
  revision : Nat
  transport : Transport
  receivedAt : DateTime
  deriving DecidableEq, Repr

structure Ingested where
  ack : IngestAck
  update : Option StoreUpdate
  deriving DecidableEq, Repr

def increment (counts : BTreeMap String Nat) (transport : Transport) : BTreeMap String Nat :=
  counts.alter transport.asStr fun count => some (U64.wrappingAdd (count.getD 0) 1)

section Ingest

variable {C : Type → Type → Type} [LruCache C]

def recordRejection (inner : StoreInner C) (transport : Transport) : StoreInner C :=
  { inner with
    counters.rejected := U64.saturatingAdd inner.counters.rejected 1
    counters.rejectedByTransport := increment inner.counters.rejectedByTransport transport }

variable [CounterArith]

def accept (inner : StoreInner C) (event : EventEnvelope) (transport : Transport)
    (receivedAt : DateTime) : StoreInner C :=
  let inner := applyEvent inner event
  let inner := { inner with
    revision := U64.saturatingAdd inner.revision 1
    counters.accepted := U64.saturatingAdd inner.counters.accepted 1
    counters.acceptedByTransport := increment inner.counters.acceptedByTransport transport }
  let seen := pushWithEviction inner.seenEventIds event.eventId inner.revision
  let recorded := pushWithEviction inner.events event.eventId ⟨event, transport, receivedAt⟩
  { inner with
    seenEventIds := seen.1
    events := recorded.1
    evictions.idempotency :=
      if seen.2.isSome then U64.saturatingAdd inner.evictions.idempotency 1
      else inner.evictions.idempotency
    evictions.events :=
      if recorded.2.isSome then U64.saturatingAdd inner.evictions.events 1
      else inner.evictions.events }

def ingest (inner : StoreInner C) (event : EventEnvelope) (transport : Transport)
    (receivedAt : DateTime) : StoreInner C × Except ValidationError Ingested :=
  match event.validate with
  | .error error => (recordRejection inner transport, .error error)
  | .ok () =>
    let seen := LruCache.get inner.seenEventIds event.eventId
    let inner := { inner with seenEventIds := seen.2 }
    match seen.1 with
    | some _ =>
      let inner := { inner with
        counters.duplicate := U64.saturatingAdd inner.counters.duplicate 1 }
      (inner, .ok ⟨⟨true, true, event.eventId, inner.revision, transport, receivedAt⟩, none⟩)
    | none =>
      let inner := accept inner event transport receivedAt
      let update : StoreUpdate :=
        ⟨inner.revision, event.eventId, event.kind, event.agent.agentId, event.taskId, transport,
          receivedAt⟩
      (inner, .ok ⟨⟨true, false, event.eventId, inner.revision, transport, receivedAt⟩,
        some update⟩)

/-- The calls that change the store; every other call only reads it. -/
inductive StoreOp
  | ingest (event : EventEnvelope) (transport : Transport) (receivedAt : DateTime)
  | recordRejection (transport : Transport)

def StoreInner.step (inner : StoreInner C) : StoreOp → StoreInner C
  | .ingest event transport receivedAt => (ControlPlane.ingest inner event transport receivedAt).1
  | .recordRejection transport => ControlPlane.recordRejection inner transport

def run (cache : CacheConfig) (startedAt : DateTime) (ops : List StoreOp) : StoreInner C :=
  ops.foldl StoreInner.step (StoreInner.new cache startedAt)

@[simp] theorem run_nil (cache : CacheConfig) (startedAt : DateTime) :
    run cache startedAt [] = (StoreInner.new cache startedAt : StoreInner C) := rfl

theorem run_concat (cache : CacheConfig) (startedAt : DateTime) (ops : List StoreOp)
    (op : StoreOp) :
    (run cache startedAt (ops ++ [op]) : StoreInner C) = (run cache startedAt ops).step op := by
  simp [run, List.foldl_append]

theorem run_induction {P : StoreInner C → Prop} {cache : CacheConfig} {startedAt : DateTime}
    (start : P (StoreInner.new cache startedAt))
    (step : ∀ inner op, P inner → P (StoreInner.step inner op)) (ops : List StoreOp) :
    P (run cache startedAt ops) := by
  induction ops using List.reverseRecOn with
  | nil => exact start
  | append_singleton ops op ih =>
    rw [run_concat]
    exact step _ op ih

def Replayed (inner : StoreInner C) (event : EventEnvelope) : Prop :=
  event.validate = .ok () ∧ (LruCache.peek inner.seenEventIds event.eventId).isSome

def Fresh (inner : StoreInner C) (event : EventEnvelope) : Prop :=
  event.validate = .ok () ∧ LruCache.peek inner.seenEventIds event.eventId = none

end Ingest

namespace Sample

def two : NonZeroUsize := ⟨2, by decide⟩

def cache : CacheConfig := ⟨two, two, two, two, two, two⟩

def instant (secs : Int) : DateTime := ⟨secs, 0⟩

def envelope (eventId : Uuid) (secs : Int) (event : AgentEvent) : EventEnvelope where
  protocolVersion := PROTOCOL_VERSION
  eventId := eventId
  occurredAt := instant secs
  agent := ⟨"worker", "codex", "gpt", none⟩
  sessionId := none
  correlationId := none
  sequence := none
  event := event

def ingestAt (eventId : Uuid) (secs : Int) (event : AgentEvent) : StoreOp :=
  .ingest (envelope eventId secs event) .http (instant secs)

def created (taskId : String) : AgentEvent := .taskCreated ⟨taskId, "title", none, [], [], none⟩

def started (taskId : String) : AgentEvent := .taskStarted ⟨taskId, 1, none⟩

def completed (taskId : String) (outcome : TaskOutcome) : AgentEvent :=
  .taskCompleted ⟨taskId, outcome, "summary", [], none⟩

def faulted (taskId : String) : AgentEvent :=
  .errorObserved ⟨some taskId, "code", "message", true, none⟩

end Sample

end ControlPlane
