import ControlPlane.Store.Idempotency

/-! The reducer reads neither the window of seen ids nor the counters: it does the same to the
projections whatever these are. -/

namespace ControlPlane

open LruCache (peek getMut)

section Ledger

variable {C : Type → Type → Type}

/-- The part of a store that ingestion keeps for itself. -/
structure Ledger (C : Type → Type → Type) where
  seenEventIds : C Uuid Nat
  counters : Counters

def StoreInner.ledger (inner : StoreInner C) : Ledger C := ⟨inner.seenEventIds, inner.counters⟩

def StoreInner.withLedger (inner : StoreInner C) (ledger : Ledger C) : StoreInner C :=
  { inner with seenEventIds := ledger.seenEventIds, counters := ledger.counters }

def Oblivious (f : StoreInner C → StoreInner C) : Prop :=
  ∀ inner ledger, f (inner.withLedger ledger) = (f inner).withLedger ledger

namespace Oblivious

variable {f g : StoreInner C → StoreInner C}

theorem id : Oblivious (fun inner : StoreInner C => inner) := fun _ _ => rfl

theorem comp (hg : Oblivious g) (hf : Oblivious f) : Oblivious fun inner => g (f inner) := by
  intro inner ledger
  simp only [hf inner ledger, hg (f inner) ledger]

variable [LruCache C]

theorem modifyAgent (agentId : String) (change : AgentState → AgentState) :
    Oblivious fun inner : StoreInner C => inner.modifyAgent agentId change := fun _ _ => rfl

theorem ensureAgent (envelope : EventEnvelope) :
    Oblivious fun inner : StoreInner C => ensureAgent inner envelope := by
  intro inner ledger
  by_cases h : (peek inner.agents envelope.agent.agentId).isSome
  · have h' : (peek (inner.withLedger ledger).agents envelope.agent.agentId).isSome := h
    simp only [ControlPlane.ensureAgent, if_pos h, if_pos h']
  · have h' : ¬(peek (inner.withLedger ledger).agents envelope.agent.agentId).isSome := h
    simp only [ControlPlane.ensureAgent, if_neg h, if_neg h']
    rfl

theorem applyLessonLearned (envelope : EventEnvelope) (lesson : Lesson) :
    Oblivious fun inner : StoreInner C => applyLessonLearned inner envelope lesson :=
  fun _ _ => rfl

theorem applyGoalDeclared (envelope : EventEnvelope) (goal : Goal) :
    Oblivious fun inner : StoreInner C => applyGoalDeclared inner envelope goal :=
  fun _ _ => rfl

theorem writeTask (inner : StoreInner C) (ledger : Ledger C) (key : ScopedId)
    (occurredAt : DateTime) (update : TaskState → TaskState) :
    writeTask (inner.withLedger ledger) key occurredAt update =
      ((writeTask inner key occurredAt update).1.withLedger ledger,
        (writeTask inner key occurredAt update).2) := by
  have hreach : getMut (inner.withLedger ledger).tasks key = getMut inner.tasks key := rfl
  unfold ControlPlane.writeTask
  rw [hreach]
  cases getMut inner.tasks key with
  | none => rfl
  | some reached =>
    obtain ⟨task, write⟩ := reached
    by_cases h : task.updatedAt ≤ occurredAt
    · simp only [if_pos h]
      rfl
    · simp only [if_neg h]
      rfl

variable [CounterArith]

theorem insertTask (key : ScopedId) (state : TaskState) :
    Oblivious fun inner : StoreInner C => insertTask inner key state := by
  intro inner ledger
  have hpushed : pushWithEviction (inner.withLedger ledger).tasks key state =
      pushWithEviction inner.tasks key state := rfl
  simp only [ControlPlane.insertTask, hpushed]
  cases (pushWithEviction inner.tasks key state).2 <;> rfl

theorem ensureTask (taskId agentId : String) (occurredAt : DateTime) :
    Oblivious fun inner : StoreInner C => ensureTask inner taskId agentId occurredAt := by
  intro inner ledger
  by_cases h : (peek inner.tasks ⟨agentId, taskId⟩).isSome
  · have h' : (peek (inner.withLedger ledger).tasks ⟨agentId, taskId⟩).isSome := h
    simp only [ControlPlane.ensureTask, if_pos h, if_pos h']
  · have h' : ¬(peek (inner.withLedger ledger).tasks ⟨agentId, taskId⟩).isSome := h
    simp only [ControlPlane.ensureTask, if_neg h, if_neg h']
    exact insertTask _ _ inner ledger

theorem annotate (taskId agentId : String) (key : ScopedId) (occurredAt : DateTime)
    (update : TaskState → TaskState) :
    Oblivious fun inner : StoreInner C =>
      (ControlPlane.writeTask (ControlPlane.ensureTask inner taskId agentId occurredAt) key
        occurredAt update).1 := by
  intro inner ledger
  simp only [ensureTask taskId agentId occurredAt inner ledger, writeTask]

theorem execute (taskId agentId : String) (key : ScopedId) (occurredAt : DateTime)
    (update : TaskState → TaskState) (change : TaskState → AgentState → AgentState) :
    Oblivious fun inner : StoreInner C =>
      let written := ControlPlane.writeTask (ControlPlane.ensureTask inner taskId agentId occurredAt)
        key occurredAt update
      match written.2 with
      | some previous => written.1.modifyAgent agentId (change previous)
      | none => written.1 := by
  intro inner ledger
  simp only [ensureTask taskId agentId occurredAt inner ledger, writeTask]
  cases (ControlPlane.writeTask (ControlPlane.ensureTask inner taskId agentId occurredAt) key
    occurredAt update).2 <;> rfl

theorem applyTaskCreated (envelope : EventEnvelope) (spec : TaskSpec) :
    Oblivious fun inner : StoreInner C => applyTaskCreated inner envelope spec := by
  intro inner ledger
  have hreach : getMut (inner.withLedger ledger).tasks ⟨envelope.agent.agentId, spec.taskId⟩ =
      getMut inner.tasks ⟨envelope.agent.agentId, spec.taskId⟩ := rfl
  simp only [ControlPlane.applyTaskCreated, hreach]
  cases getMut inner.tasks ⟨envelope.agent.agentId, spec.taskId⟩ with
  | none => exact insertTask _ _ inner ledger
  | some _ => rfl

theorem applyReflectionRecorded (envelope : EventEnvelope) (reflection : Reflection) :
    Oblivious fun inner : StoreInner C => applyReflectionRecorded inner envelope reflection := by
  cases h : reflection.taskId with
  | none =>
    simp only [ControlPlane.applyReflectionRecorded, h]
    exact modifyAgent _ _
  | some taskId =>
    simp only [ControlPlane.applyReflectionRecorded, h]
    exact (modifyAgent _ _).comp (annotate _ _ _ _ _)

theorem applyErrorObserved (envelope : EventEnvelope) (error : ErrorObservation) :
    Oblivious fun inner : StoreInner C => applyErrorObserved inner envelope error := by
  cases h : error.taskId with
  | none =>
    simp only [ControlPlane.applyErrorObserved, h]
    exact modifyAgent _ _
  | some taskId =>
    simp only [ControlPlane.applyErrorObserved, h]
    exact (modifyAgent _ _).comp (annotate _ _ _ _ _)

theorem applyEvent (envelope : EventEnvelope) :
    Oblivious fun inner : StoreInner C => applyEvent inner envelope := by
  have htouched : Oblivious fun inner : StoreInner C =>
      (ControlPlane.ensureAgent inner envelope).modifyAgent envelope.agent.agentId
        (touchAgent envelope) := (modifyAgent _ _).comp (ensureAgent envelope)
  unfold ControlPlane.applyEvent
  dsimp only
  cases envelope.event with
  | agentRegistered registration => exact (modifyAgent _ _).comp htouched
  | heartbeat heartbeat => exact (modifyAgent _ _).comp htouched
  | goalDeclared goal => exact (applyGoalDeclared envelope goal).comp htouched
  | taskCreated spec => exact (applyTaskCreated envelope spec).comp htouched
  | taskStarted started => exact (execute _ _ _ _ _ _).comp htouched
  | progressUpdated progress => exact (execute _ _ _ _ _ _).comp htouched
  | reflectionRecorded reflection =>
    exact (applyReflectionRecorded envelope reflection).comp htouched
  | lessonLearned lesson => exact (applyLessonLearned envelope lesson).comp htouched
  | errorObserved error => exact (applyErrorObserved envelope error).comp htouched
  | taskCompleted completed => exact (execute _ _ _ _ _ _).comp htouched
  | agentStatusChanged change => exact (modifyAgent _ _).comp htouched

end Oblivious

section Ingest

variable [LruCache C] [CounterArith]

def Ledger.file (ledger : Ledger C) (id : Uuid) (revision : Nat) : C Uuid Nat × Option Nat :=
  pushWithEviction ledger.seenEventIds id revision

def Ledger.evictions (ledger : Ledger C) (id : Uuid) (revision count : Nat) : Nat :=
  if (ledger.file id revision).2.isSome then U64.saturatingAdd count 1 else count

theorem accept_withLedger (inner : StoreInner C) (ledger : Ledger C) (event : EventEnvelope)
    (transport : Transport) (receivedAt : DateTime) :
    accept (inner.withLedger ledger) event transport receivedAt =
      { accept inner event transport receivedAt with
        seenEventIds := (ledger.file event.eventId
          (accept inner event transport receivedAt).revision).1
        counters := { ledger.counters with
          accepted := U64.saturatingAdd ledger.counters.accepted 1
          acceptedByTransport := increment ledger.counters.acceptedByTransport transport }
        evictions := { (accept inner event transport receivedAt).evictions with
          idempotency := ledger.evictions event.eventId
            (accept inner event transport receivedAt).revision
            (applyEvent inner event).evictions.idempotency } } := by
  have happlied := Oblivious.applyEvent event inner ledger
  simp only at happlied
  rw [accept, happlied]
  rfl

theorem accept_withCounters (inner : StoreInner C) (counters : Counters) (event : EventEnvelope)
    (transport : Transport) (receivedAt : DateTime) :
    accept { inner with counters := counters } event transport receivedAt =
      { accept inner event transport receivedAt with
        counters := { counters with
          accepted := U64.saturatingAdd counters.accepted 1
          acceptedByTransport := increment counters.acceptedByTransport transport } } := by
  have hledger : { inner with counters := counters } =
      inner.withLedger ⟨inner.seenEventIds, counters⟩ := rfl
  have hseen := (KeepsEvents.applyEvent inner event).seen
  rw [hledger, accept_withLedger, Ledger.evictions, Ledger.file, ← hseen]
  rfl

end Ingest

end Ledger

end ControlPlane
