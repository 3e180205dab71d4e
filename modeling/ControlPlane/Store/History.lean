import ControlPlane.Lib.Run
import ControlPlane.Store.Tasks

/-! The accepted events of a run in their order of arrival, and the operations between which
a record stays retained. -/

namespace ControlPlane

open LruCache (peek getMut)

structure SameProjections {C : Type → Type → Type} (before after : StoreInner C) : Prop where
  agents : after.agents = before.agents
  goals : after.goals = before.goals
  tasks : after.tasks = before.tasks
  lessons : after.lessons = before.lessons

section History

variable {C : Type → Type → Type} [LruCache C] [CounterArith]

def StoreInner.acceptedEvent (inner : StoreInner C) : StoreOp → Option EventEnvelope
  | .ingest event transport receivedAt =>
    match (ingest inner event transport receivedAt).2 with
    | .ok ingested => if ingested.ack.duplicate then none else some event
    | .error _ => none
  | .recordRejection _ => none

def TaskKept (key : ScopedId) (inner : StoreInner C) (ops : List StoreOp) : Prop :=
  Run.Along (fun inner op => (peek (inner.step op).tasks key).isSome) StoreInner.step inner ops

theorem run_append (cache : CacheConfig) (startedAt : DateTime) (ops more : List StoreOp) :
    (run cache startedAt (ops ++ more) : StoreInner C) =
      Run.after StoreInner.step (run cache startedAt ops) more := by
  rw [run, List.foldl_append]
  rfl

variable [LawfulLruCache C] {inner : StoreInner C} {op : StoreOp} {event : EventEnvelope}

theorem acceptedEvent_of_fresh (h : Fresh inner event) (transport : Transport)
    (receivedAt : DateTime) :
    inner.acceptedEvent (.ingest event transport receivedAt) = some event := by
  obtain ⟨ingested, hd, he⟩ := ingest_of_fresh h transport receivedAt
  simp only [StoreInner.acceptedEvent, he, hd]
  rfl

theorem acceptedEvent_of_not_fresh (h : ¬Fresh inner event) (transport : Transport)
    (receivedAt : DateTime) :
    inner.acceptedEvent (.ingest event transport receivedAt) = none := by
  have hanswer := (ingest_of_not_fresh h transport receivedAt).answer
  rw [StoreInner.acceptedEvent]
  cases he : (ingest inner event transport receivedAt).2 with
  | error error => rfl
  | ok ingested => exact if_pos (hanswer ingested he).1

theorem acceptedEvent_eq_some_iff : inner.acceptedEvent op = some event ↔
    ∃ transport receivedAt, op = .ingest event transport receivedAt ∧ Fresh inner event := by
  cases op with
  | recordRejection transport => simp [StoreInner.acceptedEvent]
  | ingest other transport receivedAt =>
    by_cases hfresh : Fresh inner other
    · rw [acceptedEvent_of_fresh hfresh, Option.some.injEq]
      constructor
      · rintro rfl
        exact ⟨transport, receivedAt, rfl, hfresh⟩
      · rintro ⟨_, _, hop, -⟩
        cases hop
        rfl
    · rw [acceptedEvent_of_not_fresh hfresh]
      constructor
      · intro h
        cases h
      · rintro ⟨_, _, hop, h⟩
        cases hop
        exact absurd h hfresh

theorem step_eq_of_unaccepted (h : inner.acceptedEvent op = none) :
    ∃ window counters,
      inner.step op = { inner with seenEventIds := window, counters := counters } := by
  cases op with
  | recordRejection transport => exact ⟨_, _, rfl⟩
  | ingest event transport receivedAt =>
    have hfresh : ¬Fresh inner event := by
      intro hfresh
      rw [acceptedEvent_of_fresh hfresh] at h
      cases h
    obtain ⟨window, counters, he, -⟩ := (ingest_of_not_fresh hfresh transport receivedAt).state
    exact ⟨window, counters, he⟩

theorem step_of_unaccepted (h : inner.acceptedEvent op = none) :
    SameProjections inner (inner.step op) := by
  obtain ⟨window, counters, he⟩ := step_eq_of_unaccepted h
  rw [he]
  exact ⟨rfl, rfl, rfl, rfl⟩

theorem step_of_accepted (h : inner.acceptedEvent op = some event) :
    ∃ seen, SameProjections (applyEvent { inner with seenEventIds := seen } event)
      (inner.step op) := by
  obtain ⟨transport, receivedAt, rfl, hfresh⟩ := acceptedEvent_eq_some_iff.1 h
  obtain ⟨ingested, -, he⟩ := ingest_of_fresh hfresh transport receivedAt
  simp only [StoreInner.step, he]
  exact ⟨_, rfl, rfl, rfl, rfl⟩

theorem peek_step_of_accepted (h : inner.acceptedEvent op = some event) {taskId : String}
    (ht : event.event.reducedTask = some taskId) :
    peek (inner.step op).tasks (event.taskKey taskId) =
      some (event.taskAfter taskId (peek inner.tasks (event.taskKey taskId))) := by
  obtain ⟨transport, receivedAt, rfl, hfresh⟩ := acceptedEvent_eq_some_iff.1 h
  exact peek_step_fresh hfresh transport receivedAt ht

theorem peek_of_peek_step {key : ScopedId} {task : TaskState}
    (hother : ∀ event taskId, inner.acceptedEvent op = some event →
      event.event.reducedTask = some taskId → key ≠ event.taskKey taskId)
    (h : peek (inner.step op).tasks key = some task) : peek inner.tasks key = some task := by
  rcases peek_step_cases h with hsame | ⟨event, transport, receivedAt, taskId, rfl, hfresh, ht, hkey, -⟩
  · exact hsame
  · exact absurd hkey (hother event taskId (acceptedEvent_of_fresh hfresh transport receivedAt) ht)

end History

section Retained

variable {C : Type → Type → Type} [LruCache C] [CounterArith] {inner : StoreInner C}
  {envelope : EventEnvelope}

variable [LawfulLruCache C] {key : ScopedId} {task : TaskState}
  {write : TaskState → C ScopedId TaskState}

theorem writeTask_ensureTask_tasks {taskId agentId : String} (occurredAt : DateTime)
    (update : TaskState → TaskState) (hw : getMut inner.tasks ⟨agentId, taskId⟩ = some (task, write)) :
    (writeTask (ensureTask inner taskId agentId occurredAt) ⟨agentId, taskId⟩ occurredAt
      update).1.tasks = write (if task.updatedAt ≤ occurredAt then update task else task) := by
  have hensured : ensureTask inner taskId agentId occurredAt = inner := by
    simp [ensureTask, LruCache.peek_of_getMut hw]
  simp only [hensured, writeTask, hw]
  split <;> rfl

theorem tasks_applyEvent_of_retained {taskId : String}
    (h : envelope.event.reducedTask = some taskId)
    (hw : getMut inner.tasks (envelope.taskKey taskId) = some (task, write)) :
    (applyEvent inner envelope).tasks = write (envelope.taskAfter taskId (some task)) := by
  have htouched : ((ensureAgent inner envelope).modifyAgent envelope.agent.agentId
      (touchAgent envelope)).tasks = inner.tasks := by
    rw [modifyAgent_tasks, ensureAgent_tasks]
  rw [← htouched] at hw
  rcases AgentEvent.definition_or_execution h with ⟨spec, he, rfl⟩ | hspec
  · rw [tasks_applyEvent_created inner he, EventEnvelope.taskAfter, he]
    rw [EventEnvelope.taskKey] at hw
    simp only [applyTaskCreated, hw]
  · rw [tasks_applyEvent_executed inner h hspec, EventEnvelope.taskAfter_executed hspec]
    exact writeTask_ensureTask_tasks envelope.occurredAt _ hw

end Retained

end ControlPlane
