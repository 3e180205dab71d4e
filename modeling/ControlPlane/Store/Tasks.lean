import ControlPlane.Store.Idempotency

/-! What one event does to the task cache: the task it names is rewritten by a pure
function, and every other task is left alone or evicted. -/

namespace ControlPlane

open LruCache (peek iter getMut push modify)

namespace AgentEvent

def reducedTask : AgentEvent → Option String
  | taskCreated task => some task.taskId
  | taskStarted started => some started.taskId
  | progressUpdated progress => some progress.taskId
  | reflectionRecorded reflection => reflection.taskId
  | errorObserved error => error.taskId
  | taskCompleted completed => some completed.taskId
  | agentRegistered _ | heartbeat _ | goalDeclared _ | lessonLearned _ | agentStatusChanged _ =>
    none

def execute (event : AgentEvent) (occurredAt : DateTime) (task : TaskState) : TaskState :=
  match event with
  | taskStarted started => task.start started occurredAt
  | progressUpdated progress => task.advance progress occurredAt
  | reflectionRecorded reflection => task.reflect reflection occurredAt
  | errorObserved error => task.fault error occurredAt
  | taskCompleted completed => task.complete completed occurredAt
  | _ => task

@[simp] theorem agentId_execute (event : AgentEvent) (occurredAt : DateTime) (task : TaskState) :
    (event.execute occurredAt task).agentId = task.agentId := by
  cases event <;> rfl

@[simp] theorem task_execute (event : AgentEvent) (occurredAt : DateTime) (task : TaskState) :
    (event.execute occurredAt task).task = task.task := by
  cases event <;> rfl

theorem definition_or_execution {event : AgentEvent} {taskId : String}
    (h : event.reducedTask = some taskId) :
    (∃ spec, event = taskCreated spec ∧ spec.taskId = taskId) ∨
      ∀ spec, event ≠ taskCreated spec := by
  by_cases hspec : ∃ spec, event = taskCreated spec
  · obtain ⟨spec, rfl⟩ := hspec
    exact .inl ⟨spec, rfl, Option.some.inj h⟩
  · exact .inr (not_exists.mp hspec)

end AgentEvent

def inferredTask (taskId agentId : String) (occurredAt : DateTime) : TaskState :=
  .fromSpec (inferredSpec taskId) agentId occurredAt true

namespace EventEnvelope

def taskKey (envelope : EventEnvelope) (taskId : String) : ScopedId :=
  ⟨envelope.agent.agentId, taskId⟩

/-- The task an event leaves behind, from the one that was retained before it. -/
def taskAfter (envelope : EventEnvelope) (taskId : String) (before : Option TaskState) :
    TaskState :=
  match envelope.event with
  | .taskCreated spec =>
    match before with
    | some task => task.define spec envelope.agent.agentId envelope.occurredAt
    | none => .fromSpec spec envelope.agent.agentId envelope.occurredAt false
  | event =>
    let task := before.getD (inferredTask taskId envelope.agent.agentId envelope.occurredAt)
    if task.updatedAt ≤ envelope.occurredAt then event.execute envelope.occurredAt task else task

theorem taskAfter_executed {envelope : EventEnvelope}
    (hspec : ∀ spec, envelope.event ≠ .taskCreated spec) (taskId : String)
    (before : Option TaskState) :
    envelope.taskAfter taskId before =
      let task := before.getD (inferredTask taskId envelope.agent.agentId envelope.occurredAt)
      if task.updatedAt ≤ envelope.occurredAt then
        envelope.event.execute envelope.occurredAt task
      else task := by
  unfold taskAfter
  split
  · next spec he => exact absurd he (hspec spec)
  · rfl

/-- A task has afterwards what it had before, a new task has, and the event's own rewrite of a
task keeps. -/
theorem taskAfter_induction {P : TaskState → Prop} {envelope : EventEnvelope} {taskId : String}
    {before : Option TaskState} (retained : ∀ task, before = some task → P task)
    (inferred : P (inferredTask taskId envelope.agent.agentId envelope.occurredAt))
    (created : ∀ spec, envelope.event = .taskCreated spec →
      P (.fromSpec spec envelope.agent.agentId envelope.occurredAt false))
    (define : ∀ spec task, envelope.event = .taskCreated spec → P task →
      P (task.define spec envelope.agent.agentId envelope.occurredAt))
    (execute : ∀ task,
      task = before.getD (inferredTask taskId envelope.agent.agentId envelope.occurredAt) → P task →
      task.updatedAt ≤ envelope.occurredAt → P (envelope.event.execute envelope.occurredAt task)) :
    P (envelope.taskAfter taskId before) := by
  by_cases hspec : ∃ spec, envelope.event = .taskCreated spec
  · obtain ⟨spec, he⟩ := hspec
    rw [taskAfter, he]
    cases before with
    | some task => exact define spec task he (retained task rfl)
    | none => exact created spec he
  · rw [taskAfter_executed (not_exists.mp hspec)]
    have hstart : P (before.getD
        (inferredTask taskId envelope.agent.agentId envelope.occurredAt)) := by
      cases before with
      | some task => exact retained task rfl
      | none => exact inferred
    dsimp only
    split
    · next hle => exact execute _ rfl hstart hle
    · exact hstart

end EventEnvelope

section Tasks

variable {C : Type → Type → Type} [LruCache C]

@[simp] theorem modifyAgent_tasks (inner : StoreInner C) (agentId : String)
    (f : AgentState → AgentState) : (inner.modifyAgent agentId f).tasks = inner.tasks := rfl

@[simp] theorem ensureAgent_tasks (inner : StoreInner C) (envelope : EventEnvelope) :
    (ensureAgent inner envelope).tasks = inner.tasks := by
  unfold ensureAgent
  dsimp only
  split <;> rfl

@[simp] theorem insertTask_tasks [CounterArith] (inner : StoreInner C) (key : ScopedId)
    (state : TaskState) : (insertTask inner key state).tasks = (push inner.tasks key state).1 := by
  unfold insertTask
  dsimp only
  split <;> rfl

@[simp] theorem applyTaskStarted_tasks [CounterArith] (inner : StoreInner C)
    (envelope : EventEnvelope) (started : TaskStarted) :
    (applyTaskStarted inner envelope started).tasks =
      (writeTask (ensureTask inner started.taskId envelope.agent.agentId envelope.occurredAt)
        (envelope.taskKey started.taskId) envelope.occurredAt
        fun task => task.start started envelope.occurredAt).1.tasks := by
  unfold applyTaskStarted
  dsimp only
  split <;> rfl

@[simp] theorem applyProgressUpdated_tasks [CounterArith] (inner : StoreInner C)
    (envelope : EventEnvelope) (progress : ProgressUpdate) :
    (applyProgressUpdated inner envelope progress).tasks =
      (writeTask (ensureTask inner progress.taskId envelope.agent.agentId envelope.occurredAt)
        (envelope.taskKey progress.taskId) envelope.occurredAt
        fun task => task.advance progress envelope.occurredAt).1.tasks := by
  unfold applyProgressUpdated
  dsimp only
  split <;> rfl

@[simp] theorem applyTaskCompleted_tasks [CounterArith] (inner : StoreInner C)
    (envelope : EventEnvelope) (completed : TaskCompleted) :
    (applyTaskCompleted inner envelope completed).tasks =
      (writeTask (ensureTask inner completed.taskId envelope.agent.agentId envelope.occurredAt)
        (envelope.taskKey completed.taskId) envelope.occurredAt
        fun task => task.complete completed envelope.occurredAt).1.tasks := by
  unfold applyTaskCompleted
  dsimp only
  split <;> rfl

variable [LawfulLruCache C]

section Ensure

variable [CounterArith]

theorem peek_ensureTask_self (inner : StoreInner C) (taskId agentId : String)
    (occurredAt : DateTime) :
    peek (ensureTask inner taskId agentId occurredAt).tasks ⟨agentId, taskId⟩ =
      some ((peek inner.tasks ⟨agentId, taskId⟩).getD (inferredTask taskId agentId occurredAt)) := by
  unfold ensureTask
  dsimp only
  cases h : peek inner.tasks ⟨agentId, taskId⟩ with
  | some task => simp [h]
  | none => simp [inferredTask]

theorem peek_of_peek_ensureTask {inner : StoreInner C} {taskId agentId : String}
    {occurredAt : DateTime} {key : ScopedId} {task : TaskState} (hk : key ≠ ⟨agentId, taskId⟩)
    (h : peek (ensureTask inner taskId agentId occurredAt).tasks key = some task) :
    peek inner.tasks key = some task := by
  unfold ensureTask at h
  dsimp only at h
  split at h
  · exact h
  · rw [insertTask_tasks] at h
    exact LruCache.peek_of_peek_push hk h

end Ensure

theorem writeTask_cases (inner : StoreInner C) (key : ScopedId) (occurredAt : DateTime)
    (update : TaskState → TaskState) {task : TaskState} (h : peek inner.tasks key = some task) :
    ∃ write, getMut inner.tasks key = some (task, write) ∧
      writeTask inner key occurredAt update =
        if task.updatedAt ≤ occurredAt then
          ({ inner with tasks := write (update task) }, some task)
        else ({ inner with tasks := write task }, none) := by
  obtain ⟨write, hw⟩ := LruCache.getMut_of_peek_some h
  exact ⟨write, hw, by simp [writeTask, hw]⟩

theorem peek_writeTask (inner : StoreInner C) (key : ScopedId) (occurredAt : DateTime)
    (update : TaskState → TaskState) {task : TaskState} (h : peek inner.tasks key = some task)
    (x : ScopedId) :
    peek (writeTask inner key occurredAt update).1.tasks x =
      if x = key then some (if task.updatedAt ≤ occurredAt then update task else task)
      else peek inner.tasks x := by
  obtain ⟨write, hw, heq⟩ := writeTask_cases inner key occurredAt update h
  rw [heq]
  split <;> exact LruCache.peek_write hw _ x

variable [CounterArith]

theorem peek_executed (inner : StoreInner C) (taskId agentId : String) (occurredAt : DateTime)
    (update : TaskState → TaskState) :
    peek (writeTask (ensureTask inner taskId agentId occurredAt) ⟨agentId, taskId⟩ occurredAt
      update).1.tasks ⟨agentId, taskId⟩ =
      let task := (peek inner.tasks ⟨agentId, taskId⟩).getD (inferredTask taskId agentId occurredAt)
      some (if task.updatedAt ≤ occurredAt then update task else task) := by
  rw [peek_writeTask _ _ _ _ (peek_ensureTask_self inner taskId agentId occurredAt), if_pos rfl]

theorem peek_of_peek_executed {inner : StoreInner C} {taskId agentId : String}
    {occurredAt : DateTime} {update : TaskState → TaskState} {key : ScopedId} {task : TaskState}
    (hk : key ≠ ⟨agentId, taskId⟩)
    (h : peek (writeTask (ensureTask inner taskId agentId occurredAt) ⟨agentId, taskId⟩ occurredAt
      update).1.tasks key = some task) :
    peek inner.tasks key = some task := by
  rw [peek_writeTask _ _ _ _ (peek_ensureTask_self inner taskId agentId occurredAt),
    if_neg hk] at h
  exact peek_of_peek_ensureTask hk h

theorem peek_applyTaskCreated (inner : StoreInner C) (envelope : EventEnvelope) (spec : TaskSpec) :
    peek (applyTaskCreated inner envelope spec).tasks (envelope.taskKey spec.taskId) =
      some (match peek inner.tasks (envelope.taskKey spec.taskId) with
        | some task => task.define spec envelope.agent.agentId envelope.occurredAt
        | none => .fromSpec spec envelope.agent.agentId envelope.occurredAt false) := by
  unfold applyTaskCreated EventEnvelope.taskKey
  dsimp only
  cases h : peek inner.tasks ⟨envelope.agent.agentId, spec.taskId⟩ with
  | some task =>
    obtain ⟨write, hw⟩ := LruCache.getMut_of_peek_some h
    rw [hw]
    exact (LruCache.peek_write hw _ _).trans (if_pos rfl)
  | none =>
    rw [LruCache.getMut_of_peek_none h]
    simp

theorem peek_of_peek_applyTaskCreated {inner : StoreInner C} {envelope : EventEnvelope}
    {spec : TaskSpec} {key : ScopedId} {task : TaskState}
    (hk : key ≠ envelope.taskKey spec.taskId)
    (h : peek (applyTaskCreated inner envelope spec).tasks key = some task) :
    peek inner.tasks key = some task := by
  unfold applyTaskCreated at h
  dsimp only at h
  split at h
  · next existing write hw =>
    rw [LruCache.peek_write hw] at h
    exact (if_neg hk).symm.trans h
  · rw [insertTask_tasks] at h
    exact LruCache.peek_of_peek_push hk h

omit [LawfulLruCache C] in
theorem tasks_applyEvent_created (inner : StoreInner C) {envelope : EventEnvelope}
    {spec : TaskSpec} (he : envelope.event = .taskCreated spec) :
    (applyEvent inner envelope).tasks =
      (applyTaskCreated ((ensureAgent inner envelope).modifyAgent envelope.agent.agentId
        (touchAgent envelope)) envelope spec).tasks := by
  simp only [applyEvent, he]

omit [LawfulLruCache C] in
theorem tasks_applyEvent_executed (inner : StoreInner C) {envelope : EventEnvelope}
    {taskId : String} (h : envelope.event.reducedTask = some taskId)
    (hspec : ∀ spec, envelope.event ≠ .taskCreated spec) :
    (applyEvent inner envelope).tasks =
      (writeTask (ensureTask ((ensureAgent inner envelope).modifyAgent envelope.agent.agentId
          (touchAgent envelope)) taskId envelope.agent.agentId envelope.occurredAt)
        ⟨envelope.agent.agentId, taskId⟩ envelope.occurredAt
        (envelope.event.execute envelope.occurredAt)).1.tasks := by
  unfold applyEvent
  dsimp only
  cases he : envelope.event with
  | taskCreated spec => exact absurd he (hspec spec)
  | taskStarted started =>
    obtain rfl : started.taskId = taskId := by simpa [he, AgentEvent.reducedTask] using h
    exact applyTaskStarted_tasks _ _ _
  | progressUpdated progress =>
    obtain rfl : progress.taskId = taskId := by simpa [he, AgentEvent.reducedTask] using h
    exact applyProgressUpdated_tasks _ _ _
  | reflectionRecorded reflection =>
    have ht : reflection.taskId = some taskId := by simpa [he, AgentEvent.reducedTask] using h
    simp only [applyReflectionRecorded, ht, modifyAgent_tasks]
    rfl
  | errorObserved error =>
    have ht : error.taskId = some taskId := by simpa [he, AgentEvent.reducedTask] using h
    simp only [applyErrorObserved, ht, modifyAgent_tasks]
    rfl
  | taskCompleted completed =>
    obtain rfl : completed.taskId = taskId := by simpa [he, AgentEvent.reducedTask] using h
    exact applyTaskCompleted_tasks _ _ _
  | _ => simp [he, AgentEvent.reducedTask] at h

omit [LawfulLruCache C] in
theorem tasks_applyEvent_of_none {inner : StoreInner C} {envelope : EventEnvelope}
    (h : envelope.event.reducedTask = none) :
    (applyEvent inner envelope).tasks = inner.tasks := by
  unfold applyEvent
  dsimp only
  cases he : envelope.event with
  | reflectionRecorded reflection =>
    have ht : reflection.taskId = none := by rwa [he] at h
    simp only [applyReflectionRecorded, ht, modifyAgent_tasks, ensureAgent_tasks]
  | errorObserved error =>
    have ht : error.taskId = none := by rwa [he] at h
    simp only [applyErrorObserved, ht, modifyAgent_tasks, ensureAgent_tasks]
  | agentRegistered registration =>
    simp only [applyAgentRegistered, modifyAgent_tasks, ensureAgent_tasks]
  | heartbeat heartbeat => simp only [applyHeartbeat, modifyAgent_tasks, ensureAgent_tasks]
  | goalDeclared goal => simp only [applyGoalDeclared, modifyAgent_tasks, ensureAgent_tasks]
  | lessonLearned lesson => simp only [applyLessonLearned, modifyAgent_tasks, ensureAgent_tasks]
  | agentStatusChanged change =>
    simp only [applyAgentStatusChanged, modifyAgent_tasks, ensureAgent_tasks]
  | _ =>
    rw [he] at h
    cases h

theorem peek_applyEvent_self (inner : StoreInner C) (envelope : EventEnvelope) {taskId : String}
    (h : envelope.event.reducedTask = some taskId) :
    peek (applyEvent inner envelope).tasks (envelope.taskKey taskId) =
      some (envelope.taskAfter taskId (peek inner.tasks (envelope.taskKey taskId))) := by
  rcases AgentEvent.definition_or_execution h with ⟨spec, he, rfl⟩ | hspec
  · rw [tasks_applyEvent_created inner he, peek_applyTaskCreated, modifyAgent_tasks,
      ensureAgent_tasks, EventEnvelope.taskAfter, he]
  · rw [tasks_applyEvent_executed inner h hspec, EventEnvelope.taskKey, peek_executed,
      modifyAgent_tasks, ensureAgent_tasks, EventEnvelope.taskAfter_executed hspec]

theorem peek_of_peek_applyEvent {inner : StoreInner C} {envelope : EventEnvelope} {key : ScopedId}
    {task : TaskState}
    (hk : ∀ taskId, envelope.event.reducedTask = some taskId → key ≠ envelope.taskKey taskId)
    (h : peek (applyEvent inner envelope).tasks key = some task) :
    peek inner.tasks key = some task := by
  cases ht : envelope.event.reducedTask with
  | none => rwa [tasks_applyEvent_of_none ht] at h
  | some taskId =>
    rcases AgentEvent.definition_or_execution ht with ⟨spec, he, rfl⟩ | hspec
    · rw [tasks_applyEvent_created inner he] at h
      have hbefore := peek_of_peek_applyTaskCreated (hk _ ht) h
      rwa [modifyAgent_tasks, ensureAgent_tasks] at hbefore
    · rw [tasks_applyEvent_executed inner ht hspec] at h
      have hbefore := peek_of_peek_executed (hk _ ht) h
      rwa [modifyAgent_tasks, ensureAgent_tasks] at hbefore

theorem peek_step_fresh {inner : StoreInner C} {event : EventEnvelope} (h : Fresh inner event)
    (transport : Transport) (receivedAt : DateTime) {taskId : String}
    (ht : event.event.reducedTask = some taskId) :
    peek (inner.step (.ingest event transport receivedAt)).tasks (event.taskKey taskId) =
      some (event.taskAfter taskId (peek inner.tasks (event.taskKey taskId))) := by
  obtain ⟨ingested, -, he⟩ := ingest_of_fresh h transport receivedAt
  simp only [StoreInner.step, he]
  exact peek_applyEvent_self { inner with seenEventIds := _ } event ht

theorem step_of_not_fresh {inner : StoreInner C} {event : EventEnvelope} (h : ¬Fresh inner event)
    (transport : Transport) (receivedAt : DateTime) :
    (inner.step (.ingest event transport receivedAt)).tasks = inner.tasks ∧
      (inner.step (.ingest event transport receivedAt)).agents = inner.agents ∧
      ∀ id, peek (inner.step (.ingest event transport receivedAt)).seenEventIds id =
        peek inner.seenEventIds id := by
  obtain ⟨window, counters, he, hwindow⟩ := (ingest_of_not_fresh h transport receivedAt).state
  rw [StoreInner.step, he]
  exact ⟨rfl, rfl, hwindow⟩

theorem peek_step_cases {inner : StoreInner C} {op : StoreOp} {key : ScopedId} {task : TaskState}
    (h : peek (inner.step op).tasks key = some task) :
    peek inner.tasks key = some task ∨
      ∃ event transport receivedAt taskId, op = .ingest event transport receivedAt ∧
        Fresh inner event ∧ event.event.reducedTask = some taskId ∧ key = event.taskKey taskId ∧
        task = event.taskAfter taskId (peek inner.tasks key) := by
  cases op with
  | recordRejection transport => exact .inl h
  | ingest event transport receivedAt =>
    by_cases hfresh : Fresh inner event
    · by_cases hk : ∃ taskId, event.event.reducedTask = some taskId ∧ key = event.taskKey taskId
      · obtain ⟨taskId, ht, rfl⟩ := hk
        rw [peek_step_fresh hfresh transport receivedAt ht] at h
        exact .inr ⟨event, transport, receivedAt, taskId, rfl, hfresh, ht, rfl,
          (Option.some.inj h).symm⟩
      · obtain ⟨ingested, -, he⟩ := ingest_of_fresh hfresh transport receivedAt
        simp only [StoreInner.step, he] at h
        have happlied : peek (applyEvent { inner with
            seenEventIds := (LruCache.get inner.seenEventIds event.eventId).2 } event).tasks key =
              some task := h
        have hbefore := peek_of_peek_applyEvent (fun taskId ht hkey => hk ⟨taskId, ht, hkey⟩) happlied
        exact .inl hbefore
    · rw [(step_of_not_fresh hfresh transport receivedAt).1] at h
      exact .inl h

theorem tasks_run_induction {P : ScopedId → TaskState → Prop}
    (step : ∀ (envelope : EventEnvelope) (taskId : String) (before : Option TaskState),
      envelope.event.reducedTask = some taskId →
      (∀ task, before = some task → P (envelope.taskKey taskId) task) →
      P (envelope.taskKey taskId) (envelope.taskAfter taskId before))
    (cache : CacheConfig) (startedAt : DateTime) (ops : List StoreOp) {key : ScopedId}
    {task : TaskState}
    (h : peek (run cache startedAt ops : StoreInner C).tasks key = some task) : P key task := by
  induction ops using List.reverseRecOn generalizing key task with
  | nil => simp [StoreInner.new, newCache] at h
  | append_singleton ops op ih =>
    rw [run_concat] at h
    rcases peek_step_cases h with hbefore | ⟨event, _, _, taskId, -, -, ht, rfl, rfl⟩
    · exact ih hbefore
    · exact step event taskId _ ht fun task hb => ih hb

theorem task_filed (cache : CacheConfig) (startedAt : DateTime) (ops : List StoreOp)
    {key : ScopedId} {task : TaskState}
    (h : peek (run cache startedAt ops : StoreInner C).tasks key = some task) :
    task.agentId = key.agentId ∧ task.task.taskId = key.entityId := by
  refine tasks_run_induction (P := fun key task =>
    task.agentId = key.agentId ∧ task.task.taskId = key.entityId) ?_ cache startedAt ops h
  intro envelope taskId before ht hbefore
  have hspec : ∀ spec, envelope.event = .taskCreated spec → spec.taskId = taskId := by
    intro spec he
    rw [he] at ht
    exact Option.some.inj ht
  refine EventEnvelope.taskAfter_induction hbefore ⟨rfl, rfl⟩ ?_ ?_ ?_
  · intro spec he
    exact ⟨rfl, hspec spec he⟩
  · intro spec task he hfiled
    dsimp only [TaskState.define]
    split
    · exact ⟨rfl, hspec spec he⟩
    · exact hfiled
  · intro task _ hfiled _
    rwa [AgentEvent.agentId_execute, AgentEvent.task_execute]

end Tasks

end ControlPlane
