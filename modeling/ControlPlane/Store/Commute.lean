import ControlPlane.Store.Counters

/-! A task's definition and its execution in both orders.  They share the `updated_at` clock,
so a definition with the later time hides an execution that has not arrived yet. -/

namespace ControlPlane

open LruCache (peek iter)
open Recency (keys)

/-- The events that report on the execution of a task. -/
def AgentEvent.Executes (event : AgentEvent) (taskId : String) : Prop :=
  event.reducedTask = some taskId ∧ ∀ spec, event ≠ .taskCreated spec

def AgentEvent.Recorded (event : AgentEvent) (occurredAt : DateTime) (task : TaskState) : Prop :=
  match event with
  | .taskStarted started =>
    task.status = .running ∧ task.attempt = started.attempt ∧
      task.planSummary = started.planSummary ∧ task.startedAt = some occurredAt ∧
      task.blocker = none ∧ task.outcome = none ∧ task.completionSummary = none ∧
      task.artifacts = [] ∧ task.completedAt = none
  | .progressUpdated progress =>
    task.status = (if progress.blocker.isSome then .blocked else .running) ∧
      task.progress = progress.progress ∧ task.progressSummary = some progress.summary ∧
      task.blocker = progress.blocker ∧ task.nextAction = progress.nextAction ∧
      task.outcome = none ∧ task.completionSummary = none ∧ task.artifacts = [] ∧
      task.completedAt = none
  | .reflectionRecorded reflection =>
    task.latestReflection = some reflection ∧ task.nextAction = reflection.nextAction
  | .errorObserved error =>
    task.status = .blocked ∧ task.blocker = some error.message ∧
      task.nextAction = error.proposedRecovery
  | .taskCompleted completed =>
    task.status = TaskState.statusOf completed.outcome ∧ task.outcome = some completed.outcome ∧
      (completed.outcome = .succeeded → task.progress = F32.one) ∧
      task.completionSummary = some completed.summary ∧ task.artifacts = completed.artifacts ∧
      task.blocker = none ∧ task.completedAt = some occurredAt
  | _ => True

/-- The definition is the later one, and the execution has something to say that is neither
outdated nor recorded. -/
def Overtaken (definition execution : EventEnvelope) (before : Option TaskState) : Prop :=
  execution.occurredAt < definition.occurredAt ∧
    ∀ task, before = some task → task.updatedAt ≤ execution.occurredAt ∧
      ¬execution.event.Recorded execution.occurredAt task

section Task

variable {event : AgentEvent} {taskId : String} {task : TaskState}

structure ExecutionOnly (before after : TaskState) (occurredAt : DateTime) : Prop where
  task : after.task = before.task
  agentId : after.agentId = before.agentId
  inferred : after.inferredFromOutOfOrderEvent = before.inferredFromOutOfOrderEvent
  definitionUpdatedAt : after.definitionUpdatedAt = before.definitionUpdatedAt
  createdAt : after.createdAt = before.createdAt
  updatedAt : after.updatedAt = occurredAt

theorem executionOnly (h : event.Executes taskId) (occurredAt : DateTime) (task : TaskState) :
    ExecutionOnly task (event.execute occurredAt task) occurredAt := by
  obtain ⟨hreduced, hspec⟩ := h
  cases event with
  | taskCreated spec => exact absurd rfl (hspec spec)
  | taskStarted | progressUpdated | reflectionRecorded | errorObserved | taskCompleted =>
    exact ⟨rfl, rfl, rfl, rfl, rfl, rfl⟩
  | _ => cases hreduced

theorem clock_eta {occurredAt : DateTime} (h : task.updatedAt = occurredAt) :
    { task with updatedAt := occurredAt } = task := by
  cases h
  rfl

theorem define_of_current {definedAt : DateTime}
    (h : task.inferredFromOutOfOrderEvent = true ∨ task.definitionUpdatedAt ≤ definedAt)
    (spec : TaskSpec) (agentId : String) :
    task.define spec agentId definedAt =
      { task with
        task := spec
        agentId := agentId
        inferredFromOutOfOrderEvent := false
        definitionUpdatedAt := definedAt
        createdAt := min task.createdAt definedAt
        updatedAt := max task.updatedAt definedAt } := by
  rw [TaskState.define, if_pos (by simpa using h)]

theorem define_of_outdated {definedAt : DateTime}
    (h : ¬(task.inferredFromOutOfOrderEvent = true ∨ task.definitionUpdatedAt ≤ definedAt))
    (spec : TaskSpec) (agentId : String) : task.define spec agentId definedAt = task := by
  rw [TaskState.define, if_neg (by simpa using h)]

theorem execute_define (h : event.Executes taskId) (spec : TaskSpec) (agentId : String)
    (definedAt executedAt : DateTime) (task : TaskState) :
    event.execute executedAt (task.define spec agentId definedAt) =
      { (event.execute executedAt task).define spec agentId definedAt with
        updatedAt := executedAt } := by
  have only := executionOnly h executedAt task
  by_cases hguard : task.inferredFromOutOfOrderEvent = true ∨ task.definitionUpdatedAt ≤ definedAt
  · have hexecuted : (event.execute executedAt task).inferredFromOutOfOrderEvent = true ∨
        (event.execute executedAt task).definitionUpdatedAt ≤ definedAt := by
      rwa [only.inferred, only.definitionUpdatedAt]
    rw [define_of_current hguard, define_of_current hexecuted]
    obtain ⟨hreduced, hspec⟩ := h
    cases event with
    | taskCreated spec => exact absurd rfl (hspec spec)
    | taskStarted | progressUpdated | reflectionRecorded | errorObserved | taskCompleted => rfl
    | _ => cases hreduced
  · have hexecuted : ¬((event.execute executedAt task).inferredFromOutOfOrderEvent = true ∨
        (event.execute executedAt task).definitionUpdatedAt ≤ definedAt) := by
      rwa [only.inferred, only.definitionUpdatedAt]
    rw [define_of_outdated hguard, define_of_outdated hexecuted]
    exact (clock_eta only.updatedAt).symm

theorem define_updatedAt_le_max (spec : TaskSpec) (agentId : String) (definedAt : DateTime)
    (task : TaskState) :
    (task.define spec agentId definedAt).updatedAt ≤ max task.updatedAt definedAt := by
  unfold TaskState.define
  split
  · exact le_rfl
  · exact le_max_left _ _

theorem define_updatedAt_le (spec : TaskSpec) (agentId : String) (definedAt : DateTime)
    (task : TaskState) : task.updatedAt ≤ (task.define spec agentId definedAt).updatedAt := by
  unfold TaskState.define
  split
  · exact le_max_left _ _
  · exact le_rfl

theorem define_updatedAt (hclock : task.definitionUpdatedAt ≤ task.updatedAt)
    {definedAt : DateTime} (h : task.updatedAt ≤ definedAt) (spec : TaskSpec) (agentId : String) :
    (task.define spec agentId definedAt).updatedAt = definedAt := by
  rw [define_of_current (.inr (hclock.trans h))]
  exact max_eq_right h

theorem define_updatedAt_of_le {definedAt : DateTime} (h : definedAt ≤ task.updatedAt)
    (spec : TaskSpec) (agentId : String) :
    (task.define spec agentId definedAt).updatedAt = task.updatedAt :=
  le_antisymm ((define_updatedAt_le_max ..).trans (max_le le_rfl h)) (define_updatedAt_le ..)

theorem define_execute_iff (h : event.Executes taskId)
    (hclock : task.definitionUpdatedAt ≤ task.updatedAt) {definedAt executedAt : DateTime}
    (hcurrent : task.updatedAt ≤ executedAt) (hlater : executedAt ≤ definedAt) (spec : TaskSpec)
    (agentId : String) :
    task.define spec agentId definedAt =
        (event.execute executedAt task).define spec agentId definedAt ↔
      event.Recorded executedAt task := by
  have only := executionOnly h executedAt task
  have hupdated := hcurrent.trans hlater
  rw [define_of_current (.inr (hclock.trans hupdated)),
    define_of_current (.inr (by
      rw [only.definitionUpdatedAt]
      exact hclock.trans hupdated)),
    only.createdAt, only.updatedAt, max_eq_right hlater, max_eq_right hupdated]
  obtain ⟨hreduced, hspec⟩ := h
  cases event with
  | taskCreated spec => exact absurd rfl (hspec spec)
  | taskStarted started =>
    simp only [AgentEvent.execute, TaskState.start, AgentEvent.Recorded, TaskState.mk.injEq]
    tauto
  | progressUpdated progress =>
    simp only [AgentEvent.execute, TaskState.advance, AgentEvent.Recorded, TaskState.mk.injEq]
    tauto
  | reflectionRecorded reflection =>
    simp only [AgentEvent.execute, TaskState.reflect, AgentEvent.Recorded, TaskState.mk.injEq]
    tauto
  | errorObserved error =>
    simp only [AgentEvent.execute, TaskState.fault, AgentEvent.Recorded, TaskState.mk.injEq]
    tauto
  | taskCompleted completed =>
    simp only [AgentEvent.execute, TaskState.complete, AgentEvent.Recorded, TaskState.mk.injEq]
    split <;> tauto
  | _ => cases hreduced

end Task

section Pair

variable {definition execution : EventEnvelope} {spec : TaskSpec} {taskId : String}

theorem taskAfter_definition (hd : definition.event = .taskCreated spec) (before : Option TaskState) :
    definition.taskAfter taskId before = match before with
      | some task => task.define spec definition.agent.agentId definition.occurredAt
      | none => .fromSpec spec definition.agent.agentId definition.occurredAt false := by
  cases before with
  | none => simp only [EventEnvelope.taskAfter, hd]
  | some task => simp only [EventEnvelope.taskAfter, hd]

theorem taskAfter_clock (envelope : EventEnvelope) (taskId : String) {before : Option TaskState}
    (h : ∀ task, before = some task → task.definitionUpdatedAt ≤ task.updatedAt) :
    (envelope.taskAfter taskId before).definitionUpdatedAt ≤
      (envelope.taskAfter taskId before).updatedAt := by
  refine EventEnvelope.taskAfter_induction (P := fun task =>
    task.definitionUpdatedAt ≤ task.updatedAt) h le_rfl ?_ ?_ ?_
  · intro spec _
    exact le_rfl
  · intro spec task _ hbefore
    dsimp only [TaskState.define]
    split
    · exact le_max_right _ _
    · exact hbefore
  · intro task _ hbefore hcurrent
    cases envelope.event with
    | taskStarted | progressUpdated | reflectionRecorded | errorObserved | taskCompleted =>
      exact hbefore.trans hcurrent
    | _ => exact hbefore

theorem taskAfter_comm_none (hd : definition.event = .taskCreated spec)
    (he : execution.event.Executes taskId)
    (hagent : execution.agent.agentId = definition.agent.agentId)
    (htime : definition.occurredAt ≠ execution.occurredAt) :
    execution.taskAfter taskId (some (definition.taskAfter taskId none)) =
        definition.taskAfter taskId (some (execution.taskAfter taskId none)) ↔
      definition.occurredAt < execution.occurredAt := by
  rw [EventEnvelope.taskAfter_executed he.2, taskAfter_definition hd, taskAfter_definition hd,
    EventEnvelope.taskAfter_executed he.2]
  dsimp only [Option.getD]
  rw [hagent, if_pos (show (inferredTask taskId definition.agent.agentId
    execution.occurredAt).updatedAt ≤ execution.occurredAt from le_rfl)]
  have only := executionOnly he execution.occurredAt
    (inferredTask taskId definition.agent.agentId execution.occurredAt)
  rw [define_of_current (.inl only.inferred), only.createdAt, only.updatedAt]
  rcases lt_or_gt_of_ne htime with hlt | hgt
  · -- Both orders end in the task that was defined first and executed then.
    rw [if_pos (show (TaskState.fromSpec spec definition.agent.agentId definition.occurredAt
      false).updatedAt ≤ execution.occurredAt from hlt.le)]
    refine ⟨fun _ => hlt, fun _ => ?_⟩
    have hcreated : min (inferredTask taskId definition.agent.agentId
        execution.occurredAt).createdAt definition.occurredAt = definition.occurredAt :=
      min_eq_right hlt.le
    rw [hcreated, max_eq_left hlt.le]
    obtain ⟨hreduced, hspec⟩ := he
    cases hevent : execution.event with
    | taskCreated spec => exact absurd hevent (hspec spec)
    | taskStarted | progressUpdated | reflectionRecorded | errorObserved | taskCompleted => rfl
    | _ =>
      rw [hevent] at hreduced
      cases hreduced
  · -- The creation times differ already.
    rw [if_neg (show ¬(TaskState.fromSpec spec definition.agent.agentId definition.occurredAt
      false).updatedAt ≤ execution.occurredAt from not_le.2 hgt)]
    refine ⟨fun h => ?_, fun hlt => absurd hlt (not_lt.2 hgt.le)⟩
    have hcreated : definition.occurredAt = min execution.occurredAt definition.occurredAt :=
      congrArg TaskState.createdAt h
    rw [min_eq_left hgt.le] at hcreated
    exact absurd hcreated htime

theorem taskAfter_comm_some (hd : definition.event = .taskCreated spec)
    (he : execution.event.Executes taskId)
    (htime : definition.occurredAt ≠ execution.occurredAt) {task : TaskState}
    (hclock : task.definitionUpdatedAt ≤ task.updatedAt) :
    execution.taskAfter taskId (some (definition.taskAfter taskId (some task))) =
        definition.taskAfter taskId (some (execution.taskAfter taskId (some task))) ↔
      ¬Overtaken definition execution (some task) := by
  rw [EventEnvelope.taskAfter_executed he.2, taskAfter_definition hd, taskAfter_definition hd,
    EventEnvelope.taskAfter_executed he.2]
  dsimp only [Option.getD]
  rcases lt_or_gt_of_ne htime with hlt | hgt
  · have hnot : ¬Overtaken definition execution (some task) := fun h => hlt.not_gt h.1
    by_cases hcurrent : task.updatedAt ≤ execution.occurredAt
    · have hdefined : (task.define spec definition.agent.agentId definition.occurredAt).updatedAt ≤
          execution.occurredAt :=
        (define_updatedAt_le_max ..).trans (max_le hcurrent hlt.le)
      rw [if_pos hdefined, if_pos hcurrent, execute_define he]
      refine iff_of_true ?_ hnot
      have only := executionOnly he execution.occurredAt task
      have hlast : ((execution.event.execute execution.occurredAt task).define spec
          definition.agent.agentId definition.occurredAt).updatedAt = execution.occurredAt := by
        rw [define_updatedAt_of_le (by rw [only.updatedAt]; exact hlt.le), only.updatedAt]
      exact clock_eta hlast
    · have hdefined : ¬(task.define spec definition.agent.agentId
          definition.occurredAt).updatedAt ≤ execution.occurredAt :=
        fun h => hcurrent ((define_updatedAt_le ..).trans h)
      rw [if_neg hdefined, if_neg hcurrent]
      exact iff_of_true rfl hnot
  · by_cases hcurrent : task.updatedAt ≤ execution.occurredAt
    · have hdefined : ¬(task.define spec definition.agent.agentId
          definition.occurredAt).updatedAt ≤ execution.occurredAt := by
        rw [define_updatedAt hclock (hcurrent.trans hgt.le)]
        exact not_le.2 hgt
      rw [if_neg hdefined, if_pos hcurrent, define_execute_iff he hclock hcurrent hgt.le]
      constructor
      · exact fun hrecorded hovertaken => (hovertaken.2 task rfl).2 hrecorded
      · intro h
        by_contra hrecorded
        exact h ⟨hgt, fun _ ht => by cases ht; exact ⟨hcurrent, hrecorded⟩⟩
    · have hdefined : ¬(task.define spec definition.agent.agentId
          definition.occurredAt).updatedAt ≤ execution.occurredAt :=
        fun h => hcurrent ((define_updatedAt_le ..).trans h)
      rw [if_neg hdefined, if_neg hcurrent]
      exact iff_of_true rfl fun h => hcurrent (h.2 task rfl).1

/-- The two rewrites of a task commute exactly if the execution is not overtaken. -/
theorem taskAfter_comm_iff (hd : definition.event = .taskCreated spec)
    (he : execution.event.Executes taskId)
    (hagent : execution.agent.agentId = definition.agent.agentId)
    (htime : definition.occurredAt ≠ execution.occurredAt) {before : Option TaskState}
    (hclock : ∀ task, before = some task → task.definitionUpdatedAt ≤ task.updatedAt) :
    execution.taskAfter taskId (some (definition.taskAfter taskId before)) =
        definition.taskAfter taskId (some (execution.taskAfter taskId before)) ↔
      ¬Overtaken definition execution before := by
  cases before with
  | none =>
    rw [taskAfter_comm_none hd he hagent htime]
    simp only [Overtaken, reduceCtorEq, false_imp_iff, implies_true, and_true, not_lt]
    exact htime.le_iff_lt.symm
  | some task => exact taskAfter_comm_some hd he htime (hclock task rfl)

end Pair

section Store

variable {C : Type → Type → Type} [LruCache C]

structure Retains (before after : StoreInner C) : Prop where
  agents : ∀ agentId, (peek before.agents agentId).isSome → (peek after.agents agentId).isSome
  tasks : ∀ key, (peek before.tasks key).isSome → (peek after.tasks key).isSome
  seen : ∀ id, (peek before.seenEventIds id).isSome → (peek after.seenEventIds id).isSome

def EvictsNothing [CounterArith] (inner : StoreInner C) (first second : StoreOp) : Prop :=
  Retains inner (inner.step first) ∧
    Retains (inner.step first) ((inner.step first).step second)

theorem Retains.peek_eq {K V : Type} [DecidableEq K] {before after : C K V} {key : K}
    (kept : (peek before key).isSome → (peek after key).isSome)
    (same : ∀ value, peek after key = some value → peek before key = some value) :
    peek after key = peek before key := by
  cases hafter : peek after key with
  | some value => exact (same value hafter).symm
  | none =>
    cases hbefore : peek before key with
    | none => rfl
    | some value =>
      rw [hbefore, hafter] at kept
      exact absurd (kept rfl) (by simp)

variable [LawfulLruCache C]

theorem perm_iter_of_peek_eq {K V : Type} [DecidableEq K] {c c' : C K V}
    (h : ∀ key, peek c key = peek c' key) : (iter c).Perm (iter c') := by
  have nodup : ∀ c : C K V, (iter c).Nodup := fun c =>
    List.Nodup.of_map Prod.fst (LawfulLruCache.nodup_keys c)
  rw [List.perm_ext_iff_of_nodup (nodup c) (nodup c')]
  rintro ⟨key, value⟩
  rw [← LruCache.peek_eq_some_iff, ← LruCache.peek_eq_some_iff, h key]

theorem bucketCount_congr {inner inner' : StoreInner C}
    (h : ∀ key, peek inner.tasks key = peek inner'.tasks key) (agentId : String)
    (bucket : CompletionBucket) :
    bucketCount inner agentId bucket = bucketCount inner' agentId bucket :=
  (perm_iter_of_peek_eq h).countP_eq _

theorem Retains.of_keys {before after : StoreInner C}
    (agents : keys (iter before.agents) ⊆ keys (iter after.agents))
    (tasks : keys (iter before.tasks) ⊆ keys (iter after.tasks))
    (seen : keys (iter before.seenEventIds) ⊆ keys (iter after.seenEventIds)) :
    Retains before after where
  agents _ h := LruCache.isSome_peek.2 (agents (LruCache.isSome_peek.1 h))
  tasks _ h := LruCache.isSome_peek.2 (tasks (LruCache.isSome_peek.1 h))
  seen _ h := LruCache.isSome_peek.2 (seen (LruCache.isSome_peek.1 h))

variable [CounterArith]

omit [CounterArith] in
theorem framePresent : Frame fun before after : StoreInner C =>
    ∀ agentId, (peek before.agents agentId).isSome → (peek after.agents agentId).isSome where
  refl _ _ h := h
  trans h h' agentId hs := h' agentId (h agentId hs)
  modifyAgent inner agentId f x h := by
    rw [StoreInner.modifyAgent, LruCache.peek_modify]
    split
    · next hx =>
      cases hx
      rwa [Option.isSome_map]
    · exact h
  project _ _ _ _ _ _ h := h

theorem isSome_agent_applyEvent (inner : StoreInner C) (envelope : EventEnvelope) :
    (peek (applyEvent inner envelope).agents envelope.agent.agentId).isSome := by
  apply framePresent.applyEvent inner envelope
  apply framePresent.modifyAgent
  unfold ensureAgent
  dsimp only
  split
  · assumption
  · simp

section Step

variable {inner : StoreInner C} {event : EventEnvelope} {transport : Transport}
  {receivedAt : DateTime}

theorem isSome_agent_step (h : Fresh inner event) (transport : Transport) (receivedAt : DateTime) :
    (peek (inner.step (.ingest event transport receivedAt)).agents event.agent.agentId).isSome := by
  obtain ⟨ingested, -, he⟩ := ingest_of_fresh h transport receivedAt
  simp only [StoreInner.step, he]
  exact isSome_agent_applyEvent { inner with seenEventIds := _ } event

theorem peek_seen_step (hr : Retains inner (inner.step (.ingest event transport receivedAt)))
    {id : Uuid} (hid : id ≠ event.eventId) :
    peek (inner.step (.ingest event transport receivedAt)).seenEventIds id =
      peek inner.seenEventIds id := by
  by_cases hfresh : Fresh inner event
  · refine Retains.peek_eq (hr.seen id) fun revision h => ?_
    obtain ⟨ingested, -, he⟩ := ingest_of_fresh hfresh transport receivedAt
    simp only [StoreInner.step, he, accept, pushWithEviction_fst,
      (KeepsEvents.applyEvent _ _).seen] at h
    have hbefore := LruCache.peek_of_peek_push hid h
    rwa [LruCache.peek_get] at hbefore
  · exact (step_of_not_fresh hfresh transport receivedAt).2.2 id

theorem fresh_step_iff (hr : Retains inner (inner.step (.ingest event transport receivedAt)))
    {other : EventEnvelope} (hid : other.eventId ≠ event.eventId) :
    Fresh (inner.step (.ingest event transport receivedAt)) other ↔ Fresh inner other := by
  unfold Fresh
  rw [peek_seen_step hr hid]

theorem peek_task_step_of_ne (hr : Retains inner (inner.step (.ingest event transport receivedAt)))
    {taskId : String} (ht : event.event.reducedTask = some taskId) {key : ScopedId}
    (hk : key ≠ event.taskKey taskId) :
    peek (inner.step (.ingest event transport receivedAt)).tasks key = peek inner.tasks key := by
  refine Retains.peek_eq (hr.tasks key) fun task h => ?_
  rcases peek_step_cases h with hbefore | ⟨other, _, _, taskId', hop, _, ht', hkey, _⟩
  · exact hbefore
  · cases hop
    rw [ht, Option.some.injEq] at ht'
    cases ht'
    exact absurd hkey hk

theorem peek_task_step (inner : StoreInner C) (transport : Transport) (receivedAt : DateTime) {taskId : String}
    (ht : event.event.reducedTask = some taskId) [Decidable (Fresh inner event)] :
    peek (inner.step (.ingest event transport receivedAt)).tasks (event.taskKey taskId) =
      if Fresh inner event then
        some (event.taskAfter taskId (peek inner.tasks (event.taskKey taskId)))
      else peek inner.tasks (event.taskKey taskId) := by
  split
  · next h => exact peek_step_fresh h transport receivedAt ht
  · next h => rw [(step_of_not_fresh h transport receivedAt).1]

end Step

theorem clock_run (cache : CacheConfig) (startedAt : DateTime) (ops : List StoreOp)
    {key : ScopedId} {task : TaskState}
    (h : peek (run cache startedAt ops : StoreInner C).tasks key = some task) :
    task.definitionUpdatedAt ≤ task.updatedAt := by
  exact tasks_run_induction (P := fun _ task => task.definitionUpdatedAt ≤ task.updatedAt)
    (fun envelope taskId _ _ => taskAfter_clock envelope taskId) cache startedAt ops h

end Store

section Orders

variable {C : Type → Type → Type} [LruCache C] [LawfulLruCache C]
  {inner : StoreInner C} {definition execution : EventEnvelope} {spec : TaskSpec}
  {defined executed : Transport × DateTime}

def StoreOp.at (event : EventEnvelope) (arrival : Transport × DateTime) : StoreOp :=
  .ingest event arrival.1 arrival.2

theorem peek_orders_of_ne (hd : definition.event = .taskCreated spec)
    (he : execution.event.Executes spec.taskId)
    (hagent : execution.agent.agentId = definition.agent.agentId)
    (hfirst : EvictsNothing inner (.at definition defined) (.at execution executed))
    (hlast : EvictsNothing inner (.at execution executed) (.at definition defined))
    {key : ScopedId} (hk : key ≠ definition.taskKey spec.taskId) :
    peek ((inner.step (.at definition defined)).step (.at execution executed)).tasks key =
      peek ((inner.step (.at execution executed)).step (.at definition defined)).tasks key := by
  have hdt : definition.event.reducedTask = some spec.taskId := by
    rw [hd]
    rfl
  have hk' : key ≠ execution.taskKey spec.taskId := by
    rwa [EventEnvelope.taskKey, hagent]
  calc peek ((inner.step (.at definition defined)).step (.at execution executed)).tasks key
      = peek (inner.step (.at definition defined)).tasks key :=
        peek_task_step_of_ne hfirst.2 he.1 hk'
    _ = peek inner.tasks key := peek_task_step_of_ne hfirst.1 hdt hk
    _ = peek (inner.step (.at execution executed)).tasks key :=
        (peek_task_step_of_ne hlast.1 he.1 hk').symm
    _ = peek ((inner.step (.at execution executed)).step (.at definition defined)).tasks key :=
        (peek_task_step_of_ne hlast.2 hdt hk).symm

open Classical in
theorem peek_orders_iff (hd : definition.event = .taskCreated spec)
    (he : execution.event.Executes spec.taskId)
    (hagent : execution.agent.agentId = definition.agent.agentId)
    (hid : definition.eventId ≠ execution.eventId)
    (htime : definition.occurredAt ≠ execution.occurredAt)
    (hclock : ∀ task, peek inner.tasks (definition.taskKey spec.taskId) = some task →
      task.definitionUpdatedAt ≤ task.updatedAt)
    (hfirst : EvictsNothing inner (.at definition defined) (.at execution executed))
    (hlast : EvictsNothing inner (.at execution executed) (.at definition defined)) :
    peek ((inner.step (.at definition defined)).step (.at execution executed)).tasks
        (definition.taskKey spec.taskId) =
      peek ((inner.step (.at execution executed)).step (.at definition defined)).tasks
        (definition.taskKey spec.taskId) ↔
    ¬(Fresh inner definition ∧ Fresh inner execution ∧
      Overtaken definition execution (peek inner.tasks (definition.taskKey spec.taskId))) := by
  have hdt : definition.event.reducedTask = some spec.taskId := by
    rw [hd]
    rfl
  have hkey : execution.taskKey spec.taskId = definition.taskKey spec.taskId := by
    rw [EventEnvelope.taskKey, hagent, EventEnvelope.taskKey]
  have hexecute := fun inner : StoreInner C =>
    peek_task_step inner executed.1 executed.2 he.1
  have hdefine := fun inner : StoreInner C =>
    peek_task_step inner defined.1 defined.2 hdt
  rw [hkey] at hexecute
  rw [StoreOp.at, StoreOp.at, hexecute, hdefine, hdefine, hexecute]
  simp only [fresh_step_iff hfirst.1 hid.symm, fresh_step_iff hlast.1 hid]
  by_cases hfd : Fresh inner definition
  · by_cases hfe : Fresh inner execution
    · simp only [hfd, hfe, if_true, true_and, Option.some.injEq]
      exact taskAfter_comm_iff hd he hagent htime hclock
    · simp [hfd, hfe]
  · simp [hfd]

theorem isSome_agent_orders {first second : EventEnvelope} {agentId : String}
    {one two : Transport × DateTime} (h : EvictsNothing inner (.at first one) (.at second two))
    (hid : second.eventId ≠ first.eventId) (hfirst : first.agent.agentId = agentId)
    (hsecond : second.agent.agentId = agentId) (hfresh : Fresh inner first ∨ Fresh inner second) :
    (peek ((inner.step (.at first one)).step (.at second two)).agents agentId).isSome := by
  rcases hfresh with hf | hs
  · apply h.2.agents
    have hpresent := isSome_agent_step hf one.1 one.2
    rwa [hfirst] at hpresent
  · have hpresent := isSome_agent_step ((fresh_step_iff h.1 hid).2 hs) two.1 two.2
    rwa [hsecond] at hpresent

theorem counters_orders (hcoherent : Coherent inner)
    (hagent : execution.agent.agentId = definition.agent.agentId)
    (hid : definition.eventId ≠ execution.eventId)
    (hfirst : EvictsNothing inner (.at definition defined) (.at execution executed))
    (hlast : EvictsNothing inner (.at execution executed) (.at definition defined))
    (htasks : ∀ key, peek ((inner.step (.at definition defined)).step
        (.at execution executed)).tasks key =
      peek ((inner.step (.at execution executed)).step (.at definition defined)).tasks key) :
    (peek ((inner.step (.at definition defined)).step (.at execution executed)).agents
        definition.agent.agentId).map AgentState.counter =
      (peek ((inner.step (.at execution executed)).step (.at definition defined)).agents
        definition.agent.agentId).map AgentState.counter := by
  by_cases hfresh : Fresh inner definition ∨ Fresh inner execution
  · obtain ⟨agent, ha⟩ := Option.isSome_iff_exists.1
      (isSome_agent_orders hfirst hid.symm rfl hagent hfresh)
    obtain ⟨agent', ha'⟩ := Option.isSome_iff_exists.1
      (isSome_agent_orders hlast hid hagent rfl hfresh.symm)
    rw [ha, ha', Option.map_some, Option.map_some, Option.some.injEq]
    funext bucket
    rw [((hcoherent.step _).step _).counted ha bucket,
      ((hcoherent.step _).step _).counted ha' bucket, bucketCount_congr htasks]
  · obtain ⟨hd, he⟩ := not_or.1 hfresh
    have hd' := mt (fresh_step_iff hlast.1 hid).1 hd
    have he' := mt (fresh_step_iff hfirst.1 hid.symm).1 he
    have hdefine := (step_of_not_fresh hd defined.1 defined.2).2.1
    have hexecute := (step_of_not_fresh he executed.1 executed.2).2.1
    have hlater := (step_of_not_fresh he' executed.1 executed.2).2.1
    have hlater' := (step_of_not_fresh hd' defined.1 defined.2).2.1
    simp only [StoreOp.at] at hlater hlater' ⊢
    rw [hlater, hdefine, hlater', hexecute]

/-- A definition and an execution of one task can be ingested in either order, exactly
unless a later definition hides an execution that the task has not seen yet. -/
theorem definition_execution_commute_iff (cache : CacheConfig) (startedAt : DateTime)
    (ops : List StoreOp) (definition execution : EventEnvelope)
    (hd : definition.event = .taskCreated spec) (he : execution.event.Executes spec.taskId)
    (hagent : execution.agent.agentId = definition.agent.agentId)
    (hid : definition.eventId ≠ execution.eventId)
    (htime : definition.occurredAt ≠ execution.occurredAt)
    (hfirst : EvictsNothing (run cache startedAt ops : StoreInner C)
      (.at definition defined) (.at execution executed))
    (hlast : EvictsNothing (run cache startedAt ops : StoreInner C)
      (.at execution executed) (.at definition defined)) :
    let inner : StoreInner C := run cache startedAt ops
    let key := definition.taskKey spec.taskId
    let definedFirst := (inner.step (.at definition defined)).step (.at execution executed)
    let executedFirst := (inner.step (.at execution executed)).step (.at definition defined)
    (peek definedFirst.tasks key = peek executedFirst.tasks key ∧
      (peek definedFirst.agents key.agentId).map AgentState.counter =
        (peek executedFirst.agents key.agentId).map AgentState.counter) ↔
    ¬(Fresh inner definition ∧ Fresh inner execution ∧
      Overtaken definition execution (peek inner.tasks key)) := by
  have hiff := peek_orders_iff hd he hagent hid htime
    (fun _ => clock_run cache startedAt ops) hfirst hlast
  refine ⟨fun h => hiff.1 h.1, fun h => ⟨hiff.2 h, ?_⟩⟩
  refine counters_orders (.run cache startedAt ops) hagent hid hfirst hlast fun key => ?_
  by_cases hk : key = definition.taskKey spec.taskId
  · rw [hk]
    exact hiff.2 h
  · exact peek_orders_of_ne hd he hagent hfirst hlast hk

end Orders

namespace Sample

def definition (secs : Int) : EventEnvelope := envelope 1 secs (created "a")

def completion (secs : Int) : EventEnvelope := envelope 2 secs (completed "a" .succeeded)

def arrival : Transport × DateTime := (.http, instant 9)

def fresh : StoreInner RecencyCache := run cache (instant 0) []

theorem evictsNothing_kept :
    EvictsNothing fresh (.at (definition 1) arrival) (.at (completion 5) arrival) ∧
      EvictsNothing fresh (.at (completion 5) arrival) (.at (definition 1) arrival) :=
  ⟨⟨.of_keys (by decide) (by decide) (by decide), .of_keys (by decide) (by decide) (by decide)⟩,
    ⟨.of_keys (by decide) (by decide) (by decide), .of_keys (by decide) (by decide) (by decide)⟩⟩

theorem evictsNothing_hidden :
    EvictsNothing fresh (.at (definition 5) arrival) (.at (completion 1) arrival) ∧
      EvictsNothing fresh (.at (completion 1) arrival) (.at (definition 5) arrival) :=
  ⟨⟨.of_keys (by decide) (by decide) (by decide), .of_keys (by decide) (by decide) (by decide)⟩,
    ⟨.of_keys (by decide) (by decide) (by decide), .of_keys (by decide) (by decide) (by decide)⟩⟩

end Sample

open Sample in
/-- Defined at 1 and completed at 5, in either order. -/
theorem definition_execution_commute_kept :
    peek ((fresh.step (.at (definition 1) arrival)).step (.at (completion 5) arrival)).tasks
        ⟨"worker", "a"⟩ =
      peek ((fresh.step (.at (completion 5) arrival)).step (.at (definition 1) arrival)).tasks
        ⟨"worker", "a"⟩ :=
  ((definition_execution_commute_iff cache (instant 0) [] (definition 1) (completion 5) rfl
    ⟨rfl, fun _ => by simp [completion, envelope, completed]⟩ rfl (by decide) (by decide)
    evictsNothing_kept.1 evictsNothing_kept.2).2
      fun h => absurd h.2.2.1 (by decide)).1

open Sample in
/-- Defined at 5 and completed at 1: a definition that arrives first hides the completion. -/
theorem completion_hidden_by_definition :
    EvictsNothing fresh (.at (definition 5) arrival) (.at (completion 1) arrival) ∧
      EvictsNothing fresh (.at (completion 1) arrival) (.at (definition 5) arrival) ∧
      peek ((fresh.step (.at (definition 5) arrival)).step (.at (completion 1) arrival)).tasks
          ⟨"worker", "a"⟩ ≠
        peek ((fresh.step (.at (completion 1) arrival)).step (.at (definition 5) arrival)).tasks
          ⟨"worker", "a"⟩ ∧
      (peek ((fresh.step (.at (definition 5) arrival)).step (.at (completion 1) arrival)).agents
          "worker").map AgentState.completedTasks = some 0 ∧
      (peek ((fresh.step (.at (completion 1) arrival)).step (.at (definition 5) arrival)).agents
          "worker").map AgentState.completedTasks = some 1 := by
  refine ⟨evictsNothing_hidden.1, evictsNothing_hidden.2, fun h => ?_, by decide, by decide⟩
  have hstatus := congrArg (Option.map TaskState.status) h
  revert hstatus
  decide

end ControlPlane
