import ControlPlane.Store.Commute
import ControlPlane.Store.History

/-! The freshness of tasks: the clock of a retained task never runs back, and an event older
than the clock reports nothing. -/

namespace ControlPlane

open LruCache (peek getMut)

structure Execution where
  status : TaskStatus
  progress : F32
  attempt : Nat
  planSummary : Option String
  progressSummary : Option String
  blocker : Option String
  nextAction : Option String
  latestReflection : Option Reflection
  outcome : Option TaskOutcome
  completionSummary : Option String
  artifacts : List String
  startedAt : Option DateTime
  completedAt : Option DateTime
  deriving DecidableEq, Repr

def TaskState.execution (task : TaskState) : Execution where
  status := task.status
  progress := task.progress
  attempt := task.attempt
  planSummary := task.planSummary
  progressSummary := task.progressSummary
  blocker := task.blocker
  nextAction := task.nextAction
  latestReflection := task.latestReflection
  outcome := task.outcome
  completionSummary := task.completionSummary
  artifacts := task.artifacts
  startedAt := task.startedAt
  completedAt := task.completedAt

/-- An event that cannot report on the task: it is older than the task's clock or a
definition. -/
def EventEnvelope.Unreporting (envelope : EventEnvelope) (task : TaskState) : Prop :=
  envelope.occurredAt < task.updatedAt ∨ ∃ spec, envelope.event = .taskCreated spec

section Task

variable {envelope : EventEnvelope} {task : TaskState}

theorem define_execution (task : TaskState) (spec : TaskSpec) (agentId : String)
    (occurredAt : DateTime) :
    (task.define spec agentId occurredAt).execution = task.execution := by
  unfold TaskState.define
  split <;> rfl

theorem AgentEvent.taskId_of_reducedTask {event : AgentEvent} {taskId : String}
    (h : event.reducedTask = some taskId) : event.taskId = some taskId := by
  cases event with
  | taskCreated | taskStarted | progressUpdated | reflectionRecorded | errorObserved
  | taskCompleted => exact h
  | _ => cases h

theorem taskAfter_of_stale (hspec : ∀ spec, envelope.event ≠ .taskCreated spec)
    (h : envelope.occurredAt < task.updatedAt) (taskId : String) :
    envelope.taskAfter taskId (some task) = task := by
  unfold EventEnvelope.taskAfter
  cases he : envelope.event with
  | taskCreated spec => exact absurd he (hspec spec)
  | _ => exact if_neg (not_le.2 h)

theorem taskAfter_execution_of_unreporting (h : envelope.Unreporting task) (taskId : String) :
    (envelope.taskAfter taskId (some task)).execution = task.execution := by
  by_cases hspec : ∃ spec, envelope.event = .taskCreated spec
  · obtain ⟨spec, hd⟩ := hspec
    rw [taskAfter_definition hd]
    exact define_execution task spec _ _
  · have hstale := h.resolve_right hspec
    rw [taskAfter_of_stale (fun spec he => hspec ⟨spec, he⟩) hstale]

theorem taskAfter_agentId (h : task.agentId = envelope.agent.agentId) (taskId : String) :
    (envelope.taskAfter taskId (some task)).agentId = task.agentId := by
  unfold EventEnvelope.taskAfter
  cases envelope.event with
  | taskCreated spec => exact (task.define_agentId h spec envelope.occurredAt).trans h.symm
  | _ =>
    dsimp only
    split <;> rfl

theorem updatedAt_le_taskAfter (envelope : EventEnvelope) (task : TaskState) (taskId : String) :
    task.updatedAt ≤ (envelope.taskAfter taskId (some task)).updatedAt := by
  unfold EventEnvelope.taskAfter
  cases envelope.event with
  | taskCreated spec => exact define_updatedAt_le spec _ _ task
  | taskStarted | progressUpdated | reflectionRecorded | errorObserved | taskCompleted =>
    dsimp only [Option.getD]
    split
    · assumption
    · exact le_rfl
  | _ =>
    dsimp only [Option.getD]
    split <;> exact le_rfl

end Task

section Store

variable {C : Type → Type → Type} [LruCache C] [LawfulLruCache C] {inner : StoreInner C}
  {key : ScopedId} {task : TaskState}

theorem bucketCount_of_write {after : StoreInner C} {task' : TaskState}
    {write : TaskState → C ScopedId TaskState}
    (hw : getMut inner.tasks key = some (task, write)) (htasks : after.tasks = write task')
    (hid : task'.agentId = task.agentId) (ho : task'.outcome = task.outcome) (agentId : String)
    (bucket : CompletionBucket) :
    bucketCount after agentId bucket = bucketCount inner agentId bucket := by
  have hcount := bucketCount_write hw hid agentId bucket
  rw [ho, Nat.add_right_cancel_iff] at hcount
  rw [← hcount, bucketCount, htasks]
  rfl

section Clock

variable [CounterArith]

theorem updatedAt_le_step {op : StoreOp} {later : TaskState}
    (hbefore : peek inner.tasks key = some task) (h : peek (inner.step op).tasks key = some later) :
    task.updatedAt ≤ later.updatedAt := by
  rcases peek_step_cases h with hsame | ⟨event, _, _, taskId, -, -, -, -, rfl⟩
  · rw [hbefore, Option.some.injEq] at hsame
    rw [hsame]
  · rw [hbefore]
    exact updatedAt_le_taskAfter event task taskId

theorem updatedAt_le_after (hbefore : peek inner.tasks key = some task) {ops : List StoreOp}
    (hkept : TaskKept key inner ops) :
    ∃ later, peek (Run.after StoreInner.step inner ops).tasks key = some later ∧
      task.updatedAt ≤ later.updatedAt := by
  refine Run.invariant_along
    (P := fun inner => ∃ later, peek inner.tasks key = some later ∧
      task.updatedAt ≤ later.updatedAt) ?_ ⟨task, hbefore, le_rfl⟩ hkept
  rintro inner op ⟨now, hnow, hle⟩ hsome
  obtain ⟨later, hlater⟩ := Option.isSome_iff_exists.1 hsome
  exact ⟨later, hlater, hle.trans (updatedAt_le_step hnow hlater)⟩

theorem execution_step_of_definition {event : EventEnvelope} {spec : TaskSpec}
    (hd : event.event = .taskCreated spec) {transport : Transport} {receivedAt : DateTime}
    {later : TaskState} (hbefore : peek inner.tasks key = some task)
    (h : peek (inner.step (.ingest event transport receivedAt)).tasks key = some later) :
    later.execution = task.execution := by
  rcases peek_step_cases h with hsame | ⟨other, _, _, taskId, hop, -, -, -, rfl⟩
  · rw [hbefore, Option.some.injEq] at hsame
    rw [hsame]
  · cases hop
    rw [hbefore]
    exact taskAfter_execution_of_unreporting (.inr ⟨spec, hd⟩) taskId

end Clock

variable {event : EventEnvelope}

theorem applyEvent_of_unreporting (hcoherent : Coherent inner)
    (hbefore : peek inner.tasks key = some task) (hagent : event.agent.agentId = key.agentId)
    (htask : event.taskId = some key.entityId) (h : event.Unreporting task) :
    (∃ later, peek (applyEvent inner event).tasks key = some later ∧
      later.execution = task.execution) ∧
    ∀ agentId bucket, bucketCount (applyEvent inner event) agentId bucket =
      bucketCount inner agentId bucket := by
  cases hr : event.event.reducedTask with
  | none =>
    have htasks : (applyEvent inner event).tasks = inner.tasks := tasks_applyEvent_of_none hr
    refine ⟨⟨task, ?_, rfl⟩, fun agentId bucket => ?_⟩
    · rw [htasks, hbefore]
    · rw [bucketCount, htasks, bucketCount]
  | some taskId =>
    have hid : taskId = key.entityId := by
      have hnamed := AgentEvent.taskId_of_reducedTask hr
      rw [EventEnvelope.taskId, hnamed] at htask
      exact Option.some.inj htask
    have hkey : event.taskKey taskId = key := by
      rw [EventEnvelope.taskKey, hagent, hid]
    obtain ⟨write, hw⟩ := LruCache.getMut_of_peek_some hbefore
    have htasks := tasks_applyEvent_of_retained hr (by rwa [hkey])
    have hexecution := taskAfter_execution_of_unreporting h taskId
    have howned : task.agentId = event.agent.agentId :=
      (hcoherent.owned hbefore).trans hagent.symm
    refine ⟨⟨event.taskAfter taskId (some task), ?_, hexecution⟩, fun agentId bucket => ?_⟩
    · rw [htasks, LruCache.peek_write hw, if_pos rfl]
    · exact bucketCount_of_write hw htasks (taskAfter_agentId howned taskId)
        (congrArg Execution.outcome hexecution) agentId bucket

theorem step_of_unreporting (hcoherent : Coherent inner)
    (hbefore : peek inner.tasks key = some task) (hagent : event.agent.agentId = key.agentId)
    (htask : event.taskId = some key.entityId) (h : event.Unreporting task)
    (transport : Transport) (receivedAt : DateTime) :
    let after := inner.step (.ingest event transport receivedAt)
    (∃ later, peek after.tasks key = some later ∧ later.execution = task.execution) ∧
    ∀ agent, peek inner.agents key.agentId = some agent →
      ∃ agent', peek after.agents key.agentId = some agent' ∧
        ∀ bucket, agent'.counter bucket = agent.counter bucket := by
  intro after
  have hafter : Coherent after := hcoherent.step _
  by_cases hfresh : Fresh inner event
  · obtain ⟨seen, same⟩ := step_of_accepted (acceptedEvent_of_fresh hfresh transport receivedAt)
    have hseen : Coherent { inner with seenEventIds := seen } := hcoherent.congr rfl rfl
    obtain ⟨⟨later, hlater, hexecution⟩, hcount⟩ :=
      applyEvent_of_unreporting hseen hbefore hagent htask h
    refine ⟨⟨later, (congrArg (peek · key) same.tasks).trans hlater, hexecution⟩, ?_⟩
    intro agent ha
    have hpresent := isSome_agent_step hfresh transport receivedAt
    rw [hagent] at hpresent
    obtain ⟨agent', ha'⟩ := Option.isSome_iff_exists.1 hpresent
    refine ⟨agent', ha', fun bucket => ?_⟩
    calc agent'.counter bucket
        = bucketCount after key.agentId bucket := hafter.counted ha' bucket
      _ = bucketCount (applyEvent { inner with seenEventIds := seen } event) key.agentId
            bucket := by rw [bucketCount, same.tasks, bucketCount]
      _ = bucketCount inner key.agentId bucket := hcount key.agentId bucket
      _ = agent.counter bucket := (hcoherent.counted ha bucket).symm
  · obtain ⟨htasks, hagents, -⟩ := step_of_not_fresh hfresh transport receivedAt
    refine ⟨⟨task, (congrArg (peek · key) htasks).trans hbefore, rfl⟩, fun agent ha => ?_⟩
    exact ⟨agent, (congrArg (peek · key.agentId) hagents).trans ha, fun _ => rfl⟩

/-- The clock of a retained task never runs back.  An event of the task that is older than
its clock changes neither what the task's executions reported nor the owner's completion
counters, and a definition never does. -/
theorem older_events_report_nothing (cache : CacheConfig) (startedAt : DateTime)
    (ops : List StoreOp) (key : ScopedId) (task : TaskState)
    (hbefore : peek (run cache startedAt ops : StoreInner C).tasks key = some task) :
    (∀ more, TaskKept key (run cache startedAt ops : StoreInner C) more →
      ∃ later, peek (run cache startedAt (ops ++ more) : StoreInner C).tasks key = some later ∧
        task.updatedAt ≤ later.updatedAt) ∧
    (∀ (event : EventEnvelope) (transport : Transport) (receivedAt : DateTime),
      event.agent.agentId = key.agentId → event.taskId = some key.entityId →
      (event.occurredAt < task.updatedAt ∨ ∃ spec, event.event = .taskCreated spec) →
      let after : StoreInner C := run cache startedAt (ops ++ [.ingest event transport receivedAt])
      (∃ later, peek after.tasks key = some later ∧ later.execution = task.execution) ∧
      ∀ agent, peek (run cache startedAt ops : StoreInner C).agents key.agentId = some agent →
        ∃ agent', peek after.agents key.agentId = some agent' ∧
          agent'.completedTasks = agent.completedTasks ∧ agent'.failedTasks = agent.failedTasks) ∧
    ∀ (event : EventEnvelope) (spec : TaskSpec) (transport : Transport) (receivedAt : DateTime)
      (later : TaskState), event.event = .taskCreated spec →
      peek (run cache startedAt (ops ++ [.ingest event transport receivedAt]) :
        StoreInner C).tasks key = some later →
      later.execution = task.execution := by
  refine ⟨fun more hkept => ?_, ?_, ?_⟩
  · rw [run_append]
    exact updatedAt_le_after hbefore hkept
  · intro event transport receivedAt hagent htask h
    dsimp only
    rw [run_concat]
    have hstep := step_of_unreporting (.run cache startedAt ops) hbefore hagent htask h transport
      receivedAt
    refine ⟨hstep.1, fun agent ha => ?_⟩
    obtain ⟨agent', ha', hcounter⟩ := hstep.2 agent ha
    exact ⟨agent', ha', hcounter .completed, hcounter .failed⟩
  · intro event spec transport receivedAt later hd hlater
    rw [run_concat] at hlater
    exact execution_step_of_definition hd hbefore hlater

end Store

/-- A task completed at 5 and failed at 3, in this order of arrival. -/
theorem older_events_report_nothing_completed :
    ∃ later, peek (run Sample.cache (Sample.instant 0)
        [Sample.ingestAt 1 5 (Sample.completed "a" .succeeded),
          Sample.ingestAt 2 3 (Sample.completed "a" .failed)] : StoreInner RecencyCache).tasks
        ⟨"worker", "a"⟩ = some later ∧ later.status = .succeeded := by
  have hbefore := Option.isSome_iff_exists.1 (show (peek (run Sample.cache (Sample.instant 0)
    [Sample.ingestAt 1 5 (Sample.completed "a" .succeeded)] : StoreInner RecencyCache).tasks
    ⟨"worker", "a"⟩).isSome from rfl)
  obtain ⟨task, htask⟩ := hbefore
  have hclock : task.updatedAt = Sample.instant 5 ∧ task.status = .succeeded := by
    cases htask
    exact ⟨rfl, rfl⟩
  obtain ⟨⟨later, hlater, hexecution⟩, -⟩ := (older_events_report_nothing Sample.cache
    (Sample.instant 0) [Sample.ingestAt 1 5 (Sample.completed "a" .succeeded)] _ task htask).2.1
    (Sample.envelope 2 3 (Sample.completed "a" .failed)) .http (Sample.instant 3) rfl rfl
    (.inl (by rw [hclock.1]; decide))
  exact ⟨later, hlater, (congrArg Execution.status hexecution).trans hclock.2⟩

end ControlPlane
