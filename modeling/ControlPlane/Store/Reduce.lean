import ControlPlane.Store.State

/-! The reducer: what one accepted event does to the projections. -/

namespace ControlPlane

/-- The subtraction of the completion counters, left open so that the reducer can also be
run with one that differs where `saturating_sub` clips. -/
class CounterArith where
  sub : Nat → Nat → Nat

instance saturatingSub : CounterArith where
  sub a b := a - b

namespace TaskState

def define (existing : TaskState) (task : TaskSpec) (agentId : String) (occurredAt : DateTime) :
    TaskState :=
  if existing.inferredFromOutOfOrderEvent || existing.definitionUpdatedAt ≤ occurredAt then
    { existing with
      task := task
      agentId := agentId
      inferredFromOutOfOrderEvent := false
      definitionUpdatedAt := occurredAt
      createdAt := min existing.createdAt occurredAt
      updatedAt := max existing.updatedAt occurredAt }
  else existing

def start (task : TaskState) (started : TaskStarted) (occurredAt : DateTime) : TaskState :=
  { task with
    outcome := none
    status := .running
    attempt := started.attempt
    planSummary := started.planSummary
    blocker := none
    completionSummary := none
    artifacts := []
    completedAt := none
    startedAt := some occurredAt
    updatedAt := occurredAt }

def advance (task : TaskState) (progress : ProgressUpdate) (occurredAt : DateTime) : TaskState :=
  { task with
    outcome := none
    progress := progress.progress
    progressSummary := some progress.summary
    blocker := progress.blocker
    nextAction := progress.nextAction
    status := if progress.blocker.isSome then .blocked else .running
    completionSummary := none
    artifacts := []
    completedAt := none
    updatedAt := occurredAt }

def reflect (task : TaskState) (reflection : Reflection) (occurredAt : DateTime) : TaskState :=
  { task with
    latestReflection := some reflection
    nextAction := reflection.nextAction
    updatedAt := occurredAt }

def fault (task : TaskState) (error : ErrorObservation) (occurredAt : DateTime) : TaskState :=
  { task with
    blocker := some error.message
    nextAction := error.proposedRecovery
    status := .blocked
    updatedAt := occurredAt }

def statusOf : TaskOutcome → TaskStatus
  | .succeeded => .succeeded
  | .failed => .failed
  | .canceled => .canceled
  | .partially => .partially

def complete (task : TaskState) (completed : TaskCompleted) (occurredAt : DateTime) : TaskState :=
  { task with
    status := statusOf completed.outcome
    progress := if completed.outcome = .succeeded then F32.one else task.progress
    outcome := some completed.outcome
    completionSummary := some completed.summary
    artifacts := completed.artifacts
    blocker := none
    completedAt := some occurredAt
    updatedAt := occurredAt }

end TaskState

section Counters

variable [CounterArith]

def removeCompletionCounter (agent : AgentState) (outcome : Option TaskOutcome) : AgentState :=
  match outcome.map completionBucket with
  | some .completed => { agent with completedTasks := CounterArith.sub agent.completedTasks 1 }
  | some .failed => { agent with failedTasks := CounterArith.sub agent.failedTasks 1 }
  | none => agent

def reconcileCompletionCounters (agent : AgentState) (previousOutcome : Option TaskOutcome)
    (currentOutcome : TaskOutcome) : AgentState :=
  let previousBucket := previousOutcome.map completionBucket
  let currentBucket := completionBucket currentOutcome
  let agent :=
    if previousBucket ≠ some currentBucket then
      let agent := removeCompletionCounter agent previousOutcome
      match currentBucket with
      | .completed =>
        { agent with completedTasks := U64.saturatingAdd agent.completedTasks 1 }
      | .failed => { agent with failedTasks := U64.saturatingAdd agent.failedTasks 1 }
    else agent
  { agent with
    status := match currentBucket with
      | .completed => .completed
      | .failed => .failed }

end Counters

section Reducer

variable {C : Type → Type → Type} [LruCache C]

def StoreInner.modifyAgent (inner : StoreInner C) (agentId : String)
    (f : AgentState → AgentState) : StoreInner C :=
  { inner with agents := LruCache.modify inner.agents agentId f }

def countOutcome (counts : Nat × Nat) (entry : ScopedId × TaskState) : Nat × Nat :=
  match entry.2.outcome.map completionBucket with
  | some .completed => (U64.saturatingAdd counts.1 1, counts.2)
  | some .failed => (counts.1, U64.saturatingAdd counts.2 1)
  | none => counts

def taskCounts (inner : StoreInner C) (agentId : String) : Nat × Nat :=
  ((LruCache.iter inner.tasks).filter (fun e => e.2.agentId = agentId)).foldl countOutcome (0, 0)

def ensureAgent (inner : StoreInner C) (envelope : EventEnvelope) : StoreInner C :=
  let key := envelope.agent.agentId
  if (LruCache.peek inner.agents key).isSome then inner
  else
    let counts := taskCounts inner key
    let state : AgentState :=
      { agent := envelope.agent
        displayName := envelope.agent.agentId
        capabilities := []
        metadata := ∅
        status := .idle
        sessionId := envelope.sessionId
        currentGoalId := none
        activeTaskId := none
        registeredAt := envelope.occurredAt
        lastSeenAt := envelope.occurredAt
        completedTasks := counts.1
        failedTasks := counts.2
        latestReflection := none
        latestError := none }
    let pushed := pushWithEviction inner.agents key state
    { inner with
      agents := pushed.1
      evictions.agents :=
        if pushed.2.isSome then U64.saturatingAdd inner.evictions.agents 1
        else inner.evictions.agents }

def touchAgent (envelope : EventEnvelope) (agent : AgentState) : AgentState :=
  { agent with
    agent := envelope.agent
    lastSeenAt := max agent.lastSeenAt envelope.occurredAt
    sessionId := if envelope.sessionId.isSome then envelope.sessionId else agent.sessionId }

def writeTask (inner : StoreInner C) (key : ScopedId) (occurredAt : DateTime)
    (update : TaskState → TaskState) : StoreInner C × Option TaskState :=
  match LruCache.getMut inner.tasks key with
  | some (task, write) =>
    if task.updatedAt ≤ occurredAt then
      ({ inner with tasks := write (update task) }, some task)
    else ({ inner with tasks := write task }, none)
  | none => (inner, none)

variable [CounterArith]

def insertTask (inner : StoreInner C) (key : ScopedId) (state : TaskState) : StoreInner C :=
  let pushed := pushWithEviction inner.tasks key state
  match pushed.2 with
  | some evicted =>
    { inner with
      tasks := pushed.1
      evictions.tasks := U64.saturatingAdd inner.evictions.tasks 1
      agents := LruCache.modify inner.agents evicted.agentId fun agent =>
        removeCompletionCounter agent evicted.outcome }
  | none => { inner with tasks := pushed.1 }

def inferredSpec (taskId : String) : TaskSpec where
  taskId := taskId
  title := "Task " ++ taskId
  goalId := none
  dependsOn := []
  tags := ["inferred"]
  expectedOutcome := none

def ensureTask (inner : StoreInner C) (taskId agentId : String) (occurredAt : DateTime) :
    StoreInner C :=
  let key : ScopedId := ⟨agentId, taskId⟩
  if (LruCache.peek inner.tasks key).isSome then inner
  else insertTask inner key (.fromSpec (inferredSpec taskId) agentId occurredAt true)

def applyAgentRegistered (inner : StoreInner C) (envelope : EventEnvelope)
    (registration : AgentRegistration) : StoreInner C :=
  inner.modifyAgent envelope.agent.agentId fun agent =>
    { agent with
      displayName := registration.displayName
      capabilities := registration.capabilities
      metadata := registration.metadata
      status := if agent.status = .idle then registration.status else agent.status
      registeredAt := min agent.registeredAt envelope.occurredAt }

def applyHeartbeat (inner : StoreInner C) (envelope : EventEnvelope) (heartbeat : Heartbeat) :
    StoreInner C :=
  inner.modifyAgent envelope.agent.agentId fun agent =>
    { agent with
      status := heartbeat.status.getD agent.status
      activeTaskId :=
        if heartbeat.activeTaskId.isSome then heartbeat.activeTaskId else agent.activeTaskId }

def applyGoalDeclared (inner : StoreInner C) (envelope : EventEnvelope) (goal : Goal) :
    StoreInner C :=
  let agentId := envelope.agent.agentId
  let goalState : GoalState := ⟨goal, agentId, envelope.occurredAt⟩
  let pushed := pushWithEviction inner.goals ⟨agentId, goal.goalId⟩ goalState
  let inner := { inner with
    goals := pushed.1
    evictions.goals :=
      if pushed.2.isSome then U64.saturatingAdd inner.evictions.goals 1
      else inner.evictions.goals }
  inner.modifyAgent agentId fun agent =>
    { agent with
      currentGoalId := some goal.goalId
      status := if agent.status = .idle ∨ agent.status = .planning then .planning
        else agent.status }

def applyTaskCreated (inner : StoreInner C) (envelope : EventEnvelope) (task : TaskSpec) :
    StoreInner C :=
  let agentId := envelope.agent.agentId
  let key : ScopedId := ⟨agentId, task.taskId⟩
  match LruCache.getMut inner.tasks key with
  | some (existing, write) =>
    { inner with tasks := write (existing.define task agentId envelope.occurredAt) }
  | none => insertTask inner key (.fromSpec task agentId envelope.occurredAt false)

def applyTaskStarted (inner : StoreInner C) (envelope : EventEnvelope) (started : TaskStarted) :
    StoreInner C :=
  let agentId := envelope.agent.agentId
  let inner := ensureTask inner started.taskId agentId envelope.occurredAt
  let written := writeTask inner ⟨agentId, started.taskId⟩ envelope.occurredAt
    fun task => task.start started envelope.occurredAt
  match written.2 with
  | some previous => written.1.modifyAgent agentId fun agent =>
      { removeCompletionCounter agent previous.outcome with
        status := .running
        activeTaskId := some started.taskId }
  | none => written.1

def applyProgressUpdated (inner : StoreInner C) (envelope : EventEnvelope)
    (progress : ProgressUpdate) : StoreInner C :=
  let agentId := envelope.agent.agentId
  let inner := ensureTask inner progress.taskId agentId envelope.occurredAt
  let written := writeTask inner ⟨agentId, progress.taskId⟩ envelope.occurredAt
    fun task => task.advance progress envelope.occurredAt
  match written.2 with
  | some previous => written.1.modifyAgent agentId fun agent =>
      { removeCompletionCounter agent previous.outcome with
        status := if progress.blocker.isSome then .blocked else .running
        activeTaskId := some progress.taskId }
  | none => written.1

def applyReflectionRecorded (inner : StoreInner C) (envelope : EventEnvelope)
    (reflection : Reflection) : StoreInner C :=
  let agentId := envelope.agent.agentId
  let inner := match reflection.taskId with
    | some taskId =>
      (writeTask (ensureTask inner taskId agentId envelope.occurredAt) ⟨agentId, taskId⟩
        envelope.occurredAt fun task => task.reflect reflection envelope.occurredAt).1
    | none => inner
  inner.modifyAgent agentId fun agent => { agent with latestReflection := some reflection }

def applyLessonLearned (inner : StoreInner C) (envelope : EventEnvelope) (lesson : Lesson) :
    StoreInner C :=
  let agentId := envelope.agent.agentId
  let key : ScopedId := ⟨agentId, lesson.lessonId⟩
  let observations := match LruCache.peek inner.lessons key with
    | some state => U64.saturatingAdd state.observations 1
    | none => 1
  let lessonState : LessonState := ⟨lesson, agentId, envelope.occurredAt, observations⟩
  let pushed := pushWithEviction inner.lessons key lessonState
  { inner with
    lessons := pushed.1
    evictions.lessons :=
      if pushed.2.isSome then U64.saturatingAdd inner.evictions.lessons 1
      else inner.evictions.lessons }

def applyErrorObserved (inner : StoreInner C) (envelope : EventEnvelope)
    (error : ErrorObservation) : StoreInner C :=
  let agentId := envelope.agent.agentId
  let inner := match error.taskId with
    | some taskId =>
      (writeTask (ensureTask inner taskId agentId envelope.occurredAt) ⟨agentId, taskId⟩
        envelope.occurredAt fun task => task.fault error envelope.occurredAt).1
    | none => inner
  inner.modifyAgent agentId fun agent =>
    { agent with latestError := some error, status := .blocked }

def applyTaskCompleted (inner : StoreInner C) (envelope : EventEnvelope)
    (completed : TaskCompleted) : StoreInner C :=
  let agentId := envelope.agent.agentId
  let inner := ensureTask inner completed.taskId agentId envelope.occurredAt
  let written := writeTask inner ⟨agentId, completed.taskId⟩ envelope.occurredAt
    fun task => task.complete completed envelope.occurredAt
  match written.2 with
  | some previous => written.1.modifyAgent agentId fun agent =>
      reconcileCompletionCounters { agent with activeTaskId := none } previous.outcome
        completed.outcome
  | none => written.1

def applyAgentStatusChanged (inner : StoreInner C) (envelope : EventEnvelope)
    (change : StatusChange) : StoreInner C :=
  inner.modifyAgent envelope.agent.agentId fun agent => { agent with status := change.status }

def applyEvent (inner : StoreInner C) (envelope : EventEnvelope) : StoreInner C :=
  let inner := (ensureAgent inner envelope).modifyAgent envelope.agent.agentId (touchAgent envelope)
  match envelope.event with
  | .agentRegistered registration => applyAgentRegistered inner envelope registration
  | .heartbeat heartbeat => applyHeartbeat inner envelope heartbeat
  | .goalDeclared goal => applyGoalDeclared inner envelope goal
  | .taskCreated task => applyTaskCreated inner envelope task
  | .taskStarted started => applyTaskStarted inner envelope started
  | .progressUpdated progress => applyProgressUpdated inner envelope progress
  | .reflectionRecorded reflection => applyReflectionRecorded inner envelope reflection
  | .lessonLearned lesson => applyLessonLearned inner envelope lesson
  | .errorObserved error => applyErrorObserved inner envelope error
  | .taskCompleted completed => applyTaskCompleted inner envelope completed
  | .agentStatusChanged change => applyAgentStatusChanged inner envelope change

end Reducer

/-- A relation between stores that every write to a task respects, and every rewrite of an agent
after which the two are related by `Keeps`. -/
structure TaskFrame [CounterArith] {C : Type → Type → Type} [LruCache C]
    (Keeps : AgentState → AgentState → Prop) (R : StoreInner C → StoreInner C → Prop) : Prop where
  refl : ∀ inner, R inner inner
  trans : ∀ {a b c}, R a b → R b c → R a c
  modifyAgent : ∀ inner agentId f, (∀ agent, Keeps agent (f agent)) →
    R inner (inner.modifyAgent agentId f)
  project : ∀ inner tasks evictions, R inner { inner with tasks, evictions }
  removal : ∀ agent outcome, Keeps agent (removeCompletionCounter agent outcome)

namespace TaskFrame

variable [CounterArith] {C : Type → Type → Type} [LruCache C]
  {Keeps : AgentState → AgentState → Prop} {R : StoreInner C → StoreInner C → Prop}

theorem writeTask (h : TaskFrame Keeps R) (inner : StoreInner C) (key : ScopedId)
    (occurredAt : DateTime) (update : TaskState → TaskState) :
    R inner (writeTask inner key occurredAt update).1 := by
  unfold ControlPlane.writeTask
  split
  · split <;> exact h.project _ _ _
  · exact h.refl inner

theorem insertTask (h : TaskFrame Keeps R) (inner : StoreInner C) (key : ScopedId)
    (task : TaskState) : R inner (insertTask inner key task) := by
  unfold ControlPlane.insertTask
  dsimp only
  split
  · next evicted _ =>
    have hremoved := h.modifyAgent inner evicted.agentId _ fun agent =>
      h.removal agent evicted.outcome
    exact h.trans hremoved (h.project _ _ _)
  · exact h.project _ _ _

theorem annotate (h : TaskFrame Keeps R) (inner : StoreInner C) (taskId agentId : String)
    (key : ScopedId) (occurredAt : DateTime) (update : TaskState → TaskState) :
    R inner (ControlPlane.writeTask (ensureTask inner taskId agentId occurredAt) key occurredAt
      update).1 := by
  refine h.trans ?_ (h.writeTask _ _ _ _)
  unfold ensureTask
  dsimp only
  split
  · exact h.refl inner
  · exact h.insertTask _ _ _

theorem execute (h : TaskFrame Keeps R) (inner : StoreInner C) (taskId agentId : String)
    (key : ScopedId) (occurredAt : DateTime) (update : TaskState → TaskState)
    {f : TaskState → AgentState → AgentState}
    (hkeeps : ∀ previous agent, Keeps agent (f previous agent)) :
    let written := ControlPlane.writeTask (ensureTask inner taskId agentId occurredAt) key
      occurredAt update
    R inner (match written.2 with
      | some previous => written.1.modifyAgent agentId (f previous)
      | none => written.1) := by
  have hwritten := h.annotate inner taskId agentId key occurredAt update
  dsimp only
  split
  · next previous _ => exact h.trans hwritten (h.modifyAgent _ _ _ (hkeeps previous))
  · exact hwritten

theorem applyTaskCreated (h : TaskFrame Keeps R) (inner : StoreInner C)
    (envelope : EventEnvelope) (spec : TaskSpec) : R inner (applyTaskCreated inner envelope spec) := by
  unfold ControlPlane.applyTaskCreated
  dsimp only
  split
  · exact h.project _ _ _
  · exact h.insertTask _ _ _

theorem applyReflectionRecorded (h : TaskFrame Keeps R) (inner : StoreInner C)
    (envelope : EventEnvelope) (reflection : Reflection)
    (hkeeps : ∀ agent : AgentState, Keeps agent { agent with latestReflection := some reflection }) :
    R inner (applyReflectionRecorded inner envelope reflection) := by
  unfold ControlPlane.applyReflectionRecorded
  refine h.trans ?_ (h.modifyAgent _ _ _ hkeeps)
  split
  · exact h.annotate _ _ _ _ _ _
  · exact h.refl inner

theorem applyErrorObserved (h : TaskFrame Keeps R) (inner : StoreInner C)
    (envelope : EventEnvelope) (error : ErrorObservation)
    (hkeeps : ∀ agent : AgentState,
      Keeps agent { agent with latestError := some error, status := .blocked }) :
    R inner (applyErrorObserved inner envelope error) := by
  unfold ControlPlane.applyErrorObserved
  refine h.trans ?_ (h.modifyAgent _ _ _ hkeeps)
  split
  · exact h.annotate _ _ _ _ _ _
  · exact h.refl inner

end TaskFrame

structure Frame {C : Type → Type → Type} [LruCache C]
    (R : StoreInner C → StoreInner C → Prop) : Prop where
  refl : ∀ inner, R inner inner
  trans : ∀ {a b c}, R a b → R b c → R a c
  modifyAgent : ∀ inner agentId f, R inner (inner.modifyAgent agentId f)
  project : ∀ inner goals tasks lessons evictions,
    R inner { inner with goals, tasks, lessons, evictions }

namespace Frame

variable {C : Type → Type → Type} [LruCache C] {R : StoreInner C → StoreInner C → Prop}

theorem of_field {α : Type} {field : StoreInner C → α}
    (modifyAgent : ∀ inner agentId f,
      field (StoreInner.modifyAgent inner agentId f) = field inner)
    (project : ∀ inner goals tasks lessons evictions,
      field { inner with goals, tasks, lessons, evictions } = field inner) :
    Frame fun before after => field after = field before where
  refl _ := rfl
  trans h h' := h'.trans h
  modifyAgent := modifyAgent
  project := project

theorem ensureAgent (h : Frame R)
    (enter : ∀ inner agents evictions, R inner { inner with agents, evictions })
    (inner : StoreInner C) (envelope : EventEnvelope) : R inner (ensureAgent inner envelope) := by
  unfold ControlPlane.ensureAgent
  dsimp only
  split
  · exact h.refl inner
  · exact enter _ _ _

variable [CounterArith]

theorem tasks (h : Frame R) : TaskFrame (fun _ _ => True) R where
  refl := h.refl
  trans := h.trans
  modifyAgent inner agentId f _ := h.modifyAgent inner agentId f
  project _ _ _ := h.project _ _ _ _ _
  removal _ _ := trivial

theorem applyEvent (h : Frame R) (inner : StoreInner C) (envelope : EventEnvelope) :
    R ((ControlPlane.ensureAgent inner envelope).modifyAgent envelope.agent.agentId
        (touchAgent envelope))
      (applyEvent inner envelope) := by
  unfold ControlPlane.applyEvent
  dsimp only
  cases envelope.event with
  | agentRegistered registration => exact h.modifyAgent _ _ _
  | heartbeat heartbeat => exact h.modifyAgent _ _ _
  | goalDeclared goal => exact h.trans (h.project _ _ _ _ _) (h.modifyAgent _ _ _)
  | taskCreated spec => exact h.tasks.applyTaskCreated _ _ _
  | taskStarted started => exact h.tasks.execute _ _ _ _ _ _ fun _ _ => trivial
  | progressUpdated progress => exact h.tasks.execute _ _ _ _ _ _ fun _ _ => trivial
  | reflectionRecorded reflection =>
    exact h.tasks.applyReflectionRecorded _ _ _ fun _ => trivial
  | lessonLearned lesson => exact h.project _ _ _ _ _
  | errorObserved error => exact h.tasks.applyErrorObserved _ _ _ fun _ => trivial
  | taskCompleted completed => exact h.tasks.execute _ _ _ _ _ _ fun _ _ => trivial
  | agentStatusChanged change => exact h.modifyAgent _ _ _

theorem event (h : Frame R)
    (enter : ∀ inner agents evictions, R inner { inner with agents, evictions })
    (inner : StoreInner C) (envelope : EventEnvelope) :
    R inner (ControlPlane.applyEvent inner envelope) := by
  have htouched := h.trans (h.ensureAgent enter inner envelope)
    (h.modifyAgent _ envelope.agent.agentId (touchAgent envelope))
  exact h.trans htouched (h.applyEvent inner envelope)

end Frame

end ControlPlane
