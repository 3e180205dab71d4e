import ControlPlane.Store.History
import ControlPlane.Store.Isolation

/-! What an event writes apart from tasks: its agent's status, active task, session, latest
reflection and latest error, a declared goal, a learned lesson. -/

namespace ControlPlane

open LruCache (peek push modify)

inductive AgentField
  | status
  | activeTaskId
  | sessionId
  | latestReflection
  | latestError
  deriving DecidableEq, Repr

namespace AgentField

def Value : AgentField → Type
  | status => AgentStatus
  | activeTaskId => Option String
  | sessionId => Option String
  | latestReflection => Option Reflection
  | latestError => Option ErrorObservation

def get : (field : AgentField) → AgentState → field.Value
  | status, agent => agent.status
  | activeTaskId, agent => agent.activeTaskId
  | sessionId, agent => agent.sessionId
  | latestReflection, agent => agent.latestReflection
  | latestError, agent => agent.latestError

def initial : (field : AgentField) → field.Value
  | status => AgentStatus.idle
  | activeTaskId => (none : Option String)
  | sessionId => (none : Option String)
  | latestReflection => (none : Option Reflection)
  | latestError => (none : Option ErrorObservation)

end AgentField

def statusOfBucket : CompletionBucket → AgentStatus
  | .completed => .completed
  | .failed => .failed

def AgentEvent.writesStatus (event : AgentEvent) (found : AgentStatus) (applied : Bool) :
    Option AgentStatus :=
  match event with
  | agentRegistered registration => if found = .idle then some registration.status else none
  | heartbeat beat => beat.status
  | goalDeclared _ => if found = .idle ∨ found = .planning then some .planning else none
  | taskStarted _ => if applied then some .running else none
  | progressUpdated progress =>
    if applied then some (if progress.blocker.isSome then .blocked else .running) else none
  | errorObserved _ => some .blocked
  | taskCompleted completed =>
    if applied then some (statusOfBucket (completionBucket completed.outcome)) else none
  | agentStatusChanged change => some change.status
  | _ => none

def AgentEvent.writesActiveTaskId (event : AgentEvent) (applied : Bool) :
    Option (Option String) :=
  match event with
  | heartbeat beat => if beat.activeTaskId.isSome then some beat.activeTaskId else none
  | taskStarted started => if applied then some (some started.taskId) else none
  | progressUpdated progress => if applied then some (some progress.taskId) else none
  | taskCompleted _ => if applied then some none else none
  | _ => none

def EventEnvelope.touches (envelope : EventEnvelope) : (field : AgentField) → Option field.Value
  | .sessionId => if envelope.sessionId.isSome then some envelope.sessionId else none
  | _ => none

def AgentEvent.writesReflection : AgentEvent → Option (Option Reflection)
  | reflectionRecorded reflection => some (some reflection)
  | _ => none

def AgentEvent.writesError : AgentEvent → Option (Option ErrorObservation)
  | errorObserved error => some (some error)
  | _ => none

def AgentEvent.writes (event : AgentEvent) (found : AgentStatus) (applied : Bool) :
    (field : AgentField) → Option field.Value
  | .status => event.writesStatus found applied
  | .activeTaskId => event.writesActiveTaskId applied
  | .sessionId => none
  | .latestReflection => event.writesReflection
  | .latestError => event.writesError

theorem AgentEvent.writes_taskCreated (spec : TaskSpec) (found : AgentStatus) (applied : Bool)
    (field : AgentField) : (taskCreated spec).writes found applied field = none := by
  cases field <;> rfl

theorem AgentEvent.writes_lessonLearned (lesson : Lesson) (found : AgentStatus) (applied : Bool)
    (field : AgentField) : (lessonLearned lesson).writes found applied field = none := by
  cases field <;> rfl

theorem getD_ite_some {α : Type} {p : Prop} [Decidable p] (value old : α) :
    (if p then some value else none).getD old = if p then value else old := by
  split <;> rfl

theorem registered_writes (field : AgentField) (agent : AgentState) (occurredAt : DateTime)
    (registration : AgentRegistration) (applied : Bool) :
    field.get { agent with
      displayName := registration.displayName
      capabilities := registration.capabilities
      metadata := registration.metadata
      status := if agent.status = .idle then registration.status else agent.status
      registeredAt := min agent.registeredAt occurredAt } =
      ((AgentEvent.agentRegistered registration).writes agent.status applied field).getD
        (field.get agent) := by
  cases field with
  | status => exact (getD_ite_some registration.status agent.status).symm
  | _ => rfl

theorem heartbeat_writes (field : AgentField) (agent : AgentState) (beat : Heartbeat)
    (found : AgentStatus) (applied : Bool) :
    field.get { agent with
      status := beat.status.getD agent.status
      activeTaskId := if beat.activeTaskId.isSome then beat.activeTaskId else agent.activeTaskId } =
      ((AgentEvent.heartbeat beat).writes found applied field).getD (field.get agent) := by
  cases field with
  | activeTaskId => exact (getD_ite_some beat.activeTaskId agent.activeTaskId).symm
  | _ => rfl

theorem declared_writes (field : AgentField) (agent : AgentState) (goal : Goal) (applied : Bool) :
    field.get { agent with
      currentGoalId := some goal.goalId
      status := if agent.status = .idle ∨ agent.status = .planning then .planning
        else agent.status } =
      ((AgentEvent.goalDeclared goal).writes agent.status applied field).getD
        (field.get agent) := by
  cases field with
  | status => exact (getD_ite_some AgentStatus.planning agent.status).symm
  | _ => rfl

section Fields

variable {C : Type → Type → Type} [LruCache C]

def StoreInner.field (inner : StoreInner C) (agentId : String) (field : AgentField) :
    Option field.Value :=
  (peek inner.agents agentId).map field.get

def StoreInner.foundStatus (inner : StoreInner C) (agentId : String) : AgentStatus :=
  ((peek inner.agents agentId).map AgentState.status).getD .idle

def StoreInner.applies (inner : StoreInner C) (envelope : EventEnvelope) : Bool :=
  match envelope.event.reducedTask with
  | some taskId =>
    decide (((peek inner.tasks (envelope.taskKey taskId)).getD (inferredTask taskId
      envelope.agent.agentId envelope.occurredAt)).updatedAt ≤ envelope.occurredAt)
  | none => false

variable [LawfulLruCache C] {inner : StoreInner C} {agentId : String}

theorem field_modifyAgent (inner : StoreInner C) (agentId : String)
    (f : AgentState → AgentState) (x : String) (field : AgentField) :
    (inner.modifyAgent agentId f).field x field =
      if x = agentId then (peek inner.agents x).map fun agent => field.get (f agent)
      else inner.field x field := by
  unfold StoreInner.field StoreInner.modifyAgent
  rw [LruCache.peek_modify]
  split
  · rw [Option.map_map]
    rfl
  · rfl

theorem field_modifyAgent_getD {f : AgentState → AgentState} {field : AgentField}
    {write : Option field.Value} (hf : ∀ agent, peek inner.agents agentId = some agent →
      field.get (f agent) = write.getD (field.get agent)) (x : String) :
    (inner.modifyAgent agentId f).field x field =
      (inner.field x field).map fun old => if x = agentId then write.getD old else old := by
  rw [field_modifyAgent]
  split
  · next hx =>
    cases hx
    unfold StoreInner.field
    cases ha : peek inner.agents agentId with
    | none => rfl
    | some agent => simp [hf agent ha]
  · simp

theorem field_modifyAgent_of_get {f : AgentState → AgentState} {field : AgentField}
    (hf : ∀ agent, field.get (f agent) = field.get agent) (x : String) :
    (inner.modifyAgent agentId f).field x field = inner.field x field := by
  have hnone : (inner.modifyAgent agentId f).field x field =
      (inner.field x field).map fun old => if x = agentId then none.getD old else old :=
    field_modifyAgent_getD (fun agent _ => hf agent) x
  rw [hnone]
  simp

section Tasks

variable [CounterArith]

theorem get_removeCompletionCounter (field : AgentField) (agent : AgentState)
    (outcome : Option TaskOutcome) :
    field.get (removeCompletionCounter agent outcome) = field.get agent := by
  unfold removeCompletionCounter
  cases outcome.map completionBucket with
  | none => rfl
  | some bucket => cases bucket <;> cases field <;> rfl

theorem field_insertTask (inner : StoreInner C) (key : ScopedId) (state : TaskState) (x : String)
    (field : AgentField) : (insertTask inner key state).field x field = inner.field x field := by
  unfold insertTask
  dsimp only
  split
  · next evicted _ =>
    exact field_modifyAgent_of_get
      (fun agent => get_removeCompletionCounter field agent evicted.outcome) x
  · rfl

theorem field_ensureTask (inner : StoreInner C) (taskId owner : String) (occurredAt : DateTime)
    (x : String) (field : AgentField) :
    (ensureTask inner taskId owner occurredAt).field x field = inner.field x field := by
  unfold ensureTask
  dsimp only
  split
  · rfl
  · exact field_insertTask _ _ _ _ _

omit [LawfulLruCache C] [CounterArith] in
theorem field_writeTask (inner : StoreInner C) (key : ScopedId) (occurredAt : DateTime)
    (update : TaskState → TaskState) (x : String) (field : AgentField) :
    (writeTask inner key occurredAt update).1.field x field = inner.field x field := by
  unfold writeTask
  split
  · split <;> rfl
  · rfl

theorem field_execute (inner : StoreInner C) (taskId agentId : String) (occurredAt : DateTime)
    (update : TaskState → TaskState) {f : TaskState → AgentState → AgentState}
    (field : AgentField) (write : Bool → Option field.Value)
    (happlied : ∀ previous agent, field.get (f previous agent) =
      (write true).getD (field.get agent))
    (hstale : write false = none) (x : String) :
    let written := writeTask (ensureTask inner taskId agentId occurredAt) ⟨agentId, taskId⟩
      occurredAt update
    let applied := decide (((peek inner.tasks ⟨agentId, taskId⟩).getD
      (inferredTask taskId agentId occurredAt)).updatedAt ≤ occurredAt)
    (match written.2 with
      | some previous => written.1.modifyAgent agentId (f previous)
      | none => written.1).field x field =
      (inner.field x field).map fun old =>
        if x = agentId then (write applied).getD old else old := by
  intro written applied
  have hself := peek_ensureTask_self inner taskId agentId occurredAt
  obtain ⟨set, -, heq⟩ := writeTask_cases _ _ occurredAt update hself
  have hbefore : written.1.field x field = inner.field x field := by
    rw [field_writeTask, field_ensureTask]
  by_cases happ : ((peek inner.tasks ⟨agentId, taskId⟩).getD
      (inferredTask taskId agentId occurredAt)).updatedAt ≤ occurredAt
  · have hsome : ∃ previous, written.2 = some previous := by
      dsimp only [written]
      rw [heq, if_pos happ]
      exact ⟨_, rfl⟩
    obtain ⟨previous, hprevious⟩ := hsome
    have htrue : applied = true := decide_eq_true happ
    rw [hprevious, htrue, ← hbefore]
    exact field_modifyAgent_getD (fun agent _ => happlied previous agent) x
  · have hnone : written.2 = none := by
      dsimp only [written]
      rw [heq, if_neg happ]
    have hfalse : applied = false := decide_eq_false happ
    rw [hnone, hfalse, hstale, ← hbefore]
    simp

theorem field_annotate (inner : StoreInner C) (taskId : Option String) (agentId : String)
    (occurredAt : DateTime) (update : TaskState → TaskState) (x : String) (field : AgentField) :
    (match taskId with
      | some taskId => (writeTask (ensureTask inner taskId agentId occurredAt) ⟨agentId, taskId⟩
          occurredAt update).1
      | none => inner).field x field = inner.field x field := by
  cases taskId with
  | none => rfl
  | some taskId => rw [field_writeTask, field_ensureTask]

theorem started_writes (field : AgentField) (previous : TaskState) (agent : AgentState)
    (started : TaskStarted) (found : AgentStatus) :
    field.get { removeCompletionCounter agent previous.outcome with
      status := .running
      activeTaskId := some started.taskId } =
      ((AgentEvent.taskStarted started).writes found true field).getD (field.get agent) := by
  have hkept := get_removeCompletionCounter field agent previous.outcome
  cases field with
  | status => rfl
  | activeTaskId => rfl
  | _ => exact hkept

theorem progress_writes (field : AgentField) (previous : TaskState) (agent : AgentState)
    (progress : ProgressUpdate) (found : AgentStatus) :
    field.get { removeCompletionCounter agent previous.outcome with
      status := if progress.blocker.isSome then .blocked else .running
      activeTaskId := some progress.taskId } =
      ((AgentEvent.progressUpdated progress).writes found true field).getD (field.get agent) := by
  have hkept := get_removeCompletionCounter field agent previous.outcome
  cases field with
  | status => rfl
  | activeTaskId => rfl
  | _ => exact hkept

theorem completed_writes (field : AgentField) (previous : TaskState) (agent : AgentState)
    (completed : TaskCompleted) (found : AgentStatus) :
    field.get (reconcileCompletionCounters { agent with activeTaskId := none } previous.outcome
      completed.outcome) =
      ((AgentEvent.taskCompleted completed).writes found true field).getD (field.get agent) := by
  have hkept := get_removeCompletionCounter field { agent with activeTaskId := none }
    previous.outcome
  unfold reconcileCompletionCounters
  dsimp only
  cases field with
  | status =>
    change _ = statusOfBucket (completionBucket completed.outcome)
    cases completionBucket completed.outcome <;> rfl
  | _ =>
    split
    · cases completionBucket completed.outcome <;> exact hkept
    · rfl

omit [LawfulLruCache C] [CounterArith] in
theorem foundStatus_of_peek {agent : AgentState} (h : peek inner.agents agentId = some agent) :
    inner.foundStatus agentId = agent.status := by
  rw [StoreInner.foundStatus, h]
  rfl

theorem field_applyTaskCreated (touched : StoreInner C) (envelope : EventEnvelope)
    (spec : TaskSpec) (x : String) (field : AgentField) :
    (applyTaskCreated touched envelope spec).field x field = touched.field x field := by
  unfold applyTaskCreated
  dsimp only
  split
  · rfl
  · exact field_insertTask _ _ _ _ _

omit [LawfulLruCache C] [CounterArith] in
theorem applies_of_reducedTask {envelope : EventEnvelope} {event : AgentEvent} {taskId : String}
    (he : envelope.event = event) (ht : event.reducedTask = some taskId) :
    inner.applies envelope =
      decide (((peek inner.tasks ⟨envelope.agent.agentId, taskId⟩).getD (inferredTask taskId
        envelope.agent.agentId envelope.occurredAt)).updatedAt ≤ envelope.occurredAt) := by
  rw [← he] at ht
  simp only [StoreInner.applies, ht, EventEnvelope.taskKey]
  rfl

theorem field_arm (touched : StoreInner C) (envelope : EventEnvelope) (x : String)
    (field : AgentField) :
    let agentId := envelope.agent.agentId
    (match envelope.event with
      | .agentRegistered registration => applyAgentRegistered touched envelope registration
      | .heartbeat heartbeat => applyHeartbeat touched envelope heartbeat
      | .goalDeclared goal => applyGoalDeclared touched envelope goal
      | .taskCreated task => applyTaskCreated touched envelope task
      | .taskStarted started => applyTaskStarted touched envelope started
      | .progressUpdated progress => applyProgressUpdated touched envelope progress
      | .reflectionRecorded reflection => applyReflectionRecorded touched envelope reflection
      | .lessonLearned lesson => applyLessonLearned touched envelope lesson
      | .errorObserved error => applyErrorObserved touched envelope error
      | .taskCompleted completed => applyTaskCompleted touched envelope completed
      | .agentStatusChanged change => applyAgentStatusChanged touched envelope change).field x
        field =
      (touched.field x field).map fun old => if x = agentId then
        (envelope.event.writes (touched.foundStatus agentId) (touched.applies envelope)
          field).getD old
      else old := by
  intro agentId
  cases he : envelope.event with
  | agentRegistered registration =>
    refine field_modifyAgent_getD (fun agent ha => ?_) x
    rw [foundStatus_of_peek ha]
    exact registered_writes field agent envelope.occurredAt registration _
  | heartbeat beat =>
    exact field_modifyAgent_getD (fun agent _ => heartbeat_writes field agent beat _ _) x
  | goalDeclared goal =>
    unfold applyGoalDeclared
    dsimp only
    refine field_modifyAgent_getD (fun agent ha => ?_) x
    have hfound : touched.foundStatus agentId = agent.status := foundStatus_of_peek ha
    rw [hfound]
    exact declared_writes field agent goal _
  | taskCreated spec =>
    rw [field_applyTaskCreated, AgentEvent.writes_taskCreated]
    simp
  | lessonLearned lesson =>
    rw [AgentEvent.writes_lessonLearned]
    simp only [Option.getD_none, ite_self, Option.map_id']
    rfl
  | taskStarted started =>
    rw [applies_of_reducedTask he rfl]
    exact field_execute touched started.taskId agentId envelope.occurredAt _ field
      (fun applied => (AgentEvent.taskStarted started).writes _ applied field)
      (fun previous agent => started_writes field previous agent started _)
      (by cases field <;> rfl) x
  | progressUpdated progress =>
    rw [applies_of_reducedTask he rfl]
    exact field_execute touched progress.taskId agentId envelope.occurredAt _ field
      (fun applied => (AgentEvent.progressUpdated progress).writes _ applied field)
      (fun previous agent => progress_writes field previous agent progress _)
      (by cases field <;> rfl) x
  | taskCompleted completed =>
    rw [applies_of_reducedTask he rfl]
    exact field_execute touched completed.taskId agentId envelope.occurredAt _ field
      (fun applied => (AgentEvent.taskCompleted completed).writes _ applied field)
      (fun previous agent => completed_writes field previous agent completed _)
      (by cases field <;> rfl) x
  | reflectionRecorded reflection =>
    unfold applyReflectionRecorded
    dsimp only
    rw [← field_annotate touched reflection.taskId agentId envelope.occurredAt
      (fun task => task.reflect reflection envelope.occurredAt) x field]
    refine field_modifyAgent_getD (fun agent _ => ?_) x
    cases field <;> rfl
  | errorObserved error =>
    unfold applyErrorObserved
    dsimp only
    rw [← field_annotate touched error.taskId agentId envelope.occurredAt
      (fun task => task.fault error envelope.occurredAt) x field]
    refine field_modifyAgent_getD (fun agent _ => ?_) x
    cases field <;> rfl
  | agentStatusChanged change =>
    refine field_modifyAgent_getD (fun agent _ => ?_) x
    cases field <;> rfl

/-- What the whole event does to them, seen from the store in which the agent is present. -/
def EventEnvelope.writesField (envelope : EventEnvelope) (found : AgentStatus) (applied : Bool)
    (field : AgentField) : Option field.Value :=
  (envelope.event.writes found applied field).or (envelope.touches field)

omit [CounterArith] in
theorem field_touched (inner : StoreInner C) (envelope : EventEnvelope) (x : String)
    (field : AgentField) :
    (inner.modifyAgent envelope.agent.agentId (touchAgent envelope)).field x field =
      (inner.field x field).map fun old =>
        if x = envelope.agent.agentId then (envelope.touches field).getD old else old := by
  refine field_modifyAgent_getD (fun agent _ => ?_) x
  cases field with
  | sessionId =>
    exact (getD_ite_some envelope.sessionId agent.sessionId).symm
  | _ => rfl

omit [CounterArith] in
theorem field_ensureAgent_of_ne (inner : StoreInner C) (envelope : EventEnvelope) {x : String}
    (hx : x ≠ envelope.agent.agentId) (field : AgentField)
    (hkept : (peek (ensureAgent inner envelope).agents x).isSome) :
    (ensureAgent inner envelope).field x field = inner.field x field := by
  unfold StoreInner.field
  unfold ensureAgent at hkept ⊢
  dsimp only at hkept ⊢
  split
  · rfl
  · next habsent =>
    rw [if_neg habsent] at hkept
    obtain ⟨agent, ha⟩ := Option.isSome_iff_exists.1 hkept
    rw [pushWithEviction_fst] at ha
    rw [pushWithEviction_fst, ha, LruCache.peek_of_peek_push hx ha]

omit [CounterArith] in
theorem field_ensureAgent_self (inner : StoreInner C) (envelope : EventEnvelope)
    (field : AgentField) :
    ((ensureAgent inner envelope).field envelope.agent.agentId field).map
        (fun old => (envelope.touches field).getD old) =
      some ((envelope.touches field).getD
        ((inner.field envelope.agent.agentId field).getD field.initial)) := by
  unfold ensureAgent
  dsimp only
  split
  · next hpresent =>
    obtain ⟨agent, ha⟩ := Option.isSome_iff_exists.1 hpresent
    simp [StoreInner.field, ha]
  · next habsent =>
    have hnone : peek inner.agents envelope.agent.agentId = none := by simpa using habsent
    unfold StoreInner.field
    rw [pushWithEviction_fst, LruCache.peek_push_self, hnone]
    cases field with
    | sessionId =>
      -- A new agent takes the session of its event, or none.
      simp only [Option.map_some, Option.some.injEq, EventEnvelope.touches]
      change Option.getD _ envelope.sessionId = Option.getD _ none
      cases envelope.sessionId <;> rfl
    | _ => rfl

omit [CounterArith] in
theorem field_touched_self (inner : StoreInner C) (envelope : EventEnvelope)
    (field : AgentField) :
    ((ensureAgent inner envelope).modifyAgent envelope.agent.agentId
        (touchAgent envelope)).field envelope.agent.agentId field =
      some ((envelope.touches field).getD
        ((inner.field envelope.agent.agentId field).getD field.initial)) := by
  rw [field_touched, ← field_ensureAgent_self]
  simp only [if_true]

theorem field_applyEvent_self (inner : StoreInner C) (envelope : EventEnvelope)
    (field : AgentField) :
    (applyEvent inner envelope).field envelope.agent.agentId field =
      some ((envelope.writesField (inner.foundStatus envelope.agent.agentId)
        (inner.applies envelope) field).getD
          ((inner.field envelope.agent.agentId field).getD field.initial)) := by
  have hfound : ((ensureAgent inner envelope).modifyAgent envelope.agent.agentId
      (touchAgent envelope)).foundStatus envelope.agent.agentId =
        inner.foundStatus envelope.agent.agentId :=
    (congrArg (fun found : Option AgentStatus => found.getD .idle)
      (field_touched_self inner envelope .status)).trans rfl
  have happlies : ((ensureAgent inner envelope).modifyAgent envelope.agent.agentId
      (touchAgent envelope)).applies envelope = inner.applies envelope := by
    unfold StoreInner.applies
    rw [modifyAgent_tasks, ensureAgent_tasks]
  refine (field_arm _ envelope envelope.agent.agentId field).trans ?_
  rw [field_touched_self, hfound, happlies, Option.map_some, if_pos rfl, EventEnvelope.writesField,
    Option.getD_or]

theorem field_applyEvent_of_ne (inner : StoreInner C) (envelope : EventEnvelope) {x : String}
    (hx : x ≠ envelope.agent.agentId) (field : AgentField)
    (hkept : ((applyEvent inner envelope).field x field).isSome) :
    (applyEvent inner envelope).field x field = inner.field x field := by
  have harm : (applyEvent inner envelope).field x field =
      (ensureAgent inner envelope).field x field := by
    refine (field_arm _ envelope x field).trans ?_
    rw [field_touched]
    simp [hx]
  rw [harm] at hkept ⊢
  refine field_ensureAgent_of_ne inner envelope hx field ?_
  rwa [StoreInner.field, Option.isSome_map] at hkept

end Tasks

end Fields

section Declarations

variable {C : Type → Type → Type} [LruCache C]

@[simp] theorem ensureAgent_goals (inner : StoreInner C) (envelope : EventEnvelope) :
    (ensureAgent inner envelope).goals = inner.goals := by
  unfold ensureAgent
  dsimp only
  split <;> rfl

@[simp] theorem ensureAgent_lessons (inner : StoreInner C) (envelope : EventEnvelope) :
    (ensureAgent inner envelope).lessons = inner.lessons := by
  unfold ensureAgent
  dsimp only
  split <;> rfl

structure KeepsDeclarations (before after : StoreInner C) : Prop where
  goals : after.goals = before.goals
  lessons : after.lessons = before.lessons

variable [CounterArith]

namespace KeepsDeclarations

omit [LruCache C] [CounterArith] in
theorem trans {a b c : StoreInner C} (h : KeepsDeclarations a b) (h' : KeepsDeclarations b c) :
    KeepsDeclarations a c :=
  ⟨h'.goals.trans h.goals, h'.lessons.trans h.lessons⟩

theorem frame : TaskFrame (fun _ _ => True)
    (KeepsDeclarations : StoreInner C → StoreInner C → Prop) where
  refl _ := ⟨rfl, rfl⟩
  trans := trans
  modifyAgent _ _ _ _ := ⟨rfl, rfl⟩
  project _ _ _ := ⟨rfl, rfl⟩
  removal _ _ := trivial

theorem applyEvent (inner : StoreInner C) {envelope : EventEnvelope}
    (hgoal : ∀ goal, envelope.event ≠ .goalDeclared goal)
    (hlesson : ∀ lesson, envelope.event ≠ .lessonLearned lesson) :
    KeepsDeclarations inner (applyEvent inner envelope) := by
  have htouched : KeepsDeclarations inner ((ensureAgent inner envelope).modifyAgent
      envelope.agent.agentId (touchAgent envelope)) :=
    ⟨ensureAgent_goals inner envelope, ensureAgent_lessons inner envelope⟩
  refine htouched.trans ?_
  unfold ControlPlane.applyEvent
  dsimp only
  cases he : envelope.event with
  | goalDeclared goal => exact absurd he (hgoal goal)
  | lessonLearned lesson => exact absurd he (hlesson lesson)
  | taskStarted started => exact frame.execute _ _ _ _ _ _ fun _ _ => trivial
  | progressUpdated progress => exact frame.execute _ _ _ _ _ _ fun _ _ => trivial
  | taskCompleted completed => exact frame.execute _ _ _ _ _ _ fun _ _ => trivial
  | taskCreated spec => exact frame.applyTaskCreated _ _ _
  | reflectionRecorded reflection =>
    exact frame.applyReflectionRecorded _ _ _ fun _ => trivial
  | errorObserved error => exact frame.applyErrorObserved _ _ _ fun _ => trivial
  | _ => exact ⟨rfl, rfl⟩

end KeepsDeclarations

theorem goals_of_declared (inner : StoreInner C) {envelope : EventEnvelope} {goal : Goal}
    (he : envelope.event = .goalDeclared goal) :
    (applyEvent inner envelope).goals = (push inner.goals ⟨envelope.agent.agentId, goal.goalId⟩
      ⟨goal, envelope.agent.agentId, envelope.occurredAt⟩).1 := by
  unfold applyEvent
  simp only [he, applyGoalDeclared, StoreInner.modifyAgent, ensureAgent_goals,
    pushWithEviction_fst]

theorem lessons_of_learned (inner : StoreInner C) {envelope : EventEnvelope} {lesson : Lesson}
    (he : envelope.event = .lessonLearned lesson) :
    ∃ observations, (applyEvent inner envelope).lessons =
      (push inner.lessons ⟨envelope.agent.agentId, lesson.lessonId⟩
        ⟨lesson, envelope.agent.agentId, envelope.occurredAt, observations⟩).1 := by
  unfold applyEvent
  simp only [he, applyLessonLearned, StoreInner.modifyAgent, ensureAgent_lessons,
    pushWithEviction_fst]
  exact ⟨_, rfl⟩

end Declarations

end ControlPlane
