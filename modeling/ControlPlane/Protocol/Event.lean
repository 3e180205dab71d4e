import ControlPlane.Lib.BTree
import ControlPlane.Lib.Machine

/-! The canonical event envelope and its validation. -/

namespace ControlPlane

def PROTOCOL_VERSION : String := "v1"

inductive Transport
  | http
  | webSocket
  | tcp
  | udp
  deriving DecidableEq, Repr

def Transport.asStr : Transport → String
  | .http => "http"
  | .webSocket => "websocket"
  | .tcp => "tcp"
  | .udp => "udp"

structure AgentRef where
  agentId : String
  provider : String
  model : String
  instanceId : Option String
  deriving DecidableEq, Repr

inductive AgentStatus
  | idle
  | planning
  | running
  | waiting
  | blocked
  | completed
  | failed
  | offline
  deriving DecidableEq, Repr

inductive TaskOutcome
  | succeeded
  | failed
  | canceled
  | partially
  deriving DecidableEq, Repr

structure AgentRegistration where
  displayName : String
  capabilities : List String
  metadata : BTreeMap String String
  status : AgentStatus

structure Heartbeat where
  status : Option AgentStatus
  activeTaskId : Option String
  load : Option F32
  deriving DecidableEq, Repr

structure Goal where
  goalId : String
  title : String
  successCriteria : List String
  constraints : List String
  parentGoalId : Option String
  deriving DecidableEq, Repr

structure TaskSpec where
  taskId : String
  title : String
  goalId : Option String
  dependsOn : List String
  tags : List String
  expectedOutcome : Option String
  deriving DecidableEq, Repr

structure TaskStarted where
  taskId : String
  attempt : Nat
  planSummary : Option String
  deriving DecidableEq, Repr

structure ProgressUpdate where
  taskId : String
  progress : F32
  summary : String
  blocker : Option String
  nextAction : Option String
  deriving DecidableEq, Repr

structure EvidenceReference where
  kind : String
  reference : String
  summary : Option String
  deriving DecidableEq, Repr

structure Reflection where
  taskId : Option String
  summary : String
  confidence : F32
  assumptions : List String
  evidence : List EvidenceReference
  alternativesConsidered : List String
  risks : List String
  nextAction : Option String
  deriving DecidableEq, Repr

structure Lesson where
  lessonId : String
  statement : String
  confidence : F32
  sourceTaskId : Option String
  evidence : List EvidenceReference
  tags : List String
  applicability : Option String
  deriving DecidableEq, Repr

structure ErrorObservation where
  taskId : Option String
  code : String
  message : String
  recoverable : Bool
  proposedRecovery : Option String
  deriving DecidableEq, Repr

structure TaskCompleted where
  taskId : String
  outcome : TaskOutcome
  summary : String
  artifacts : List String
  actualResult : Option String
  deriving DecidableEq, Repr

structure StatusChange where
  status : AgentStatus
  reason : Option String
  deriving DecidableEq, Repr

inductive AgentEvent
  | agentRegistered (registration : AgentRegistration)
  | heartbeat (heartbeat : Heartbeat)
  | goalDeclared (goal : Goal)
  | taskCreated (task : TaskSpec)
  | taskStarted (started : TaskStarted)
  | progressUpdated (progress : ProgressUpdate)
  | reflectionRecorded (reflection : Reflection)
  | lessonLearned (lesson : Lesson)
  | errorObserved (error : ErrorObservation)
  | taskCompleted (completed : TaskCompleted)
  | agentStatusChanged (change : StatusChange)

structure EventEnvelope where
  protocolVersion : String
  eventId : Uuid
  occurredAt : DateTime
  agent : AgentRef
  sessionId : Option String
  correlationId : Option String
  sequence : Option Nat
  event : AgentEvent

namespace AgentEvent

def kind : AgentEvent → String
  | agentRegistered _ => "agent_registered"
  | heartbeat _ => "heartbeat"
  | goalDeclared _ => "goal_declared"
  | taskCreated _ => "task_created"
  | taskStarted _ => "task_started"
  | progressUpdated _ => "progress_updated"
  | reflectionRecorded _ => "reflection_recorded"
  | lessonLearned _ => "lesson_learned"
  | errorObserved _ => "error_observed"
  | taskCompleted _ => "task_completed"
  | agentStatusChanged _ => "agent_status_changed"

def taskId : AgentEvent → Option String
  | taskCreated value => some value.taskId
  | taskStarted value => some value.taskId
  | progressUpdated value => some value.taskId
  | reflectionRecorded value => value.taskId
  | lessonLearned value => value.sourceTaskId
  | errorObserved value => value.taskId
  | taskCompleted value => some value.taskId
  | agentRegistered _ | heartbeat _ | goalDeclared _ | agentStatusChanged _ => none

def allowedOverUdp : AgentEvent → Bool
  | heartbeat _ | progressUpdated _ | reflectionRecorded _ | errorObserved _
  | agentStatusChanged _ => true
  | _ => false

end AgentEvent

namespace EventEnvelope

def kind (envelope : EventEnvelope) : String := envelope.event.kind

def taskId (envelope : EventEnvelope) : Option String := envelope.event.taskId

end EventEnvelope

inductive ValidationError
  | unsupportedProtocol (received : String)
  | nilEventId
  | emptyText (field : String)
  | textTooLong (field : String) (maximum : Nat)
  | tooManyValues (field : String) (maximum : Nat)
  | invalidUnitInterval (field : String)
  | invalidAttempt
  deriving DecidableEq, Repr

def ValidationError.display : ValidationError → String
  | unsupportedProtocol received => "unsupported protocol version: " ++ received
  | nilEventId => "event_id must not be nil"
  | emptyText field => field ++ " must not be empty"
  | textTooLong field maximum => field ++ " exceeds its " ++ toString maximum ++ "-byte limit"
  | tooManyValues field maximum =>
    field ++ " contains more than " ++ toString maximum ++ " values"
  | invalidUnitInterval field => field ++ " must be a finite number between 0 and 1"
  | invalidAttempt => "task attempts start at 1"

abbrev Validation := Except ValidationError Unit

/-- The characters `str::trim` removes: the Unicode property White_Space. -/
def isWhitespace (c : Char) : Bool :=
  let n := c.toNat
  (0x9 ≤ n && n ≤ 0xD) || n == 0x20 || n == 0x85 || n == 0xA0 || n == 0x1680 ||
    (0x2000 ≤ n && n ≤ 0x200A) || n == 0x2028 || n == 0x2029 || n == 0x202F || n == 0x205F ||
    n == 0x3000

def validateText (field : String) (value : String) (maximum : Nat) : Validation :=
  if value.toList.all isWhitespace then .error (.emptyText field)
  else if maximum < value.utf8ByteSize then .error (.textTooLong field maximum)
  else .ok ()

def validateOptionalText (field : String) (value : Option String) (maximum : Nat) : Validation :=
  match value with
  | some value => validateText field value maximum
  | none => .ok ()

def validateMetadata (values : BTreeMap String String) : Validation := do
  if 128 < values.size then throw (.tooManyValues "metadata" 128)
  values.toList.forM fun (key, value) => do
    validateText "metadata.key" key 128
    validateText "metadata.value" value 2048

def validateStringList (field : String) (values : List String) (maximumValues maximumLength : Nat) :
    Validation := do
  if maximumValues < values.length then throw (.tooManyValues field maximumValues)
  values.forM fun value => validateText field value maximumLength

def validateUnitInterval (field : String) (value : F32) : Validation :=
  if value.isFinite && F32.zero.le value && value.le F32.one then .ok ()
  else .error (.invalidUnitInterval field)

def validateOptionalUnitInterval (field : String) (value : Option F32) : Validation :=
  match value with
  | some value => validateUnitInterval field value
  | none => .ok ()

def EvidenceReference.validate (reference : EvidenceReference) : Validation := do
  validateText "evidence.kind" reference.kind 128
  validateText "evidence.reference" reference.reference 4096
  validateOptionalText "evidence.summary" reference.summary 4096

def validateEvidence (field : String) (evidence : List EvidenceReference) : Validation := do
  if 128 < evidence.length then throw (.tooManyValues field 128)
  evidence.forM EvidenceReference.validate

def Goal.validate (goal : Goal) : Validation := do
  validateText "goal_id" goal.goalId 256
  validateText "goal.title" goal.title 2048
  validateStringList "success_criteria" goal.successCriteria 64 2048
  validateStringList "constraints" goal.constraints 64 2048
  validateOptionalText "parent_goal_id" goal.parentGoalId 256

def TaskSpec.validate (task : TaskSpec) : Validation := do
  validateText "task_id" task.taskId 256
  validateText "task.title" task.title 2048
  validateOptionalText "goal_id" task.goalId 256
  validateStringList "depends_on" task.dependsOn 128 256
  validateStringList "tags" task.tags 128 256
  validateOptionalText "expected_outcome" task.expectedOutcome 8192

def ProgressUpdate.validate (progress : ProgressUpdate) : Validation := do
  validateText "task_id" progress.taskId 256
  validateUnitInterval "progress" progress.progress
  validateText "progress.summary" progress.summary 16384
  validateOptionalText "blocker" progress.blocker 8192
  validateOptionalText "next_action" progress.nextAction 8192

def Reflection.validate (reflection : Reflection) : Validation := do
  validateOptionalText "task_id" reflection.taskId 256
  validateText "reflection.summary" reflection.summary 16384
  validateUnitInterval "confidence" reflection.confidence
  validateStringList "assumptions" reflection.assumptions 64 4096
  validateEvidence "evidence" reflection.evidence
  validateStringList "alternatives_considered" reflection.alternativesConsidered 64 4096
  validateStringList "risks" reflection.risks 64 4096
  validateOptionalText "next_action" reflection.nextAction 8192

def Lesson.validate (lesson : Lesson) : Validation := do
  validateText "lesson_id" lesson.lessonId 256
  validateText "lesson.statement" lesson.statement 16384
  validateUnitInterval "lesson.confidence" lesson.confidence
  validateOptionalText "source_task_id" lesson.sourceTaskId 256
  validateEvidence "lesson.evidence" lesson.evidence
  validateStringList "lesson.tags" lesson.tags 128 256
  validateOptionalText "lesson.applicability" lesson.applicability 8192

def ErrorObservation.validate (error : ErrorObservation) : Validation := do
  validateOptionalText "task_id" error.taskId 256
  validateText "error.code" error.code 256
  validateText "error.message" error.message 16384
  validateOptionalText "proposed_recovery" error.proposedRecovery 8192

def TaskCompleted.validate (completed : TaskCompleted) : Validation := do
  validateText "task_id" completed.taskId 256
  validateText "completion.summary" completed.summary 16384
  validateStringList "artifacts" completed.artifacts 256 4096
  validateOptionalText "actual_result" completed.actualResult 16384

def AgentEvent.validate : AgentEvent → Validation
  | agentRegistered value => do
    validateText "display_name" value.displayName 256
    validateStringList "capabilities" value.capabilities 128 256
    validateMetadata value.metadata
  | heartbeat value => do
    validateOptionalText "active_task_id" value.activeTaskId 256
    validateOptionalUnitInterval "load" value.load
  | goalDeclared value => value.validate
  | taskCreated value => value.validate
  | taskStarted value => do
    validateText "task_id" value.taskId 256
    if value.attempt = 0 then throw .invalidAttempt
    validateOptionalText "plan_summary" value.planSummary 8192
  | progressUpdated value => value.validate
  | reflectionRecorded value => value.validate
  | lessonLearned value => value.validate
  | errorObserved value => value.validate
  | taskCompleted value => value.validate
  | agentStatusChanged value => validateOptionalText "reason" value.reason 4096

def EventEnvelope.validate (envelope : EventEnvelope) : Validation := do
  if envelope.protocolVersion ≠ PROTOCOL_VERSION then
    throw (.unsupportedProtocol envelope.protocolVersion)
  if envelope.eventId.isNil then throw .nilEventId
  validateText "agent.agent_id" envelope.agent.agentId 256
  validateText "agent.provider" envelope.agent.provider 128
  validateText "agent.model" envelope.agent.model 256
  validateOptionalText "agent.instance_id" envelope.agent.instanceId 256
  validateOptionalText "session_id" envelope.sessionId 256
  validateOptionalText "correlation_id" envelope.correlationId 256
  envelope.event.validate

def EventEnvelope.isValid (envelope : EventEnvelope) : Bool :=
  match envelope.validate with
  | .ok () => true
  | .error _ => false

end ControlPlane
