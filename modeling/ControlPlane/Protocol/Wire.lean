import ControlPlane.Lib.Codec
import ControlPlane.Lib.Hex
import ControlPlane.Store.Consistency
import ControlPlane.Transport.Payload

/-! The types of the protocol in JSON, as their serde attributes have it. -/

namespace ControlPlane

open Serde (Value Codec Field Fields)

/-- The numbers of a JSON document, as the deserializer hands them over. -/
class WireNumber (N : Type) where
  ofNat : Nat → N
  /-- The number as a `u64`, if it is one. -/
  toU64 : N → Option Nat
  toU64_ofNat : ∀ {n : Nat}, n < 2 ^ 64 → toU64 (ofNat n) = some n
  ofF32 : F32 → N
  /-- The nearest `f32`, which is infinite for a number that is too large. -/
  toF32 : N → F32
  toF32_ofF32 : ∀ {x : F32}, x.isFinite = true → toF32 (ofF32 x) = x

class WireText where
  displayUuid : Uuid → String
  parseUuid : String → Option Uuid
  parse_displayUuid : ∀ id, parseUuid (displayUuid id) = some id
  /-- The instants that a text can name. -/
  IsInstant : DateTime → Prop
  displayInstant : DateTime → String
  parseInstant : String → Option DateTime
  parse_displayInstant : ∀ {t}, IsInstant t → parseInstant (displayInstant t) = some t
  isInstant_of_parse : ∀ {text t}, parseInstant text = some t → IsInstant t

namespace Wire

open WireNumber WireText

section Number

variable {N : Type} [WireNumber N]

def unsigned (bound : Nat) (hbound : bound ≤ 2 ^ 64) : Codec N Nat :=
  .scalar (fun n => .number (ofNat n))
    (fun | .number number => (toU64 number).filter (· < bound) | _ => none) (· < bound) (· < bound)
    (fun n => .number 0 (ofNat n))
    (by
      intro n hn
      simp only [toU64_ofNat (hn.trans_le hbound), Option.filter_some, decide_eq_true hn, if_true])
    (by
      intro written n h
      cases written with
      | number number => exact of_decide_eq_true (Option.filter_eq_some_iff.1 h).2
      | null | bool | string | array | object => cases h)
    (fun _ => rfl) fun _ => rfl

def u64 : Codec N Nat := unsigned (2 ^ 64) le_rfl

def u32 : Codec N Nat := unsigned (2 ^ 32) (by decide)

def f32 : Codec N F32 :=
  .scalar (fun x => if x.isFinite then .number (ofF32 x) else .null)
    (fun | .number number => some (toF32 number) | _ => none) (·.isFinite = true) (fun _ => True)
    (by
      intro x
      split
      · exact .number 0 (ofF32 x)
      · exact .null 0)
    (by
      intro x hx
      simp only [hx, if_true, toF32_ofF32 hx])
    (fun _ => trivial) (fun _ => rfl) fun _ => rfl

end Number

variable {N : Type}

section Text

variable [WireText]

def uuid : Codec N Uuid :=
  .text displayUuid parseUuid (fun _ => True) (fun {id} _ => parse_displayUuid id) fun _ => trivial

def instant : Codec N DateTime :=
  .text displayInstant parseInstant IsInstant parse_displayInstant isInstant_of_parse

end Text

def strings : Codec N (List String) := .list .string fun _ => rfl

def optionalString (name : String) : Field N (Option String) :=
  .optional name .string rfl fun _ => rfl

def defaultedStrings (name : String) : Field N (List String) :=
  .defaulted name strings [] (List.forall_mem_nil _)

/-- Payloads name all their keys, and an array may stand for them. -/
def payload : Fields.Shape where
  denyUnknown := true
  positional := true

/-- The members that name an agent, in an event and in a hook. -/
def agentMembers : Fields N (String × String × String × Option String × Unit) :=
  .cons (.required "agent_id" .string) <|
    .cons (.required "provider" .string) <|
    .cons (.required "model" .string) <|
    .cons (optionalString "instance_id") .nil

end Wire

open Wire (strings defaultedStrings optionalString payload agentMembers u64 u32 f32)

section Structures

variable {N : Type}

def AgentStatus.wireName : AgentStatus → String
  | idle => "idle"
  | planning => "planning"
  | running => "running"
  | waiting => "waiting"
  | blocked => "blocked"
  | completed => "completed"
  | failed => "failed"
  | offline => "offline"

def AgentStatus.codec : Codec N AgentStatus :=
  .enumeration true [idle, planning, running, waiting, blocked, completed, failed, offline] wireName
    fun status => by cases status <;> rfl

def TaskOutcome.wireName : TaskOutcome → String
  | succeeded => "succeeded"
  | failed => "failed"
  | canceled => "canceled"
  | partially => "partial"

def TaskOutcome.codec : Codec N TaskOutcome :=
  .enumeration true [succeeded, failed, canceled, partially] wireName
    fun outcome => by cases outcome <;> rfl

def AgentRef.codec : Codec N AgentRef :=
  .struct agentMembers payload
    (fun agent => (agent.agentId, agent.provider, agent.model, agent.instanceId, ()))
    fun (agentId, provider, model, instanceId, _) => ⟨agentId, provider, model, instanceId⟩

def AgentRegistration.codec : Codec N AgentRegistration :=
  .struct
    (.cons (.required "display_name" .string) <|
      .cons (defaultedStrings "capabilities") <|
      .cons (.defaulted "metadata" (.map .string fun _ => rfl) ∅ rfl) <|
      .cons (.defaulted "status" AgentStatus.codec .idle trivial) .nil)
    payload
    (fun value => (value.displayName, value.capabilities, value.metadata, value.status, ()))
    fun (displayName, capabilities, metadata, status, _) =>
      ⟨displayName, capabilities, metadata, status⟩

def Goal.codec : Codec N Goal :=
  .struct
    (.cons (.required "goal_id" .string) <|
      .cons (.required "title" .string) <|
      .cons (.required "success_criteria" strings) <|
      .cons (defaultedStrings "constraints") <|
      .cons (optionalString "parent_goal_id") .nil)
    payload
    (fun goal =>
      (goal.goalId, goal.title, goal.successCriteria, goal.constraints, goal.parentGoalId, ()))
    fun (goalId, title, successCriteria, constraints, parentGoalId, _) =>
      ⟨goalId, title, successCriteria, constraints, parentGoalId⟩

def TaskSpec.codec : Codec N TaskSpec :=
  .struct
    (.cons (.required "task_id" .string) <|
      .cons (.required "title" .string) <|
      .cons (optionalString "goal_id") <|
      .cons (defaultedStrings "depends_on") <|
      .cons (defaultedStrings "tags") <|
      .cons (optionalString "expected_outcome") .nil)
    payload
    (fun task =>
      (task.taskId, task.title, task.goalId, task.dependsOn, task.tags, task.expectedOutcome, ()))
    fun (taskId, title, goalId, dependsOn, tags, expectedOutcome, _) =>
      ⟨taskId, title, goalId, dependsOn, tags, expectedOutcome⟩

def EvidenceReference.codec : Codec N EvidenceReference :=
  .struct
    (.cons (.required "kind" .string) <|
      .cons (.required "reference" .string) <|
      .cons (optionalString "summary") .nil)
    payload
    (fun reference => (reference.kind, reference.reference, reference.summary, ()))
    fun (kind, reference, summary, _) => ⟨kind, reference, summary⟩

def ErrorObservation.codec : Codec N ErrorObservation :=
  .struct
    (.cons (optionalString "task_id") <|
      .cons (.required "code" .string) <|
      .cons (.required "message" .string) <|
      .cons (.defaulted "recoverable" .bool false trivial) <|
      .cons (optionalString "proposed_recovery") .nil)
    payload
    (fun error =>
      (error.taskId, error.code, error.message, error.recoverable, error.proposedRecovery, ()))
    fun (taskId, code, message, recoverable, proposedRecovery, _) =>
      ⟨taskId, code, message, recoverable, proposedRecovery⟩

def TaskCompleted.codec : Codec N TaskCompleted :=
  .struct
    (.cons (.required "task_id" .string) <|
      .cons (.required "outcome" TaskOutcome.codec) <|
      .cons (.required "summary" .string) <|
      .cons (defaultedStrings "artifacts") <|
      .cons (optionalString "actual_result") .nil)
    payload
    (fun completed => (completed.taskId, completed.outcome, completed.summary, completed.artifacts,
      completed.actualResult, ()))
    fun (taskId, outcome, summary, artifacts, actualResult, _) =>
      ⟨taskId, outcome, summary, artifacts, actualResult⟩

def StatusChange.codec : Codec N StatusChange :=
  .struct
    (.cons (.required "status" AgentStatus.codec) <| .cons (optionalString "reason") .nil)
    payload (fun change => (change.status, change.reason, ()))
    fun (status, reason, _) => ⟨status, reason⟩

def evidenceField : Field N (List EvidenceReference) :=
  .defaulted "evidence" (.list EvidenceReference.codec fun _ => rfl) [] (List.forall_mem_nil _)

variable [WireNumber N]

def Heartbeat.codec : Codec N Heartbeat :=
  .struct
    (.cons (.optional "status" AgentStatus.codec rfl fun _ => rfl) <|
      .cons (optionalString "active_task_id") <|
      .cons (.optional "load" f32 rfl fun _ => rfl) .nil)
    payload (fun heartbeat => (heartbeat.status, heartbeat.activeTaskId, heartbeat.load, ()))
    fun (status, activeTaskId, load, _) => ⟨status, activeTaskId, load⟩

def TaskStarted.codec : Codec N TaskStarted :=
  .struct
    (.cons (.required "task_id" .string) <|
      .cons (.required "attempt" u32) <|
      .cons (optionalString "plan_summary") .nil)
    payload (fun started => (started.taskId, started.attempt, started.planSummary, ()))
    fun (taskId, attempt, planSummary, _) => ⟨taskId, attempt, planSummary⟩

def ProgressUpdate.codec : Codec N ProgressUpdate :=
  .struct
    (.cons (.required "task_id" .string) <|
      .cons (.required "progress" f32) <|
      .cons (.required "summary" .string) <|
      .cons (optionalString "blocker") <|
      .cons (optionalString "next_action") .nil)
    payload
    (fun update =>
      (update.taskId, update.progress, update.summary, update.blocker, update.nextAction, ()))
    fun (taskId, progress, summary, blocker, nextAction, _) =>
      ⟨taskId, progress, summary, blocker, nextAction⟩

def Reflection.codec : Codec N Reflection :=
  .struct
    (.cons (optionalString "task_id") <|
      .cons (.required "summary" .string) <|
      .cons (.required "confidence" f32) <|
      .cons (defaultedStrings "assumptions") <|
      .cons evidenceField <|
      .cons (defaultedStrings "alternatives_considered") <|
      .cons (defaultedStrings "risks") <|
      .cons (optionalString "next_action") .nil)
    payload
    (fun reflection => (reflection.taskId, reflection.summary, reflection.confidence,
      reflection.assumptions, reflection.evidence, reflection.alternativesConsidered,
      reflection.risks, reflection.nextAction, ()))
    fun (taskId, summary, confidence, assumptions, evidence, alternativesConsidered, risks,
        nextAction, _) =>
      ⟨taskId, summary, confidence, assumptions, evidence, alternativesConsidered, risks, nextAction⟩

def Lesson.codec : Codec N Lesson :=
  .struct
    (.cons (.required "lesson_id" .string) <|
      .cons (.required "statement" .string) <|
      .cons (.required "confidence" f32) <|
      .cons (optionalString "source_task_id") <|
      .cons evidenceField <|
      .cons (defaultedStrings "tags") <|
      .cons (optionalString "applicability") .nil)
    payload
    (fun lesson => (lesson.lessonId, lesson.statement, lesson.confidence, lesson.sourceTaskId,
      lesson.evidence, lesson.tags, lesson.applicability, ()))
    fun (lessonId, statement, confidence, sourceTaskId, evidence, tags, applicability, _) =>
      ⟨lessonId, statement, confidence, sourceTaskId, evidence, tags, applicability⟩

end Structures

section Events

variable {N : Type} [WireNumber N]

namespace AgentEvent

def data : AgentEvent → Value N
  | agentRegistered value => AgentRegistration.codec.encode value
  | heartbeat value => Heartbeat.codec.encode value
  | goalDeclared value => Goal.codec.encode value
  | taskCreated value => TaskSpec.codec.encode value
  | taskStarted value => TaskStarted.codec.encode value
  | progressUpdated value => ProgressUpdate.codec.encode value
  | reflectionRecorded value => Reflection.codec.encode value
  | lessonLearned value => Lesson.codec.encode value
  | errorObserved value => ErrorObservation.codec.encode value
  | taskCompleted value => TaskCompleted.codec.encode value
  | agentStatusChanged value => StatusChange.codec.encode value

def read (kind : String) (written : Value N) : Option AgentEvent :=
  match kind with
  | "agent_registered" => (AgentRegistration.codec.decode written).map agentRegistered
  | "heartbeat" => (Heartbeat.codec.decode written).map heartbeat
  | "goal_declared" => (Goal.codec.decode written).map goalDeclared
  | "task_created" => (TaskSpec.codec.decode written).map taskCreated
  | "task_started" => (TaskStarted.codec.decode written).map taskStarted
  | "progress_updated" => (ProgressUpdate.codec.decode written).map progressUpdated
  | "reflection_recorded" => (Reflection.codec.decode written).map reflectionRecorded
  | "lesson_learned" => (Lesson.codec.decode written).map lessonLearned
  | "error_observed" => (ErrorObservation.codec.decode written).map errorObserved
  | "task_completed" => (TaskCompleted.codec.decode written).map taskCompleted
  | "agent_status_changed" => (StatusChange.codec.decode written).map agentStatusChanged
  | _ => none

variable (N) in
def Valid : AgentEvent → Prop
  | agentRegistered value => (AgentRegistration.codec : Codec N _).Valid value
  | heartbeat value => (Heartbeat.codec : Codec N _).Valid value
  | goalDeclared value => (Goal.codec : Codec N _).Valid value
  | taskCreated value => (TaskSpec.codec : Codec N _).Valid value
  | taskStarted value => (TaskStarted.codec : Codec N _).Valid value
  | progressUpdated value => (ProgressUpdate.codec : Codec N _).Valid value
  | reflectionRecorded value => (Reflection.codec : Codec N _).Valid value
  | lessonLearned value => (Lesson.codec : Codec N _).Valid value
  | errorObserved value => (ErrorObservation.codec : Codec N _).Valid value
  | taskCompleted value => (TaskCompleted.codec : Codec N _).Valid value
  | agentStatusChanged value => (StatusChange.codec : Codec N _).Valid value

/-- Only a registration holds a map, and only an attempt is a counter of fewer bits than the
model's. -/
def Typed : AgentEvent → Prop
  | agentRegistered value => value.metadata.canonical = value.metadata
  | taskStarted value => value.attempt < 2 ^ 32
  | _ => True

def rebuilt : AgentEvent → AgentEvent
  | agentRegistered value =>
    agentRegistered { value with metadata := BTreeMap.canonical value.metadata }
  | event => event

theorem nests_data (event : AgentEvent) : (event.data : Value N).Nests 3 := by
  cases event <;> exact (Codec.nests_encode _ _).mono (Nat.le_of_ble_eq_true rfl)

theorem read_data {event : AgentEvent} (h : event.Valid N) :
    read event.kind (event.data : Value N) = some event.rebuilt := by
  cases event with
  | agentRegistered value => exact congrArg (Option.map _) (Codec.decode_encode _ h)
  | heartbeat value => exact congrArg (Option.map _) (Codec.decode_encode _ h)
  | goalDeclared value => exact congrArg (Option.map _) (Codec.decode_encode _ h)
  | taskCreated value => exact congrArg (Option.map _) (Codec.decode_encode _ h)
  | taskStarted value => exact congrArg (Option.map _) (Codec.decode_encode _ h)
  | progressUpdated value => exact congrArg (Option.map _) (Codec.decode_encode _ h)
  | reflectionRecorded value => exact congrArg (Option.map _) (Codec.decode_encode _ h)
  | lessonLearned value => exact congrArg (Option.map _) (Codec.decode_encode _ h)
  | errorObserved value => exact congrArg (Option.map _) (Codec.decode_encode _ h)
  | taskCompleted value => exact congrArg (Option.map _) (Codec.decode_encode _ h)
  | agentStatusChanged value => exact congrArg (Option.map _) (Codec.decode_encode _ h)

theorem typed_of_read {kind : String} {written : Value N} {event : AgentEvent}
    (h : read kind written = some event) : event.Typed := by
  unfold read at h
  split at h
  case h_1 =>
    obtain ⟨value, hvalue, rfl⟩ := Option.map_eq_some_iff.1 h
    exact (Codec.typed_of_decode _ hvalue).2.2.1
  case h_5 =>
    obtain ⟨value, hvalue, rfl⟩ := Option.map_eq_some_iff.1 h
    exact (Codec.typed_of_decode _ hvalue).2.1
  case h_12 => cases h
  all_goals
    obtain ⟨value, -, rfl⟩ := Option.map_eq_some_iff.1 h
    trivial

theorem rebuilt_of_typed {event : AgentEvent} (h : event.Typed) : event.rebuilt = event := by
  cases event with
  | agentRegistered value => rw [rebuilt, show value.metadata.canonical = value.metadata from h]
  | _ => rfl

theorem read_swap {kind : String} {written written' : Value N} (h : Value.Swap written written') :
    read kind written = read kind written' := by
  unfold read
  split
  case h_12 => rfl
  all_goals exact congrArg (Option.map _) (Codec.decode_swap _ h)

def fields : Fields N AgentEvent :=
  .adjacent "kind" "data" (by decide) kind data read (Valid N) Typed rebuilt 3 nests_data read_data typed_of_read
    rebuilt_of_typed read_swap

end AgentEvent

variable [WireText]

/-- The event stands among the members of its envelope, which may have others. -/
def EventEnvelope.codec : Codec N EventEnvelope :=
  .struct
    (.cons (.required "protocol_version" .string) <|
      .cons (.required "event_id" Wire.uuid) <|
      .cons (.required "occurred_at" Wire.instant) <|
      .cons (.required "agent" AgentRef.codec) <|
      .cons (optionalString "session_id") <|
      .cons (optionalString "correlation_id") <|
      .cons (.optional "sequence" u64 rfl fun _ => rfl) AgentEvent.fields)
    { denyUnknown := false, positional := false }
    (fun envelope => (envelope.protocolVersion, envelope.eventId, envelope.occurredAt,
      envelope.agent, envelope.sessionId, envelope.correlationId, envelope.sequence,
      envelope.event))
    fun (protocolVersion, eventId, occurredAt, agent, sessionId, correlationId, sequence, event) =>
      ⟨protocolVersion, eventId, occurredAt, agent, sessionId, correlationId, sequence, event⟩

def TransportFrame.codec : Codec N TransportFrame :=
  .struct
    (.cons (optionalString "token") <| .cons (.required "event" EventEnvelope.codec) .nil)
    payload (fun frame => (frame.token, frame.event, ())) fun (token, event, _) => ⟨token, event⟩

namespace EventEnvelope

def rebuilt (envelope : EventEnvelope) : EventEnvelope :=
  { envelope with event := envelope.event.rebuilt }

/-- The numbers of an envelope are of its types, and a text can name its instant. -/
structure Fits (envelope : EventEnvelope) : Prop where
  occurredAt : WireText.IsInstant envelope.occurredAt
  sequence : ∀ sequence ∈ envelope.sequence, sequence < 2 ^ 64
  attempt : ∀ started, envelope.event = .taskStarted started → started.attempt < 2 ^ 32

theorem fits_of_typed {envelope : EventEnvelope}
    (h : (codec : Codec N EventEnvelope).Typed envelope) : envelope.Fits := by
  obtain ⟨-, -, hinstant, -, -, -, hsequence, hevent⟩ := h
  refine ⟨hinstant, hsequence, ?_⟩
  intro started heq
  change envelope.event.Typed at hevent
  rw [heq] at hevent
  exact hevent

omit [WireText] in
theorem validate_rebuilt (envelope : EventEnvelope) :
    envelope.rebuilt.validate = envelope.validate := by
  have hevent : envelope.event.rebuilt.validate = envelope.event.validate := by
    cases envelope.event with
    | agentRegistered value =>
      have hequiv := BTreeMap.canonical_equiv value.metadata
      simp only [AgentEvent.rebuilt, AgentEvent.validate, validateMetadata, hequiv.size_eq,
        hequiv.toList_eq]
    | _ => rfl
  simp only [validate, rebuilt, hevent]

theorem valid_of_validate {envelope : EventEnvelope} (hvalid : envelope.validate = .ok ())
    (hfits : envelope.Fits) : (codec : Codec N EventEnvelope).Valid envelope := by
  refine ⟨trivial, trivial, hfits.occurredAt,
    ⟨trivial, trivial, trivial, fun _ _ => trivial, trivial⟩, fun _ _ => trivial, fun _ _ => trivial,
    hfits.sequence, ?_⟩
  have hattempt := hfits.attempt
  have hevent := validate_event hvalid
  show envelope.event.Valid N
  generalize envelope.event = event at hattempt hevent
  cases event with
  | agentRegistered value =>
    exact ⟨trivial, fun _ _ => trivial, fun _ _ => trivial, trivial, trivial⟩
  | heartbeat value =>
    simp only [AgentEvent.validate, Check.seq_eq_ok_iff] at hevent
    refine ⟨fun _ _ => trivial, fun _ _ => trivial, ?_, trivial⟩
    intro load hload
    rw [show value.load = some load from hload] at hevent
    exact (inUnitInterval_of_validate hevent.2).1
  | goalDeclared value =>
    exact ⟨trivial, trivial, fun _ _ => trivial, fun _ _ => trivial, fun _ _ => trivial, trivial⟩
  | taskCreated value =>
    exact ⟨trivial, trivial, fun _ _ => trivial, fun _ _ => trivial, fun _ _ => trivial,
      fun _ _ => trivial, trivial⟩
  | taskStarted value =>
    exact ⟨trivial, hattempt value rfl, fun _ _ => trivial, trivial⟩
  | progressUpdated value =>
    simp only [AgentEvent.validate, ProgressUpdate.validate, Check.seq_eq_ok_iff] at hevent
    exact ⟨trivial, (inUnitInterval_of_validate hevent.2.1).1, trivial, fun _ _ => trivial,
      fun _ _ => trivial, trivial⟩
  | reflectionRecorded value =>
    simp only [AgentEvent.validate, Reflection.validate, Check.seq_eq_ok_iff] at hevent
    exact ⟨fun _ _ => trivial, trivial, (inUnitInterval_of_validate hevent.2.2.1).1,
      fun _ _ => trivial, fun _ _ => ⟨trivial, trivial, fun _ _ => trivial, trivial⟩,
      fun _ _ => trivial, fun _ _ => trivial, fun _ _ => trivial, trivial⟩
  | lessonLearned value =>
    simp only [AgentEvent.validate, Lesson.validate, Check.seq_eq_ok_iff] at hevent
    exact ⟨trivial, trivial, (inUnitInterval_of_validate hevent.2.2.1).1, fun _ _ => trivial,
      fun _ _ => ⟨trivial, trivial, fun _ _ => trivial, trivial⟩, fun _ _ => trivial,
      fun _ _ => trivial, trivial⟩
  | errorObserved value =>
    exact ⟨fun _ _ => trivial, trivial, trivial, trivial, fun _ _ => trivial, trivial⟩
  | taskCompleted value =>
    exact ⟨trivial, trivial, trivial, fun _ _ => trivial, fun _ _ => trivial, trivial⟩
  | agentStatusChanged value => exact ⟨trivial, fun _ _ => trivial, trivial⟩

end EventEnvelope

namespace TransportPayload

def rebuilt : TransportPayload → TransportPayload
  | frame transportFrame => frame { transportFrame with event := transportFrame.event.rebuilt }
  | event envelope => event envelope.rebuilt

/-- A frame has no member of an envelope, so that none is taken for the other. -/
theorem frame_decode_event (envelope : EventEnvelope) :
    (TransportFrame.codec : Codec N _).decode (EventEnvelope.codec.encode envelope) = none :=
  congrArg (Option.map _) (Fields.read_of_unknown _ payload rfl List.mem_cons_self rfl)

/-- `#[serde(untagged)]`: the first variant that can be read. -/
def codec : Codec N TransportPayload where
  encode
    | frame transportFrame => TransportFrame.codec.encode transportFrame
    | event envelope => EventEnvelope.codec.encode envelope
  decode written :=
    ((TransportFrame.codec.decode written).map frame).or
      ((EventEnvelope.codec.decode written).map event)
  Valid
    | frame transportFrame => (TransportFrame.codec : Codec N _).Valid transportFrame
    | event envelope => (EventEnvelope.codec : Codec N _).Valid envelope
  Typed
    | frame transportFrame => (TransportFrame.codec : Codec N _).Typed transportFrame
    | event envelope => (EventEnvelope.codec : Codec N _).Typed envelope
  rebuild := rebuilt
  depth := 5
  nests_encode
    | frame transportFrame => Codec.nests_encode TransportFrame.codec transportFrame
    | event envelope => (Codec.nests_encode EventEnvelope.codec envelope).mono (Nat.le_succ 4)
  decode_encode {payload} h := by
    cases payload with
    | frame transportFrame => rw [Codec.decode_encode _ h, Option.map_some, Option.some_or]; rfl
    | event envelope =>
      rw [frame_decode_event, Option.map_none, Option.none_or, Codec.decode_encode _ h]
      rfl
  typed_of_decode {written payload} h := by
    rcases Option.or_eq_some_iff.1 h with h | ⟨-, h⟩
    · obtain ⟨transportFrame, hframe, rfl⟩ := Option.map_eq_some_iff.1 h
      exact Codec.typed_of_decode _ hframe
    · obtain ⟨envelope, hevent, rfl⟩ := Option.map_eq_some_iff.1 h
      exact Codec.typed_of_decode _ hevent
  rebuild_of_typed {payload} h := by
    cases payload with
    | frame transportFrame => exact congrArg frame (Codec.rebuild_of_typed _ h)
    | event envelope => exact congrArg event (Codec.rebuild_of_typed _ h)
  decode_swap h := by rw [Codec.decode_swap _ h, Codec.decode_swap _ h]

theorem fits_of_decode {written : Value N} {payload : TransportPayload}
    (h : (codec : Codec N _).decode written = some payload) : payload.intoParts.2.Fits := by
  have htyped := Codec.typed_of_decode _ h
  cases payload with
  | frame transportFrame => exact EventEnvelope.fits_of_typed htyped.2.1
  | event envelope => exact EventEnvelope.fits_of_typed htyped

theorem valid_of_fits {payload : TransportPayload} (hvalid : payload.intoParts.2.validate = .ok ())
    (hfits : payload.intoParts.2.Fits) : (codec : Codec N _).Valid payload := by
  cases payload with
  | frame transportFrame =>
    exact ⟨fun _ _ => trivial, EventEnvelope.valid_of_validate hvalid hfits, trivial⟩
  | event envelope => exact EventEnvelope.valid_of_validate hvalid hfits

/-- What a client writes of a valid payload is read as that payload, and a frame as a frame, in
whatever order the keys come; its map is built anew, with the same entries.  And what is read is
read the same in every order of its keys and, if it is valid, as what it would itself be written
as. -/
theorem roundTrip (payload : TransportPayload) :
    (payload.intoParts.2.validate = .ok () → payload.intoParts.2.Fits → ∀ written,
      ((codec : Codec N _).encode payload).Reordered written →
        codec.decode written = some payload.rebuilt) ∧
    ∀ written : Value N, codec.decode written = some payload →
      payload.intoParts.2.Fits ∧
        (payload.intoParts.2.validate = .ok () →
          (codec : Codec N _).decode (codec.encode payload) = some payload) ∧
        ∀ written', written.Reordered written' → codec.decode written' = some payload := by
  constructor
  · intro hvalid hfits written h
    rw [← Codec.decode_reordered _ h]
    exact Codec.decode_encode _ (valid_of_fits hvalid hfits)
  · intro written hread
    have hfits := fits_of_decode hread
    refine ⟨hfits, ?_, ?_⟩
    · intro hvalid
      exact Codec.decode_encode_typed _ (valid_of_fits hvalid hfits) (Codec.typed_of_decode _ hread)
    · intro written' h
      rw [← Codec.decode_reordered _ h, hread]

end TransportPayload

end Events

namespace Sample

def firstSeconds : List DateTime := (List.range 10).map fun secs => instant secs

def rfc3339 (t : DateTime) : String := "1970-01-01T00:00:0" ++ toString t.secs ++ "Z"

instance wireText : WireText where
  displayUuid id := String.ofList (Hex.grouped '-' [8, 4, 4, 4] (Hex.padded 32 id.toNat))
  parseUuid text :=
    if text.length = 36 then (Hex.read (text.toList.filter (· != '-'))).map (BitVec.ofNat 128)
    else none
  parse_displayUuid id := by
    have hhyphen : '-' ∉ Hex.padded 32 id.toNat := by
      intro hmem
      obtain ⟨d, hd⟩ := Hex.mem_padded hmem
      exact Hex.digit_ne (by decide) d hd.symm
    have hlength : (Hex.grouped '-' [8, 4, 4, 4] (Hex.padded 32 id.toNat)).length = 36 := by
      rw [Hex.length_grouped '-' (by rw [Hex.length_padded]; decide), Hex.length_padded]
      rfl
    have hlt : id.toNat % 16 ^ 32 = id.toNat := Nat.mod_eq_of_lt id.isLt
    rw [String.length_ofList, if_pos hlength, String.toList_ofList, Hex.filter_grouped _ hhyphen,
      Hex.read_padded, hlt, Option.map_some, BitVec.ofNat_toNat, BitVec.setWidth_eq]
  IsInstant t := t ∈ firstSeconds
  displayInstant := rfc3339
  parseInstant text := firstSeconds.find? (rfc3339 · == text)
  parse_displayInstant := by decide +kernel
  isInstant_of_parse := List.mem_of_find?_eq_some

theorem fits_envelope {eventId : Uuid} {secs : Int} {event : AgentEvent}
    (hinstant : instant secs ∈ firstSeconds)
    (hattempt : ∀ started, event = .taskStarted started → started.attempt < 2 ^ 32) :
    (envelope eventId secs event).Fits where
  occurredAt := hinstant
  sequence sequence hsequence := by cases hsequence
  attempt := hattempt

theorem fits_started {eventId : Uuid} {secs : Int} (hinstant : instant secs ∈ firstSeconds)
    (taskId : String) : (envelope eventId secs (started taskId)).Fits := by
  refine fits_envelope hinstant ?_
  intro started heq
  cases heq
  exact Nat.one_lt_two_pow (by decide)

inductive Numeral
  | unsigned (n : Nat)
  | float (x : F32)

instance wireNumber : WireNumber Numeral where
  ofNat := .unsigned
  toU64
    | .unsigned n => if n < 2 ^ 64 then some n else none
    | .float _ => none
  toU64_ofNat h := if_pos h
  ofF32 := .float
  toF32
    | .unsigned n => F32.ofNat n
    | .float x => x
  toF32_ofF32 _ := rfl

def frame : TransportPayload :=
  .frame ⟨some "0123456789abcdef", envelope 1 4 (started "a")⟩

end Sample

theorem TransportPayload.roundTrip_frame :
    ∃ token event : Value Sample.Numeral,
      TransportPayload.codec.encode Sample.frame = .object [("token", token), ("event", event)] ∧
      TransportPayload.codec.decode (.object [("event", event), ("token", token)]) =
        some Sample.frame := by
  refine ⟨_, _, rfl, ?_⟩
  have hvalid : Sample.frame.intoParts.2.validate = .ok () := by decide +kernel
  exact (roundTrip (N := Sample.Numeral) Sample.frame).1 hvalid
    (Sample.fits_started (by decide) "a") _ (.single (.object (.swap _ _ []) (by decide)))

end ControlPlane
