import ControlPlane.Lib.Serde
import ControlPlane.Protocol.Event

/-! The provider adapters: observations of three providers as canonical events. -/

namespace ControlPlane.Provider

open Serde (Value Deserialize)

def FORBIDDEN_REASONING_KEYS : List String :=
  ["chain_of_thought", "chain-of-thought", "hidden_reasoning", "internal_reasoning",
    "reasoning_content", "scratchpad"]

inductive ProviderKind
  | openAi
  | anthropic
  | gemini
  deriving DecidableEq, Repr

def ProviderKind.protocolName : ProviderKind → String
  | openAi => "openai"
  | anthropic => "anthropic"
  | gemini => "google"

structure AdapterContext where
  agentId : String
  model : String
  instanceId : Option String
  sessionId : Option String
  correlationId : Option String
  sequence : Option Nat
  deriving DecidableEq, Repr

inductive ObservableAgentUpdate
  | progress (taskId : String) (progress : F32) (summary : String) (blocker : Option String)
    (nextAction : Option String)
  | reflection (taskId : Option String) (summary : String) (confidence : F32)
    (assumptions : List String) (evidence : List EvidenceReference)
    (alternativesConsidered : List String) (risks : List String) (nextAction : Option String)
  | toolCall (taskId : String) (toolName : String) (callId : String) (summary : String)
    (attempt : Nat)
  | completion (taskId : String) (outcome : TaskOutcome) (summary : String)
    (artifacts : List String) (actualResult : Option String)
  | error (taskId : Option String) (code : String) (message : String) (recoverable : Bool)
    (proposedRecovery : Option String)
  deriving DecidableEq, Repr

structure OpenAiObservation where
  responseId : String
  context : AdapterContext
  update : ObservableAgentUpdate
  deriving DecidableEq, Repr

structure AnthropicObservation where
  messageId : String
  context : AdapterContext
  update : ObservableAgentUpdate
  deriving DecidableEq, Repr

structure GeminiObservation where
  responseId : String
  context : AdapterContext
  update : ObservableAgentUpdate
  deriving DecidableEq, Repr

inductive AdapterError
  | forbiddenReasoningField (field : String)
  | invalidPayload (message : String)
  deriving DecidableEq, Repr

def AdapterError.display : AdapterError → String
  | forbiddenReasoningField field =>
    "provider adapter payload contains forbidden hidden-reasoning field: " ++ field
  | invalidPayload message => "invalid provider adapter payload: " ++ message

/-- What a new envelope draws from its surroundings: a random id, which carries version 4, and the
clock. -/
structure Origin where
  newV4 : Uuid
  version : newV4.version = 4
  now : DateTime

def Origin.envelope (origin : Origin) (agent : AgentRef) (event : AgentEvent) : EventEnvelope where
  protocolVersion := PROTOCOL_VERSION
  eventId := origin.newV4
  occurredAt := origin.now
  agent := agent
  sessionId := none
  correlationId := none
  sequence := none
  event := event

def providerResponse (provider : ProviderKind) (providerResponseId : String) :
    EvidenceReference where
  kind := "provider_response"
  reference := providerResponseId
  summary := some (provider.protocolName ++ " response identifier")

def ObservableAgentUpdate.event (provider : ProviderKind) (providerResponseId : String) :
    ObservableAgentUpdate → AgentEvent
  | .progress taskId value summary blocker nextAction =>
    .progressUpdated ⟨taskId, value, summary, blocker, nextAction⟩
  | .reflection taskId summary confidence assumptions evidence alternativesConsidered risks
      nextAction =>
    .reflectionRecorded ⟨taskId, summary, confidence, assumptions,
      evidence ++ [providerResponse provider providerResponseId], alternativesConsidered, risks,
      nextAction⟩
  | .toolCall taskId toolName callId summary attempt =>
    .taskStarted ⟨taskId, attempt,
      some (summary ++ " Tool: " ++ toolName ++ "; call: " ++ callId ++ ".")⟩
  | .completion taskId outcome summary artifacts actualResult =>
    .taskCompleted ⟨taskId, outcome, summary,
      artifacts ++ ["provider-response:" ++ providerResponseId], actualResult⟩
  | .error taskId code message recoverable proposedRecovery =>
    .errorObserved ⟨taskId, code, message, recoverable, proposedRecovery⟩

def normalize (origin : Origin) (provider : ProviderKind) (providerResponseId : String)
    (context : AdapterContext) (update : ObservableAgentUpdate) : EventEnvelope :=
  let agent : AgentRef :=
    { agentId := context.agentId
      provider := provider.protocolName
      model := context.model
      instanceId := context.instanceId }
  { origin.envelope agent (update.event provider providerResponseId) with
    sessionId := context.sessionId
    correlationId := context.correlationId
    sequence := context.sequence }

def toAsciiLowercase (text : String) : String := String.ofList (text.toList.map Char.toLower)

section Reject

variable {N : Type}

mutual

def rejectHiddenReasoning : Value N → Except AdapterError Unit
  | .object values => rejectEntries values
  | .array values => rejectElements values
  | .null | .bool _ | .number _ | .string _ => .ok ()
termination_by structural value => value

def rejectEntries : List (String × Value N) → Except AdapterError Unit
  | [] => .ok ()
  | (key, nested) :: values =>
    if toAsciiLowercase key ∈ FORBIDDEN_REASONING_KEYS then
      .error (.forbiddenReasoningField key)
    else do
      rejectHiddenReasoning nested
      rejectEntries values
termination_by structural values => values

def rejectElements : List (Value N) → Except AdapterError Unit
  | [] => .ok ()
  | nested :: values => do
    rejectHiddenReasoning nested
    rejectElements values
termination_by structural values => values

end

/-- The path of all adapters: screen the payload, read it and normalize what it observed. -/
def adapt {T : Type} [Deserialize N T] (provider : ProviderKind)
    (parts : T → String × AdapterContext × ObservableAgentUpdate) (origin : Origin)
    (value : Value N) : Except AdapterError EventEnvelope := do
  rejectHiddenReasoning value
  let observation : T ← (Deserialize.fromValue value).mapError .invalidPayload
  let (providerResponseId, context, update) := parts observation
  return normalize origin provider providerResponseId context update

def normalizeOpenai [Deserialize N OpenAiObservation] :
    Origin → Value N → Except AdapterError EventEnvelope :=
  adapt .openAi fun observation : OpenAiObservation =>
    (observation.responseId, observation.context, observation.update)

def normalizeAnthropic [Deserialize N AnthropicObservation] :
    Origin → Value N → Except AdapterError EventEnvelope :=
  adapt .anthropic fun observation : AnthropicObservation =>
    (observation.messageId, observation.context, observation.update)

def normalizeGemini [Deserialize N GeminiObservation] :
    Origin → Value N → Except AdapterError EventEnvelope :=
  adapt .gemini fun observation : GeminiObservation =>
    (observation.responseId, observation.context, observation.update)

end Reject

end ControlPlane.Provider
