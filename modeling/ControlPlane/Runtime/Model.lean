import ControlPlane.Lib.Binary64
import ControlPlane.Protocol.Event

/-! What runtimes report to the monitor, what operators ask of them, and the checks both pass. -/

namespace ControlPlane.Runtime

def RUNTIME_PROTOCOL_VERSION : String := "v1"

def MAX_TEXT_BYTES : Nat := 4096
def MAX_METADATA_ENTRIES : Nat := 32
def MAX_METADATA_KEY_BYTES : Nat := 128
def MAX_METADATA_VALUE_BYTES : Nat := 1024
def MAX_CPU_PERCENT : F64 := F64.ofNat 100000

def FORBIDDEN_METADATA_KEY_FRAGMENTS : List String :=
  ["authorization", "chain_of_thought", "chain-of-thought", "cookie", "credential",
    "hidden_reasoning", "internal_reasoning", "api_key", "apikey", "prompt", "raw_response",
    "reasoning_content", "scratchpad", "secret", "token"]

inductive RuntimeError
  | unsupportedProtocol
  | invalidField (field : String)
  | missingField (field : String)
  | tooManyMetadataEntries
  | forbiddenMetadataKey
  | duplicateHook
  | commandNotFound
  | agentNotHookBacked
  | commandAgentMismatch
  deriving DecidableEq, Repr

def RuntimeError.display : RuntimeError → String
  | unsupportedProtocol => "unsupported runtime hook protocol"
  | invalidField field => "invalid runtime hook field: " ++ field
  | missingField field => "missing runtime hook field: " ++ field
  | tooManyMetadataEntries => "runtime hook metadata contains too many entries"
  | forbiddenMetadataKey => "runtime hook metadata contains a forbidden content key"
  | duplicateHook => "runtime hook event has already been accepted"
  | commandNotFound => "control command was not found"
  | agentNotHookBacked => "agent has not established a cooperative runtime hook channel"
  | commandAgentMismatch => "control command belongs to a different agent"

structure RuntimeAgentRef where
  agentId : String
  provider : String
  model : String
  instanceId : Option String
  deriving DecidableEq, Repr

inductive RuntimeHookKind
  | sessionStarted
  | heartbeat
  | activity
  | toolStarted
  | toolFinished
  | modelResponse
  | confidenceReported
  | errorObserved
  | sessionFinished
  deriving DecidableEq, Repr

structure RuntimeHookEnvelope where
  protocolVersion : String
  eventId : Uuid
  occurredAt : DateTime
  agent : RuntimeAgentRef
  sessionId : Option String
  pid : Option Nat
  kind : RuntimeHookKind
  controlCapable : Bool
  summary : Option String
  toolName : Option String
  confidence : Option F32
  cpuPercent : Option F64
  rssBytes : Option Nat
  memoryPercent : Option F64
  inputTokensDelta : Nat
  outputTokensDelta : Nat
  metadata : BTreeMap String String

inductive ControlAction
  | pause
  | resume
  | stop
  deriving DecidableEq, Repr

inductive ControlStatus
  | pending
  | acknowledged
  | rejected
  deriving DecidableEq, Repr

structure ControlCommandRequest where
  agentId : String
  action : ControlAction
  deriving DecidableEq, Repr

structure ControlCommandAck where
  commandId : Uuid
  agentId : String
  accepted : Bool
  message : Option String
  deriving DecidableEq, Repr

structure ControlCommand where
  commandId : Uuid
  createdAt : DateTime
  agentId : String
  action : ControlAction
  status : ControlStatus
  acknowledgedAt : Option DateTime
  message : Option String
  deriving DecidableEq, Repr

abbrev Validation := Except RuntimeError Unit

def validateText (field : String) (value : String) (maximum : Nat) : Validation :=
  if value.toList.all isWhitespace || maximum < value.utf8ByteSize then
    .error (.invalidField field)
  else .ok ()

def validateOptionalText (field : String) (value : Option String) (maximum : Nat) : Validation :=
  match value with
  | some value => validateText field value maximum
  | none => .ok ()

def trim (value : List Char) : List Char :=
  (value.dropWhile isWhitespace).rdropWhile isWhitespace

/-- The key, trimmed and in lower case, contains a forbidden fragment. -/
def isForbidden (key : String) : Bool :=
  let normalizedKey := (trim key.toList).map Char.toLower
  FORBIDDEN_METADATA_KEY_FRAGMENTS.any fun fragment => decide (fragment.toList <:+: normalizedKey)

def validateMetadataEntry (key value : String) : Validation := do
  validateText "metadata.key" key MAX_METADATA_KEY_BYTES
  validateText "metadata.value" value MAX_METADATA_VALUE_BYTES
  if isForbidden key then throw .forbiddenMetadataKey

def outsideF32 (low high : F32) (value : Option F32) : Bool :=
  value.any fun value => !value.isFinite || !(low.le value && value.le high)

def outsideF64 (low high : F64) (value : Option F64) : Bool :=
  value.any fun value => !value.isFinite || !(low.le value && value.le high)

def RuntimeHookEnvelope.validate (hook : RuntimeHookEnvelope) : Validation := do
  if hook.protocolVersion ≠ RUNTIME_PROTOCOL_VERSION then throw .unsupportedProtocol
  if hook.eventId.isNil then throw (.invalidField "event_id")
  validateText "agent.agent_id" hook.agent.agentId 256
  validateText "agent.provider" hook.agent.provider 128
  validateText "agent.model" hook.agent.model 256
  validateOptionalText "agent.instance_id" hook.agent.instanceId 256
  validateOptionalText "session_id" hook.sessionId 256
  validateOptionalText "summary" hook.summary MAX_TEXT_BYTES
  validateOptionalText "tool_name" hook.toolName 256
  if hook.pid = some 0 then throw (.invalidField "pid")
  if outsideF32 F32.zero F32.one hook.confidence then throw (.invalidField "confidence")
  if hook.kind = .confidenceReported ∧ hook.confidence.isNone then
    throw (.missingField "confidence")
  if outsideF64 F64.zero MAX_CPU_PERCENT hook.cpuPercent then throw (.invalidField "cpu_percent")
  if outsideF64 F64.zero (F64.ofNat 100) hook.memoryPercent then
    throw (.invalidField "memory_percent")
  if MAX_METADATA_ENTRIES < hook.metadata.size then throw .tooManyMetadataEntries
  hook.metadata.toList.forM fun entry => validateMetadataEntry entry.1 entry.2

def ControlCommandRequest.validate (request : ControlCommandRequest) : Validation :=
  validateText "agent_id" request.agentId 256

def ControlCommandAck.validate (ack : ControlCommandAck) : Validation := do
  if ack.commandId.isNil then throw (.invalidField "command_id")
  validateText "agent_id" ack.agentId 256
  validateOptionalText "message" ack.message 1024

end ControlPlane.Runtime
