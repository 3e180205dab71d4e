import ControlPlane.Protocol.Wire
import ControlPlane.Runtime.Model

/-! The types of the runtime API in JSON, as their serde attributes have it. -/

namespace ControlPlane.Runtime

open Serde (Codec)
open Wire (optionalString payload agentMembers u64 u32 f32)

/-- Numbers that an `f64` is read from as well; one that a `u64` is read from is that one.  A
float may be read as one of its neighbours. -/
class HookNumber (N : Type) extends WireNumber N where
  eq_of_toU64 : ∀ {n m : Nat}, toU64 (ofNat n) = some m → m = n
  ofF64 : F64 → N
  toF64 : N → F64

section Number

variable {N : Type} [HookNumber N]

open HookNumber (ofF64 toF64)

def f64 : Codec N F64 :=
  .scalar (fun x => if x.isFinite then .number (ofF64 x) else .null)
    (fun | .number number => some (toF64 number) | _ => none)
    (fun x => x.isFinite = true ∧ toF64 (ofF64 x : N) = x) (fun _ => True)
    (by
      intro x
      split
      · exact .number 0 (ofF64 x)
      · exact .null 0)
    (by
      rintro x ⟨hfinite, hread⟩
      simp only [hfinite, if_true, hread])
    (fun _ => trivial) (fun _ => rfl) fun _ => rfl

end Number

def RuntimeHookKind.wireName : RuntimeHookKind → String
  | sessionStarted => "session_started"
  | heartbeat => "heartbeat"
  | activity => "activity"
  | toolStarted => "tool_started"
  | toolFinished => "tool_finished"
  | modelResponse => "model_response"
  | confidenceReported => "confidence_reported"
  | errorObserved => "error_observed"
  | sessionFinished => "session_finished"

section Structures

variable {N : Type}

def RuntimeHookKind.codec : Codec N RuntimeHookKind :=
  .enumeration false
    [sessionStarted, heartbeat, activity, toolStarted, toolFinished, modelResponse,
      confidenceReported, errorObserved, sessionFinished] wireName
    fun kind => by cases kind <;> rfl

def RuntimeAgentRef.codec : Codec N RuntimeAgentRef :=
  .struct agentMembers payload
    (fun agent => (agent.agentId, agent.provider, agent.model, agent.instanceId, ()))
    fun (agentId, provider, model, instanceId, _) => ⟨agentId, provider, model, instanceId⟩

theorem canonical_empty : BTreeMap.canonical (∅ : BTreeMap String String) = ∅ := rfl

theorem rebuild_string (value : String) : (Codec.string : Codec N String).rebuild value = value :=
  rfl

variable [HookNumber N] [WireText]

def RuntimeHookEnvelope.codec : Codec N RuntimeHookEnvelope :=
  .struct
    (.cons (.required "protocol_version" .string) <|
      .cons (.required "event_id" Wire.uuid) <|
      .cons (.required "occurred_at" Wire.instant) <|
      .cons (.required "agent" RuntimeAgentRef.codec) <|
      .cons (optionalString "session_id") <|
      .cons (.optional "pid" u32 rfl fun _ => rfl) <|
      .cons (.required "kind" RuntimeHookKind.codec) <|
      .cons (.defaulted "control_capable" .bool false trivial) <|
      .cons (optionalString "summary") <|
      .cons (optionalString "tool_name") <|
      .cons (.optional "confidence" f32 rfl fun _ => rfl) <|
      .cons (.optional "cpu_percent" f64 rfl fun _ => rfl) <|
      .cons (.optional "rss_bytes" u64 rfl fun _ => rfl) <|
      .cons (.optional "memory_percent" f64 rfl fun _ => rfl) <|
      .cons (.defaulted "input_tokens_delta" u64 0 (Nat.two_pow_pos 64)) <|
      .cons (.defaulted "output_tokens_delta" u64 0 (Nat.two_pow_pos 64)) <|
      .cons (.defaulted "metadata" (.map .string rebuild_string) ∅ canonical_empty) .nil)
    payload
    (fun hook => (hook.protocolVersion, hook.eventId, hook.occurredAt, hook.agent, hook.sessionId,
      hook.pid, hook.kind, hook.controlCapable, hook.summary, hook.toolName, hook.confidence,
      hook.cpuPercent, hook.rssBytes, hook.memoryPercent, hook.inputTokensDelta,
      hook.outputTokensDelta, hook.metadata, ()))
    fun (protocolVersion, eventId, occurredAt, agent, sessionId, pid, kind, controlCapable, summary,
        toolName, confidence, cpuPercent, rssBytes, memoryPercent, inputTokensDelta,
        outputTokensDelta, metadata, _) =>
      ⟨protocolVersion, eventId, occurredAt, agent, sessionId, pid, kind, controlCapable, summary,
        toolName, confidence, cpuPercent, rssBytes, memoryPercent, inputTokensDelta,
        outputTokensDelta, metadata⟩

end Structures

end ControlPlane.Runtime
