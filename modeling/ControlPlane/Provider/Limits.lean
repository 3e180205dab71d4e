import ControlPlane.Lib.Check
import ControlPlane.Provider.Adapter

/-! Whether what an adapter adds to an observation still fits the limits of the protocol. -/

namespace ControlPlane

open Check (seq_eq_ok_iff guard_eq_ok_iff forM_concat_eq_ok_iff)

theorem validateText_eq_ok_iff {field value : String} {maximum : Nat} :
    validateText field value maximum = .ok () ↔
      ¬value.toList.all isWhitespace ∧ value.utf8ByteSize ≤ maximum := by
  rw [validateText]
  split
  · next hblank => exact iff_of_false (fun h => by cases h) fun h => h.1 hblank
  · next htext =>
    rw [← not_lt]
    split
    · next hlong => exact iff_of_false (fun h => by cases h) fun h => h.2 hlong
    · next hfits => exact iff_of_true rfl ⟨htext, hfits⟩

theorem validateStringList_concat_iff {field value : String} {values : List String}
    {maximumValues maximumLength : Nat}
    (h : validateStringList field values maximumValues maximumLength = .ok ()) :
    validateStringList field (values ++ [value]) maximumValues maximumLength = .ok () ↔
      values.length < maximumValues ∧ validateText field value maximumLength = .ok () := by
  rw [validateStringList, guard_eq_ok_iff] at h ⊢
  rw [forM_concat_eq_ok_iff, List.length_append, List.length_singleton, not_lt,
    Nat.succ_le_iff, and_iff_right h.2]

theorem validateEvidence_concat_iff {field : String} {evidence : List EvidenceReference}
    {reference : EvidenceReference} (h : validateEvidence field evidence = .ok ()) :
    validateEvidence field (evidence ++ [reference]) = .ok () ↔
      evidence.length < 128 ∧ reference.validate = .ok () := by
  rw [validateEvidence, guard_eq_ok_iff] at h ⊢
  rw [forM_concat_eq_ok_iff, List.length_append, List.length_singleton, not_lt,
    Nat.succ_le_iff, and_iff_right h.2]

theorem Uuid.isNil_of_version {id : Uuid} (h : id.version = 4) : id.isNil = false := by
  rw [Uuid.isNil, beq_eq_false_iff_ne]
  intro hnil
  subst hnil
  exact absurd h (by decide)

namespace Provider

def ObservableAgentUpdate.plain : ObservableAgentUpdate → AgentEvent
  | .progress taskId value summary blocker nextAction =>
    .progressUpdated ⟨taskId, value, summary, blocker, nextAction⟩
  | .reflection taskId summary confidence assumptions evidence alternativesConsidered risks
      nextAction =>
    .reflectionRecorded ⟨taskId, summary, confidence, assumptions, evidence,
      alternativesConsidered, risks, nextAction⟩
  | .toolCall taskId _ _ summary attempt => .taskStarted ⟨taskId, attempt, some summary⟩
  | .completion taskId outcome summary artifacts actualResult =>
    .taskCompleted ⟨taskId, outcome, summary, artifacts, actualResult⟩
  | .error taskId code message recoverable proposedRecovery =>
    .errorObserved ⟨taskId, code, message, recoverable, proposedRecovery⟩

/-- The fields of an observation keep the canonical limits.  The protocol has none for the name and
the call id of a tool. -/
structure WithinLimits (providerResponseId : String) (context : AdapterContext)
    (update : ObservableAgentUpdate) : Prop where
  providerResponseId : validateText "evidence.reference" providerResponseId 4096 = .ok ()
  agentId : validateText "agent.agent_id" context.agentId 256 = .ok ()
  model : validateText "agent.model" context.model 256 = .ok ()
  instanceId : validateOptionalText "agent.instance_id" context.instanceId 256 = .ok ()
  sessionId : validateOptionalText "session_id" context.sessionId 256 = .ok ()
  correlationId : validateOptionalText "correlation_id" context.correlationId 256 = .ok ()
  update : update.plain.validate = .ok ()

/-- What the adapter adds fits too: one more reference, one more artifact with its prefix, and the
words around the name and the call id of a tool. -/
def HasRoom (providerResponseId : String) : ObservableAgentUpdate → Prop
  | .reflection _ _ _ _ evidence _ _ _ => evidence.length < 128
  | .toolCall _ toolName callId summary _ =>
    summary.utf8ByteSize + toolName.utf8ByteSize + callId.utf8ByteSize + 16 ≤ 8192
  | .completion _ _ _ artifacts _ =>
    artifacts.length < 256 ∧ providerResponseId.utf8ByteSize + 18 ≤ 4096
  | .progress .. | .error .. => True

section Added

variable {providerResponseId : String}

theorem validate_providerResponse (provider : ProviderKind)
    (h : validateText "evidence.reference" providerResponseId 4096 = .ok ()) :
    (providerResponse provider providerResponseId).validate = .ok () := by
  have hkind : validateText "evidence.kind" "provider_response" 128 = .ok () := by decide
  have hsummary : ∀ provider : ProviderKind, validateOptionalText "evidence.summary"
      (some (provider.protocolName ++ " response identifier")) 4096 = .ok () := by
    intro provider
    cases provider <;> decide
  rw [EvidenceReference.validate, seq_eq_ok_iff, seq_eq_ok_iff]
  exact ⟨hkind, h, hsummary provider⟩

theorem validate_artifact_iff :
    validateText "artifacts" ("provider-response:" ++ providerResponseId) 4096 = .ok () ↔
      providerResponseId.utf8ByteSize + 18 ≤ 4096 := by
  have hsize : "provider-response:".utf8ByteSize = 18 := by decide
  have hvisible : ¬("provider-response:" ++ providerResponseId).toList.all isWhitespace := by
    rw [String.toList_append, List.all_append]
    simp [isWhitespace]
  rw [validateText_eq_ok_iff, String.utf8ByteSize_append, hsize, Nat.add_comm]
  exact and_iff_right hvisible

theorem validate_planSummary_iff {summary toolName callId : String} :
    validateOptionalText "plan_summary"
        (some (summary ++ " Tool: " ++ toolName ++ "; call: " ++ callId ++ ".")) 8192 = .ok () ↔
      summary.utf8ByteSize + toolName.utf8ByteSize + callId.utf8ByteSize + 16 ≤ 8192 := by
  have hvisible : ¬(summary ++ " Tool: " ++ toolName ++ "; call: " ++ callId ++ ".").toList.all
      isWhitespace := by
    simp [isWhitespace]
  have htool : " Tool: ".utf8ByteSize = 7 := by decide
  have hcall : "; call: ".utf8ByteSize = 8 := by decide
  have hstop : ".".utf8ByteSize = 1 := by decide
  rw [validateOptionalText, validateText_eq_ok_iff, and_iff_right hvisible]
  simp only [String.utf8ByteSize_append, htool, hcall, hstop]
  omega

end Added

section Normalize

variable {providerResponseId : String} {context : AdapterContext} {update : ObservableAgentUpdate}

theorem validate_event_iff (provider : ProviderKind)
    (h : WithinLimits providerResponseId context update) :
    (update.event provider providerResponseId).validate = .ok () ↔
      HasRoom providerResponseId update := by
  have hplain := h.update
  cases update with
  | progress taskId value summary blocker nextAction => exact iff_of_true hplain trivial
  | error taskId code message recoverable proposedRecovery => exact iff_of_true hplain trivial
  | reflection taskId summary confidence assumptions evidence alternativesConsidered risks
      nextAction =>
    simp only [ObservableAgentUpdate.plain, AgentEvent.validate, Reflection.validate,
      seq_eq_ok_iff] at hplain
    simp only [ObservableAgentUpdate.event, AgentEvent.validate, Reflection.validate,
      seq_eq_ok_iff, validateEvidence_concat_iff hplain.2.2.2.2.1,
      validate_providerResponse provider h.providerResponseId, HasRoom]
    simp only [hplain, true_and, and_true]
  | toolCall taskId toolName callId summary attempt =>
    simp only [ObservableAgentUpdate.plain, AgentEvent.validate, seq_eq_ok_iff,
      guard_eq_ok_iff] at hplain
    simp only [ObservableAgentUpdate.event, AgentEvent.validate, seq_eq_ok_iff, guard_eq_ok_iff,
      validate_planSummary_iff, HasRoom]
    simp only [hplain, not_false_eq_true, true_and]
  | completion taskId outcome summary artifacts actualResult =>
    simp only [ObservableAgentUpdate.plain, AgentEvent.validate, TaskCompleted.validate,
      seq_eq_ok_iff] at hplain
    simp only [ObservableAgentUpdate.event, AgentEvent.validate, TaskCompleted.validate,
      seq_eq_ok_iff, validateStringList_concat_iff hplain.2.2.1, validate_artifact_iff, HasRoom]
    simp only [hplain, true_and, and_true]

theorem validate_normalize_iff (origin : Origin) (provider : ProviderKind)
    (h : WithinLimits providerResponseId context update) :
    (normalize origin provider providerResponseId context update).validate = .ok () ↔
      (update.event provider providerResponseId).validate = .ok () := by
  have hprovider : ∀ provider : ProviderKind,
      validateText "agent.provider" provider.protocolName 128 = .ok () := by
    intro provider
    cases provider <;> decide
  have hnil : origin.newV4.isNil = false := Uuid.isNil_of_version origin.version
  rw [EventEnvelope.validate]
  simp only [guard_eq_ok_iff, seq_eq_ok_iff, normalize, Origin.envelope, hnil, h.agentId, hprovider,
    h.model, h.instanceId, h.sessionId, h.correlationId, ne_eq, not_true_eq_false,
    Bool.false_eq_true, not_false_eq_true, true_and]

/-- The envelope of an observation that keeps the canonical limits is valid exactly if what the
adapter adds to it fits as well. -/
theorem normalize_valid_iff (origin : Origin) (provider : ProviderKind)
    (h : WithinLimits providerResponseId context update) :
    (normalize origin provider providerResponseId context update).validate = .ok () ↔
      HasRoom providerResponseId update :=
  (validate_normalize_iff origin provider h).trans (validate_event_iff provider h)

end Normalize

namespace Sample

def origin : Origin := ⟨0x40000000000000000000, by decide, ⟨0, 0⟩⟩

def context : AdapterContext := ⟨"worker", "gpt", none, none, none, none⟩

def reflectionOn (evidence : Nat) : ObservableAgentUpdate :=
  .reflection (some "task") "summary" F32.one [] (List.replicate evidence ⟨"test", "log", none⟩)
    [] [] none

theorem withinLimits {evidence : Nat} (h : (reflectionOn evidence).plain.validate = .ok ()) :
    WithinLimits "response" context (reflectionOn evidence) where
  providerResponseId := by decide
  agentId := by decide
  model := by decide
  instanceId := rfl
  sessionId := rfl
  correlationId := rfl
  update := h

end Sample

theorem normalize_valid_iff_one :
    (normalize Sample.origin .gemini "response" Sample.context (Sample.reflectionOn 1)).validate =
        .ok () ↔ HasRoom "response" (Sample.reflectionOn 1) :=
  normalize_valid_iff Sample.origin .gemini (Sample.withinLimits (by decide +kernel))

theorem full_evidence_invalidated :
    WithinLimits "response" Sample.context (Sample.reflectionOn 128) ∧
      (normalize Sample.origin .openAi "response" Sample.context
        (Sample.reflectionOn 128)).validate = .error (.tooManyValues "evidence" 128) :=
  ⟨Sample.withinLimits (by decide +kernel), by decide +kernel⟩

end Provider

end ControlPlane
