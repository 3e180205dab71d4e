import ControlPlane.Lib.HashMap
import ControlPlane.Hooks.Envelope

/-! The mappings: what the adapter says of an event that an agent's own hooks report. -/

namespace ControlPlane.Hooks

open Fleet (CodePoint Text Json Dict text)
open ControlPlane.Runtime (HookNumber RuntimeHookEnvelope RuntimeHookKind)
open Serde (Codec)

variable [Python] (settings : Settings) (circumstances : Circumstances)

abbrev Mapped := RuntimeHookKind × Text

def namedTool (kind : RuntimeHookKind) (toolName : Option Text) : Option Text :=
  if kind = .toolStarted ∨ kind = .toolFinished then toolName else none

def claudeMapping (tool detail : Text) : List (Text × Mapped) :=
  [(text "SessionStart", .sessionStarted, text "Session started: " ++ detail),
    (text "UserPromptSubmit", .activity, text "User prompt submitted"),
    (text "PreToolUse", .toolStarted, text "Tool started: " ++ tool),
    (text "PermissionRequest", .activity, text "Permission requested for tool: " ++ tool),
    (text "PostToolUse", .toolFinished, text "Tool finished: " ++ tool),
    (text "PostToolUseFailure", .errorObserved, text "Tool failed: " ++ tool),
    (text "Notification", .activity, text "Agent notification: " ++ detail),
    (text "SubagentStart", .sessionStarted, text "Subagent started"),
    (text "SubagentStop", .sessionFinished, text "Subagent stopped"),
    (text "Stop", .modelResponse, text "Agent turn completed"),
    (text "StopFailure", .errorObserved, text "Agent stop hook failed"),
    (text "TeammateIdle", .activity, text "Agent teammate became idle"),
    (text "TaskCompleted", .activity, text "Agent task completed"),
    (text "PreCompact", .activity, text "Context compaction started"),
    (text "SessionEnd", .sessionFinished, text "Session ended: " ++ detail)]

def mapClaude (payload : Dict) : HookEnvelope :=
  let event := identifier
    (first payload ["hook_event_name", "hookEventName", "event_name", "eventName"]) (text "Unknown")
  let sessionId := textOf (first payload ["session_id", "sessionId"])
  let subagentId := textOf (first payload ["agent_id", "agentId"])
  let agentId := settings.overrideAgentId (text "claude") sessionId
  let toolName := textOf (first payload ["tool_name", "toolName"])
  let tool := identifier (toolName.map .str) (text "unknown")
  let detail := identifier
    (first payload ["source", "reason", "notification_type", "notificationType"])
    (text "unspecified")
  let mapped := ((claudeMapping tool detail).lookup event).getD
    (.activity, text "Claude hook: " ++ event)
  baseEnvelope settings circumstances {
    provider := text "anthropic"
    agentId :=
      match subagentId, settings.configuredId with
      | some subagentId, none =>
        agentId ++ text ":" ++ identifier (some (.str subagentId)) (text "subagent")
      | _, _ => agentId
    model := settings.overrideModel (first payload ["model", "model_name", "modelName"])
    sessionId := sessionId
    instanceId := subagentId.or (textOf (first payload ["agent_type", "agentType"]))
    kind := mapped.1
    summary := mapped.2
    nativeEvent := event
    toolName := namedTool mapped.1 toolName }

def geminiMapping (tool detail : Text) : List (Text × Mapped) :=
  [(text "SessionStart", .sessionStarted, text "Session started: " ++ detail),
    (text "BeforeAgent", .activity, text "Agent loop started"),
    (text "BeforeModel", .activity, text "Model request started"),
    (text "AfterModel", .modelResponse, text "Model response completed"),
    (text "BeforeTool", .toolStarted, text "Tool started: " ++ tool),
    (text "AfterTool", .toolFinished, text "Tool finished: " ++ tool),
    (text "AfterAgent", .modelResponse, text "Agent loop completed"),
    (text "Notification", .activity, text "Agent notification: " ++ detail),
    (text "PreCompress", .activity, text "Context compression started"),
    (text "SessionEnd", .sessionFinished, text "Session ended: " ++ detail)]

def mapGemini (payload : Dict) : HookEnvelope :=
  let event := identifier
    (first payload ["hook_event_name", "hookEventName", "event_name", "eventName", "event"])
    (text "Unknown")
  let sessionId := textOf (first payload ["session_id", "sessionId"])
  let toolName := textOf (first payload ["tool_name", "toolName"])
  let tool := identifier (toolName.map .str) (text "unknown")
  let detail := identifier
    (first payload ["source", "reason", "notification_type", "notificationType"])
    (text "unspecified")
  let mapped := ((geminiMapping tool detail).lookup event).getD
    (.activity, text "Gemini hook: " ++ event)
  baseEnvelope settings circumstances {
    provider := text "google"
    agentId := settings.overrideAgentId (text "gemini") sessionId
    model := settings.overrideModel (first payload ["model", "model_name", "modelName"])
    sessionId := sessionId
    kind := mapped.1
    summary := mapped.2
    nativeEvent := event
    toolName := namedTool mapped.1 toolName }

def SENSITIVE_CODEX_ITEM_TYPES : List Text :=
  [text "agentmessage", text "reasoning", text "usermessage"]

/-- No character outside ASCII becomes a single letter of the words compared here. -/
def lower (t : Text) : Text := t.map Fleet.asciiLower

def codexMapping (method status itemType : Text) (item : Dict) :
    Option (RuntimeHookKind × Text × Option Text) :=
  if method = text "thread/started" then some (.sessionStarted, text "Thread started", none)
  else if method = text "thread/closed" then
    some (.sessionFinished, text "Thread lifecycle: closed", none)
  else if method = text "thread/archived" then
    some (.sessionFinished, text "Thread lifecycle: archived", none)
  else if method = text "thread/status/changed" then
    some (if status = text "systemError" ∨ status = text "failed" then .errorObserved
      else .activity, text "Thread status changed: " ++ status, none)
  else if method = text "turn/started" then some (.activity, text "Turn started", none)
  else if method = text "turn/completed" then
    some (if [text "failed", text "systemerror", text "error"].contains (lower status) then
      .errorObserved else .modelResponse, text "Turn completed: " ++ status, none)
  else if method = text "item/started" ∨ method = text "item/completed" then
    if SENSITIVE_CODEX_ITEM_TYPES.contains (lower itemType) then none
    else
      let toolName := identifier
        (orElse (first item ["tool", "toolName", "name"]) (some (.str itemType)))
        (text "unknown-tool")
      if method = text "item/started" then
        some (.toolStarted, text "Work item started: " ++ itemType, some toolName)
      else some (.toolFinished, text "Work item finished: " ++ itemType, some toolName)
  else none

section Codex

def codexModel (params : Dict) : Text :=
  settings.overrideModel (orElse (orElse (first params ["model", "modelName"])
    (first (nestedOrEmpty params "thread") ["model", "modelName"]))
    (first (nestedOrEmpty params "turn") ["model", "modelName"]))

def codexStatus (params : Dict) : Text :=
  identifier (orElse (orElse (first params ["status"])
    (first (nestedOrEmpty params "turn") ["status"]))
    (first (nestedOrEmpty params "thread") ["status"])) (text "unspecified")

def codexItemType (params : Dict) : Text :=
  identifier (first (nestedOrEmpty params "item") ["type", "kind"]) (text "unknown")

def threadKey (params : Dict) : Text := (threadId params).getD (text "host")

def codexReport (method : Text) (params : Dict) (kind : RuntimeHookKind) (summary : Text)
    (eventId : Uuid) : Report where
  provider := text "openai"
  agentId := settings.overrideAgentId (text "codex") (threadId params)
  model := codexModel settings params
  sessionId := threadId params
  kind := kind
  summary := summary
  nativeEvent := method
  eventId := some eventId

def tokenUsage (method : Text) (params : Dict) (previous totals : Totals) :
    Except Raised HookEnvelope := do
  let eventId ← codexEventId method (threadId params) (turnId params) none
    (some (Json.decimal totals.1 ++ text ":" ++ Json.decimal totals.2)) circumstances.uuid4
  return baseEnvelope settings circumstances
    { codexReport settings method params .heartbeat (text "Token usage updated") eventId with
      inputTokensDelta := totals.1 - previous.1
      outputTokensDelta := totals.2 - previous.2 }

def codexHook (method : Text) (params : Dict) : Except Raised (Option HookEnvelope) :=
  let status := codexStatus params
  let item := nestedOrEmpty params "item"
  match codexMapping method status (codexItemType params) item with
  | none => .ok none
  | some (kind, summary, toolName) => do
    let eventId ← codexEventId method (threadId params) (turnId params)
      (textOf (first item ["id", "itemId", "item_id"])) (some status) circumstances.uuid4
    return some (baseEnvelope settings circumstances
      { codexReport settings method params kind summary eventId with toolName := toolName })

def tokenReading (payload : Dict) : Except Raised (Option (Text × Totals)) :=
  match textOf (payload.get "method"), payload.get "params" with
  | some method, some (.dict params) =>
    if method = text "thread/tokenUsage/updated" then
      return (← codexTokenTotals params).map fun totals => (threadKey params, totals)
    else .ok none
  | _, _ => .ok none

/-- The totals of the threads are kept as soon as they are read, whatever becomes of the hook. -/
def mapCodexNotification (tokenState : HashMap Text Totals) (payload : Dict) :
    HashMap Text Totals × Except Raised (Option HookEnvelope) :=
  match textOf (payload.get "method"), payload.get "params" with
  | some method, some (.dict params) =>
    if method = text "thread/tokenUsage/updated" then
      match codexTokenTotals params with
      | .error raised => (tokenState, .error raised)
      | .ok none => (tokenState, .ok none)
      | .ok (some totals) =>
        let previous := (tokenState.get (threadKey params)).getD (0, 0)
        (tokenState.insert (threadKey params) totals,
          (tokenUsage settings circumstances method params previous totals).map some)
    else (tokenState, codexHook settings circumstances method params)
  | _, _ => (tokenState, .ok none)

end Codex

section Read

variable {settings circumstances}

def Circumstances.fits (circumstances : Circumstances) : Bool :=
  circumstances.pid.all (· < 2 ^ 32) && circumstances.resources.rssBytes.all (· < 2 ^ 64)

theorem fits_baseEnvelope (hfits : circumstances.fits = true) (report : Report) :
    (baseEnvelope settings circumstances report).fits =
      (report.inputTokensDelta < 2 ^ 64 && report.outputTokensDelta < 2 ^ 64) := by
  rw [Circumstances.fits, Bool.and_eq_true] at hfits
  have hpid : (circumstances.pid.filter fun pid => 0 < pid).all (· < 2 ^ 32) = true := by
    rw [Option.all_eq_true]
    intro pid hpid
    exact (Option.all_eq_true _ _).1 hfits.1 pid (Option.eq_some_of_filter_eq_some hpid)
  simp only [HookEnvelope.fits, baseEnvelope, hpid, hfits.2, Bool.and_true]
  rfl

theorem codexHook_built {method : Text} {params : Dict} {envelope : HookEnvelope}
    (h : codexHook settings circumstances method params = .ok (some envelope)) :
    ∃ report, envelope = baseEnvelope settings circumstances report := by
  unfold codexHook at h
  dsimp only at h
  split at h
  · cases h
  · obtain ⟨eventId, -, h⟩ := Check.bind_eq_ok_iff.1 h
    cases h
    exact ⟨_, rfl⟩

theorem tokenUsage_built {method : Text} {params : Dict} {previous totals : Totals}
    {envelope : HookEnvelope}
    (h : tokenUsage settings circumstances method params previous totals = .ok envelope) :
    ∃ report, envelope = baseEnvelope settings circumstances report := by
  unfold tokenUsage at h
  obtain ⟨eventId, -, h⟩ := Check.bind_eq_ok_iff.1 h
  cases h
  exact ⟨_, rfl⟩

theorem mapCodexNotification_built {tokenState : HashMap Text Totals} {payload : Dict}
    {envelope : HookEnvelope}
    (h : (mapCodexNotification settings circumstances tokenState payload).2 =
      .ok (some envelope)) :
    ∃ report, envelope = baseEnvelope settings circumstances report := by
  unfold mapCodexNotification at h
  split at h
  · next method params _ _ =>
    split at h
    · split at h
      · cases h
      · cases h
      · next totals _ =>
        dsimp only at h
        cases husage : tokenUsage settings circumstances method params
          ((tokenState.get (threadKey params)).getD (0, 0)) totals with
        | error raised =>
          rw [husage] at h
          cases h
        | ok built =>
          rw [husage] at h
          cases h
          exact tokenUsage_built husage
    · exact codexHook_built h
  · cases h

variable {N : Type} [HookNumber N] [WireText] [HookText]

theorem decode_baseEnvelope (hclock : HookText.IsDatetime circumstances.now)
    (hfits : circumstances.fits = true) (report : Report) :
    (RuntimeHookEnvelope.codec : Codec N _).decode
        (baseEnvelope settings circumstances report).value =
      if report.inputTokensDelta < 2 ^ 64 ∧ report.outputTokensDelta < 2 ^ 64 then
        some ((baseEnvelope settings circumstances report).hook N)
      else none := by
  rw [HookEnvelope.decode_value _ hclock, fits_baseEnvelope hfits]
  simp only [Bool.and_eq_true, decide_eq_true_eq]

theorem decode_mapClaude (hclock : HookText.IsDatetime circumstances.now)
    (hfits : circumstances.fits = true) (payload : Dict) :
    (RuntimeHookEnvelope.codec : Codec N _).decode
        (mapClaude settings circumstances payload).value =
      some ((mapClaude settings circumstances payload).hook N) :=
  (decode_baseEnvelope hclock hfits _).trans
    (if_pos ⟨Nat.two_pow_pos 64, Nat.two_pow_pos 64⟩)

theorem decode_mapGemini (hclock : HookText.IsDatetime circumstances.now)
    (hfits : circumstances.fits = true) (payload : Dict) :
    (RuntimeHookEnvelope.codec : Codec N _).decode
        (mapGemini settings circumstances payload).value =
      some ((mapGemini settings circumstances payload).hook N) :=
  (decode_baseEnvelope hclock hfits _).trans
    (if_pos ⟨Nat.two_pow_pos 64, Nat.two_pow_pos 64⟩)

/-- What is told of tokens may be more than the daemon has room for. -/
theorem decode_mapCodexNotification (hclock : HookText.IsDatetime circumstances.now)
    (hfits : circumstances.fits = true) {tokenState : HashMap Text Totals} {payload : Dict}
    {envelope : HookEnvelope}
    (h : (mapCodexNotification settings circumstances tokenState payload).2 =
      .ok (some envelope)) :
    (RuntimeHookEnvelope.codec : Codec N _).decode envelope.value =
      if envelope.inputTokensDelta < 2 ^ 64 ∧ envelope.outputTokensDelta < 2 ^ 64 then
        some (envelope.hook N)
      else none := by
  obtain ⟨report, rfl⟩ := mapCodexNotification_built h
  exact decode_baseEnvelope hclock hfits report

end Read

end ControlPlane.Hooks
