import ControlPlane.Runtime.Monitor

/-! The snapshot of a monitor: sampled processes and hook agents merged into one row an agent. -/

namespace ControlPlane.Runtime

def SNAPSHOT_HOOK_LIMIT : Nat := 250
def SNAPSHOT_COMMAND_LIMIT : Nat := 250

structure RuntimeAgentTelemetry where
  agentId : String
  provider : String
  model : String
  instanceId : Option String
  sessionId : Option String
  pid : Option Nat
  status : String
  currentActivity : Option String
  currentTool : Option String
  reportedConfidence : Option F32
  confidenceSource : String
  cpuPercent : Option F64
  rssBytes : Option Nat
  memoryPercent : Option F64
  resourceSource : String
  inputTokens : Nat
  outputTokens : Nat
  processBacked : Bool
  hookBacked : Bool
  controlCapable : Bool
  lastHookAt : Option DateTime
  lastProcessSampleAt : Option DateTime
  deriving DecidableEq, Repr

structure RuntimeTotals where
  agents : Nat
  processBackedAgents : Nat
  hookBackedAgents : Nat
  cpuPercent : F64
  rssBytes : Nat
  inputTokens : Nat
  outputTokens : Nat
  confidenceReportedAgents : Nat
  confidenceUnreportedAgents : Nat
  pendingCommands : Nat

structure RuntimeCollectionStatus where
  configured : Bool
  enabled : Bool
  procRoot : String
  sampleIntervalMs : Nat
  processPatterns : List String
  cpuCount : Nat
  memoryTotalBytes : Option Nat
  lastSampleAt : Option DateTime
  lastError : Option String
  collectionErrors : Nat

structure RuntimeSnapshot where
  generatedAt : DateTime
  collection : RuntimeCollectionStatus
  totals : RuntimeTotals
  agents : List RuntimeAgentTelemetry
  processes : List RuntimeProcessTelemetry
  recentHooks : List RuntimeHookEnvelope
  recentCommands : List ControlCommand

abbrev Rows := BTreeMap String RuntimeAgentTelemetry

def processStateLabel (state : String) : String :=
  if state = "R" then "running"
  else if state = "S" ∨ state = "D" ∨ state = "I" then "waiting"
  else if state = "T" ∨ state = "t" then "stopped"
  else if state = "Z" then "zombie"
  else if state = "X" ∨ state = "x" then "dead"
  else "observed"

def processAgentIds (agents : List HookAgentState) : HashMap Nat String :=
  .ofList (agents.filterMap fun agent => agent.pid.map fun pid => (pid, agent.agent.agentId))

def RuntimeProcessTelemetry.anonymousId (process : RuntimeProcessTelemetry) : String :=
  "process:" ++ process.provider ++ ":" ++ toString process.pid

def RuntimeProcessTelemetry.rowId (process : RuntimeProcessTelemetry)
    (processAgentIds : HashMap Nat String) : String :=
  (processAgentIds.get process.pid).getD process.anonymousId

def RuntimeProcessTelemetry.row (process : RuntimeProcessTelemetry) (agentId : String) :
    RuntimeAgentTelemetry where
  agentId := agentId
  provider := process.provider
  model := "unreported"
  instanceId := none
  sessionId := none
  pid := some process.pid
  status := processStateLabel process.processState
  currentActivity := none
  currentTool := none
  reportedConfidence := none
  confidenceSource := "unreported"
  cpuPercent := process.cpuPercent
  rssBytes := some process.rssBytes
  memoryPercent := process.memoryPercent
  resourceSource := "host_process"
  inputTokens := 0
  outputTokens := 0
  processBacked := true
  hookBacked := false
  controlCapable := false
  lastHookAt := none
  lastProcessSampleAt := some process.observedAt

def processRows (processAgentIds : HashMap Nat String) (processes : List RuntimeProcessTelemetry) :
    Rows :=
  processes.foldl (fun rows process =>
    let agentId := process.rowId processAgentIds
    rows.insert agentId (process.row agentId)) ∅

namespace HookAgentState

variable (agent : HookAgentState)

def confidenceSource : String :=
  if agent.reportedConfidence.isSome then "hook" else "unreported"

def modify (row : RuntimeAgentTelemetry) : RuntimeAgentTelemetry :=
  { row with
    provider := agent.agent.provider
    model := agent.agent.model
    instanceId := agent.agent.instanceId
    sessionId := agent.sessionId
    pid := agent.pid.or row.pid
    status := agent.status
    currentActivity := agent.currentActivity
    currentTool := agent.currentTool
    reportedConfidence := agent.reportedConfidence
    confidenceSource := agent.confidenceSource
    inputTokens := agent.inputTokens
    outputTokens := agent.outputTokens
    hookBacked := true
    controlCapable := agent.controlCapable
    lastHookAt := some agent.lastHookAt }

def row (process : Option RuntimeProcessTelemetry) : RuntimeAgentTelemetry where
  agentId := agent.agent.agentId
  provider := agent.agent.provider
  model := agent.agent.model
  instanceId := agent.agent.instanceId
  sessionId := agent.sessionId
  pid := agent.pid
  status := agent.status
  currentActivity := agent.currentActivity
  currentTool := agent.currentTool
  reportedConfidence := agent.reportedConfidence
  confidenceSource := agent.confidenceSource
  cpuPercent := (process.bind RuntimeProcessTelemetry.cpuPercent).or agent.cpuPercent
  rssBytes := (process.map RuntimeProcessTelemetry.rssBytes).or agent.rssBytes
  memoryPercent := (process.bind RuntimeProcessTelemetry.memoryPercent).or agent.memoryPercent
  resourceSource :=
    if process.isSome then "host_process"
    else if agent.cpuPercent.isSome || agent.rssBytes.isSome || agent.memoryPercent.isSome then
      "hook"
    else "unreported"
  inputTokens := agent.inputTokens
  outputTokens := agent.outputTokens
  processBacked := process.isSome
  hookBacked := true
  controlCapable := agent.controlCapable
  lastHookAt := some agent.lastHookAt
  lastProcessSampleAt := process.map RuntimeProcessTelemetry.observedAt

def merged (processes : HashMap Nat RuntimeProcessTelemetry) :
    Option RuntimeAgentTelemetry → RuntimeAgentTelemetry
  | some row => agent.modify row
  | none => agent.row (agent.pid.bind processes.get)

end HookAgentState

def mergeHookAgents (processes : HashMap Nat RuntimeProcessTelemetry) (rows : Rows)
    (agents : List HookAgentState) : Rows :=
  agents.foldl (fun rows agent =>
    rows.alter agent.agent.agentId fun row => some (agent.merged processes row)) rows

namespace RuntimeState

variable (state : RuntimeState) (agents : state.hookAgents.Iteration)
  (processes : state.processes.Iteration)

def rows : Rows :=
  mergeHookAgents state.processes (processRows (processAgentIds agents.values) processes.values)
    agents.values

end RuntimeState

def RuntimeTotals.of (agents : List RuntimeAgentTelemetry) (commands : List ControlCommand) :
    RuntimeTotals where
  agents := agents.length
  processBackedAgents := agents.countP fun agent => agent.processBacked
  hookBackedAgents := agents.countP fun agent => agent.hookBacked
  cpuPercent := F64.sum (agents.filterMap fun agent => agent.cpuPercent)
  rssBytes := (agents.filterMap fun agent => agent.rssBytes).foldl U64.wrappingAdd 0
  inputTokens := (agents.map fun agent => agent.inputTokens).foldl U64.wrappingAdd 0
  outputTokens := (agents.map fun agent => agent.outputTokens).foldl U64.wrappingAdd 0
  confidenceReportedAgents := agents.countP fun agent => agent.reportedConfidence.isSome
  confidenceUnreportedAgents := agents.countP fun agent => agent.reportedConfidence.isNone
  pendingCommands := commands.countP fun command => command.status = .pending

def RuntimeMonitor.snapshot (monitor : RuntimeMonitor)
    (hookAgents : monitor.state.hookAgents.Iteration)
    (processes : monitor.state.processes.Iteration) (generatedAt : DateTime) : RuntimeSnapshot :=
  let agents := (monitor.state.rows hookAgents processes).toList.map Prod.snd
  { generatedAt := generatedAt
    collection :=
      { configured := monitor.config.processCollectionEnabled
        enabled := monitor.collectionEnabled
        procRoot := monitor.config.procRoot
        sampleIntervalMs := monitor.config.sampleIntervalMs
        processPatterns := monitor.config.processPatterns
        cpuCount := monitor.state.cpuCount
        memoryTotalBytes := monitor.state.memoryTotalBytes
        lastSampleAt := monitor.state.lastSampleAt
        lastError := monitor.state.lastError
        collectionErrors := monitor.state.collectionErrors }
    totals := .of agents monitor.state.commands
    agents := agents
    processes := processes.values.mergeSort fun a b => a.pid ≤ b.pid
    recentHooks := monitor.state.hooks.take SNAPSHOT_HOOK_LIMIT
    recentCommands := monitor.state.commands.take SNAPSHOT_COMMAND_LIMIT }

structure RuntimeState.Filed (state : RuntimeState) : Prop where
  agents : HashMap.Keyed (fun agent => agent.agent.agentId) state.hookAgents
  processes : HashMap.Keyed RuntimeProcessTelemetry.pid state.processes

namespace RuntimeState.Filed

variable {state : RuntimeState}

theorem new : RuntimeState.new.Filed := ⟨.empty, .empty⟩

theorem recordHook (h : state.Filed) (hookCapacity : Nat) (hook : RuntimeHookEnvelope) :
    (state.recordHook hookCapacity hook).Filed where
  agents := by
    have hid : (((state.hookAgents.get hook.agent.agentId).getD (.first hook)).observe
        hook).agent.agentId = hook.agent.agentId := by
      apply HookAgentState.agentId_observe
      cases hagent : state.hookAgents.get hook.agent.agentId with
      | none => rfl
      | some agent => exact h.agents _ agent hagent
    have hinsert := h.agents.insert
      (((state.hookAgents.get hook.agent.agentId).getD (.first hook)).observe hook)
    simp only [hid] at hinsert
    exact hinsert
  processes := h.processes

theorem applyProcSnapshot (h : state.Filed) (snapshot : RawProcSnapshot) (observedAt : DateTime) :
    (state.applyProcSnapshot snapshot observedAt).Filed where
  agents := h.agents
  processes := by
    intro pid process hget
    obtain ⟨raw, -, heq⟩ := List.mem_map.mp (HashMap.mem_of_get_ofList hget)
    cases heq
    rfl

end RuntimeState.Filed

theorem RuntimeMonitor.filed_ran (config : RuntimeConfig) (ops : List Op) :
    (ran config ops).state.Filed := by
  refine Run.invariant (P := fun monitor : RuntimeMonitor => monitor.state.Filed)
    (fun monitor op h => ?_)
    (show (RuntimeMonitor.new config).state.Filed from .new) ops
  have heffect := monitor.effect op
  generalize monitor.step op = after at heffect ⊢
  cases heffect with
  | recorded valid new => exact h.recordHook _ _
  | collected result observedAt =>
    cases result with
    | ok snapshot => exact h.applyProcSnapshot snapshot observedAt
    | error error => exact ⟨h.agents, h.processes⟩
  | enqueued | resolved | switched | refused => exact ⟨h.agents, h.processes⟩

end ControlPlane.Runtime
