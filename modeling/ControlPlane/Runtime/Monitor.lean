import ControlPlane.Lib.HashMap
import ControlPlane.Lib.Run
import ControlPlane.Runtime.Model

/-! The monitor: hooks, host samples and control commands behind one lock. -/

namespace ControlPlane.Runtime

structure RuntimeConfig where
  processCollectionEnabled : Bool
  procRoot : String
  sampleIntervalMs : Nat
  processPatterns : List String
  hookCapacity : Nat
  commandCapacity : Nat

structure HookAgentState where
  agent : RuntimeAgentRef
  sessionId : Option String
  pid : Option Nat
  status : String
  currentActivity : Option String
  currentTool : Option String
  reportedConfidence : Option F32
  cpuPercent : Option F64
  rssBytes : Option Nat
  memoryPercent : Option F64
  controlCapable : Bool
  inputTokens : Nat
  outputTokens : Nat
  lastHookAt : DateTime
  deriving DecidableEq, Repr

structure RuntimeProcessTelemetry where
  pid : Nat
  provider : String
  processName : String
  matchedPattern : String
  processState : String
  cpuPercent : Option F64
  rssBytes : Nat
  memoryPercent : Option F64
  observedAt : DateTime
  deriving DecidableEq, Repr

structure RawProcess where
  pid : Nat
  provider : String
  processName : String
  matchedPattern : String
  processState : String
  processTicks : Nat
  rssBytes : Nat

structure RawProcSnapshot where
  totalTicks : Nat
  cpuCount : Nat
  memoryTotalBytes : Option Nat
  processes : List RawProcess

structure RuntimeState where
  hooks : List RuntimeHookEnvelope
  hookIds : List Uuid
  hookAgents : HashMap String HookAgentState
  commands : List ControlCommand
  processes : HashMap Nat RuntimeProcessTelemetry
  previousTotalTicks : Option Nat
  previousProcessTicks : HashMap Nat Nat
  cpuCount : Nat
  memoryTotalBytes : Option Nat
  lastSampleAt : Option DateTime
  lastError : Option String
  collectionErrors : Nat

structure RuntimeMonitor where
  config : RuntimeConfig
  collectionEnabled : Bool
  state : RuntimeState

def RuntimeState.new : RuntimeState where
  hooks := []
  hookIds := []
  hookAgents := .empty
  commands := []
  processes := .empty
  previousTotalTicks := none
  previousProcessTicks := .empty
  cpuCount := 0
  memoryTotalBytes := none
  lastSampleAt := none
  lastError := none
  collectionErrors := 0

def RuntimeMonitor.new (config : RuntimeConfig) : RuntimeMonitor where
  config := config
  collectionEnabled := config.processCollectionEnabled
  state := .new

def RuntimeState.recordCollectionError (state : RuntimeState) (error : String) : RuntimeState :=
  { state with
    collectionErrors := U64.saturatingAdd state.collectionErrors 1
    lastError := some error }

def checkedSub (a b : Nat) : Option Nat := if b ≤ a then some (a - b) else none

def cpuPercent (state : RuntimeState) (snapshot : RawProcSnapshot) (process : RawProcess) :
    Option F64 := do
  let previousTotal ← state.previousTotalTicks
  let totalDelta ← checkedSub snapshot.totalTicks previousTotal
  if totalDelta = 0 then none
  let previous ← state.previousProcessTicks.get process.pid
  let processDelta ← checkedSub process.processTicks previous
  return (((F64.ofNat processDelta).div (F64.ofNat totalDelta)).mul
    (F64.ofNat (max snapshot.cpuCount 1))).mul (F64.ofNat 100)

def memoryPercent (snapshot : RawProcSnapshot) (process : RawProcess) : Option F64 :=
  snapshot.memoryTotalBytes.bind fun total =>
    if 0 < total then
      some (((F64.ofNat process.rssBytes).div (F64.ofNat total)).mul (F64.ofNat 100))
    else none

def telemetry (state : RuntimeState) (snapshot : RawProcSnapshot) (observedAt : DateTime)
    (process : RawProcess) : RuntimeProcessTelemetry where
  pid := process.pid
  provider := process.provider
  processName := process.processName
  matchedPattern := process.matchedPattern
  processState := process.processState
  cpuPercent := cpuPercent state snapshot process
  rssBytes := process.rssBytes
  memoryPercent := memoryPercent snapshot process
  observedAt := observedAt

def RuntimeState.applyProcSnapshot (state : RuntimeState) (snapshot : RawProcSnapshot)
    (observedAt : DateTime) : RuntimeState :=
  { state with
    previousTotalTicks := some snapshot.totalTicks
    previousProcessTicks :=
      .ofList (snapshot.processes.map fun process => (process.pid, process.processTicks))
    processes :=
      .ofList (snapshot.processes.map fun process =>
        (process.pid, telemetry state snapshot observedAt process))
    cpuCount := snapshot.cpuCount
    memoryTotalBytes := snapshot.memoryTotalBytes
    lastSampleAt := some observedAt
    lastError := none }

def HookAgentState.first (hook : RuntimeHookEnvelope) : HookAgentState where
  agent := hook.agent
  sessionId := hook.sessionId
  pid := hook.pid
  status := "observed"
  currentActivity := none
  currentTool := none
  reportedConfidence := none
  cpuPercent := hook.cpuPercent
  rssBytes := hook.rssBytes
  memoryPercent := hook.memoryPercent
  controlCapable := hook.controlCapable
  inputTokens := 0
  outputTokens := 0
  lastHookAt := hook.occurredAt

def HookAgentState.react (agent : HookAgentState) (hook : RuntimeHookEnvelope) : HookAgentState :=
  match hook.kind with
  | .sessionStarted => { agent with status := "running" }
  | .heartbeat => agent
  | .activity | .modelResponse => { agent with status := "running" }
  | .toolStarted => { agent with status := "running", currentTool := hook.toolName }
  | .toolFinished => { agent with status := "running", currentTool := none }
  | .confidenceReported => agent
  | .errorObserved => { agent with status := "failed" }
  | .sessionFinished => { agent with status := "idle", currentTool := none }

def HookAgentState.renew (agent : HookAgentState) (hook : RuntimeHookEnvelope) : HookAgentState :=
  let renewed : HookAgentState := { agent with
    agent := hook.agent
    sessionId := if hook.sessionId.isSome then hook.sessionId else agent.sessionId
    pid := if hook.pid.isSome then hook.pid else agent.pid
    lastHookAt := hook.occurredAt
    reportedConfidence :=
      if hook.confidence.isSome then hook.confidence else agent.reportedConfidence
    cpuPercent := if hook.cpuPercent.isSome then hook.cpuPercent else agent.cpuPercent
    rssBytes := if hook.rssBytes.isSome then hook.rssBytes else agent.rssBytes
    memoryPercent :=
      if hook.memoryPercent.isSome then hook.memoryPercent else agent.memoryPercent
    currentActivity := if hook.summary.isSome then hook.summary else agent.currentActivity }
  renewed.react hook

def HookAgentState.observe (agent : HookAgentState) (hook : RuntimeHookEnvelope) :
    HookAgentState :=
  let counted : HookAgentState := { agent with
    inputTokens := U64.saturatingAdd agent.inputTokens hook.inputTokensDelta
    outputTokens := U64.saturatingAdd agent.outputTokens hook.outputTokensDelta
    controlCapable := agent.controlCapable || hook.controlCapable }
  if agent.lastHookAt ≤ hook.occurredAt then counted.renew hook else counted

def RuntimeState.recordHook (state : RuntimeState) (hookCapacity : Nat)
    (hook : RuntimeHookEnvelope) : RuntimeState :=
  let agent := (state.hookAgents.get hook.agent.agentId).getD (.first hook)
  { state with
    hookAgents := state.hookAgents.insert hook.agent.agentId (agent.observe hook)
    hooks := (hook :: state.hooks).take hookCapacity
    hookIds := (hook.eventId :: state.hookIds).take hookCapacity }

def RuntimeMonitor.ingestHook (monitor : RuntimeMonitor) (hook : RuntimeHookEnvelope) :
    RuntimeMonitor × Except RuntimeError Unit :=
  match hook.validate with
  | .error error => (monitor, .error error)
  | .ok () =>
    if hook.eventId ∈ monitor.state.hookIds then (monitor, .error .duplicateHook)
    else
      ({ monitor with state := monitor.state.recordHook monitor.config.hookCapacity hook }, .ok ())

def RuntimeState.hasChannel (state : RuntimeState) (agentId : String) : Bool :=
  (state.hookAgents.get agentId).any fun agent => agent.controlCapable

def ControlCommand.issue (request : ControlCommandRequest) (commandId : Uuid)
    (createdAt : DateTime) : ControlCommand where
  commandId := commandId
  createdAt := createdAt
  agentId := request.agentId
  action := request.action
  status := .pending
  acknowledgedAt := none
  message := none

def ControlCommand.resolve (command : ControlCommand) (ack : ControlCommandAck)
    (now : DateTime) : ControlCommand :=
  { command with
    status := if ack.accepted then .acknowledged else .rejected
    acknowledgedAt := some now
    message := ack.message }

namespace RuntimeMonitor

def withCommands (monitor : RuntimeMonitor) (commands : List ControlCommand) : RuntimeMonitor :=
  { monitor with state := { monitor.state with commands := commands } }

def enqueueCommand (monitor : RuntimeMonitor) (request : ControlCommandRequest)
    (commandId : Uuid) (createdAt : DateTime) :
    RuntimeMonitor × Except RuntimeError ControlCommand :=
  match request.validate with
  | .error error => (monitor, .error error)
  | .ok () =>
    if monitor.state.hasChannel request.agentId then
      let command := ControlCommand.issue request commandId createdAt
      (monitor.withCommands
        ((command :: monitor.state.commands).take monitor.config.commandCapacity), .ok command)
    else (monitor, .error .agentNotHookBacked)

def pendingCommands (monitor : RuntimeMonitor) (agentId : String) :
    Except RuntimeError (List ControlCommand) := do
  validateText "agent_id" agentId 256
  return monitor.state.commands.filter fun command =>
    command.agentId = agentId ∧ command.status = .pending

def acknowledgeCommand (monitor : RuntimeMonitor) (ack : ControlCommandAck) (now : DateTime) :
    RuntimeMonitor × Except RuntimeError ControlCommand :=
  match ack.validate with
  | .error error => (monitor, .error error)
  | .ok () =>
    match monitor.state.commands.findFinIdx? fun command => command.commandId = ack.commandId with
    | none => (monitor, .error .commandNotFound)
    | some position =>
      let command := monitor.state.commands[position]
      if command.agentId ≠ ack.agentId then (monitor, .error .commandAgentMismatch)
      else
        let command := command.resolve ack now
        (monitor.withCommands (monitor.state.commands.set position command), .ok command)

inductive Op
  | ingestHook (hook : RuntimeHookEnvelope)
  | enqueueCommand (request : ControlCommandRequest) (commandId : Uuid) (createdAt : DateTime)
  | acknowledgeCommand (ack : ControlCommandAck) (now : DateTime)
  | collectOnce (result : Except String RawProcSnapshot) (observedAt : DateTime)
  | setCollectionEnabled (enabled : Bool)

def collectOnce (monitor : RuntimeMonitor) (result : Except String RawProcSnapshot)
    (observedAt : DateTime) : RuntimeMonitor :=
  match result with
  | .ok snapshot => { monitor with state := monitor.state.applyProcSnapshot snapshot observedAt }
  | .error error => { monitor with state := monitor.state.recordCollectionError error }

def step (monitor : RuntimeMonitor) : Op → RuntimeMonitor
  | .ingestHook hook => (monitor.ingestHook hook).1
  | .enqueueCommand request commandId createdAt =>
    (monitor.enqueueCommand request commandId createdAt).1
  | .acknowledgeCommand ack now => (monitor.acknowledgeCommand ack now).1
  | .collectOnce result observedAt => monitor.collectOnce result observedAt
  | .setCollectionEnabled enabled => { monitor with collectionEnabled := enabled }

abbrev ran (config : RuntimeConfig) (ops : List Op) : RuntimeMonitor :=
  Run.after step (new config) ops

end RuntimeMonitor

namespace HookAgentState

variable (agent : HookAgentState) (hook : RuntimeHookEnvelope)

theorem react_eq : ∃ status currentTool,
    agent.react hook = { agent with status := status, currentTool := currentTool } := by
  unfold react
  cases hook.kind <;> exact ⟨_, _, rfl⟩

@[simp] theorem controlCapable_observe :
    (agent.observe hook).controlCapable = (agent.controlCapable || hook.controlCapable) := by
  unfold observe renew
  split
  · obtain ⟨status, currentTool, h⟩ := react_eq _ hook
    rw [h]
  · rfl

@[simp] theorem inputTokens_observe : (agent.observe hook).inputTokens =
    U64.saturatingAdd agent.inputTokens hook.inputTokensDelta := by
  unfold observe renew
  split
  · obtain ⟨status, currentTool, h⟩ := react_eq _ hook
    rw [h]
  · rfl

@[simp] theorem outputTokens_observe : (agent.observe hook).outputTokens =
    U64.saturatingAdd agent.outputTokens hook.outputTokensDelta := by
  unfold observe renew
  split
  · obtain ⟨status, currentTool, h⟩ := react_eq _ hook
    rw [h]
  · rfl

theorem agentId_observe (h : agent.agent.agentId = hook.agent.agentId) :
    (agent.observe hook).agent.agentId = hook.agent.agentId := by
  unfold observe renew
  split
  · obtain ⟨status, currentTool, hreact⟩ := react_eq _ hook
    rw [hreact]
  · exact h

end HookAgentState

namespace RuntimeMonitor

inductive Effect (monitor : RuntimeMonitor) : Op → RuntimeMonitor → Prop
  | recorded {hook : RuntimeHookEnvelope} (valid : hook.validate = .ok ())
    (new : hook.eventId ∉ monitor.state.hookIds) :
    Effect monitor (.ingestHook hook)
      { monitor with state := monitor.state.recordHook monitor.config.hookCapacity hook }
  | enqueued {request : ControlCommandRequest} (commandId : Uuid) (createdAt : DateTime)
    (valid : request.validate = .ok ()) (channel : monitor.state.hasChannel request.agentId) :
    Effect monitor (.enqueueCommand request commandId createdAt)
      (monitor.withCommands ((.issue request commandId createdAt ::
        monitor.state.commands).take monitor.config.commandCapacity))
  | resolved {ack : ControlCommandAck} (now : DateTime)
    {position : Fin monitor.state.commands.length} (valid : ack.validate = .ok ())
    (found : (monitor.state.commands.findFinIdx? fun command =>
      command.commandId = ack.commandId) = some position)
    (owner : monitor.state.commands[position].agentId = ack.agentId) :
    Effect monitor (.acknowledgeCommand ack now)
      (monitor.withCommands (monitor.state.commands.set position
        (monitor.state.commands[position].resolve ack now)))
  | collected (result : Except String RawProcSnapshot) (observedAt : DateTime) :
    Effect monitor (.collectOnce result observedAt) (monitor.collectOnce result observedAt)
  | switched (enabled : Bool) :
    Effect monitor (.setCollectionEnabled enabled) { monitor with collectionEnabled := enabled }
  | refused (op : Op) : Effect monitor op monitor

theorem effect (monitor : RuntimeMonitor) (op : Op) : Effect monitor op (monitor.step op) := by
  cases op with
  | ingestHook hook =>
    rw [step, ingestHook]
    split
    · exact .refused _
    · next valid =>
      split
      · exact .refused _
      · next new => exact .recorded valid new
  | enqueueCommand request commandId createdAt =>
    rw [step, enqueueCommand]
    split
    · exact .refused _
    · next valid =>
      split
      · next channel => exact .enqueued commandId createdAt valid channel
      · exact .refused _
  | acknowledgeCommand ack now =>
    rw [step, acknowledgeCommand]
    split
    · exact .refused _
    · next valid =>
      split
      · exact .refused _
      · next position found =>
        dsimp only
        split
        · exact .refused _
        · next owner => exact .resolved now valid found (not_not.mp owner)
  | collectOnce result observedAt => exact .collected result observedAt
  | setCollectionEnabled enabled => exact .switched enabled

@[simp] theorem config_step (monitor : RuntimeMonitor) (op : Op) :
    (monitor.step op).config = monitor.config := by
  have heffect := monitor.effect op
  generalize monitor.step op = after at heffect ⊢
  cases heffect with
  | collected result observedAt => cases result <;> rfl
  | _ => rfl

end RuntimeMonitor

end ControlPlane.Runtime
