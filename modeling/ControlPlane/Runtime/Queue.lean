import ControlPlane.Runtime.Commands

/-! What every reachable queue keeps: its bound, the channels of its agents, and each command
until its agent acknowledges it or the capacity pushes it out. -/

namespace ControlPlane.Runtime

theorem RuntimeState.hasChannel_recordHook {state : RuntimeState} {agentId : String}
    (h : state.hasChannel agentId = true) (hookCapacity : Nat) (hook : RuntimeHookEnvelope) :
    (state.recordHook hookCapacity hook).hasChannel agentId = true := by
  rw [hasChannel, recordHook, HashMap.get_insert]
  by_cases hid : agentId = hook.agent.agentId
  · subst hid
    rw [hasChannel] at h
    cases hagent : state.hookAgents.get hook.agent.agentId with
    | none => simp [hagent] at h
    | some agent =>
      have hcapable : agent.controlCapable = true := by simpa [hagent] using h
      simp [hcapable]
  · rw [if_neg hid]
    exact h

theorem RuntimeState.hasChannel_iff {state : RuntimeState} {agentId : String} :
    state.hasChannel agentId = true ↔
      ∃ agent, state.hookAgents.get agentId = some agent ∧ agent.controlCapable = true := by
  rw [hasChannel, Option.any_eq_true]

namespace RuntimeMonitor

theorem hasChannel_step {monitor : RuntimeMonitor} {agentId : String}
    (h : monitor.state.hasChannel agentId = true) (op : Op) :
    (monitor.step op).state.hasChannel agentId = true := by
  have heffect := monitor.effect op
  generalize monitor.step op = after at heffect ⊢
  cases heffect with
  | recorded valid new => exact RuntimeState.hasChannel_recordHook h _ _
  | collected result observedAt => cases result <;> exact h
  | enqueued | resolved | switched | refused => exact h

structure Sound (monitor : RuntimeMonitor) : Prop where
  bounded : monitor.state.commands.length ≤ monitor.config.commandCapacity
  channel : ∀ command ∈ monitor.state.commands,
    monitor.state.hasChannel command.agentId = true

theorem Sound.new (config : RuntimeConfig) : (RuntimeMonitor.new config).Sound where
  bounded := Nat.zero_le _
  channel := nofun

theorem Sound.step {monitor : RuntimeMonitor} (h : monitor.Sound) (op : Op) :
    (monitor.step op).Sound := by
  have hkept : ∀ command ∈ monitor.state.commands,
      (monitor.step op).state.hasChannel command.agentId = true :=
    fun command hcommand => hasChannel_step (h.channel command hcommand) op
  constructor
  · rw [config_step]
    rcases monitor.commands_cases op with ⟨-, heq⟩ | ⟨_, _, _, -, -, -, heq⟩ |
      ⟨_, _, _, _, -, -, -, heq⟩
    · rw [heq]
      exact h.bounded
    · rw [heq]
      exact List.length_take_le _ _
    · rw [heq, List.length_set]
      exact h.bounded
  · intro command hcommand
    rcases monitor.commands_cases op with ⟨-, heq⟩ | ⟨request, _, _, -, -, channel, heq⟩ |
      ⟨ack, now, position, resolved, -, -, hresolves, heq⟩ <;> rw [heq] at hcommand
    · exact hkept command hcommand
    · cases List.mem_of_mem_take hcommand with
      | head => exact hasChannel_step channel op
      | tail _ hold => exact hkept command hold
    · rcases List.mem_or_eq_of_mem_set hcommand with hold | rfl
      · exact hkept command hold
      · exact hkept resolved (List.mem_of_getElem? hresolves.position)

theorem sound_ran (config : RuntimeConfig) (ops : List Op) : (ran config ops).Sound :=
  Run.invariant (P := Sound) (fun _ op h => h.step op) (Sound.new config) ops

theorem config_after (monitor : RuntimeMonitor) (ops : List Op) :
    (Run.after step monitor ops).config = monitor.config :=
  Run.invariant (P := fun after => after.config = monitor.config)
    (fun after op h => (config_step after op).trans h) rfl ops

def Acknowledges (command : ControlCommand) (monitor : RuntimeMonitor) : Op → Prop
  | .acknowledgeCommand ack now =>
    ack.commandId = command.commandId ∧ ack.agentId = command.agentId ∧
      (monitor.acknowledgeCommand ack now).2.isOk = true
  | _ => False

theorem Resolves.acknowledges {monitor : RuntimeMonitor} {ack : ControlCommandAck}
    {position : Nat} {command : ControlCommand} (h : monitor.Resolves ack position command)
    (now : DateTime) : monitor.Acknowledges command (.acknowledgeCommand ack now) := by
  refine ⟨h.commandId_eq.symm, h.owner.symm, ?_⟩
  rw [h.accepted]
  rfl

/-- As long as there is room, an unacknowledged command is as many places down the queue as
commands were issued after it. -/
theorem getElem?_after {monitor : RuntimeMonitor} {command : ControlCommand}
    (h : monitor.state.commands[0]? = some command) {later : List Op}
    (hunacknowledged : Run.Along (fun monitor op => ¬monitor.Acknowledges command op) step
      monitor later)
    (hroom : Run.tally issues step monitor later < monitor.config.commandCapacity) :
    (Run.after step monitor later).state.commands[Run.tally issues step monitor later]? =
      some command := by
  have hplace := Run.invariant_tally_along issues (n := 0)
    (P := fun n after => after.config = monitor.config ∧
      (n < monitor.config.commandCapacity → after.state.commands[n]? = some command))
    (fun n after op ⟨hconfig, hat⟩ hno => by
      refine ⟨(config_step after op).trans hconfig, fun hlt => ?_⟩
      apply getElem?_step_of (hat (Nat.lt_of_le_of_lt (Nat.le_add_right _ _) hlt))
      · rw [hconfig]
        exact hlt
      · rintro ack now rfl hresolves
        exact hno (hresolves.acknowledges now))
    ⟨rfl, fun _ => h⟩ hunacknowledged
  rw [Nat.zero_add] at hplace
  exact hplace.2 hroom

theorem pendingCommands_ok {monitor : RuntimeMonitor} {agentId : String}
    {pending : List ControlCommand} (h : monitor.pendingCommands agentId = .ok pending) :
    ∀ command, command ∈ pending ↔ command ∈ monitor.state.commands ∧
      command.agentId = agentId ∧ command.status = .pending := by
  unfold pendingCommands at h
  cases hvalid : validateText "agent_id" agentId 256 with
  | error error =>
    rw [hvalid] at h
    cases h
  | ok _ =>
    rw [hvalid] at h
    cases h
    simp

theorem pendingCommands_of_valid {monitor : RuntimeMonitor} {request : ControlCommandRequest}
    (valid : request.validate = .ok ()) :
    ∃ pending, monitor.pendingCommands request.agentId = .ok pending := by
  rw [ControlCommandRequest.validate] at valid
  rw [pendingCommands, valid]
  exact ⟨_, rfl⟩

theorem delivered {monitor : RuntimeMonitor} {request : ControlCommandRequest} {commandId : Uuid}
    {createdAt : DateTime} {command : ControlCommand}
    (haccepted : (monitor.enqueueCommand request commandId createdAt).2 = .ok command)
    {later : List Op}
    (hunacknowledged : Run.Along (fun monitor op => ¬monitor.Acknowledges command op) step
      (monitor.enqueueCommand request commandId createdAt).1 later)
    (hroom : Run.tally issues step (monitor.enqueueCommand request commandId createdAt).1 later <
      monitor.config.commandCapacity) :
    ∃ pending, (Run.after step (monitor.enqueueCommand request commandId createdAt).1
      later).pendingCommands request.agentId = .ok pending ∧ command ∈ pending := by
  obtain ⟨valid, -, rfl, heq⟩ := enqueueCommand_ok haccepted
  rw [heq] at hunacknowledged hroom ⊢
  have hfirst : (monitor.withCommands ((ControlCommand.issue request commandId createdAt ::
      monitor.state.commands).take monitor.config.commandCapacity)).state.commands[0]? =
        some (.issue request commandId createdAt) := by
    rw [withCommands, List.getElem?_take_of_lt (Nat.zero_lt_of_lt hroom)]
    rfl
  have hlast := getElem?_after hfirst hunacknowledged hroom
  obtain ⟨pending, hpending⟩ := pendingCommands_of_valid valid
  refine ⟨pending, hpending, (pendingCommands_ok hpending _).mpr ?_⟩
  exact ⟨List.mem_of_getElem? hlast, rfl, rfl⟩

/-- The queue is sound after every run. -/
theorem command_queue_sound (config : RuntimeConfig) (ops : List Op) :
    (ran config ops).state.commands.length ≤ config.commandCapacity ∧
    (∀ command ∈ (ran config ops).state.commands, ∃ agent,
      (ran config ops).state.hookAgents.get command.agentId = some agent ∧
        agent.controlCapable = true) ∧
    (∀ before request commandId createdAt later command,
      ops = before ++ .enqueueCommand request commandId createdAt :: later →
      ((ran config before).enqueueCommand request commandId createdAt).2 = .ok command →
      Run.Along (fun monitor op => ¬monitor.Acknowledges command op) step
        ((ran config before).enqueueCommand request commandId createdAt).1 later →
      Run.tally issues step
        ((ran config before).enqueueCommand request commandId createdAt).1 later <
          config.commandCapacity →
      ∃ pending, (ran config ops).pendingCommands request.agentId = .ok pending ∧
        command ∈ pending) ∧
    (∀ agentId pending, (ran config ops).pendingCommands agentId = .ok pending →
      ∀ command ∈ pending, command ∈ (ran config ops).state.commands ∧
        command.agentId = agentId ∧ command.status = .pending) ∧
    (∀ ack now, (∀ command ∈ (ran config ops).state.commands,
        command.commandId = ack.commandId → command.agentId ≠ ack.agentId) →
      ((ran config ops).acknowledgeCommand ack now).1 = ran config ops) ∧
    (∀ request commandId createdAt,
      (¬∃ agent, (ran config ops).state.hookAgents.get request.agentId = some agent ∧
        agent.controlCapable = true) →
      ((ran config ops).enqueueCommand request commandId createdAt).1 = ran config ops) := by
  have hsound := sound_ran config ops
  have hconfig : ∀ ops, (ran config ops).config = config := config_after (.new config)
  refine ⟨?_, ?_, ?_, ?_, ?_, ?_⟩
  · have hbounded := hsound.bounded
    rwa [hconfig] at hbounded
  · intro command hcommand
    exact RuntimeState.hasChannel_iff.mp (hsound.channel command hcommand)
  · rintro before request commandId createdAt later command rfl haccepted hno hroom
    rw [ran, Run.after_append, Run.after_cons]
    apply delivered haccepted hno
    rw [hconfig]
    exact hroom
  · intro agentId pending hpending command hcommand
    exact (pendingCommands_ok hpending command).mp hcommand
  · intro ack now hforeign
    exact acknowledgeCommand_of_foreign hforeign
  · intro request commandId createdAt hchannel
    exact enqueueCommand_of_no_channel hchannel

end RuntimeMonitor

end ControlPlane.Runtime
