import ControlPlane.Runtime.Monitor

/-! The command queue: what it retains, for whom, and until when. -/

namespace ControlPlane.Runtime

namespace RuntimeMonitor

def issues (monitor : RuntimeMonitor) : Op → Bool
  | .enqueueCommand request commandId createdAt =>
    (monitor.enqueueCommand request commandId createdAt).2.isOk
  | _ => false

structure Resolves (monitor : RuntimeMonitor) (ack : ControlCommandAck) (position : Nat)
    (command : ControlCommand) : Prop where
  valid : ack.validate = .ok ()
  found : monitor.state.commands.findIdx? (fun command => command.commandId = ack.commandId) =
    some position
  position : monitor.state.commands[position]? = some command
  owner : command.agentId = ack.agentId

section Enqueue

variable {monitor : RuntimeMonitor} {request : ControlCommandRequest} {commandId : Uuid}
  {createdAt : DateTime}

theorem enqueueCommand_ok {command : ControlCommand}
    (h : (monitor.enqueueCommand request commandId createdAt).2 = .ok command) :
    request.validate = .ok () ∧ monitor.state.hasChannel request.agentId = true ∧
      command = .issue request commandId createdAt ∧
      (monitor.enqueueCommand request commandId createdAt).1 =
        monitor.withCommands
          ((command :: monitor.state.commands).take monitor.config.commandCapacity) := by
  unfold enqueueCommand at h ⊢
  split at h
  · cases h
  · next valid =>
    split at h
    · next channel =>
      cases h
      simp only [channel, if_true]
      exact ⟨valid, trivial, trivial, trivial⟩
    · cases h

theorem enqueueCommand_error {error : RuntimeError}
    (h : (monitor.enqueueCommand request commandId createdAt).2 = .error error) :
    (monitor.enqueueCommand request commandId createdAt).1 = monitor := by
  unfold enqueueCommand at h ⊢
  split at h
  · rfl
  · split at h
    · cases h
    · next channel => rw [if_neg channel]

theorem enqueueCommand_of_no_channel
    (h : ¬∃ agent, monitor.state.hookAgents.get request.agentId = some agent ∧
      agent.controlCapable = true) :
    (monitor.enqueueCommand request commandId createdAt).1 = monitor := by
  cases hresult : (monitor.enqueueCommand request commandId createdAt).2 with
  | error error => exact enqueueCommand_error hresult
  | ok command =>
    obtain ⟨-, channel, -, -⟩ := enqueueCommand_ok hresult
    rw [RuntimeState.hasChannel, Option.any_eq_true] at channel
    exact absurd channel h

end Enqueue

section Acknowledge

variable {monitor : RuntimeMonitor} {ack : ControlCommandAck} {now : DateTime}

theorem acknowledgeCommand_ok {resolved : ControlCommand}
    (h : (monitor.acknowledgeCommand ack now).2 = .ok resolved) :
    ∃ position command, monitor.Resolves ack position command ∧
      resolved = command.resolve ack now ∧
      (monitor.acknowledgeCommand ack now).1 =
        monitor.withCommands (monitor.state.commands.set position resolved) := by
  unfold acknowledgeCommand at h ⊢
  split at h
  · cases h
  · next valid =>
    split at h
    · cases h
    · next position found =>
      dsimp only at h
      split at h
      · cases h
      · next owner =>
        cases h
        refine ⟨position, _, ⟨valid, ?_, ?_, not_not.mp owner⟩, rfl, ?_⟩
        · rw [List.findIdx?_eq_map_findFinIdx?_val, found]
          rfl
        · exact List.getElem?_eq_getElem position.isLt
        · simp only [if_neg owner]

theorem acknowledgeCommand_error {error : RuntimeError}
    (h : (monitor.acknowledgeCommand ack now).2 = .error error) :
    (monitor.acknowledgeCommand ack now).1 = monitor := by
  unfold acknowledgeCommand at h ⊢
  split at h
  · rfl
  · split at h
    · rfl
    · dsimp only at h
      split at h
      · next owner => simp only [if_pos owner]
      · cases h

theorem Resolves.commandId_eq {position : Nat} {command : ControlCommand}
    (h : monitor.Resolves ack position command) : command.commandId = ack.commandId := by
  obtain ⟨hlt, hid, -⟩ := List.findIdx?_eq_some_iff_getElem.mp h.found
  rw [(List.getElem?_eq_some_iff.mp h.position).2] at hid
  exact of_decide_eq_true hid

theorem acknowledgeCommand_of_foreign
    (h : ∀ command ∈ monitor.state.commands, command.commandId = ack.commandId →
      command.agentId ≠ ack.agentId) : (monitor.acknowledgeCommand ack now).1 = monitor := by
  cases hresult : (monitor.acknowledgeCommand ack now).2 with
  | error error => exact acknowledgeCommand_error hresult
  | ok resolved =>
    obtain ⟨position, command, hresolves, -, -⟩ := acknowledgeCommand_ok hresult
    exact absurd hresolves.owner
      (h command (List.mem_of_getElem? hresolves.position) hresolves.commandId_eq)

theorem Resolves.accepted {position : Nat} {command : ControlCommand}
    (h : monitor.Resolves ack position command) :
    monitor.acknowledgeCommand ack now =
      (monitor.withCommands (monitor.state.commands.set position (command.resolve ack now)),
        .ok (command.resolve ack now)) := by
  have hfound := h.found
  rw [List.findIdx?_eq_map_findFinIdx?_val] at hfound
  unfold acknowledgeCommand
  simp only [h.valid]
  split
  · next hnone =>
    rw [hnone] at hfound
    cases hfound
  · next position' hsome =>
    rw [hsome] at hfound
    cases hfound
    have hcommand : monitor.state.commands[position'] = command :=
      (List.getElem?_eq_some_iff.mp h.position).2
    simp only [hcommand, h.owner, ne_eq, not_true_eq_false, if_false]

end Acknowledge

theorem commands_cases (monitor : RuntimeMonitor) (op : Op) :
    (monitor.issues op = false ∧ (monitor.step op).state.commands = monitor.state.commands) ∨
    (∃ request commandId createdAt, op = .enqueueCommand request commandId createdAt ∧
      monitor.issues op = true ∧ monitor.state.hasChannel request.agentId = true ∧
      (monitor.step op).state.commands = (.issue request commandId createdAt ::
        monitor.state.commands).take monitor.config.commandCapacity) ∨
    (∃ ack now position command, op = .acknowledgeCommand ack now ∧
      monitor.issues op = false ∧ monitor.Resolves ack position command ∧
      (monitor.step op).state.commands =
        monitor.state.commands.set position (command.resolve ack now)) := by
  cases op with
  | enqueueCommand request commandId createdAt =>
    cases hresult : (monitor.enqueueCommand request commandId createdAt).2 with
    | error error =>
      apply Or.inl
      simp [issues, step, hresult, enqueueCommand_error hresult, Except.isOk, Except.toBool]
    | ok command =>
      obtain ⟨-, channel, rfl, heq⟩ := enqueueCommand_ok hresult
      refine .inr (.inl ⟨request, commandId, createdAt, rfl, ?_, channel, ?_⟩)
      · simp [issues, hresult, Except.isOk, Except.toBool]
      · rw [step, heq]
        rfl
  | acknowledgeCommand ack now =>
    cases hresult : (monitor.acknowledgeCommand ack now).2 with
    | error error =>
      apply Or.inl
      exact ⟨rfl, by rw [step, acknowledgeCommand_error hresult]⟩
    | ok resolved =>
      obtain ⟨position, command, hresolves, rfl, heq⟩ := acknowledgeCommand_ok hresult
      refine .inr (.inr ⟨ack, now, position, command, rfl, rfl, hresolves, ?_⟩)
      rw [step, heq]
      rfl
  | ingestHook hook =>
    apply Or.inl
    have heffect := monitor.effect (.ingestHook hook)
    generalize monitor.step (.ingestHook hook) = after at heffect ⊢
    cases heffect <;> exact ⟨rfl, rfl⟩
  | collectOnce result observedAt =>
    apply Or.inl
    cases result <;> exact ⟨rfl, rfl⟩
  | setCollectionEnabled enabled => exact .inl ⟨rfl, rfl⟩

theorem getElem?_step {monitor : RuntimeMonitor} {op : Op} {i : Nat} {command' : ControlCommand}
    (h : (monitor.step op).state.commands[i + (monitor.issues op).toNat]? = some command') :
    ∃ command, monitor.state.commands[i]? = some command ∧
      (command' = command ∨ ∃ ack now, op = .acknowledgeCommand ack now ∧
        monitor.Resolves ack i command ∧ command' = command.resolve ack now) := by
  rcases monitor.commands_cases op with ⟨hissues, heq⟩ | ⟨request, commandId, createdAt, -, hissues,
    -, heq⟩ | ⟨ack, now, position, command, hop, hissues, hresolves, heq⟩ <;>
    rw [heq, hissues] at h
  · exact ⟨command', h, .inl rfl⟩
  · rw [Bool.toNat_true] at h
    rw [List.getElem?_take] at h
    split at h
    · exact ⟨command', h, .inl rfl⟩
    · cases h
  · rw [Bool.toNat_false, Nat.add_zero, List.getElem?_set] at h
    by_cases hposition : position = i
    · subst hposition
      rw [if_pos rfl] at h
      split at h
      · exact ⟨command, hresolves.position, .inr ⟨ack, now, hop, hresolves,
          (Option.some.inj h).symm⟩⟩
      · cases h
    · rw [if_neg hposition] at h
      exact ⟨command', h, .inl rfl⟩

theorem getElem?_step_of {monitor : RuntimeMonitor} {op : Op} {i : Nat} {command : ControlCommand}
    (h : monitor.state.commands[i]? = some command)
    (hroom : i + (monitor.issues op).toNat < monitor.config.commandCapacity)
    (hkept : ∀ ack now, op = .acknowledgeCommand ack now → ¬monitor.Resolves ack i command) :
    (monitor.step op).state.commands[i + (monitor.issues op).toNat]? = some command := by
  rcases monitor.commands_cases op with ⟨hissues, heq⟩ | ⟨request, commandId, createdAt, -, hissues,
    -, heq⟩ | ⟨ack, now, position, resolved, hop, hissues, hresolves, heq⟩ <;>
    rw [hissues] at hroom ⊢ <;> rw [heq]
  · exact h
  · rw [List.getElem?_take_of_lt hroom, Bool.toNat_true, List.getElem?_cons_succ]
    exact h
  · have hposition : position ≠ i := by
      rintro rfl
      obtain rfl := Option.some.inj (hresolves.position.symm.trans h)
      exact hkept ack now hop hresolves
    rw [Bool.toNat_false, Nat.add_zero, List.getElem?_set_ne hposition]
    exact h

end RuntimeMonitor

end ControlPlane.Runtime
