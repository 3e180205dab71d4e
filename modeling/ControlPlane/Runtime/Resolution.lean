import ControlPlane.Runtime.Queue

/-! How final the resolution of a command is: a second acknowledgement is not refused, so it
stays only as long as its agent does not acknowledge it otherwise. -/

namespace ControlPlane.Runtime

structure ControlCommand.SameResolution (command other : ControlCommand) : Prop where
  status : other.status = command.status
  acknowledgedAt : other.acknowledgedAt = command.acknowledgedAt
  message : other.message = command.message

namespace ControlCommand.SameResolution

theorem refl (command : ControlCommand) : command.SameResolution command := ⟨rfl, rfl, rfl⟩

theorem trans {a b c : ControlCommand} (h : a.SameResolution b) (h' : b.SameResolution c) :
    a.SameResolution c :=
  ⟨h'.status.trans h.status, h'.acknowledgedAt.trans h.acknowledgedAt, h'.message.trans h.message⟩

end ControlCommand.SameResolution

structure ControlCommandAck.Repeats (ack : ControlCommandAck) (now : DateTime)
    (command : ControlCommand) : Prop where
  status : command.status = if ack.accepted then .acknowledged else .rejected
  acknowledgedAt : command.acknowledgedAt = some now
  message : command.message = ack.message

theorem ControlCommandAck.repeats_iff {ack : ControlCommandAck} {now : DateTime}
    {command : ControlCommand} :
    ack.Repeats now command ↔ command.SameResolution (command.resolve ack now) := by
  constructor
  · intro h
    exact ⟨h.status.symm, h.acknowledgedAt.symm, h.message.symm⟩
  · intro h
    exact ⟨h.status.symm, h.acknowledgedAt.symm, h.message.symm⟩

namespace RuntimeMonitor

/-- The operation acknowledges a command that has been resolved, and not with what it holds. -/
def Overwrites (monitor : RuntimeMonitor) : Op → Prop
  | .acknowledgeCommand ack now => ∃ position command, monitor.Resolves ack position command ∧
      command.status ≠ .pending ∧ ¬ack.Repeats now command
  | _ => False

/-- Every command that is resolved at some time has its resolution at every later time that
finds it in the queue, as many places further down as commands were issued in between. -/
def Final (config : RuntimeConfig) (ops : List Op) : Prop :=
  ∀ before middle rest, ops = before ++ middle ++ rest →
    ∀ (i : Nat) (command command' : ControlCommand),
      (ran config before).state.commands[i]? = some command → command.status ≠ .pending →
      (ran config (before ++ middle)).state.commands[i +
        Run.tally issues step (ran config before) middle]? = some command' →
      command.SameResolution command'

theorem final_of_along {config : RuntimeConfig} {ops : List Op}
    (h : Run.Along (fun monitor op => ¬monitor.Overwrites op) step (.new config) ops) :
    Final config ops := by
  rintro before middle rest rfl i command command' hbefore hresolved hafter
  rw [Run.Along.append, Run.Along.append] at h
  rw [ran, Run.after_append] at hafter
  have hsame := Run.invariant_tally_along issues (n := 0)
    (P := fun n monitor => ∀ command', monitor.state.commands[i + n]? = some command' →
      command.SameResolution command')
    (fun n monitor op hat hkeeps command' hnext => by
      rw [← Nat.add_assoc] at hnext
      obtain ⟨held, hheld, hcase⟩ := getElem?_step hnext
      cases hcase with
      | inl hsame =>
        rw [hsame]
        exact hat held hheld
      | inr hack =>
        obtain ⟨ack, now, rfl, hresolves, rfl⟩ := hack
        have hsame := hat held hheld
        apply hsame.trans
        rw [← ControlCommandAck.repeats_iff]
        by_contra hrepeats
        refine hkeeps ⟨_, held, hresolves, ?_, hrepeats⟩
        rw [hsame.status]
        exact hresolved)
    (fun command' hstart => by
      obtain rfl := Option.some.inj (hbefore.symm.trans hstart)
      exact .refl command) h.1.2
  rw [Nat.zero_add] at hsame
  exact hsame command' hafter

theorem along_of_final {config : RuntimeConfig} {ops : List Op} (h : Final config ops) :
    Run.Along (fun monitor op => ¬monitor.Overwrites op) step (.new config) ops := by
  rw [Run.along_iff]
  rintro before op rest rfl hover
  cases op with
  | acknowledgeCommand ack now =>
    obtain ⟨position, command, hresolves, hresolved, hrepeats⟩ := hover
    apply hrepeats
    rw [ControlCommandAck.repeats_iff]
    apply h before [.acknowledgeCommand ack now] rest (by simp) position command _
      hresolves.position hresolved
    rw [ran, Run.after_append, Run.after_cons, Run.after_nil, step, hresolves.accepted]
    have hlt := (List.getElem?_eq_some_iff.mp hresolves.position).1
    simp [withCommands, Run.tally, issues, hlt]
  | _ => exact hover

/-- Resolutions are final in exactly the runs that overwrite none. -/
theorem resolution_final_iff (config : RuntimeConfig) (ops : List Op) :
    Final config ops ↔
      Run.Along (fun monitor op => ¬monitor.Overwrites op) step (.new config) ops :=
  ⟨along_of_final, final_of_along⟩

def smallConfig : RuntimeConfig where
  processCollectionEnabled := false
  procRoot := "/proc"
  sampleIntervalMs := 1000
  processPatterns := []
  hookCapacity := 8
  commandCapacity := 8

def sessionHook (agentId : String) (eventId : Uuid) : RuntimeHookEnvelope where
  protocolVersion := "v1"
  eventId := eventId
  occurredAt := ⟨0, 0⟩
  agent := ⟨agentId, "provider", "model", none⟩
  sessionId := none
  pid := none
  kind := .sessionStarted
  controlCapable := true
  summary := none
  toolName := none
  confidence := none
  cpuPercent := none
  rssBytes := none
  memoryPercent := none
  inputTokensDelta := 0
  outputTokensDelta := 0
  metadata := .empty

def contradicted : List Op :=
  [.ingestHook (sessionHook "a" 1), .enqueueCommand ⟨"a", .pause⟩ 7 ⟨1, 0⟩,
    .acknowledgeCommand ⟨7, "a", true, none⟩ ⟨2, 0⟩,
    .acknowledgeCommand ⟨7, "a", false, none⟩ ⟨3, 0⟩]

theorem accepted_then_rejected : ¬∀ config ops, Final config ops := by
  intro h
  have hsame := h smallConfig contradicted (contradicted.take 3) (contradicted.drop 3) [] rfl 0
    ⟨7, ⟨1, 0⟩, "a", .pause, .acknowledged, some ⟨2, 0⟩, none⟩
    ⟨7, ⟨1, 0⟩, "a", .pause, .rejected, some ⟨3, 0⟩, none⟩ (by decide) nofun (by decide)
  cases hsame.status

end RuntimeMonitor

end ControlPlane.Runtime
