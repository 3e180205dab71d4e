import ControlPlane.Runtime.Monitor

/-! Token accounts: each accepted hook is counted once, whenever it arrives. -/

namespace ControlPlane.Runtime

section Ingest

variable {monitor : RuntimeMonitor} {hook : RuntimeHookEnvelope}

theorem RuntimeMonitor.ingestHook_of_invalid {error : RuntimeError}
    (h : hook.validate = .error error) : monitor.ingestHook hook = (monitor, .error error) := by
  rw [ingestHook, h]

theorem RuntimeMonitor.ingestHook_of_seen (valid : hook.validate = .ok ())
    (h : hook.eventId ∈ monitor.state.hookIds) :
    monitor.ingestHook hook = (monitor, .error .duplicateHook) := by
  simp only [ingestHook, valid, if_pos h]

theorem RuntimeMonitor.ingestHook_of_new (valid : hook.validate = .ok ())
    (h : hook.eventId ∉ monitor.state.hookIds) :
    monitor.ingestHook hook =
      ({ monitor with state := monitor.state.recordHook monitor.config.hookCapacity hook },
        .ok ()) := by
  simp only [ingestHook, valid, if_neg h]

end Ingest

def RuntimeState.inputTokens (state : RuntimeState) (agentId : String) : Nat :=
  ((state.hookAgents.get agentId).map HookAgentState.inputTokens).getD 0

def RuntimeState.outputTokens (state : RuntimeState) (agentId : String) : Nat :=
  ((state.hookAgents.get agentId).map HookAgentState.outputTokens).getD 0

def total (delta : RuntimeHookEnvelope → Nat) (hooks : List RuntimeHookEnvelope)
    (agentId : String) : Nat :=
  ((hooks.filter fun hook => hook.agent.agentId = agentId).map delta).sum

theorem total_concat (delta : RuntimeHookEnvelope → Nat) (hooks : List RuntimeHookEnvelope)
    (hook : RuntimeHookEnvelope) (agentId : String) :
    total delta (hooks ++ [hook]) agentId =
      total delta hooks agentId + if agentId = hook.agent.agentId then delta hook else 0 := by
  simp only [total, List.filter_append, List.map_append, List.sum_append, List.filter_singleton,
    eq_comm (a := agentId)]
  split <;> simp_all

theorem saturatingAdd_min (total delta : Nat) :
    U64.saturatingAdd (min U64.MAX total) delta = min U64.MAX (total + delta) := by
  rw [U64.saturatingAdd]
  omega

namespace RuntimeState

variable (state : RuntimeState) (hookCapacity : Nat) (hook : RuntimeHookEnvelope)

theorem inputTokens_recordHook (agentId : String) :
    (state.recordHook hookCapacity hook).inputTokens agentId =
      if agentId = hook.agent.agentId then
        U64.saturatingAdd (state.inputTokens agentId) hook.inputTokensDelta
      else state.inputTokens agentId := by
  simp only [inputTokens, recordHook, HashMap.get_insert]
  split
  · next h =>
    subst h
    cases state.hookAgents.get hook.agent.agentId with
    | none => simp [HookAgentState.first]
    | some agent => simp
  · rfl

theorem outputTokens_recordHook (agentId : String) :
    (state.recordHook hookCapacity hook).outputTokens agentId =
      if agentId = hook.agent.agentId then
        U64.saturatingAdd (state.outputTokens agentId) hook.outputTokensDelta
      else state.outputTokens agentId := by
  simp only [outputTokens, recordHook, HashMap.get_insert]
  split
  · next h =>
    subst h
    cases state.hookAgents.get hook.agent.agentId with
    | none => simp [HookAgentState.first]
    | some agent => simp
  · rfl

theorem isSome_hookAgents_recordHook (agentId : String) :
    ((state.recordHook hookCapacity hook).hookAgents.get agentId).isSome ↔
      agentId = hook.agent.agentId ∨ (state.hookAgents.get agentId).isSome := by
  rw [recordHook, HashMap.get_insert]
  split
  · next h => simp [h]
  · next h => simp [h]

end RuntimeState

/-- The accounts and the window of a state are those of the hooks that were accepted. -/
structure Accounted (hookCapacity : Nat) (hooks : List RuntimeHookEnvelope)
    (state : RuntimeState) : Prop where
  known : ∀ agentId, (state.hookAgents.get agentId).isSome ↔
    ∃ hook ∈ hooks, hook.agent.agentId = agentId
  input : ∀ agentId, state.inputTokens agentId =
    min U64.MAX (total RuntimeHookEnvelope.inputTokensDelta hooks agentId)
  output : ∀ agentId, state.outputTokens agentId =
    min U64.MAX (total RuntimeHookEnvelope.outputTokensDelta hooks agentId)
  window : state.hookIds = (hooks.map RuntimeHookEnvelope.eventId).reverse.take hookCapacity

namespace Accounted

variable {hookCapacity : Nat} {hooks : List RuntimeHookEnvelope} {state : RuntimeState}

theorem new : Accounted hookCapacity [] .new where
  known := by simp [RuntimeState.new]
  input := fun _ => rfl
  output := fun _ => rfl
  window := by simp [RuntimeState.new]

theorem congr {state' : RuntimeState} (h : Accounted hookCapacity hooks state)
    (hagents : state'.hookAgents = state.hookAgents) (hids : state'.hookIds = state.hookIds) :
    Accounted hookCapacity hooks state' where
  known := by simpa only [hagents] using h.known
  input := by simpa only [RuntimeState.inputTokens, hagents] using h.input
  output := by simpa only [RuntimeState.outputTokens, hagents] using h.output
  window := hids.trans h.window

theorem recordHook (h : Accounted hookCapacity hooks state) (hook : RuntimeHookEnvelope) :
    Accounted hookCapacity (hooks ++ [hook]) (state.recordHook hookCapacity hook) where
  known := by
    intro agentId
    rw [RuntimeState.isSome_hookAgents_recordHook, h.known, eq_comm]
    simp only [List.mem_append, List.mem_singleton, or_and_right, exists_or, exists_eq_left,
      or_comm]
  input := by
    intro agentId
    rw [RuntimeState.inputTokens_recordHook, h.input, saturatingAdd_min, total_concat]
    split <;> rfl
  output := by
    intro agentId
    rw [RuntimeState.outputTokens_recordHook, h.output, saturatingAdd_min, total_concat]
    split <;> rfl
  window := by
    rw [RuntimeState.recordHook, h.window]
    cases hookCapacity with
    | zero => rfl
    | succ n => simp [List.take_take]

end Accounted

namespace RuntimeMonitor

def accepts (monitor : RuntimeMonitor) : Op → List RuntimeHookEnvelope
  | .ingestHook hook => if (monitor.ingestHook hook).2.isOk then [hook] else []
  | _ => []

def acceptedHooks (config : RuntimeConfig) (ops : List Op) : List RuntimeHookEnvelope :=
  Run.emitted accepts step (.new config) ops

theorem accepts_eq_nil {monitor : RuntimeMonitor} {op : Op} (h : ∀ hook, op ≠ .ingestHook hook) :
    monitor.accepts op = [] := by
  cases op with
  | ingestHook hook => exact absurd rfl (h hook)
  | _ => rfl

theorem agents_step (monitor : RuntimeMonitor) {op : Op} (h : ∀ hook, op ≠ .ingestHook hook) :
    (monitor.step op).state.hookAgents = monitor.state.hookAgents ∧
      (monitor.step op).state.hookIds = monitor.state.hookIds := by
  have heffect := monitor.effect op
  generalize monitor.step op = after at heffect ⊢
  cases heffect with
  | recorded valid new => exact absurd rfl (h _)
  | collected result observedAt => cases result <;> exact ⟨rfl, rfl⟩
  | enqueued | resolved | switched | refused => exact ⟨rfl, rfl⟩

theorem accepts_cases (monitor : RuntimeMonitor) (op : Op) :
    (monitor.accepts op = [] ∧ (monitor.step op).state.hookAgents = monitor.state.hookAgents ∧
      (monitor.step op).state.hookIds = monitor.state.hookIds) ∨
    ∃ hook, op = .ingestHook hook ∧ hook.validate = .ok () ∧ monitor.accepts op = [hook] ∧
      (monitor.step op).state = monitor.state.recordHook monitor.config.hookCapacity hook := by
  by_cases hop : ∃ hook, op = .ingestHook hook
  · obtain ⟨hook, rfl⟩ := hop
    rw [accepts, step]
    cases valid : hook.validate with
    | error error =>
      rw [ingestHook_of_invalid valid]
      exact .inl ⟨rfl, rfl, rfl⟩
    | ok _ =>
      by_cases hseen : hook.eventId ∈ monitor.state.hookIds
      · rw [ingestHook_of_seen valid hseen]
        exact .inl ⟨rfl, rfl, rfl⟩
      · rw [ingestHook_of_new valid hseen]
        exact .inr ⟨hook, rfl, valid, rfl, rfl⟩
  · have hother := fun hook heq => hop ⟨hook, heq⟩
    exact .inl ⟨accepts_eq_nil hother, monitor.agents_step hother⟩

theorem accounted_step {hooks : List RuntimeHookEnvelope} {monitor : RuntimeMonitor}
    (h : Accounted monitor.config.hookCapacity hooks monitor.state) (op : Op) :
    Accounted monitor.config.hookCapacity (hooks ++ monitor.accepts op)
      (monitor.step op).state := by
  rcases monitor.accepts_cases op with ⟨hnone, hagents, hids⟩ | ⟨hook, -, -, hone, hstate⟩
  · rw [hnone, List.append_nil]
    exact h.congr hagents hids
  · rw [hone, hstate]
    exact h.recordHook hook

theorem accounted_ran (config : RuntimeConfig) (ops : List Op) :
    Accounted config.hookCapacity (acceptedHooks config ops) (ran config ops).state := by
  have hran := Run.invariant_emitted (s := RuntimeMonitor.new config)
    (P := fun hooks monitor => monitor.config = config ∧
      Accounted config.hookCapacity hooks monitor.state)
    (fun hooks monitor op ⟨hconfig, haccounted⟩ => by
      subst hconfig
      exact ⟨config_step monitor op, accounted_step haccounted op⟩)
    (show _ ∧ Accounted _ [] _ from ⟨rfl, .new⟩) ops
  exact hran.2

theorem validate_of_mem_acceptedHooks {config : RuntimeConfig} {ops : List Op}
    {hook : RuntimeHookEnvelope} (h : hook ∈ acceptedHooks config ops) : hook.validate = .ok () := by
  induction ops using List.reverseRecOn with
  | nil => cases h
  | append_singleton ops op ih =>
    rw [acceptedHooks, Run.emitted_append] at h
    rcases List.mem_append.1 h with hbefore | hlast
    · exact ih hbefore
    · rw [Run.emitted, Run.emitted, List.append_nil] at hlast
      change hook ∈ (ran config ops).accepts op at hlast
      rcases (ran config ops).accepts_cases op with ⟨hnone, -, -⟩ | ⟨accepted, -, hvalid, hone, -⟩
      · rw [hnone] at hlast
        cases hlast
      · rw [hone, List.mem_singleton] at hlast
        rwa [hlast]

theorem acceptedHooks_of_nodup (config : RuntimeConfig) {hooks : List RuntimeHookEnvelope}
    (hvalid : ∀ hook ∈ hooks, hook.validate = .ok ())
    (hnodup : (hooks.map RuntimeHookEnvelope.eventId).Nodup) :
    acceptedHooks config (hooks.map .ingestHook) = hooks := by
  induction hooks using List.reverseRecOn with
  | nil => rfl
  | append_singleton hooks hook ih =>
    rw [List.map_append, List.nodup_append] at hnodup
    obtain ⟨hnodup, -, hdisjoint⟩ := hnodup
    have hhooks := ih (fun other hmem => hvalid other (List.mem_append_left _ hmem)) hnodup
    have hwindow := (accounted_ran config (hooks.map .ingestHook)).window
    rw [hhooks] at hwindow
    have hnew : hook.eventId ∉ (ran config (hooks.map .ingestHook)).state.hookIds := by
      rw [hwindow]
      intro hmem
      have hbefore := List.mem_reverse.1 (List.mem_of_mem_take hmem)
      exact hdisjoint _ hbefore _ List.mem_cons_self rfl
    have hone : (ran config (hooks.map .ingestHook)).accepts (.ingestHook hook) = [hook] := by
      rw [accepts, ingestHook_of_new (hvalid hook (by simp)) hnew]
      rfl
    rw [List.map_append, acceptedHooks, Run.emitted_append]
    refine congrArg₂ (· ++ ·) hhooks ?_
    rw [List.map_singleton, Run.emitted, Run.emitted, List.append_nil]
    exact hone

/-- The tokens of an agent are the saturated sums over its accepted hooks; a hook among the
last accepted ones and an invalid one change nothing. -/
theorem tokens_exact (config : RuntimeConfig) (ops : List Op) :
    (∀ agentId agent, (ran config ops).state.hookAgents.get agentId = some agent →
      agent.inputTokens = min (2 ^ 64 - 1) (((acceptedHooks config ops).filter fun hook =>
        hook.agent.agentId = agentId).map RuntimeHookEnvelope.inputTokensDelta).sum ∧
      agent.outputTokens = min (2 ^ 64 - 1) (((acceptedHooks config ops).filter fun hook =>
        hook.agent.agentId = agentId).map RuntimeHookEnvelope.outputTokensDelta).sum) ∧
    (∀ agentId, ((ran config ops).state.hookAgents.get agentId).isSome ↔
      ∃ hook ∈ acceptedHooks config ops, hook.agent.agentId = agentId) ∧
    (∀ hook : RuntimeHookEnvelope, hook.eventId ∈
        ((acceptedHooks config ops).map RuntimeHookEnvelope.eventId).reverse.take
          config.hookCapacity → hook.validate = .ok () →
      (ran config ops).ingestHook hook = (ran config ops, .error .duplicateHook)) ∧
    ∀ (hook : RuntimeHookEnvelope) (error : RuntimeError), hook.validate = .error error →
      (ran config ops).ingestHook hook = (ran config ops, .error error) := by
  have haccounted := accounted_ran config ops
  refine ⟨?_, haccounted.known, ?_, ?_⟩
  · intro agentId agent hagent
    have hinput := haccounted.input agentId
    have houtput := haccounted.output agentId
    rw [RuntimeState.inputTokens, hagent] at hinput
    rw [RuntimeState.outputTokens, hagent] at houtput
    exact ⟨hinput, houtput⟩
  · intro hook hrecent valid
    rw [← haccounted.window] at hrecent
    exact ingestHook_of_seen valid hrecent
  · intro hook error hinvalid
    exact ingestHook_of_invalid hinvalid

end RuntimeMonitor

end ControlPlane.Runtime
