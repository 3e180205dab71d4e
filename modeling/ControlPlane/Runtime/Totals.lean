import ControlPlane.Runtime.Merge
import ControlPlane.Runtime.Tokens

/-! The totals of a snapshot: what its rows add up to, and when the sums fit a `u64`. -/

namespace ControlPlane.Runtime

/-- Adding the values up from the left never leaves the range of a `u64`. -/
def NoOverflow (values : List Nat) : Prop :=
  ∀ front back, values = front ++ back → front.sum < 2 ^ 64

theorem noOverflow_iff {values : List Nat} : NoOverflow values ↔ values.sum < 2 ^ 64 := by
  constructor
  · intro h
    exact h values [] (List.append_nil values).symm
  · intro h front back heq
    rw [heq, List.sum_append] at h
    omega

/-- A total is the sum of what the rows show, and no addition overflows on the way. -/
structure ExactTotal (values : List Nat) (total : Nat) : Prop where
  fits : NoOverflow values
  total : total = values.sum

theorem exactTotal_iff {values : List Nat} :
    ExactTotal values (values.foldl U64.wrappingAdd 0) ↔ values.sum < 2 ^ 64 := by
  have hfold : values.foldl U64.wrappingAdd 0 = values.sum % 2 ^ 64 := by
    simpa using RuntimeState.foldl_wrappingAdd values 0
  rw [hfold, ← noOverflow_iff]
  constructor
  · exact ExactTotal.fits
  · intro h
    exact ⟨h, Nat.mod_eq_of_lt (noOverflow_iff.1 h)⟩

structure ExactTotals (snapshot : RuntimeSnapshot) : Prop where
  input : ExactTotal (snapshot.agents.map RuntimeAgentTelemetry.inputTokens)
    snapshot.totals.inputTokens
  output : ExactTotal (snapshot.agents.map RuntimeAgentTelemetry.outputTokens)
    snapshot.totals.outputTokens
  rss : ExactTotal (snapshot.agents.filterMap RuntimeAgentTelemetry.rssBytes)
    snapshot.totals.rssBytes

namespace RuntimeState

section Rows

variable (state : RuntimeState) (agents : state.hookAgents.Iteration)
  (processes : state.processes.Iteration)

def goesBy (id : String) : Option RuntimeProcessTelemetry :=
  processes.values.reverse.find? fun process => process.rowId (processAgentIds agents.values) = id

def unclaimed (process : RuntimeProcessTelemetry) : Bool :=
  agents.values.all fun agent => agent.agent.agentId ≠ process.rowId (processAgentIds agents.values)

/-- The resident memory shown for an agent: that of the process that goes by its id, else that of
the process it reports, else its own. -/
def shownRss (agent : HookAgentState) : Nat :=
  (((state.goesBy agents processes agent.agent.agentId).or
    (agent.pid.bind state.processes.get)).map RuntimeProcessTelemetry.rssBytes).or
      agent.rssBytes |>.getD 0

end Rows

variable {state : RuntimeState} {agents : state.hookAgents.Iteration}
  {processes : state.processes.Iteration}

theorem anonymous_of_unclaimed {process : RuntimeProcessTelemetry}
    (h : state.unclaimed agents process = true) :
    process.rowId (processAgentIds agents.values) = process.anonymousId := by
  rcases process.rowId_cases agents.values with ⟨agent, hagent, -, hid⟩ | ⟨-, hid⟩
  · have hne := List.all_eq_true.1 h agent hagent
    rw [hid] at hne
    exact absurd rfl (of_decide_eq_true hne)
  · exact hid

def agentRow (state : RuntimeState) (agents : state.hookAgents.Iteration)
    (processes : state.processes.Iteration) (agent : HookAgentState) : RuntimeAgentTelemetry :=
  agent.merged state.processes
    (processRows (processAgentIds agents.values) processes.values)[agent.agent.agentId]?

theorem inputTokens_agentRow (agent : HookAgentState) :
    (state.agentRow agents processes agent).inputTokens = agent.inputTokens := by
  rw [agentRow]
  cases (processRows (processAgentIds agents.values) processes.values)[agent.agent.agentId]? with
  | none => rfl
  | some row => rfl

theorem outputTokens_agentRow (agent : HookAgentState) :
    (state.agentRow agents processes agent).outputTokens = agent.outputTokens := by
  rw [agentRow]
  cases (processRows (processAgentIds agents.values) processes.values)[agent.agent.agentId]? with
  | none => rfl
  | some row => rfl

theorem rssBytes_agentRow (agent : HookAgentState) :
    ((state.agentRow agents processes agent).rssBytes).getD 0 =
      state.shownRss agents processes agent := by
  rw [agentRow, getElem?_processRows, shownRss, goesBy]
  cases processes.values.reverse.find? fun process =>
      process.rowId (processAgentIds agents.values) = agent.agent.agentId with
  | none => rfl
  | some process => rfl

section Filed

variable (filed : state.Filed)
include filed

theorem unclaimed_unique {process other : RuntimeProcessTelemetry}
    (hprocess : process ∈ processes.values) (hother : other ∈ processes.values)
    (hunclaimed : state.unclaimed agents process = true)
    (hid : other.rowId (processAgentIds agents.values) =
      process.rowId (processAgentIds agents.values)) : other = process := by
  have hotherUnclaimed : state.unclaimed agents other = true := by
    rw [unclaimed, hid]
    exact hunclaimed
  rw [anonymous_of_unclaimed hunclaimed, anonymous_of_unclaimed hotherUnclaimed] at hid
  exact process_unique filed hother hprocess (RuntimeProcessTelemetry.pid_of_anonymousId_eq hid)

theorem keys_perm_claims : (state.rows agents processes).keys.Perm
    ((agents.values.map fun agent => agent.agent.agentId) ++
      (processes.values.filter (state.unclaimed agents)).map fun process =>
        process.rowId (processAgentIds agents.values)) := by
  apply BTreeMap.keys_perm_of_mem_iff
  · intro id
    rw [List.mem_append, List.mem_map, List.mem_map]
    constructor
    · intro hrow
      obtain ⟨row, hrow⟩ := hrow
      cases rowAt filed hrow with
      | both hagent agentId => exact .inl ⟨_, hagent, agentId⟩
      | hook hagent agentId => exact .inl ⟨_, hagent, agentId⟩
      | @process process absent hprocess rowId =>
        refine .inr ⟨process, List.mem_filter.2 ⟨hprocess, List.all_eq_true.2 ?_⟩, rowId⟩
        intro agent hagent
        exact decide_eq_true (rowId ▸ absent agent hagent)
    · intro hid
      rcases hid with ⟨agent, hagent, rfl⟩ | ⟨process, hprocess, rfl⟩
      · obtain ⟨row, hrow, -⟩ := rowAt_of_agent processes filed hagent
        exact ⟨row, hrow⟩
      · exact row_of_process agents filed (List.mem_of_mem_filter hprocess)
  · refine List.Nodup.append (filed.agents.nodup agents) ?_ ?_
    · refine List.Nodup.map_on ?_ ((filed.processes.nodup processes).of_map.filter _)
      intro process hprocess other hother hid
      obtain ⟨hprocess, hunclaimed⟩ := List.mem_filter.1 hprocess
      exact (unclaimed_unique filed hprocess (List.mem_of_mem_filter hother) hunclaimed
        hid.symm).symm
    · intro id hagents hprocesses
      obtain ⟨agent, hagent, rfl⟩ := List.mem_map.1 hagents
      obtain ⟨process, hprocess, hid⟩ := List.mem_map.1 hprocesses
      have hne := List.all_eq_true.1 (List.mem_filter.1 hprocess).2 agent hagent
      exact absurd hid.symm (of_decide_eq_true hne)

theorem sum_rows (f : RuntimeAgentTelemetry → Nat) :
    (((state.rows agents processes).toList.map Prod.snd).map f).sum =
      (agents.values.map fun agent => f (state.agentRow agents processes agent)).sum +
        ((processes.values.filter (state.unclaimed agents)).map fun process =>
          f (process.row (process.rowId (processAgentIds agents.values)))).sum := by
  rw [BTreeMap.sum_values_eq, ((keys_perm_claims filed).map _).sum_eq, List.map_append,
    List.sum_append, List.map_map, List.map_map]
  congr 2
  · apply List.map_congr_left
    intro agent hagent
    have hrow : (state.rows agents processes)[agent.agent.agentId]? =
        some (state.agentRow agents processes agent) :=
      getElem?_mergeHookAgents_of_mem (filed.agents.nodup agents) hagent
    simp [hrow]
  · apply List.map_congr_left
    intro process hprocess
    obtain ⟨hprocess, hunclaimed⟩ := List.mem_filter.1 hprocess
    have habsent : ∀ agent ∈ agents.values,
        agent.agent.agentId ≠ process.rowId (processAgentIds agents.values) := by
      intro agent hagent
      exact of_decide_eq_true (List.all_eq_true.1 hunclaimed agent hagent)
    obtain ⟨row, hrow⟩ := row_of_process agents filed hprocess
    have hleft := hrow
    rw [rows, getElem?_mergeHookAgents_of_notMem habsent] at hleft
    obtain ⟨other, hother, hid, rfl⟩ := processRows_eq_some hleft
    obtain rfl := unclaimed_unique filed hprocess hother hunclaimed hid
    simp [hrow]

end Filed

end RuntimeState

def accountTotal (delta : RuntimeHookEnvelope → Nat) (hooks : List RuntimeHookEnvelope) : Nat :=
  ((hooks.map fun hook => hook.agent.agentId).dedup.map fun agentId =>
    min U64.MAX (total delta hooks agentId)).sum

namespace RuntimeMonitor

variable {config : RuntimeConfig} {ops : List Op}
  (agents : (ran config ops).state.hookAgents.Iteration)

theorem agentIds_perm : (agents.values.map fun agent => agent.agent.agentId).Perm
    ((acceptedHooks config ops).map fun hook => hook.agent.agentId).dedup := by
  have filed := filed_ran config ops
  refine (List.perm_ext_iff_of_nodup (filed.agents.nodup agents) (List.nodup_dedup _)).2 ?_
  intro agentId
  have hknown := (accounted_ran config ops).known agentId
  rw [List.mem_dedup, List.mem_map, List.mem_map, ← hknown, Option.isSome_iff_exists]
  constructor
  · intro hagent
    obtain ⟨agent, hagent, rfl⟩ := hagent
    exact ⟨agent, (filed.agents.get_iff agents).2 ⟨hagent, rfl⟩⟩
  · intro hagent
    obtain ⟨agent, hget⟩ := hagent
    obtain ⟨hmem, hid⟩ := (filed.agents.get_iff agents).1 hget
    exact ⟨agent, hmem, hid⟩

theorem sum_accounts {delta : RuntimeHookEnvelope → Nat} {tokens : HookAgentState → Nat}
    (h : ∀ agentId agent, (ran config ops).state.hookAgents.get agentId = some agent →
      tokens agent = min U64.MAX (total delta (acceptedHooks config ops) agentId)) :
    (agents.values.map tokens).sum = accountTotal delta (acceptedHooks config ops) := by
  rw [accountTotal, ← ((agentIds_perm agents).map _).sum_eq, List.map_map]
  congr 1
  apply List.map_congr_left
  intro agent hagent
  exact h _ agent (((filed_ran config ops).agents.get_iff agents).2 ⟨hagent, rfl⟩)

section Sums

variable (processes : (ran config ops).state.processes.Iteration)

theorem sum_inputTokens :
    ((((ran config ops).state.rows agents processes).toList.map Prod.snd).map
      RuntimeAgentTelemetry.inputTokens).sum =
        accountTotal RuntimeHookEnvelope.inputTokensDelta (acceptedHooks config ops) := by
  have haccounts : (agents.values.map HookAgentState.inputTokens).sum =
      accountTotal RuntimeHookEnvelope.inputTokensDelta (acceptedHooks config ops) := by
    apply sum_accounts agents
    intro agentId agent hget
    have hinput := (accounted_ran config ops).input agentId
    rwa [RuntimeState.inputTokens, hget] at hinput
  rw [RuntimeState.sum_rows (filed_ran config ops), ← haccounts]
  simp [RuntimeState.inputTokens_agentRow, RuntimeProcessTelemetry.row]

theorem sum_outputTokens :
    ((((ran config ops).state.rows agents processes).toList.map Prod.snd).map
      RuntimeAgentTelemetry.outputTokens).sum =
        accountTotal RuntimeHookEnvelope.outputTokensDelta (acceptedHooks config ops) := by
  have haccounts : (agents.values.map HookAgentState.outputTokens).sum =
      accountTotal RuntimeHookEnvelope.outputTokensDelta (acceptedHooks config ops) := by
    apply sum_accounts agents
    intro agentId agent hget
    have houtput := (accounted_ran config ops).output agentId
    rwa [RuntimeState.outputTokens, hget] at houtput
  rw [RuntimeState.sum_rows (filed_ran config ops), ← haccounts]
  simp [RuntimeState.outputTokens_agentRow, RuntimeProcessTelemetry.row]

theorem sum_rssBytes :
    ((((ran config ops).state.rows agents processes).toList.map Prod.snd).filterMap
      RuntimeAgentTelemetry.rssBytes).sum =
        (agents.values.map ((ran config ops).state.shownRss agents processes)).sum +
          ((processes.values.filter ((ran config ops).state.unclaimed agents)).map
            RuntimeProcessTelemetry.rssBytes).sum := by
  rw [RuntimeState.sum_filterMap, RuntimeState.sum_rows (filed_ran config ops)]
  simp [RuntimeState.rssBytes_agentRow, RuntimeProcessTelemetry.row]

end Sums

/-- The totals of a snapshot are exact and no addition overflows exactly when the accounts of the
agents, and the resident memory that is shown for agents and processes, add up to less than
2 ^ 64. -/
theorem totals_exact_iff (config : RuntimeConfig) (ops : List Op)
    (agents : (ran config ops).state.hookAgents.Iteration)
    (processes : (ran config ops).state.processes.Iteration) (generatedAt : DateTime) :
    ExactTotals ((ran config ops).snapshot agents processes generatedAt) ↔
      accountTotal RuntimeHookEnvelope.inputTokensDelta (acceptedHooks config ops) < 2 ^ 64 ∧
      accountTotal RuntimeHookEnvelope.outputTokensDelta (acceptedHooks config ops) < 2 ^ 64 ∧
      (agents.values.map ((ran config ops).state.shownRss agents processes)).sum +
        ((processes.values.filter ((ran config ops).state.unclaimed agents)).map
          RuntimeProcessTelemetry.rssBytes).sum < 2 ^ 64 := by
  rw [← sum_inputTokens agents processes, ← sum_outputTokens agents processes,
    ← sum_rssBytes agents processes]
  constructor
  · intro h
    exact ⟨exactTotal_iff.1 h.input, exactTotal_iff.1 h.output, exactTotal_iff.1 h.rss⟩
  · intro h
    obtain ⟨hinput, houtput, hrss⟩ := h
    exact ⟨exactTotal_iff.2 hinput, exactTotal_iff.2 houtput, exactTotal_iff.2 hrss⟩

def busyAgents : List Op :=
  [.ingestHook { sessionHook "a" 1 with inputTokensDelta := 2 ^ 64 - 1 },
    .ingestHook { sessionHook "b" 2 with inputTokensDelta := 2 }]

theorem totals_wrap :
    ((ran smallConfig busyAgents).snapshot (HashMap.iter _) (HashMap.iter _)
      ⟨0, 0⟩).totals.inputTokens = 1 ∧
    ¬∀ config ops agents processes generatedAt,
      ExactTotals ((ran config ops).snapshot agents processes generatedAt) := by
  refine ⟨by decide, ?_⟩
  intro h
  have htotal := (h smallConfig busyAgents (HashMap.iter _) (HashMap.iter _) ⟨0, 0⟩).input.total
  revert htotal
  decide

end RuntimeMonitor

end ControlPlane.Runtime
