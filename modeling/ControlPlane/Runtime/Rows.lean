import ControlPlane.Lib.Joined
import ControlPlane.Runtime.Snapshot

/-! Which process and which hook agent a row of a snapshot comes from. -/

namespace ControlPlane.Runtime

theorem colon_notMem_repr (n : Nat) : ':' ∉ (toString n).toList := by
  intro h
  have hdigit := Nat.isDigit_of_mem_toDigits (by decide) (le_refl 10) (by simpa using h)
  cases hdigit

namespace RuntimeProcessTelemetry

theorem pid_of_anonymousId_eq {process other : RuntimeProcessTelemetry}
    (h : process.anonymousId = other.anonymousId) : process.pid = other.pid := by
  rw [anonymousId, anonymousId, ← String.toList_inj] at h
  simp only [String.toList_append] at h
  have htail := Joined.rest_inj (colon_notMem_repr process.pid) (colon_notMem_repr other.pid)
    (by simpa using h)
  exact Nat.repr_inj.mp (String.toList_inj.mp htail)

theorem rowId_cases (agents : List HookAgentState) (process : RuntimeProcessTelemetry) :
    (∃ agent ∈ agents, agent.pid = some process.pid ∧
      process.rowId (processAgentIds agents) = agent.agent.agentId) ∨
    ((∀ agent ∈ agents, agent.pid ≠ some process.pid) ∧
      process.rowId (processAgentIds agents) = process.anonymousId) := by
  cases hget : (processAgentIds agents).get process.pid with
  | some agentId =>
    apply Or.inl
    obtain ⟨agent, hagent, hpid⟩ := List.mem_filterMap.mp (HashMap.mem_of_get_ofList hget)
    obtain ⟨pid, hreported, heq⟩ := Option.map_eq_some_iff.mp hpid
    cases heq
    exact ⟨agent, hagent, hreported, by rw [rowId, hget]; rfl⟩
  | none =>
    refine Or.inr ⟨fun agent hagent hpid => ?_, by rw [rowId, hget]; rfl⟩
    have hsome : ((processAgentIds agents).get process.pid).isSome := by
      rw [processAgentIds, HashMap.isSome_get_ofList, List.mem_map]
      refine ⟨(process.pid, agent.agent.agentId), ?_, rfl⟩
      rw [List.mem_filterMap]
      exact ⟨agent, hagent, by rw [hpid]; rfl⟩
    rw [hget] at hsome
    cases hsome

end RuntimeProcessTelemetry

section Passes

variable {ids : HashMap Nat String} {processes : List RuntimeProcessTelemetry} {id : String}

theorem getElem?_processRows (ids : HashMap Nat String)
    (processes : List RuntimeProcessTelemetry) (id : String) :
    (processRows ids processes)[id]? =
      (processes.reverse.find? fun process => process.rowId ids = id).map fun process =>
        process.row (process.rowId ids) := by
  have hrows := BTreeMap.getElem?_foldl_insert (fun process => process.rowId ids)
    (fun process => process.row (process.rowId ids)) processes (∅ : Rows) id
  rw [Std.TreeMap.getElem?_emptyc, Option.or_none] at hrows
  exact hrows

theorem processRows_eq_some {row : RuntimeAgentTelemetry}
    (h : (processRows ids processes)[id]? = some row) :
    ∃ process ∈ processes, process.rowId ids = id ∧ row = process.row id := by
  rw [getElem?_processRows] at h
  obtain ⟨process, hfind, rfl⟩ := Option.map_eq_some_iff.mp h
  have hid : process.rowId ids = id := by simpa using List.find?_some hfind
  exact ⟨process, List.mem_reverse.mp (List.mem_of_find?_eq_some hfind), hid, by rw [hid]⟩

theorem processRows_eq_none (h : (processRows ids processes)[id]? = none) :
    ∀ process ∈ processes, process.rowId ids ≠ id := by
  intro process hmem hid
  rw [getElem?_processRows, Option.map_eq_none_iff, List.find?_eq_none] at h
  exact h process (List.mem_reverse.mpr hmem) (by simpa using hid)

variable {byPid : HashMap Nat RuntimeProcessTelemetry} {agents : List HookAgentState} {rows : Rows}

theorem getElem?_mergeHookAgents_of_notMem (h : ∀ agent ∈ agents, agent.agent.agentId ≠ id) :
    (mergeHookAgents byPid rows agents)[id]? = rows[id]? := by
  induction agents generalizing rows with
  | nil => rfl
  | cons agent agents ih =>
    rw [List.forall_mem_cons] at h
    rw [mergeHookAgents, List.foldl_cons]
    refine (ih h.2).trans ?_
    rw [BTreeMap.getElem?_alter_eq, if_neg h.1]

theorem getElem?_mergeHookAgents_of_mem
    (hnodup : (agents.map fun agent => agent.agent.agentId).Nodup) {agent : HookAgentState}
    (h : agent ∈ agents) :
    (mergeHookAgents byPid rows agents)[agent.agent.agentId]? =
      some (agent.merged byPid rows[agent.agent.agentId]?) := by
  induction agents generalizing rows with
  | nil => cases h
  | cons first agents ih =>
    rw [List.map_cons, List.nodup_cons] at hnodup
    rw [mergeHookAgents, List.foldl_cons]
    cases h with
    | head =>
      have hrest : ∀ other ∈ agents, other.agent.agentId ≠ agent.agent.agentId := by
        intro other hother heq
        exact hnodup.1 (List.mem_map.mpr ⟨other, hother, heq⟩)
      refine (getElem?_mergeHookAgents_of_notMem hrest).trans ?_
      rw [BTreeMap.getElem?_alter_eq, if_pos rfl]
    | tail _ hmem =>
      refine (ih hnodup.2 hmem).trans ?_
      have hne : first.agent.agentId ≠ agent.agent.agentId := by
        intro heq
        exact hnodup.1 (List.mem_map.mpr ⟨agent, hmem, heq.symm⟩)
      rw [BTreeMap.getElem?_alter_eq, if_neg hne]

end Passes

namespace RuntimeState

variable {state : RuntimeState} {agents : state.hookAgents.Iteration}
  {processes : state.processes.Iteration}

inductive RowAt (agents : state.hookAgents.Iteration) (processes : state.processes.Iteration)
    (id : String) : RuntimeAgentTelemetry → Prop
  | both {agent : HookAgentState} {process : RuntimeProcessTelemetry}
    (hagent : agent ∈ agents.values) (agentId : agent.agent.agentId = id)
    (hprocess : process ∈ processes.values)
    (rowId : process.rowId (processAgentIds agents.values) = id) :
    RowAt agents processes id (agent.modify (process.row id))
  | hook {agent : HookAgentState} (hagent : agent ∈ agents.values)
    (agentId : agent.agent.agentId = id)
    (absent : ∀ process ∈ processes.values, process.rowId (processAgentIds agents.values) ≠ id) :
    RowAt agents processes id (agent.row (agent.pid.bind state.processes.get))
  | process {process : RuntimeProcessTelemetry}
    (absent : ∀ agent ∈ agents.values, agent.agent.agentId ≠ id)
    (hprocess : process ∈ processes.values)
    (rowId : process.rowId (processAgentIds agents.values) = id) :
    RowAt agents processes id (process.row id)

theorem rowAt_of_no_agent {id : String}
    (h : ∀ agent ∈ agents.values, agent.agent.agentId ≠ id) {row : RuntimeAgentTelemetry}
    (hrow : (state.rows agents processes)[id]? = some row) : RowAt agents processes id row := by
  rw [rows, getElem?_mergeHookAgents_of_notMem h] at hrow
  obtain ⟨process, hprocess, hid, rfl⟩ := processRows_eq_some hrow
  exact .process h hprocess hid

variable (filed : state.Filed)
include filed

variable (processes) in
theorem rowAt_of_agent {agent : HookAgentState} (h : agent ∈ agents.values) :
    ∃ row, (state.rows agents processes)[agent.agent.agentId]? = some row ∧
      RowAt agents processes agent.agent.agentId row := by
  rw [rows, getElem?_mergeHookAgents_of_mem (filed.agents.nodup agents) h]
  refine ⟨_, rfl, ?_⟩
  cases hrow : (processRows (processAgentIds agents.values)
    processes.values)[agent.agent.agentId]? with
  | some row =>
    obtain ⟨process, hprocess, hid, rfl⟩ := processRows_eq_some hrow
    exact .both h rfl hprocess hid
  | none => exact .hook h rfl (processRows_eq_none hrow)

theorem rowAt {id : String} {row : RuntimeAgentTelemetry}
    (h : (state.rows agents processes)[id]? = some row) : RowAt agents processes id row := by
  by_cases hagent : ∃ agent ∈ agents.values, agent.agent.agentId = id
  · obtain ⟨agent, hmem, rfl⟩ := hagent
    obtain ⟨row', hrow', hat⟩ := rowAt_of_agent processes filed hmem
    rw [h, Option.some.injEq] at hrow'
    exact hrow' ▸ hat
  · exact rowAt_of_no_agent (fun agent hmem heq => hagent ⟨agent, hmem, heq⟩) h

variable (agents) in
theorem row_of_process {process : RuntimeProcessTelemetry} (h : process ∈ processes.values) :
    ∃ row, (state.rows agents processes)[process.rowId (processAgentIds agents.values)]? =
      some row := by
  by_cases hagent : ∃ agent ∈ agents.values,
      agent.agent.agentId = process.rowId (processAgentIds agents.values)
  · obtain ⟨agent, hmem, heq⟩ := hagent
    obtain ⟨row, hrow, -⟩ := rowAt_of_agent processes filed hmem
    rw [heq] at hrow
    exact ⟨row, hrow⟩
  · rw [rows, getElem?_mergeHookAgents_of_notMem fun agent hmem heq => hagent ⟨agent, hmem, heq⟩]
    cases hrow : (processRows (processAgentIds agents.values)
      processes.values)[process.rowId (processAgentIds agents.values)]? with
    | some row => exact ⟨row, rfl⟩
    | none => exact absurd rfl (processRows_eq_none hrow process h)

theorem agentId_of_row {id : String} {row : RuntimeAgentTelemetry}
    (h : (state.rows agents processes)[id]? = some row) : row.agentId = id := by
  cases rowAt filed h with
  | both hagent agentId hprocess rowId => rfl
  | hook hagent agentId absent => exact agentId
  | process absent hprocess rowId => rfl

theorem agent_unique {agent other : HookAgentState} (ha : agent ∈ agents.values)
    (ho : other ∈ agents.values) (h : agent.agent.agentId = other.agent.agentId) :
    agent = other :=
  List.inj_on_of_nodup_map (filed.agents.nodup agents) ha ho h

theorem process_unique {process other : RuntimeProcessTelemetry} (hp : process ∈ processes.values)
    (ho : other ∈ processes.values) (h : process.pid = other.pid) : process = other :=
  List.inj_on_of_nodup_map (filed.processes.nodup processes) hp ho h

theorem get_process {process : RuntimeProcessTelemetry} (h : process ∈ processes.values) :
    state.processes.get process.pid = some process :=
  (filed.processes.get_iff processes).mpr ⟨h, rfl⟩

end RuntimeState

end ControlPlane.Runtime
