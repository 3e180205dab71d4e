import ControlPlane.Runtime.Totals

/-! Which resources the row of an agent shows when a process and a hook both report some, and
whether the order in which the maps are read can be seen in it. -/

namespace ControlPlane.Runtime

def RuntimeState.Simultaneous (state : RuntimeState) : Prop :=
  ∀ pid process pid' process', state.processes.get pid = some process →
    state.processes.get pid' = some process' → process.observedAt = process'.observedAt

theorem RuntimeState.simultaneous_applyProcSnapshot (state : RuntimeState)
    (snapshot : RawProcSnapshot) (observedAt : DateTime) :
    (state.applyProcSnapshot snapshot observedAt).Simultaneous := by
  have htime : ∀ pid process,
      (state.applyProcSnapshot snapshot observedAt).processes.get pid = some process →
        process.observedAt = observedAt := by
    intro pid process hget
    obtain ⟨raw, -, heq⟩ := List.mem_map.1 (HashMap.mem_of_get_ofList hget)
    cases heq
    rfl
  intro pid process pid' process' hget hget'
  rw [htime pid process hget, htime pid' process' hget']

theorem RuntimeMonitor.simultaneous_ran (config : RuntimeConfig) (ops : List Op) :
    (ran config ops).state.Simultaneous := by
  refine Run.invariant (P := fun monitor : RuntimeMonitor => monitor.state.Simultaneous) ?_ ?_ ops
  · intro monitor op h
    have heffect := monitor.effect op
    generalize monitor.step op = after at heffect ⊢
    cases heffect with
    | collected result observedAt =>
      cases result with
      | ok snapshot => exact monitor.state.simultaneous_applyProcSnapshot snapshot observedAt
      | error error => exact h
    | recorded | enqueued | resolved | switched | refused => exact h
  · intro pid process pid' process' hget
    cases hget

namespace RuntimeState

section GoesBy

variable {state : RuntimeState} {agents : state.hookAgents.Iteration}
  {processes : state.processes.Iteration} {id : String} {process : RuntimeProcessTelemetry}

theorem goesBy_cases (h : state.goesBy agents processes id = some process) :
    process ∈ processes.values ∧
      ((∃ agent ∈ agents.values, agent.agent.agentId = id ∧ agent.pid = some process.pid) ∨
        (∀ agent ∈ agents.values, agent.pid ≠ some process.pid) ∧ process.anonymousId = id) := by
  rw [goesBy] at h
  have hid : process.rowId (processAgentIds agents.values) = id := by
    simpa using List.find?_some h
  refine ⟨List.mem_reverse.1 (List.mem_of_find?_eq_some h), ?_⟩
  rcases process.rowId_cases agents.values with ⟨agent, hagent, hpid, hrow⟩ | ⟨hfree, hrow⟩
  · exact .inl ⟨agent, hagent, hrow.symm.trans hid, hpid⟩
  · exact .inr ⟨hfree, hrow.symm.trans hid⟩

variable (state agents processes id) in
theorem getElem?_processRows_eq :
    (processRows (processAgentIds agents.values) processes.values)[id]? =
      (state.goesBy agents processes id).map fun process => process.row id := by
  rw [getElem?_processRows, ← goesBy]
  cases hprocess : state.goesBy agents processes id with
  | none => rfl
  | some process =>
    have hid : process.rowId (processAgentIds agents.values) = id := by
      rw [goesBy] at hprocess
      simpa using List.find?_some hprocess
    rw [Option.map_some, Option.map_some, hid]

theorem goesBy_isSome (hmem : process ∈ processes.values)
    (hid : process.rowId (processAgentIds agents.values) = id) :
    ∃ other, state.goesBy agents processes id = some other := by
  rw [← Option.isSome_iff_exists, goesBy, List.find?_isSome]
  exact ⟨process, List.mem_reverse.2 hmem, decide_eq_true hid⟩

theorem goesBy_of_last {front : List RuntimeProcessTelemetry}
    (hlast : processes.values = front ++ [process])
    (hid : process.rowId (processAgentIds agents.values) = id) :
    state.goesBy agents processes id = some process := by
  rw [goesBy, hlast, List.reverse_concat]
  exact List.find?_cons_of_pos (by simpa using hid)

theorem rowId_of_last {front : List HookAgentState} {agent : HookAgentState}
    (hlast : agents.values = front ++ [agent]) (hpid : agent.pid = some process.pid) :
    process.rowId (processAgentIds agents.values) = agent.agent.agentId := by
  have hget : (processAgentIds agents.values).get process.pid = some agent.agent.agentId := by
    rw [processAgentIds, hlast, List.filterMap_append, List.filterMap_cons, hpid]
    exact (HashMap.get_ofList_concat _ _ _).trans (if_pos rfl)
  rw [RuntimeProcessTelemetry.rowId, hget, Option.getD_some]

theorem rowId_of_free (hfree : ∀ agent ∈ agents.values, agent.pid ≠ some process.pid) :
    process.rowId (processAgentIds agents.values) = process.anonymousId := by
  rcases process.rowId_cases agents.values with ⟨agent, hagent, hpid, -⟩ | ⟨-, hid⟩
  · exact absurd hpid (hfree agent hagent)
  · exact hid

end GoesBy

structure Prefers (row : RuntimeAgentTelemetry) (process : RuntimeProcessTelemetry)
    (agent : HookAgentState) : Prop where
  cpuPercent : row.cpuPercent = process.cpuPercent.or agent.cpuPercent
  rssBytes : row.rssBytes = some process.rssBytes
  memoryPercent : row.memoryPercent = process.memoryPercent.or agent.memoryPercent

structure Precedence (monitor : RuntimeMonitor) : Prop where
  order : ∀ (agents agents' : monitor.state.hookAgents.Iteration)
    (processes processes' : monitor.state.processes.Iteration) (generatedAt : DateTime),
    (monitor.snapshot agents processes generatedAt).agents =
      (monitor.snapshot agents' processes' generatedAt).agents
  resources : ∀ (agents : monitor.state.hookAgents.Iteration)
    (processes : monitor.state.processes.Iteration) (generatedAt : DateTime),
    ∀ agent ∈ monitor.state.hookAgents.values, ∀ process,
      agent.pid.bind monitor.state.processes.get = some process →
        ∃ row ∈ (monitor.snapshot agents processes generatedAt).agents,
          row.agentId = agent.agent.agentId ∧ Prefers row process agent

/-- The sampled process of the agent lacks nothing that the hook reports, and an unreported process
whose row id is the agent's id has the same resources. -/
structure Settled (state : RuntimeState) (agent : HookAgentState)
    (process : RuntimeProcessTelemetry) : Prop where
  cpuPercent : process.cpuPercent = none → agent.cpuPercent = none
  memoryPercent : process.memoryPercent = none → agent.memoryPercent = none
  anonymous : ∀ other ∈ state.processes.values,
    (∀ reporter ∈ state.hookAgents.values, reporter.pid ≠ some other.pid) →
      other.anonymousId = agent.agent.agentId →
        other.cpuPercent = process.cpuPercent ∧ other.rssBytes = process.rssBytes ∧
          other.memoryPercent = process.memoryPercent

section Agents

variable {state : RuntimeState} {agents : state.hookAgents.Iteration}
  {processes : state.processes.Iteration} {agent : HookAgentState}
  {process : RuntimeProcessTelemetry} (filed : state.Filed)
include filed

theorem getElem?_rows (hagent : agent ∈ agents.values) :
    (state.rows agents processes)[agent.agent.agentId]? =
      some (state.agentRow agents processes agent) :=
  getElem?_mergeHookAgents_of_mem (filed.agents.nodup agents) hagent

omit filed in
theorem agentRow_eq (agent : HookAgentState) :
    state.agentRow agents processes agent =
      match state.goesBy agents processes agent.agent.agentId with
      | some process => agent.modify (process.row agent.agent.agentId)
      | none => agent.row (agent.pid.bind state.processes.get) := by
  rw [agentRow, getElem?_processRows_eq]
  cases state.goesBy agents processes agent.agent.agentId with
  | none => rfl
  | some process => rfl

/-- In a settled state the two branches make the same row. -/
theorem agentRow_of_settled (hsimultaneous : state.Simultaneous) (hagent : agent ∈ agents.values)
    (hprocess : agent.pid.bind state.processes.get = some process)
    (h : Settled state agent process) :
    state.agentRow agents processes agent = agent.row (some process) := by
  obtain ⟨pid, hpid, hget⟩ := Option.bind_eq_some_iff.1 hprocess
  obtain ⟨hmem, rfl⟩ := (filed.processes.get_iff processes).1 hget
  have hcpu : process.cpuPercent.or agent.cpuPercent = process.cpuPercent := by
    cases hvalue : process.cpuPercent with
    | none => rw [Option.none_or, h.cpuPercent hvalue]
    | some value => rfl
  have hmemory : process.memoryPercent.or agent.memoryPercent = process.memoryPercent := by
    cases hvalue : process.memoryPercent with
    | none => rw [Option.none_or, h.memoryPercent hvalue]
    | some value => rfl
  rw [agentRow_eq]
  cases hfound : state.goesBy agents processes agent.agent.agentId with
  | none => simp only [hprocess]
  | some found =>
    have hsame : found.cpuPercent = process.cpuPercent ∧ found.rssBytes = process.rssBytes ∧
        found.memoryPercent = process.memoryPercent := by
      obtain ⟨hfoundMem, hcases⟩ := goesBy_cases hfound
      rcases hcases with ⟨reporter, hreporter, hid, hreported⟩ | ⟨hfree, hid⟩
      · obtain rfl := agent_unique filed hreporter hagent hid
        have heq : found.pid = process.pid := Option.some.inj (hreported.symm.trans hpid)
        obtain rfl := process_unique filed hfoundMem hmem heq
        exact ⟨rfl, rfl, rfl⟩
      · apply h.anonymous found (processes.perm.mem_iff.1 hfoundMem) ?_ hid
        intro reporter hreporter
        exact hfree reporter (agents.perm.mem_iff.2 hreporter)
    have htime : found.observedAt = process.observedAt :=
      hsimultaneous _ _ _ _ (get_process filed (goesBy_cases hfound).1) hget
    simp [HookAgentState.modify, HookAgentState.row, RuntimeProcessTelemetry.row, hsame, htime,
      hpid, hcpu, hmemory]

end Agents

section Orders

variable {state : RuntimeState} {agents agents' : state.hookAgents.Iteration}
  {processes processes' : state.processes.Iteration} {id : String}

def Unsampled (state : RuntimeState) (id : String) : Prop :=
  ∀ agent ∈ state.hookAgents.values, agent.agent.agentId = id →
    ∀ process ∈ state.processes.values, agent.pid ≠ some process.pid

variable (filed : state.Filed)
include filed

theorem goesBy_of_goesBy (h : state.Unsampled id) {process : RuntimeProcessTelemetry}
    (hprocess : state.goesBy agents processes id = some process) :
    state.goesBy agents' processes' id = some process := by
  have hfree : ∀ {agents : state.hookAgents.Iteration} {processes : state.processes.Iteration}
      {process : RuntimeProcessTelemetry}, state.goesBy agents processes id = some process →
        process ∈ state.processes.values ∧ process.anonymousId = id ∧
          ∀ agent ∈ state.hookAgents.values, agent.pid ≠ some process.pid := by
    intro agents processes process hprocess
    obtain ⟨hmem, hcases⟩ := goesBy_cases hprocess
    rcases hcases with ⟨agent, hagent, hid, hpid⟩ | ⟨hfree, hid⟩
    · exact absurd hpid (h agent (agents.perm.mem_iff.1 hagent) hid process
        (processes.perm.mem_iff.1 hmem))
    · refine ⟨processes.perm.mem_iff.1 hmem, hid, ?_⟩
      intro agent hagent
      exact hfree agent (agents.perm.mem_iff.2 hagent)
  obtain ⟨hmem, hid, hunreported⟩ := hfree hprocess
  have hrow : process.rowId (processAgentIds agents'.values) = id := by
    rw [rowId_of_free, hid]
    intro agent hagent
    exact hunreported agent (agents'.perm.mem_iff.1 hagent)
  obtain ⟨other, hother⟩ := goesBy_isSome (processes'.perm.mem_iff.2 hmem) hrow
  obtain ⟨hotherMem, hotherId, -⟩ := hfree hother
  have hpid : other.pid = process.pid :=
    RuntimeProcessTelemetry.pid_of_anonymousId_eq (hotherId.trans hid.symm)
  rw [hother, process_unique filed (processes'.perm.mem_iff.2 hotherMem)
    (processes'.perm.mem_iff.2 hmem) hpid]

theorem goesBy_eq (h : state.Unsampled id) :
    state.goesBy agents processes id = state.goesBy agents' processes' id := by
  apply Option.ext
  intro process
  exact ⟨goesBy_of_goesBy filed h, goesBy_of_goesBy filed h⟩

theorem rows_eq (hsimultaneous : state.Simultaneous)
    (h : ∀ agent ∈ state.hookAgents.values, ∀ process,
      agent.pid.bind state.processes.get = some process → Settled state agent process) :
    (state.rows agents processes).toList = (state.rows agents' processes').toList := by
  apply Std.TreeMap.Equiv.toList_eq
  apply Std.TreeMap.Equiv.of_forall_constGet?_eq
  intro id
  change (state.rows agents processes)[id]? = (state.rows agents' processes')[id]?
  by_cases hid : ∃ agent ∈ state.hookAgents.values, agent.agent.agentId = id
  · obtain ⟨agent, hagent, rfl⟩ := hid
    have hmem := agents.perm.mem_iff.2 hagent
    have hmem' := agents'.perm.mem_iff.2 hagent
    rw [getElem?_rows filed hmem, getElem?_rows filed hmem']
    cases hprocess : agent.pid.bind state.processes.get with
    | some process =>
      have hsettled := h agent hagent process hprocess
      rw [agentRow_of_settled filed hsimultaneous hmem hprocess hsettled,
        agentRow_of_settled filed hsimultaneous hmem' hprocess hsettled]
    | none =>
      have hunsampled : state.Unsampled agent.agent.agentId := by
        intro other hother hid process hprocessMem hpid
        obtain rfl := agent_unique filed (agents.perm.mem_iff.2 hother) hmem hid
        rw [hpid, Option.bind_some,
          get_process filed (processes.perm.mem_iff.2 hprocessMem)] at hprocess
        cases hprocess
      have hsame : state.goesBy agents processes agent.agent.agentId =
        state.goesBy agents' processes' agent.agent.agentId := goesBy_eq filed hunsampled
      rw [agentRow_eq, agentRow_eq, hsame]
  · have habsent : ∀ (it : state.hookAgents.Iteration), ∀ agent ∈ it.values,
        agent.agent.agentId ≠ id := by
      intro it agent hagent heq
      exact hid ⟨agent, it.perm.mem_iff.1 hagent, heq⟩
    have hunsampled : state.Unsampled id := by
      intro agent hagent heq
      exact absurd ⟨agent, hagent, heq⟩ hid
    have hsame : state.goesBy agents processes id = state.goesBy agents' processes' id :=
      goesBy_eq filed hunsampled
    rw [rows, rows, getElem?_mergeHookAgents_of_notMem (habsent agents),
      getElem?_mergeHookAgents_of_notMem (habsent agents'), getElem?_processRows_eq,
      getElem?_processRows_eq, hsame]

end Orders

section Settled

variable {monitor : RuntimeMonitor} (filed : monitor.state.Filed)
include filed

theorem precedence_of_settled (hsimultaneous : monitor.state.Simultaneous)
    (h : ∀ agent ∈ monitor.state.hookAgents.values, ∀ process,
      agent.pid.bind monitor.state.processes.get = some process →
        Settled monitor.state agent process) : Precedence monitor where
  order := by
    intro agents agents' processes processes' generatedAt
    have hrows : (monitor.state.rows agents processes).toList =
        (monitor.state.rows agents' processes').toList := rows_eq filed hsimultaneous h
    rw [RuntimeMonitor.snapshot, RuntimeMonitor.snapshot, hrows]
  resources := by
    intro agents processes generatedAt agent hagent process hprocess
    have hmem := agents.perm.mem_iff.2 hagent
    refine ⟨monitor.state.agentRow agents processes agent, ?_, ?_, ?_⟩
    · rw [RuntimeMonitor.snapshot, List.mem_map]
      exact ⟨_, Std.TreeMap.mem_toList_iff_getElem?_eq_some.2 (getElem?_rows filed hmem), rfl⟩
    · exact agentId_of_row filed (getElem?_rows filed hmem)
    · rw [agentRow_of_settled filed hsimultaneous hmem hprocess (h agent hagent process hprocess)]
      exact ⟨rfl, rfl, rfl⟩

theorem settled_of_precedence (h : Precedence monitor) {agent : HookAgentState}
    (hagent : agent ∈ monitor.state.hookAgents.values) {process : RuntimeProcessTelemetry}
    (hprocess : agent.pid.bind monitor.state.processes.get = some process) :
    Settled monitor.state agent process := by
  have hiter : (HashMap.iter monitor.state.hookAgents).values = monitor.state.hookAgents.values :=
    rfl
  obtain ⟨agents, front, hlast⟩ := (HashMap.iter _).exists_last (hiter ▸ hagent)
  have hmem := agents.perm.mem_iff.2 hagent
  obtain ⟨pid, hpid, hget⟩ := Option.bind_eq_some_iff.1 hprocess
  obtain ⟨hprocessMem, rfl⟩ :=
    (filed.processes.get_iff (HashMap.iter monitor.state.processes)).1 hget
  -- Whatever process goes by the id, the row shows it and is the agent's.
  have hshown : ∀ (processes : monitor.state.processes.Iteration) found,
      monitor.state.goesBy agents processes agent.agent.agentId = some found →
        Prefers (found.row agent.agent.agentId) process agent := by
    intro processes found hfound
    obtain ⟨row, hrow, hid, hprefers⟩ := h.resources agents processes ⟨0, 0⟩ agent hagent process
      hprocess
    rw [RuntimeMonitor.snapshot, List.mem_map] at hrow
    obtain ⟨entry, hentry, rfl⟩ := hrow
    have hkey := Std.TreeMap.mem_toList_iff_getElem?_eq_some.1 hentry
    rw [← agentId_of_row filed hkey, hid, getElem?_rows filed hmem, Option.some.injEq,
      agentRow_eq, hfound] at hkey
    rw [← hkey] at hprefers
    exact ⟨hprefers.cpuPercent, hprefers.rssBytes, hprefers.memoryPercent⟩
  obtain ⟨processes, front', hlast'⟩ := (HashMap.iter _).exists_last hprocessMem
  have hown := hshown processes process (goesBy_of_last hlast' (rowId_of_last hlast hpid))
  refine ⟨?_, ?_, ?_⟩
  · intro hnone
    have hcpu : process.cpuPercent = process.cpuPercent.or agent.cpuPercent := hown.cpuPercent
    rw [hnone, Option.none_or] at hcpu
    exact hcpu.symm
  · intro hnone
    have hmemory : process.memoryPercent = process.memoryPercent.or agent.memoryPercent :=
      hown.memoryPercent
    rw [hnone, Option.none_or] at hmemory
    exact hmemory.symm
  · intro other hother hfree hid
    have hotherIter : other ∈ (HashMap.iter monitor.state.processes).values := hother
    obtain ⟨processes', front'', hlast''⟩ := (HashMap.iter _).exists_last hotherIter
    have hrow : other.rowId (processAgentIds agents.values) = agent.agent.agentId := by
      rw [rowId_of_free, hid]
      intro reporter hreporter
      exact hfree reporter (agents.perm.mem_iff.1 hreporter)
    have hanonymous := hshown processes' other (goesBy_of_last hlast'' hrow)
    refine ⟨?_, ?_, ?_⟩
    · exact hanonymous.cpuPercent.trans hown.cpuPercent.symm
    · exact Option.some.inj hanonymous.rssBytes
    · exact hanonymous.memoryPercent.trans hown.memoryPercent.symm

end Settled

end RuntimeState

open RuntimeState (Precedence Settled)

/-- In every reachable state the rows are free of the order of the maps and prefer what was sampled
exactly when the state is settled for each agent whose pid is sampled. -/
theorem precedence_iff (config : RuntimeConfig) (ops : List RuntimeMonitor.Op) :
    Precedence (RuntimeMonitor.ran config ops) ↔
      ∀ agent ∈ (RuntimeMonitor.ran config ops).state.hookAgents.values, ∀ process,
        agent.pid.bind (RuntimeMonitor.ran config ops).state.processes.get = some process →
          Settled (RuntimeMonitor.ran config ops).state agent process := by
  have filed := RuntimeMonitor.filed_ran config ops
  constructor
  · intro h agent hagent process hprocess
    exact RuntimeState.settled_of_precedence filed h hagent hprocess
  · exact RuntimeState.precedence_of_settled filed (RuntimeMonitor.simultaneous_ran config ops)

def firstSample : List RuntimeMonitor.Op :=
  [.collectOnce (.ok ⟨0, 1, none, [⟨41, "claude", "claude", "claude", "R", 0, 100⟩]⟩) ⟨0, 0⟩,
    .ingestHook { RuntimeMonitor.sessionHook "agent" 1 with
      pid := some 41, cpuPercent := some (F64.ofNat 50) }]

/-- The load that only the hook knows is not shown. -/
theorem hook_load_lost :
    (((RuntimeMonitor.ran RuntimeMonitor.smallConfig firstSample).snapshot (HashMap.iter _)
      (HashMap.iter _) ⟨0, 0⟩).agents.map RuntimeAgentTelemetry.cpuPercent) = [none] ∧
    ¬∀ config ops, Precedence (RuntimeMonitor.ran config ops) := by
  refine ⟨by decide +kernel, ?_⟩
  intro h
  have hagent : ∃ agent ∈ (RuntimeMonitor.ran RuntimeMonitor.smallConfig
      firstSample).state.hookAgents.values, ∃ process,
        agent.pid.bind (RuntimeMonitor.ran RuntimeMonitor.smallConfig
          firstSample).state.processes.get = some process ∧
            process.cpuPercent = none ∧ agent.cpuPercent ≠ none := by decide +kernel
  obtain ⟨agent, hagent, process, hprocess, hnone, hsome⟩ := hagent
  have hsettled := RuntimeState.settled_of_precedence (RuntimeMonitor.filed_ran _ _)
    (h RuntimeMonitor.smallConfig firstSample) hagent hprocess
  exact hsome (hsettled.cpuPercent hnone)

end ControlPlane.Runtime
