import ControlPlane.Runtime.Resolution
import ControlPlane.Runtime.Rows

/-! When the merge of processes and hook agents into rows is one to one.  A pid that two agents
report and an agent that goes by a process's own row id are the two ways to break it. -/

namespace ControlPlane.Runtime

def RuntimeAgentTelemetry.Carries (row : RuntimeAgentTelemetry)
    (process : RuntimeProcessTelemetry) : Prop :=
  row.processBacked = true ∧ row.pid = some process.pid ∧
    row.rssBytes = some process.rssBytes ∧ row.lastProcessSampleAt = some process.observedAt

instance (row : RuntimeAgentTelemetry) (process : RuntimeProcessTelemetry) :
    Decidable (row.Carries process) :=
  inferInstanceAs (Decidable (_ ∧ _ ∧ _ ∧ _))

def RuntimeState.samples (state : RuntimeState) (agent : HookAgentState) : Bool :=
  (agent.pid.bind state.processes.get).isSome

structure Merged (state : RuntimeState) (snapshot : RuntimeSnapshot) : Prop where
  process : ∀ process ∈ state.processes.values,
    (snapshot.agents.countP fun row => row.Carries process) = 1
  agent : ∀ agent ∈ state.hookAgents.values,
    (snapshot.agents.countP fun row =>
      row.agentId = agent.agent.agentId ∧ row.hookBacked = true) = 1
  backed : ∀ agent ∈ state.hookAgents.values, ∀ row ∈ snapshot.agents,
    row.agentId = agent.agent.agentId → row.processBacked = state.samples agent
  rss : snapshot.totals.rssBytes =
    ((state.processes.values.map RuntimeProcessTelemetry.rssBytes).sum +
      ((state.hookAgents.values.filter fun agent => !state.samples agent).map fun agent =>
        agent.rssBytes.getD 0).sum) % 2 ^ 64

structure Unambiguous (agents : List HookAgentState) (processes : List RuntimeProcessTelemetry) :
    Prop where
  /-- No two hook agents report the same sampled pid. -/
  pids : ∀ process ∈ processes, ∀ agent ∈ agents, ∀ other ∈ agents,
    agent.pid = some process.pid → other.pid = some process.pid → agent = other
  /-- No hook agent goes by the row id of a process that no hook agent reports. -/
  ids : ∀ process ∈ processes, (∀ agent ∈ agents, agent.pid ≠ some process.pid) →
    ∀ agent ∈ agents, agent.agent.agentId ≠ process.anonymousId

theorem Unambiguous.congr {agents agents' : List HookAgentState}
    {processes processes' : List RuntimeProcessTelemetry} (hagents : agents.Perm agents')
    (hprocesses : processes.Perm processes') (h : Unambiguous agents processes) :
    Unambiguous agents' processes' where
  pids := by
    simp only [← hagents.mem_iff, ← hprocesses.mem_iff]
    exact h.pids
  ids := by
    simp only [← hagents.mem_iff, ← hprocesses.mem_iff]
    exact h.ids

namespace RuntimeState

section Sum

theorem foldl_wrappingAdd (values : List Nat) (start : Nat) :
    values.foldl U64.wrappingAdd (start % 2 ^ 64) = (start + values.sum) % 2 ^ 64 := by
  induction values generalizing start with
  | nil => rfl
  | cons value values ih =>
    rw [List.foldl_cons, U64.wrappingAdd, Nat.mod_add_mod, ih, List.sum_cons, Nat.add_assoc]

theorem sum_filterMap {α : Type} (f : α → Option Nat) (l : List α) :
    (l.filterMap f).sum = (l.map fun a => (f a).getD 0).sum := by
  induction l with
  | nil => rfl
  | cons a l ih => cases hf : f a <;> simp [hf, ih]

end Sum

variable {state : RuntimeState} {agents : state.hookAgents.Iteration}
  {processes : state.processes.Iteration} (filed : state.Filed)
include filed

theorem samples_iff {agent : HookAgentState} (processes : state.processes.Iteration) :
    state.samples agent = true ↔ ∃ process ∈ processes.values, agent.pid = some process.pid := by
  rw [samples]
  constructor
  · intro h
    obtain ⟨process, hprocess⟩ := Option.isSome_iff_exists.mp h
    obtain ⟨pid, hpid, hget⟩ := Option.bind_eq_some_iff.mp hprocess
    obtain ⟨hmem, rfl⟩ := (filed.processes.get_iff processes).mp hget
    exact ⟨process, hmem, hpid⟩
  · rintro ⟨process, hmem, hpid⟩
    rw [hpid, Option.bind_some, get_process filed hmem]
    rfl

theorem countP_agent {agent : HookAgentState} (h : agent ∈ agents.values) :
    (((state.rows agents processes).toList.map Prod.snd).countP fun row =>
      row.agentId = agent.agent.agentId ∧ row.hookBacked = true) = 1 := by
  rw [BTreeMap.countP_values_eq_one_iff]
  obtain ⟨row, hrow, hat⟩ := rowAt_of_agent processes filed h
  refine ⟨agent.agent.agentId, row, hrow, ?_, fun id row' hrow' hid => ?_⟩
  · have hbacked : row.hookBacked = true := by
      cases hat with
      | both => rfl
      | hook => rfl
      | process absent => exact absurd rfl (absent agent h)
    simp [agentId_of_row filed hrow, hbacked]
  · rw [decide_eq_true_eq, agentId_of_row filed hrow'] at hid
    exact hid.1

section Unambiguous

variable (hids : ∀ process ∈ processes.values,
  (∀ agent ∈ agents.values, agent.pid ≠ some process.pid) →
    ∀ agent ∈ agents.values, agent.agent.agentId ≠ process.anonymousId)
include hids

theorem pid_of_rowId {agent : HookAgentState} {process : RuntimeProcessTelemetry}
    (hagent : agent ∈ agents.values) (hprocess : process ∈ processes.values)
    (h : process.rowId (processAgentIds agents.values) = agent.agent.agentId) :
    agent.pid = some process.pid := by
  rcases process.rowId_cases agents.values with ⟨other, hother, hpid, hid⟩ | ⟨hunreported, hid⟩
  · rw [hid] at h
    rwa [agent_unique filed hother hagent h] at hpid
  · rw [hid] at h
    exact absurd h.symm (hids process hprocess hunreported agent hagent)

theorem carries_of_reported {agent : HookAgentState} {process : RuntimeProcessTelemetry}
    (hagent : agent ∈ agents.values) (hprocess : process ∈ processes.values)
    (hpid : agent.pid = some process.pid) {row : RuntimeAgentTelemetry}
    (hat : RowAt agents processes agent.agent.agentId row) : row.Carries process := by
  generalize hid : agent.agent.agentId = id at hat
  cases hat with
  | @both other found hother agentId hfound rowId =>
    obtain rfl := agent_unique filed hother hagent (agentId.trans hid.symm)
    have hfoundPid := pid_of_rowId filed hids hagent hfound (rowId.trans hid.symm)
    obtain rfl : found = process :=
      process_unique filed hfound hprocess (Option.some.inj (hfoundPid.symm.trans hpid))
    refine ⟨rfl, ?_, rfl, rfl⟩
    rw [HookAgentState.modify, hpid, Option.some_or]
  | @hook other hother agentId absent =>
    obtain rfl := agent_unique filed hother hagent (agentId.trans hid.symm)
    rw [hpid, Option.bind_some, get_process filed hprocess]
    exact ⟨rfl, hpid, rfl, rfl⟩
  | process absent => exact absurd hid (absent agent hagent)

theorem processBacked_of_agent {agent : HookAgentState} (hagent : agent ∈ agents.values)
    {row : RuntimeAgentTelemetry} (hat : RowAt agents processes agent.agent.agentId row) :
    row.processBacked = state.samples agent := by
  generalize hid : agent.agent.agentId = id at hat
  cases hat with
  | @both other found hother agentId hfound rowId =>
    have hpid := pid_of_rowId filed hids hagent hfound (rowId.trans hid.symm)
    exact ((samples_iff filed processes).mpr ⟨found, hfound, hpid⟩).symm
  | @hook other hother agentId absent =>
    obtain rfl := agent_unique filed hother hagent (agentId.trans hid.symm)
    rfl
  | process absent => exact absurd hid (absent agent hagent)

end Unambiguous

variable (h : Unambiguous agents.values processes.values)
include h

theorem carries_rowId {process : RuntimeProcessTelemetry} (hprocess : process ∈ processes.values)
    {row : RuntimeAgentTelemetry}
    (hrow : (state.rows agents processes)[process.rowId (processAgentIds agents.values)]? =
      some row) : row.Carries process := by
  rcases process.rowId_cases agents.values with ⟨agent, hagent, hpid, hid⟩ | ⟨hunreported, hid⟩
  · have hat := rowAt filed hrow
    rw [hid] at hat
    exact carries_of_reported filed h.ids hagent hprocess hpid hat
  · have hat := rowAt filed hrow
    generalize hrowId : process.rowId (processAgentIds agents.values) = id at hat
    have habsent := h.ids process hprocess hunreported
    rw [← hid, hrowId] at habsent
    cases hat with
    | both hagent agentId => exact absurd agentId (habsent _ hagent)
    | hook hagent agentId => exact absurd agentId (habsent _ hagent)
    | @process found absent hfound rowId =>
      rcases found.rowId_cases agents.values with ⟨agent, hagent, -, hfoundId⟩ | ⟨-, hfoundId⟩
      · exact absurd (hfoundId.symm.trans rowId) (habsent agent hagent)
      · have hpid := RuntimeProcessTelemetry.pid_of_anonymousId_eq
          ((hfoundId.symm.trans rowId).trans (hrowId.symm.trans hid))
        obtain rfl := process_unique filed hfound hprocess hpid
        exact ⟨rfl, rfl, rfl, rfl⟩

theorem rowId_of_carries {process : RuntimeProcessTelemetry}
    (hprocess : process ∈ processes.values) {id : String} {row : RuntimeAgentTelemetry}
    (hat : RowAt agents processes id row) (hcarries : row.Carries process) :
    id = process.rowId (processAgentIds agents.values) := by
  cases hat with
  | @both agent found hagent agentId hfound rowId =>
    have hpid := pid_of_rowId filed h.ids hagent hfound (rowId.trans agentId.symm)
    have hrowPid := hcarries.2.1
    rw [HookAgentState.modify, hpid, Option.some_or, Option.some.injEq] at hrowPid
    rw [← rowId, process_unique filed hfound hprocess hrowPid]
  | @hook agent hagent agentId absent =>
    have hpid : agent.pid = some process.pid := hcarries.2.1
    rcases process.rowId_cases agents.values with ⟨other, hother, hotherPid, hid⟩ | ⟨hno, -⟩
    · rw [hid, ← agentId, h.pids process hprocess agent hagent other hother hpid hotherPid]
    · exact absurd hpid (hno agent hagent)
  | @process found absent hfound rowId =>
    rw [← rowId, process_unique filed hfound hprocess (Option.some.inj hcarries.2.1)]

theorem countP_carries {process : RuntimeProcessTelemetry}
    (hprocess : process ∈ processes.values) :
    (((state.rows agents processes).toList.map Prod.snd).countP fun row =>
      row.Carries process) = 1 := by
  rw [BTreeMap.countP_values_eq_one_iff]
  obtain ⟨row, hrow⟩ := row_of_process agents filed hprocess
  refine ⟨_, row, hrow, ?_, fun id row' hrow' hcarries => ?_⟩
  · exact decide_eq_true (carries_rowId filed h hprocess hrow)
  · exact rowId_of_carries filed h hprocess (rowAt filed hrow') (of_decide_eq_true hcarries)

theorem nodup_rowIds : (processes.values.map fun process =>
    process.rowId (processAgentIds agents.values)).Nodup := by
  refine List.Nodup.map_on (fun process hprocess other hother hid => ?_)
    (filed.processes.nodup processes).of_map
  obtain ⟨row, hrow⟩ := row_of_process agents filed hprocess
  have hcarries := carries_rowId filed h hprocess hrow
  rw [hid] at hrow
  have hcarriesOther := carries_rowId filed h hother hrow
  exact process_unique filed hprocess hother
    (Option.some.inj (hcarries.2.1.symm.trans hcarriesOther.2.1))

theorem keys_perm : (state.rows agents processes).keys.Perm
    ((processes.values.map fun process => process.rowId (processAgentIds agents.values)) ++
      (agents.values.filter fun agent => !state.samples agent).map fun agent =>
        agent.agent.agentId) := by
  apply BTreeMap.keys_perm_of_mem_iff
  · intro id
    rw [List.mem_append, List.mem_map, List.mem_map]
    constructor
    · rintro ⟨row, hrow⟩
      cases rowAt filed hrow with
      | both hagent agentId hprocess rowId => exact .inl ⟨_, hprocess, rowId⟩
      | process absent hprocess rowId => exact .inl ⟨_, hprocess, rowId⟩
      | @hook agent hagent agentId absent =>
        refine .inr ⟨agent, ?_, agentId⟩
        rw [List.mem_filter, Bool.not_eq_true', ← Bool.not_eq_true, samples_iff filed processes]
        refine ⟨hagent, ?_⟩
        rintro ⟨process, hprocess, hpid⟩
        rcases process.rowId_cases agents.values with ⟨other, hother, hotherPid, hid⟩ | ⟨hno, -⟩
        · rw [h.pids process hprocess other hother agent hagent hotherPid hpid, agentId] at hid
          exact absent process hprocess hid
        · exact hno agent hagent hpid
    · rintro (⟨process, hprocess, rfl⟩ | ⟨agent, hagent, rfl⟩)
      · exact row_of_process agents filed hprocess
      · obtain ⟨row, hrow, -⟩ := rowAt_of_agent processes filed
          (List.mem_of_mem_filter hagent)
        exact ⟨row, hrow⟩
  · refine List.Nodup.append (nodup_rowIds filed h)
      ((filed.agents.nodup agents).sublist (List.filter_sublist.map _)) ?_
    intro id hprocess hagent
    obtain ⟨process, hmem, rfl⟩ := List.mem_map.mp hprocess
    obtain ⟨agent, hunsampled, hid⟩ := List.mem_map.mp hagent
    rw [List.mem_filter, Bool.not_eq_true', ← Bool.not_eq_true, samples_iff filed processes]
      at hunsampled
    exact hunsampled.2 ⟨process, hmem, pid_of_rowId filed h.ids hunsampled.1 hmem hid.symm⟩

theorem sum_rss : (((state.rows agents processes).toList.map Prod.snd).filterMap
      RuntimeAgentTelemetry.rssBytes).sum =
    (processes.values.map RuntimeProcessTelemetry.rssBytes).sum +
      ((agents.values.filter fun agent => !state.samples agent).map fun agent =>
        agent.rssBytes.getD 0).sum := by
  rw [sum_filterMap, BTreeMap.sum_values_eq, ((keys_perm filed h).map _).sum_eq,
    List.map_append, List.sum_append, List.map_map, List.map_map]
  congr 2
  · apply List.map_congr_left
    intro process hprocess
    obtain ⟨row, hrow⟩ := row_of_process agents filed hprocess
    have hcarries := carries_rowId filed h hprocess hrow
    simp [hrow, hcarries.2.2.1]
  · apply List.map_congr_left
    intro agent hagent
    obtain ⟨hmem, hunsampled⟩ := List.mem_filter.mp hagent
    obtain ⟨row, hrow, hat⟩ := rowAt_of_agent processes filed hmem
    have hrss : row.rssBytes = agent.rssBytes := by
      generalize hid : agent.agent.agentId = id at hat
      cases hat with
      | @both other process hother agentId hprocess rowId =>
        have hpid := pid_of_rowId filed h.ids hmem hprocess (rowId.trans hid.symm)
        rw [(samples_iff filed processes).mpr ⟨process, hprocess, hpid⟩] at hunsampled
        cases hunsampled
      | @hook other hother agentId absent =>
        obtain rfl := agent_unique filed hother hmem (agentId.trans hid.symm)
        rw [Bool.not_eq_true', samples, Option.isSome_eq_false_iff, Option.isNone_iff_eq_none]
          at hunsampled
        rw [hunsampled]
        rfl
      | process absent => exact absurd hid (absent agent hmem)
    simp [hrow, hrss]

end RuntimeState

theorem merged_of_unambiguous {monitor : RuntimeMonitor} (filed : monitor.state.Filed)
    {agents : monitor.state.hookAgents.Iteration} {processes : monitor.state.processes.Iteration}
    (h : Unambiguous agents.values processes.values) (generatedAt : DateTime) :
    Merged monitor.state (monitor.snapshot agents processes generatedAt) where
  process := by
    intro process hprocess
    rw [← processes.perm.mem_iff] at hprocess
    exact RuntimeState.countP_carries filed h hprocess
  agent := by
    intro agent hagent
    rw [← agents.perm.mem_iff] at hagent
    exact RuntimeState.countP_agent filed hagent
  backed := by
    intro agent hagent row hrow hid
    rw [← agents.perm.mem_iff] at hagent
    obtain ⟨⟨id, row'⟩, hmem, rfl⟩ := List.mem_map.mp hrow
    rw [Std.TreeMap.mem_toList_iff_getElem?_eq_some] at hmem
    have hat := RuntimeState.rowAt filed hmem
    rw [← RuntimeState.agentId_of_row filed hmem, hid] at hat
    exact RuntimeState.processBacked_of_agent filed h.ids hagent hat
  rss := by
    have hsum := RuntimeState.foldl_wrappingAdd
      (((monitor.state.rows agents processes).toList.map Prod.snd).filterMap
        RuntimeAgentTelemetry.rssBytes) 0
    rw [RuntimeState.sum_rss filed h, Nat.zero_mod, Nat.zero_add,
      (processes.perm.map _).sum_eq, ((agents.perm.filter _).map _).sum_eq] at hsum
    exact hsum

theorem unambiguous_of_merged {monitor : RuntimeMonitor} (filed : monitor.state.Filed)
    {agents : monitor.state.hookAgents.Iteration} {processes : monitor.state.processes.Iteration}
    {generatedAt : DateTime}
    (h : Merged monitor.state (monitor.snapshot agents processes generatedAt)) :
    Unambiguous agents.values processes.values := by
  have hcarried : ∀ process ∈ processes.values, _ := fun process hprocess =>
    BTreeMap.countP_values_eq_one_iff.mp (h.process process (processes.perm.mem_iff.mp hprocess))
  have hids : ∀ process ∈ processes.values,
      (∀ agent ∈ agents.values, agent.pid ≠ some process.pid) →
        ∀ agent ∈ agents.values, agent.agent.agentId ≠ process.anonymousId := by
    intro process hprocess hunreported agent hagent hanonymous
    have hrowId : process.rowId (processAgentIds agents.values) = process.anonymousId := by
      rcases process.rowId_cases agents.values with ⟨other, hother, hpid, -⟩ | ⟨-, hid⟩
      · exact absurd hpid (hunreported other hother)
      · exact hid
    obtain ⟨id, row, hrow, hcarries, -⟩ := hcarried process hprocess
    have hpid := (of_decide_eq_true hcarries).2.1
    cases RuntimeState.rowAt filed hrow with
    | @both other found hother agentId hfound foundId =>
      cases hotherPid : other.pid with
      | some pid =>
        rw [HookAgentState.modify, hotherPid, Option.some_or] at hpid
        exact hunreported other hother (hotherPid.trans hpid)
      | none =>
        -- The row shows the process although its agent reports no pid at all.
        rw [HookAgentState.modify, hotherPid, Option.none_or] at hpid
        obtain rfl := RuntimeState.process_unique filed hfound hprocess (Option.some.inj hpid)
        have hbacked := h.backed other (agents.perm.mem_iff.mp hother) _
          (List.mem_map.mpr ⟨(id, _), Std.TreeMap.mem_toList_iff_getElem?_eq_some.mpr hrow, rfl⟩)
          agentId.symm
        rw [RuntimeState.samples, hotherPid] at hbacked
        cases hbacked
    | @hook other hother agentId absent => exact hunreported other hother hpid
    | @process found absent hfound foundId =>
      obtain rfl := RuntimeState.process_unique filed hfound hprocess (Option.some.inj hpid)
      exact absent agent hagent (hanonymous.trans (hrowId.symm.trans foundId))
  refine ⟨fun process hprocess agent hagent other hother hpid hotherPid => ?_, hids⟩
  obtain ⟨id, -, -, -, honly⟩ := hcarried process hprocess
  have hid : ∀ agent ∈ agents.values, agent.pid = some process.pid → agent.agent.agentId = id := by
    intro agent hagent hpid
    obtain ⟨row, hrow, hat⟩ := RuntimeState.rowAt_of_agent processes filed hagent
    have hcarries := RuntimeState.carries_of_reported filed hids hagent hprocess hpid hat
    exact honly _ row hrow (decide_eq_true hcarries)
  exact RuntimeState.agent_unique filed hagent hother
    ((hid agent hagent hpid).trans (hid other hother hotherPid).symm)

/-- In every reachable state and for every order in which its maps are read, a snapshot merges
processes and agents one to one iff the state is unambiguous. -/
theorem snapshot_merged_iff (config : RuntimeConfig) (ops : List RuntimeMonitor.Op)
    (agents : (RuntimeMonitor.ran config ops).state.hookAgents.Iteration)
    (processes : (RuntimeMonitor.ran config ops).state.processes.Iteration)
    (generatedAt : DateTime) :
    Merged (RuntimeMonitor.ran config ops).state
        ((RuntimeMonitor.ran config ops).snapshot agents processes generatedAt) ↔
      Unambiguous (RuntimeMonitor.ran config ops).state.hookAgents.values
        (RuntimeMonitor.ran config ops).state.processes.values := by
  have filed := RuntimeMonitor.filed_ran config ops
  constructor
  · intro h
    exact (unambiguous_of_merged filed h).congr agents.perm processes.perm
  · intro h
    exact merged_of_unambiguous filed (h.congr agents.perm.symm processes.perm.symm) generatedAt

def subagents : List RuntimeMonitor.Op :=
  [.collectOnce (.ok ⟨0, 1, none, [⟨41, "claude", "claude", "claude", "R", 0, 100⟩]⟩) ⟨0, 0⟩,
    .ingestHook { RuntimeMonitor.sessionHook "agent" 1 with pid := some 41 },
    .ingestHook { RuntimeMonitor.sessionHook "agent:sub" 2 with pid := some 41 }]

theorem subagents_counted_twice : ¬∀ config ops agents processes generatedAt,
    Merged (RuntimeMonitor.ran config ops).state
      ((RuntimeMonitor.ran config ops).snapshot agents processes generatedAt) := by
  intro h
  have hrss := (h RuntimeMonitor.smallConfig subagents (HashMap.iter _) (HashMap.iter _) ⟨0, 0⟩).rss
  revert hrss
  decide

end ControlPlane.Runtime
