import ControlPlane.Runtime.Resolution
import ControlPlane.Runtime.Tokens

/-! Late hooks: what a hook that is older than one before it still does to its agent. -/

namespace ControlPlane.Runtime

namespace HookAgentState

/-- What the agent reports of itself, apart from its token totals and its control capability. -/
def report (agent : HookAgentState) : HookAgentState :=
  { agent with inputTokens := 0, outputTokens := 0, controlCapable := false }

theorem lastHookAt_eq {agent other : HookAgentState} (h : agent.report = other.report) :
    agent.lastHookAt = other.lastHookAt := by
  have hlast : agent.report.lastHookAt = other.report.lastHookAt := congrArg lastHookAt h
  exact hlast

theorem lastHookAt_observe (agent : HookAgentState) (hook : RuntimeHookEnvelope) :
    (agent.observe hook).lastHookAt = max agent.lastHookAt hook.occurredAt := by
  rw [observe]
  by_cases h : agent.lastHookAt ≤ hook.occurredAt
  · rw [if_pos h, renew, max_eq_right h]
    obtain ⟨status, currentTool, hreact⟩ := react_eq _ hook
    rw [hreact]
  · rw [if_neg h, max_eq_left (le_of_not_ge h)]

theorem report_observe_of_lt {agent : HookAgentState} {hook : RuntimeHookEnvelope}
    (h : hook.occurredAt < agent.lastHookAt) : (agent.observe hook).report = agent.report := by
  rw [observe, if_neg (not_le_of_gt h)]
  rfl

theorem report_observe {agent other : HookAgentState} (h : agent.report = other.report)
    (hook : RuntimeHookEnvelope) : (agent.observe hook).report = (other.observe hook).report := by
  have hlast := lastHookAt_eq h
  rw [observe, observe]
  by_cases hle : agent.lastHookAt ≤ hook.occurredAt
  · rw [if_pos hle, if_pos (hlast ▸ hle)]
    simp only [report, HookAgentState.mk.injEq] at h
    simp only [renew, react, report]
    cases hook.kind <;> simp [h]
  · rw [if_neg hle, if_neg (hlast ▸ hle)]
    exact h

def ofHooks : List RuntimeHookEnvelope → Option HookAgentState
  | [] => none
  | hook :: hooks => some (hooks.foldl observe ((first hook).observe hook))

theorem ofHooks_concat (hooks : List RuntimeHookEnvelope) (hook : RuntimeHookEnvelope) :
    ofHooks (hooks ++ [hook]) = some (((ofHooks hooks).getD (first hook)).observe hook) := by
  cases hooks with
  | nil => rfl
  | cons start hooks =>
    rw [List.cons_append, ofHooks, List.foldl_append]
    rfl

structure Latest (hooks : List RuntimeHookEnvelope) (time : DateTime) : Prop where
  bound : ∀ hook ∈ hooks, hook.occurredAt ≤ time
  attained : ∃ hook ∈ hooks, hook.occurredAt = time

theorem Latest.observe {hooks : List RuntimeHookEnvelope} {agent : HookAgentState}
    (h : Latest hooks agent.lastHookAt) (hook : RuntimeHookEnvelope) :
    Latest (hook :: hooks) (agent.observe hook).lastHookAt := by
  rw [lastHookAt_observe]
  refine ⟨?_, ?_⟩
  · intro other hother
    rcases List.mem_cons.1 hother with rfl | hother
    · exact le_max_right _ _
    · exact le_max_of_le_left (h.bound other hother)
  · rcases max_choice agent.lastHookAt hook.occurredAt with hmax | hmax
    · obtain ⟨other, hother, htime⟩ := h.attained
      exact ⟨other, List.mem_cons_of_mem hook hother, htime.trans hmax.symm⟩
    · exact ⟨hook, List.mem_cons_self, hmax.symm⟩

theorem Latest.first (hook : RuntimeHookEnvelope) :
    Latest [hook] ((first hook).observe hook).lastHookAt := by
  rw [lastHookAt_observe, HookAgentState.first, max_self]
  exact ⟨by simp, hook, List.mem_cons_self, rfl⟩

theorem Latest.lt_iff {hooks : List RuntimeHookEnvelope} {time : DateTime} (h : Latest hooks time)
    (t : DateTime) : t < time ↔ ∃ hook ∈ hooks, t < hook.occurredAt := by
  constructor
  · intro hlt
    obtain ⟨hook, hmem, rfl⟩ := h.attained
    exact ⟨hook, hmem, hlt⟩
  · intro hold
    obtain ⟨hook, hmem, hlt⟩ := hold
    exact lt_of_lt_of_le hlt (h.bound hook hmem)

theorem latest_ofHooks {hooks : List RuntimeHookEnvelope} {agent : HookAgentState}
    (h : ofHooks hooks = some agent) : Latest hooks agent.lastHookAt := by
  induction hooks using List.reverseRecOn generalizing agent with
  | nil => cases h
  | append_singleton hooks hook ih =>
    rw [ofHooks_concat, Option.some.injEq] at h
    subst h
    have hlatest : Latest (hook :: hooks) (((ofHooks hooks).getD (HookAgentState.first
        hook)).observe hook).lastHookAt := by
      cases hagent : ofHooks hooks with
      | some agent => exact (ih hagent).observe hook
      | none => cases hooks with
        | nil => exact .first hook
        | cons start hooks => cases hagent
    exact ⟨by simpa [or_comm] using hlatest.bound, by simpa [or_comm] using hlatest.attained⟩

end HookAgentState

/-- The hooks without those that are older than one before them; `seen` came before. -/
def dropStale (seen : List RuntimeHookEnvelope) :
    List RuntimeHookEnvelope → List RuntimeHookEnvelope
  | [] => []
  | hook :: hooks =>
    if ∃ earlier ∈ seen, hook.occurredAt < earlier.occurredAt then dropStale (hook :: seen) hooks
    else hook :: dropStale (hook :: seen) hooks

theorem dropStale_sublist (seen hooks : List RuntimeHookEnvelope) :
    (dropStale seen hooks).Sublist hooks := by
  induction hooks generalizing seen with
  | nil => exact .slnil
  | cons hook hooks ih =>
    rw [dropStale]
    split
    · exact (ih (hook :: seen)).cons hook
    · exact (ih (hook :: seen)).cons_cons hook

theorem exists_sublist_filter {α : Type} {p : α → Bool} {l kept : List α}
    (h : kept.Sublist (l.filter p)) :
    ∃ rest : List α, rest.Sublist l ∧ rest.filter p = kept ∧
      rest.filter (fun a => !p a) = l.filter (fun a => !p a) := by
  induction l generalizing kept with
  | nil => exact ⟨[], .slnil, (List.sublist_nil.1 h).symm, rfl⟩
  | cons a l ih =>
    cases ha : p a with
    | false =>
      rw [List.filter_cons_of_neg (by simp [ha])] at h
      obtain ⟨rest, hrest, hkept, hothers⟩ := ih h
      exact ⟨a :: rest, hrest.cons_cons a, by simp [ha, hkept], by simp [ha, hothers]⟩
    | true =>
      rw [List.filter_cons_of_pos ha] at h
      cases h with
      | cons _ h =>
        obtain ⟨rest, hrest, hkept, hothers⟩ := ih h
        exact ⟨rest, hrest.cons a, hkept, by simp [ha, hothers]⟩
      | cons_cons _ h =>
        obtain ⟨rest, hrest, hkept, hothers⟩ := ih h
        exact ⟨a :: rest, hrest.cons_cons a, by simp [ha, hkept], by simp [ha, hothers]⟩

namespace HookAgentState

theorem report_foldl_dropStale {seen : List RuntimeHookEnvelope} {agent other : HookAgentState}
    (hlatest : Latest seen agent.lastHookAt) (hreport : other.report = agent.report)
    (hooks : List RuntimeHookEnvelope) :
    ((dropStale seen hooks).foldl observe other).report = (hooks.foldl observe agent).report := by
  induction hooks generalizing seen agent other with
  | nil => exact hreport
  | cons hook hooks ih =>
    rw [dropStale, List.foldl_cons]
    by_cases hstale : ∃ earlier ∈ seen, hook.occurredAt < earlier.occurredAt
    · rw [if_pos hstale]
      apply ih (hlatest.observe hook)
      rw [report_observe_of_lt ((hlatest.lt_iff hook.occurredAt).2 hstale), hreport]
    · rw [if_neg hstale, List.foldl_cons]
      exact ih (hlatest.observe hook) (report_observe hreport hook)

theorem report_ofHooks_dropStale (hooks : List RuntimeHookEnvelope) :
    (ofHooks (dropStale [] hooks)).map report = (ofHooks hooks).map report := by
  cases hooks with
  | nil => rfl
  | cons hook hooks =>
    rw [dropStale, if_neg (by simp), ofHooks, ofHooks, Option.map_some, Option.map_some,
      report_foldl_dropStale (.first hook) rfl hooks]

end HookAgentState

namespace RuntimeMonitor

def hooksOf (config : RuntimeConfig) (ops : List Op) (agentId : String) :
    List RuntimeHookEnvelope :=
  (acceptedHooks config ops).filter fun hook => hook.agent.agentId = agentId

/-- Where no id comes twice there is a run without the late hooks of an agent: it accepts the
rest of the hooks, those of other agents included. -/
theorem exists_without_stale (config : RuntimeConfig) (ops : List Op) (agentId : String)
    (hnodup : ((acceptedHooks config ops).map RuntimeHookEnvelope.eventId).Nodup) :
    ∃ rest : List RuntimeHookEnvelope, rest.Sublist (acceptedHooks config ops) ∧
      acceptedHooks config (rest.map .ingestHook) = rest ∧
      hooksOf config (rest.map .ingestHook) agentId = dropStale [] (hooksOf config ops agentId) ∧
      rest.filter (fun hook => !decide (hook.agent.agentId = agentId)) =
        (acceptedHooks config ops).filter fun hook => !decide (hook.agent.agentId = agentId) := by
  obtain ⟨rest, hrest, hkept, hothers⟩ :=
    exists_sublist_filter (dropStale_sublist [] (hooksOf config ops agentId))
  have haccepted : acceptedHooks config (rest.map .ingestHook) = rest := by
    refine acceptedHooks_of_nodup config ?_ (hnodup.sublist (hrest.map _))
    exact fun hook hmem => validate_of_mem_acceptedHooks (hrest.subset hmem)
  exact ⟨rest, hrest, haccepted, by rw [hooksOf, haccepted, hkept], hothers⟩

theorem hookAgents_ran (config : RuntimeConfig) (ops : List Op) (agentId : String) :
    (ran config ops).state.hookAgents.get agentId =
      HookAgentState.ofHooks (hooksOf config ops agentId) := by
  have hran : (ran config ops).state.hookAgents.get agentId = HookAgentState.ofHooks
      (([] ++ acceptedHooks config ops).filter fun hook => hook.agent.agentId = agentId) := by
    refine Run.invariant_emitted (s := new config) (P := fun hooks (monitor : RuntimeMonitor) =>
      monitor.state.hookAgents.get agentId = HookAgentState.ofHooks
        (hooks.filter fun hook => hook.agent.agentId = agentId)) ?_ rfl ops
    intro hooks monitor op h
    rcases monitor.accepts_cases op with ⟨hnone, hagents, -⟩ | ⟨hook, -, -, hone, hstate⟩
    · rw [hnone, List.append_nil, hagents, h]
    · rw [hone, hstate, RuntimeState.recordHook, HashMap.get_insert, List.filter_append]
      by_cases hid : agentId = hook.agent.agentId
      · subst hid
        rw [if_pos rfl, h, List.filter_singleton, decide_eq_true rfl, cond_true,
          HookAgentState.ofHooks_concat]
      · rw [if_neg hid, h, List.filter_singleton, decide_eq_false (Ne.symm hid)]
        simp
  exact hran

/-- The last time of an agent is that of its latest accepted hook, and a run in which the late
ones of its hooks are missing leaves the same report of it. -/
theorem stale_hooks_inert (config : RuntimeConfig) (ops : List Op) (agentId : String) :
    (∀ agent, (ran config ops).state.hookAgents.get agentId = some agent →
      (∀ hook ∈ acceptedHooks config ops, hook.agent.agentId = agentId →
        hook.occurredAt ≤ agent.lastHookAt) ∧
      ∃ hook ∈ acceptedHooks config ops, hook.agent.agentId = agentId ∧
        hook.occurredAt = agent.lastHookAt) ∧
    ∀ config' ops', hooksOf config' ops' agentId = dropStale [] (hooksOf config ops agentId) →
      ((ran config' ops').state.hookAgents.get agentId).map HookAgentState.report =
        ((ran config ops).state.hookAgents.get agentId).map HookAgentState.report := by
  refine ⟨?_, ?_⟩
  · intro agent hagent
    rw [hookAgents_ran] at hagent
    have hlatest := HookAgentState.latest_ofHooks hagent
    refine ⟨?_, ?_⟩
    · intro hook hmem hid
      exact hlatest.bound hook (List.mem_filter.2 ⟨hmem, decide_eq_true hid⟩)
    · obtain ⟨hook, hmem, htime⟩ := hlatest.attained
      obtain ⟨hmem, hid⟩ := List.mem_filter.1 hmem
      exact ⟨hook, hmem, of_decide_eq_true hid, htime⟩
  · intro config' ops' hdrop
    rw [hookAgents_ran, hookAgents_ran, hdrop, HookAgentState.report_ofHooks_dropStale]

def lateHooks : List RuntimeHookEnvelope :=
  [{ sessionHook "a" 1 with occurredAt := ⟨10, 0⟩ },
    { sessionHook "a" 2 with occurredAt := ⟨5, 0⟩, pid := some 41 },
    { sessionHook "a" 3 with occurredAt := ⟨12, 0⟩, kind := .sessionFinished }]

theorem stale_hooks_inert_late :
    ((ran smallConfig ((lateHooks.eraseIdx 1).map .ingestHook)).state.hookAgents.get "a").map
        HookAgentState.report =
      ((ran smallConfig (lateHooks.map .ingestHook)).state.hookAgents.get "a").map
        HookAgentState.report :=
  (stale_hooks_inert smallConfig (lateHooks.map .ingestHook) "a").2 _ _ rfl

end RuntimeMonitor

end ControlPlane.Runtime
