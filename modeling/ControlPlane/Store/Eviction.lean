import ControlPlane.Store.Commute
import ControlPlane.Store.History

/-! Which agent is evicted.  Each accepted event makes its agent the most recent one; the
owner of a task that is evicted to make room becomes recent too, without an event of its own. -/

namespace ControlPlane

open LruCache (peek iter push modify cap Window)
open Recency (keys IsLeastRecent)

section Eviction

variable {C : Type → Type → Type} [LruCache C] [CounterArith]

/-- The operation evicts a task of another agent, one that is still retained. -/
def StoreInner.RefreshesIdle (inner : StoreInner C) (op : StoreOp) : Prop :=
  ∃ event key task, inner.acceptedEvent op = some event ∧ peek inner.tasks key = some task ∧
    peek (inner.step op).tasks key = none ∧ task.agentId ≠ event.agent.agentId ∧
    (peek (inner.step op).agents task.agentId).isSome

def activity (inner : StoreInner C) (ops : List StoreOp) : List String :=
  Run.emitted (fun inner op => ((inner.acceptedEvent op).map fun event =>
    event.agent.agentId).toList) StoreInner.step inner ops

/-- Whatever agent an operation evicts, every other agent retained before has had an accepted
event since the last one of the evicted agent. -/
def EvictsIdlest (history : List String) (inner : StoreInner C) (op : StoreOp) : Prop :=
  ∀ evicted, (peek inner.agents evicted).isSome → peek (inner.step op).agents evicted = none →
    IsLeastRecent history (keys (iter inner.agents)) evicted

variable [LawfulLruCache C] {inner : StoreInner C} {history : List String} {agentId : String}

def OwnLosses (agentId : String) (before after : StoreInner C) : Prop :=
  ∀ key task, peek before.tasks key = some task → peek after.tasks key = none →
    task.agentId = agentId ∨ peek before.agents task.agentId = none

theorem agents_insertTask (w : Window inner.agents (history ++ [agentId])) {key : ScopedId}
    {state : TaskState} (hkey : peek inner.tasks key = none)
    (hlosses : OwnLosses agentId inner (insertTask inner key state)) :
    Window (insertTask inner key state).agents (history ++ [agentId]) ∧
      cap (insertTask inner key state).agents = cap inner.agents := by
  rw [OwnLosses, insertTask_tasks] at hlosses
  unfold insertTask
  rw [pushWithEviction_of_none hkey]
  cases hd : (push inner.tasks key state).2 with
  | none => exact ⟨w, rfl⟩
  | some evicted =>
    obtain ⟨-, hbefore, hafter⟩ := LruCache.push_displaced hkey hd
    refine ⟨?_, LruCache.cap_modify _ _ _⟩
    dsimp only [Option.map_some]
    rcases hlosses evicted.1 evicted.2 hbefore hafter with hown | habsent
    · rw [hown]
      exact w.modify_last _
    · rw [LruCache.modify_of_none habsent]
      exact w

theorem agents_ensureTask (w : Window inner.agents (history ++ [agentId])) {taskId owner : String}
    {occurredAt : DateTime}
    (hlosses : OwnLosses agentId inner (ensureTask inner taskId owner occurredAt)) :
    Window (ensureTask inner taskId owner occurredAt).agents (history ++ [agentId]) ∧
      cap (ensureTask inner taskId owner occurredAt).agents = cap inner.agents := by
  unfold ensureTask at hlosses ⊢
  dsimp only at hlosses ⊢
  split at hlosses
  · next h =>
    rw [if_pos h]
    exact ⟨w, rfl⟩
  · next h =>
    rw [if_neg h]
    exact agents_insertTask w (by simpa using h) hlosses

omit [LawfulLruCache C] [CounterArith] in
theorem writeTask_agents (inner : StoreInner C) (key : ScopedId) (occurredAt : DateTime)
    (update : TaskState → TaskState) :
    (writeTask inner key occurredAt update).1.agents = inner.agents := by
  unfold writeTask
  split
  · split <;> rfl
  · rfl

theorem ownLosses_ensureTask {taskId : String} {occurredAt : DateTime}
    {update : TaskState → TaskState}
    (hlosses : OwnLosses agentId inner (writeTask (ensureTask inner taskId agentId occurredAt)
      ⟨agentId, taskId⟩ occurredAt update).1) :
    OwnLosses agentId inner (ensureTask inner taskId agentId occurredAt) := by
  intro key task hbefore hafter
  have hself := peek_ensureTask_self inner taskId agentId occurredAt
  refine hlosses key task hbefore ?_
  rw [peek_writeTask _ _ _ _ hself, if_neg]
  · exact hafter
  · rintro rfl
    rw [hself] at hafter
    cases hafter

theorem agents_writeTask (w : Window inner.agents (history ++ [agentId])) {taskId : String}
    {occurredAt : DateTime} {update : TaskState → TaskState}
    (hlosses : OwnLosses agentId inner (writeTask (ensureTask inner taskId agentId occurredAt)
      ⟨agentId, taskId⟩ occurredAt update).1) :
    Window (writeTask (ensureTask inner taskId agentId occurredAt) ⟨agentId, taskId⟩ occurredAt
        update).1.agents (history ++ [agentId]) ∧
      cap (writeTask (ensureTask inner taskId agentId occurredAt) ⟨agentId, taskId⟩ occurredAt
        update).1.agents = cap inner.agents := by
  rw [writeTask_agents]
  exact agents_ensureTask w (ownLosses_ensureTask hlosses)

theorem agents_execute (w : Window inner.agents (history ++ [agentId])) {taskId : String}
    {occurredAt : DateTime} {update : TaskState → TaskState}
    {f : TaskState → AgentState → AgentState} :
    let written := writeTask (ensureTask inner taskId agentId occurredAt) ⟨agentId, taskId⟩
      occurredAt update
    let after := match written.2 with
      | some previous => written.1.modifyAgent agentId (f previous)
      | none => written.1
    OwnLosses agentId inner after →
    Window after.agents (history ++ [agentId]) ∧ cap after.agents = cap inner.agents := by
  intro written after hlosses
  have htasks : after.tasks = written.1.tasks := by
    dsimp only [after]
    split <;> rfl
  have hwritten : Window written.1.agents (history ++ [agentId]) ∧
      cap written.1.agents = cap inner.agents :=
    agents_writeTask w fun key task hbefore hafter =>
      hlosses key task hbefore ((congrArg (peek · key) htasks).trans hafter)
  dsimp only [after]
  split
  · exact ⟨hwritten.1.modify_last _, (LruCache.cap_modify _ _ _).trans hwritten.2⟩
  · exact hwritten

theorem agents_annotate (w : Window inner.agents (history ++ [agentId])) {taskId : Option String}
    {occurredAt : DateTime} {update : TaskState → TaskState} {f : AgentState → AgentState} :
    let written := match taskId with
      | some taskId => (writeTask (ensureTask inner taskId agentId occurredAt) ⟨agentId, taskId⟩
        occurredAt update).1
      | none => inner
    OwnLosses agentId inner (written.modifyAgent agentId f) →
    Window (written.modifyAgent agentId f).agents (history ++ [agentId]) ∧
      cap (written.modifyAgent agentId f).agents = cap inner.agents := by
  intro written hlosses
  dsimp only [written] at hlosses ⊢
  cases taskId with
  | none => exact ⟨w.modify_last _, LruCache.cap_modify _ _ _⟩
  | some taskId =>
    obtain ⟨hwritten, hcap⟩ := agents_writeTask w hlosses
    exact ⟨hwritten.modify_last _, (LruCache.cap_modify _ _ _).trans hcap⟩

theorem agents_applyTaskCreated {envelope : EventEnvelope} {spec : TaskSpec}
    (w : Window inner.agents (history ++ [envelope.agent.agentId]))
    (hlosses : OwnLosses envelope.agent.agentId inner (applyTaskCreated inner envelope spec)) :
    Window (applyTaskCreated inner envelope spec).agents (history ++ [envelope.agent.agentId]) ∧
      cap (applyTaskCreated inner envelope spec).agents = cap inner.agents := by
  unfold applyTaskCreated at hlosses ⊢
  dsimp only at hlosses ⊢
  split at hlosses
  · exact ⟨w, rfl⟩
  · next hget => exact agents_insertTask w (LruCache.peek_of_getMut_none hget) hlosses

omit [CounterArith] in
theorem agents_touched (w : Window inner.agents history) (envelope : EventEnvelope) :
    let touched := (ensureAgent inner envelope).modifyAgent envelope.agent.agentId
      (touchAgent envelope)
    Window touched.agents (history ++ [envelope.agent.agentId]) ∧
      cap touched.agents = cap inner.agents := by
  intro touched
  refine ⟨?_, ?_⟩
  · dsimp only [touched]
    unfold ensureAgent
    dsimp only
    split
    · next h => exact w.modify_of_some h _
    · exact (w.push _ _).modify_last _
  · refine (LruCache.cap_modify _ _ _).trans ?_
    unfold ensureAgent
    dsimp only
    split
    · rfl
    · exact LawfulLruCache.cap_push _ _ _

theorem agents_applyEvent (w : Window inner.agents history) {envelope : EventEnvelope}
    (hlosses : OwnLosses envelope.agent.agentId
      ((ensureAgent inner envelope).modifyAgent envelope.agent.agentId (touchAgent envelope))
      (applyEvent inner envelope)) :
    Window (applyEvent inner envelope).agents (history ++ [envelope.agent.agentId]) ∧
      cap (applyEvent inner envelope).agents = cap inner.agents := by
  obtain ⟨hw, hcap⟩ := agents_touched w envelope
  rw [← hcap]
  unfold applyEvent at hlosses ⊢
  dsimp only at hlosses ⊢
  generalize (ensureAgent inner envelope).modifyAgent envelope.agent.agentId
    (touchAgent envelope) = touched at hw hlosses ⊢
  have rewritten : ∀ f, Window (touched.modifyAgent envelope.agent.agentId f).agents
      (history ++ [envelope.agent.agentId]) ∧
      cap (touched.modifyAgent envelope.agent.agentId f).agents = cap touched.agents :=
    fun f => ⟨hw.modify_last f, LruCache.cap_modify _ _ _⟩
  cases he : envelope.event with
  | agentRegistered registration => exact rewritten _
  | heartbeat heartbeat => exact rewritten _
  | goalDeclared goal => exact rewritten _
  | agentStatusChanged change => exact rewritten _
  | lessonLearned lesson => exact ⟨hw, rfl⟩
  | taskCreated spec =>
    simp only [he] at hlosses
    exact agents_applyTaskCreated hw hlosses
  | taskStarted started =>
    simp only [he] at hlosses
    exact agents_execute hw hlosses
  | progressUpdated progress =>
    simp only [he] at hlosses
    exact agents_execute hw hlosses
  | taskCompleted completed =>
    simp only [he] at hlosses
    exact agents_execute hw hlosses
  | reflectionRecorded reflection =>
    simp only [he] at hlosses
    exact agents_annotate hw hlosses
  | errorObserved error =>
    simp only [he] at hlosses
    exact agents_annotate hw hlosses

/-- The agents are held in the order of their last accepted events. -/
structure Ordered (cache : CacheConfig) (history : List String) (inner : StoreInner C) : Prop where
  window : Window inner.agents history
  capacity : cap inner.agents = cache.agents.value

theorem Ordered.step {cache : CacheConfig} (h : Ordered cache history inner) {op : StoreOp}
    (hop : ¬inner.RefreshesIdle op) :
    Ordered cache (history ++ ((inner.acceptedEvent op).map fun event =>
      event.agent.agentId).toList) (inner.step op) := by
  cases ha : inner.acceptedEvent op with
  | none =>
    have same := step_of_unaccepted ha
    rw [Option.map_none, Option.toList_none, List.append_nil]
    exact ⟨same.agents ▸ h.window, same.agents ▸ h.capacity⟩
  | some event =>
    obtain ⟨seen, same⟩ := step_of_accepted ha
    have hbefore : Window (StoreInner.agents { inner with seenEventIds := seen }) history :=
      h.window
    obtain ⟨hwindow, hcap⟩ := agents_applyEvent hbefore fun key task hbefore hafter => by
      by_contra hother
      obtain ⟨howner, hpresent⟩ := not_or.1 hother
      rw [modifyAgent_tasks, ensureAgent_tasks] at hbefore
      refine hop ⟨event, key, task, ha, hbefore, ?_, howner, ?_⟩
      · rw [same.tasks]
        exact hafter
      · rw [same.agents]
        exact framePresent.applyEvent _ event task.agentId (Option.isSome_iff_ne_none.2 hpresent)
    rw [Option.map_some, Option.toList_some]
    exact ⟨same.agents ▸ hwindow, same.agents ▸ hcap.trans h.capacity⟩

theorem StoreInner.not_refreshesIdle {op : StoreOp}
    (h : ∀ e ∈ iter inner.tasks, (peek (inner.step op).tasks e.1).isSome ∨
      (peek (inner.step op).agents e.2.agentId).isNone) : ¬inner.RefreshesIdle op := by
  rintro ⟨event, key, task, -, hbefore, hafter, -, hpresent⟩
  rcases h _ (LruCache.peek_eq_some_iff.1 hbefore) with hkept | hgone
  · rw [hafter] at hkept
    cases hkept
  · rw [Option.isNone_iff_eq_none] at hgone
    rw [hgone] at hpresent
    cases hpresent

omit [CounterArith] in
theorem Ordered.start (cache : CacheConfig) (startedAt : DateTime) :
    Ordered cache [] (StoreInner.new cache startedAt : StoreInner C) :=
  ⟨Window.start _, LawfulLruCache.cap_new _⟩

theorem Ordered.run (cache : CacheConfig) (startedAt : DateTime) {ops : List StoreOp}
    (hops : Run.Along (fun inner op => ¬StoreInner.RefreshesIdle inner op) StoreInner.step
      (StoreInner.new cache startedAt : StoreInner C) ops) :
    Ordered cache (activity (StoreInner.new cache startedAt : StoreInner C) ops)
      (run cache startedAt ops : StoreInner C) :=
  Run.invariant_emitted_along (P := Ordered cache) (fun _ _ _ h hop => h.step hop)
    (Ordered.start cache startedAt) hops

/-- In a run that never evicts a task of another retained agent, an agent that is evicted is the
one whose own last accepted event arrived first. -/
theorem idlest_agent_evicted (cache : CacheConfig) (startedAt : DateTime) (ops : List StoreOp)
    (hops : Run.Along (fun inner op => ¬StoreInner.RefreshesIdle inner op) StoreInner.step
      (StoreInner.new cache startedAt : StoreInner C) ops) :
    ∀ done op rest, ops = done ++ op :: rest →
      EvictsIdlest (activity (StoreInner.new cache startedAt : StoreInner C) done)
        (run cache startedAt done : StoreInner C) op := by
  intro done op rest heq evicted hbefore hafter
  rw [heq, Run.Along.append] at hops
  have hordered := Ordered.run cache startedAt hops.1
  have hnext := hordered.step hops.2.1
  cases ha : (run cache startedAt done : StoreInner C).acceptedEvent op with
  | none =>
    rw [(step_of_unaccepted ha).agents] at hafter
    rw [hafter] at hbefore
    cases hbefore
  | some event =>
    rw [ha, Option.map_some, Option.toList_some] at hnext
    exact hordered.window.isLeastRecent_of_displaced hnext.window
      (hnext.capacity.trans hordered.capacity.symm) hbefore hafter

end Eviction

namespace Sample

def sentBy (agentId : String) (event : EventEnvelope) : EventEnvelope :=
  { event with agent := { event.agent with agentId := agentId } }

def crowded : List StoreOp :=
  [.ingest (sentBy "idle" (envelope 1 1 (created "a"))) .http (instant 1),
    .ingest (sentBy "busy" (envelope 2 2 (created "b"))) .http (instant 2),
    .ingest (sentBy "busy" (envelope 3 3 (created "c"))) .http (instant 3)]

def newcomer : StoreOp := .ingest (sentBy "new" (envelope 4 4 (created "d"))) .http (instant 4)

end Sample

open Sample in
/-- The newcomer takes the place of the idle agent, and then of its task. -/
theorem idlest_agent_evicted_apart :
    EvictsIdlest ["idle", "busy"] (run cache (instant 0) (crowded.take 2) :
      StoreInner RecencyCache) newcomer ∧
    peek ((run cache (instant 0) (crowded.take 2) : StoreInner RecencyCache).step newcomer).agents
      "idle" = none :=
  ⟨idlest_agent_evicted cache (instant 0) (crowded.take 2 ++ [newcomer])
    ⟨StoreInner.not_refreshesIdle (by decide), StoreInner.not_refreshesIdle (by decide),
      StoreInner.not_refreshesIdle (by decide), trivial⟩
    (crowded.take 2) newcomer [] rfl, rfl⟩

open Sample in
/-- The busy agent goes, although its last event arrived after the only one of the idle agent. -/
theorem busy_agent_evicted :
    activity (run cache (instant 0) [] : StoreInner RecencyCache) crowded =
        ["idle", "busy", "busy"] ∧
      (peek (run cache (instant 0) crowded : StoreInner RecencyCache).agents "busy").isSome ∧
      (peek (run cache (instant 0) crowded : StoreInner RecencyCache).agents "idle").isSome ∧
      peek ((run cache (instant 0) crowded : StoreInner RecencyCache).step newcomer).agents
        "busy" = none ∧
      ¬EvictsIdlest (activity (run cache (instant 0) [] : StoreInner RecencyCache) crowded)
        (run cache (instant 0) crowded : StoreInner RecencyCache) newcomer := by
  have hactivity : activity (run cache (instant 0) [] : StoreInner RecencyCache) crowded =
      ["idle", "busy", "busy"] := by
    decide
  refine ⟨hactivity, rfl, rfl, rfl, fun h => ?_⟩
  obtain ⟨earlier, later, heq, -, hall⟩ := h "busy" rfl rfl
  have hidle : "idle" ∈ later := hall "idle" (by decide) (by decide)
  rw [hactivity] at heq
  cases earlier with
  | nil => exact absurd (List.cons.inj heq).1 (by decide)
  | cons first earlier =>
    have hmem : "idle" ∈ ["busy", "busy"] := by
      rw [(List.cons.inj heq).2]
      exact List.mem_append_right _ (List.mem_cons_of_mem _ hidle)
    revert hmem
    decide

end ControlPlane
