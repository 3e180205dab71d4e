import ControlPlane.Protocol.Text
import ControlPlane.Store.Tasks
import ControlPlane.Transport.Handlers

/-! What a datagram can do: report on tasks and on the agent, never define, declare, complete or
register anything. -/

namespace ControlPlane

open LruCache (peek)
open Serde (Value Codec)

structure AgentState.Spared (before after : AgentState) : Prop where
  displayName : after.displayName = before.displayName
  capabilities : after.capabilities = before.capabilities
  metadata : after.metadata = before.metadata
  currentGoalId : after.currentGoalId = before.currentGoalId
  registeredAt : after.registeredAt = before.registeredAt
  completedTasks : after.completedTasks ≤ before.completedTasks
  failedTasks : after.failedTasks ≤ before.failedTasks

namespace AgentState.Spared

theorem refl (agent : AgentState) : agent.Spared agent := ⟨rfl, rfl, rfl, rfl, rfl, le_rfl, le_rfl⟩

theorem trans {a b c : AgentState} (h : a.Spared b) (h' : b.Spared c) : a.Spared c where
  displayName := h'.displayName.trans h.displayName
  capabilities := h'.capabilities.trans h.capabilities
  metadata := h'.metadata.trans h.metadata
  currentGoalId := h'.currentGoalId.trans h.currentGoalId
  registeredAt := h'.registeredAt.trans h.registeredAt
  completedTasks := h'.completedTasks.trans h.completedTasks
  failedTasks := h'.failedTasks.trans h.failedTasks

theorem touchAgent (envelope : EventEnvelope) (agent : AgentState) :
    agent.Spared (touchAgent envelope agent) :=
  ⟨rfl, rfl, rfl, rfl, rfl, le_rfl, le_rfl⟩

theorem removeCompletionCounter (agent : AgentState) (outcome : Option TaskOutcome) :
    agent.Spared (removeCompletionCounter agent outcome) := by
  unfold ControlPlane.removeCompletionCounter
  split
  · exact ⟨rfl, rfl, rfl, rfl, rfl, Nat.sub_le _ _, le_rfl⟩
  · exact ⟨rfl, rfl, rfl, rfl, rfl, le_rfl, Nat.sub_le _ _⟩
  · exact .refl agent

end AgentState.Spared

/-- What telemetry leaves of a task. -/
structure TaskState.Spared (before after : TaskState) : Prop where
  task : after.task = before.task
  definitionUpdatedAt : after.definitionUpdatedAt = before.definitionUpdatedAt
  createdAt : after.createdAt = before.createdAt
  inferred : after.inferredFromOutOfOrderEvent = before.inferredFromOutOfOrderEvent
  attempt : after.attempt = before.attempt
  planSummary : after.planSummary = before.planSummary
  startedAt : after.startedAt = before.startedAt
  outcome : after.outcome = before.outcome ∨ after.outcome = none

theorem TaskState.Spared.refl (task : TaskState) : task.Spared task :=
  ⟨rfl, rfl, rfl, rfl, rfl, rfl, rfl, .inl rfl⟩

theorem EventEnvelope.taskAfter_spared {envelope : EventEnvelope}
    (h : envelope.event.allowedOverUdp = true) (taskId : String) (before : Option TaskState) :
    (before.getD (inferredTask taskId envelope.agent.agentId envelope.occurredAt)).Spared
      (envelope.taskAfter taskId before) := by
  unfold taskAfter
  cases hevent : envelope.event with
  | progressUpdated progress =>
    dsimp only
    split
    · exact ⟨rfl, rfl, rfl, rfl, rfl, rfl, rfl, .inr rfl⟩
    · exact .refl _
  | reflectionRecorded | errorObserved | heartbeat | agentStatusChanged =>
    dsimp only
    split
    · exact ⟨rfl, rfl, rfl, rfl, rfl, rfl, rfl, .inl rfl⟩
    · exact .refl _
  | agentRegistered | goalDeclared | taskCreated | taskStarted | lessonLearned | taskCompleted =>
    rw [hevent] at h
    cases h

section Store

variable {C : Type → Type → Type} [LruCache C]

structure Spared (before after : StoreInner C) : Prop where
  goals : after.goals = before.goals
  lessons : after.lessons = before.lessons
  agents : ∀ agentId agent', peek after.agents agentId = some agent' →
    ∃ agent, peek before.agents agentId = some agent ∧ agent.Spared agent'

namespace Spared

theorem refl (inner : StoreInner C) : Spared inner inner :=
  ⟨rfl, rfl, fun _ agent h => ⟨agent, h, .refl agent⟩⟩

theorem trans {a b c : StoreInner C} (h : Spared a b) (h' : Spared b c) : Spared a c where
  goals := h'.goals.trans h.goals
  lessons := h'.lessons.trans h.lessons
  agents := by
    intro agentId agent'' hpeek
    obtain ⟨agent', hpeek', hspared'⟩ := h'.agents agentId agent'' hpeek
    obtain ⟨agent, hbefore, hspared⟩ := h.agents agentId agent' hpeek'
    exact ⟨agent, hbefore, hspared.trans hspared'⟩

theorem project (inner : StoreInner C) (tasks : C ScopedId TaskState)
    (evictions : EvictionCounters) : Spared inner { inner with tasks, evictions } :=
  ⟨rfl, rfl, fun _ agent h => ⟨agent, h, .refl agent⟩⟩

variable [LawfulLruCache C]

theorem modifyAgent (inner : StoreInner C) (agentId : String) {f : AgentState → AgentState}
    (hf : ∀ agent : AgentState, agent.Spared (f agent)) :
    Spared inner (inner.modifyAgent agentId f) where
  goals := rfl
  lessons := rfl
  agents := by
    intro id agent' hpeek
    rw [StoreInner.modifyAgent, LruCache.peek_modify] at hpeek
    by_cases hid : id = agentId
    · rw [if_pos hid] at hpeek
      obtain ⟨agent, hbefore, rfl⟩ := Option.map_eq_some_iff.mp hpeek
      exact ⟨agent, hbefore, hf agent⟩
    · rw [if_neg hid] at hpeek
      exact ⟨agent', hpeek, .refl agent'⟩

theorem frame : TaskFrame AgentState.Spared (Spared : StoreInner C → StoreInner C → Prop) where
  refl := refl
  trans := trans
  modifyAgent inner agentId _ hf := modifyAgent inner agentId hf
  project := project
  removal := AgentState.Spared.removeCompletionCounter

theorem applyEvent (inner : StoreInner C) {envelope : EventEnvelope}
    (h : envelope.event.allowedOverUdp = true) :
    Spared ((ensureAgent inner envelope).modifyAgent envelope.agent.agentId (touchAgent envelope))
      (applyEvent inner envelope) := by
  unfold ControlPlane.applyEvent
  dsimp only
  cases hevent : envelope.event with
  | heartbeat heartbeat =>
    exact modifyAgent _ _ fun agent => ⟨rfl, rfl, rfl, rfl, rfl, le_rfl, le_rfl⟩
  | agentStatusChanged change =>
    exact modifyAgent _ _ fun agent => ⟨rfl, rfl, rfl, rfl, rfl, le_rfl, le_rfl⟩
  | progressUpdated progress =>
    refine frame.execute _ _ _ _ _ _ fun previous agent => ?_
    have hremoved := AgentState.Spared.removeCompletionCounter agent previous.outcome
    exact hremoved.trans ⟨rfl, rfl, rfl, rfl, rfl, le_rfl, le_rfl⟩
  | reflectionRecorded reflection =>
    exact frame.applyReflectionRecorded _ _ _ fun agent => ⟨rfl, rfl, rfl, rfl, rfl, le_rfl, le_rfl⟩
  | errorObserved error =>
    exact frame.applyErrorObserved _ _ _ fun agent => ⟨rfl, rfl, rfl, rfl, rfl, le_rfl, le_rfl⟩
  | agentRegistered | goalDeclared | taskCreated | taskStarted | lessonLearned | taskCompleted =>
    rw [hevent] at h
    cases h

end Spared

variable [LawfulLruCache C]

theorem ensureAgent_spared (inner : StoreInner C) (envelope : EventEnvelope) :
    (ensureAgent inner envelope).goals = inner.goals ∧
      (ensureAgent inner envelope).lessons = inner.lessons ∧
      ∀ agentId agent agent', peek inner.agents agentId = some agent →
        peek (ensureAgent inner envelope).agents agentId = some agent' → agent' = agent := by
  unfold ensureAgent
  dsimp only
  split
  · refine ⟨rfl, rfl, fun agentId agent agent' hbefore hafter => ?_⟩
    exact Option.some.inj (hafter.symm.trans hbefore)
  · next habsent =>
    refine ⟨rfl, rfl, fun agentId agent agent' hbefore hafter => ?_⟩
    have hne : agentId ≠ envelope.agent.agentId := by
      rintro rfl
      rw [hbefore] at habsent
      exact habsent rfl
    have hkept := LruCache.peek_of_peek_push hne hafter
    exact Option.some.inj (hkept.symm.trans hbefore)

structure Untouched (before after : StoreInner C) : Prop where
  goals : after.goals = before.goals
  lessons : after.lessons = before.lessons
  agents : ∀ agentId agent agent', peek before.agents agentId = some agent →
    peek after.agents agentId = some agent' → agent.Spared agent'

omit [LawfulLruCache C] in
theorem Untouched.of_eq {before after : StoreInner C} (goals : after.goals = before.goals)
    (lessons : after.lessons = before.lessons) (agents : after.agents = before.agents) :
    Untouched before after where
  goals := goals
  lessons := lessons
  agents := by
    intro agentId agent agent' hbefore hafter
    rw [agents] at hafter
    obtain rfl := Option.some.inj (hbefore.symm.trans hafter)
    exact .refl agent

theorem untouched_applyEvent (inner : StoreInner C) {envelope : EventEnvelope}
    (h : envelope.event.allowedOverUdp = true) : Untouched inner (applyEvent inner envelope) := by
  obtain ⟨hgoals, hlessons, hagents⟩ := ensureAgent_spared inner envelope
  have hspared := (Spared.modifyAgent _ envelope.agent.agentId
    (AgentState.Spared.touchAgent envelope)).trans (Spared.applyEvent inner h)
  refine ⟨hspared.goals.trans hgoals, hspared.lessons.trans hlessons, ?_⟩
  intro agentId agent agent' hbefore hafter
  obtain ⟨ensured, hensured, hagent⟩ := hspared.agents agentId agent' hafter
  obtain rfl := hagents agentId agent ensured hbefore hensured
  exact hagent

theorem untouched_step (inner : StoreInner C) {event : EventEnvelope}
    (h : event.event.allowedOverUdp = true) (transport : Transport) (receivedAt : DateTime) :
    Untouched inner (inner.step (.ingest event transport receivedAt)) := by
  rw [StoreInner.step]
  unfold ingest
  split
  · exact .of_eq rfl rfl rfl
  · dsimp only
    split
    · exact .of_eq rfl rfl rfl
    · have happlied := untouched_applyEvent
        { inner with seenEventIds := (LruCache.get inner.seenEventIds event.eventId).2 } h
      exact ⟨happlied.goals, happlied.lessons, happlied.agents⟩

end Store

namespace Endpoint

variable {C : Type → Type → Type} [LruCache C] [LawfulLruCache C]

theorem peek_tasks_handleDatagram {endpoint : Endpoint} {inner : StoreInner C}
    {datagram : List UInt8} {receivedAt : DateTime} {key : ScopedId} {task' : TaskState}
    (h : peek (endpoint.handleDatagram inner datagram receivedAt).1.tasks key = some task') :
    peek inner.tasks key = some task' ∨ ∃ taskId agentId occurredAt,
      ((peek inner.tasks key).getD (inferredTask taskId agentId occurredAt)).Spared task' := by
  rcases endpoint.handleDatagram_step inner receivedAt datagram with hrefused |
    ⟨event, allowed, hstep⟩
  · rw [hrefused] at h
    exact .inl h
  · rw [hstep] at h
    rcases peek_step_cases h with hbefore | ⟨event', _, _, taskId, heq, -, -, -, rfl⟩
    · exact .inl hbefore
    · cases heq
      exact .inr ⟨taskId, _, _, event.taskAfter_spared allowed taskId _⟩

/-- A datagram defines, declares, completes and registers nothing. -/
theorem udp_has_no_authority (endpoint : Endpoint) (inner : StoreInner C) (datagram : List UInt8)
    (receivedAt : DateTime) :
    (endpoint.handleDatagram inner datagram receivedAt).1.goals = inner.goals ∧
    (endpoint.handleDatagram inner datagram receivedAt).1.lessons = inner.lessons ∧
    (∀ key task task', peek inner.tasks key = some task →
      peek (endpoint.handleDatagram inner datagram receivedAt).1.tasks key = some task' →
      task'.task = task.task ∧ task'.definitionUpdatedAt = task.definitionUpdatedAt ∧
        task'.createdAt = task.createdAt ∧
        task'.inferredFromOutOfOrderEvent = task.inferredFromOutOfOrderEvent ∧
        task'.attempt = task.attempt ∧ task'.planSummary = task.planSummary ∧
        task'.startedAt = task.startedAt ∧ (task'.outcome = task.outcome ∨ task'.outcome = none)) ∧
    (∀ key task', peek inner.tasks key = none →
      peek (endpoint.handleDatagram inner datagram receivedAt).1.tasks key = some task' →
      task'.inferredFromOutOfOrderEvent = true ∧ task'.outcome = none) ∧
    ∀ agentId agent agent', peek inner.agents agentId = some agent →
      peek (endpoint.handleDatagram inner datagram receivedAt).1.agents agentId = some agent' →
      agent'.displayName = agent.displayName ∧ agent'.capabilities = agent.capabilities ∧
        agent'.metadata = agent.metadata ∧ agent'.currentGoalId = agent.currentGoalId ∧
        agent'.registeredAt = agent.registeredAt ∧
        agent'.completedTasks ≤ agent.completedTasks ∧ agent'.failedTasks ≤ agent.failedTasks := by
  have huntouched : Untouched inner (endpoint.handleDatagram inner datagram receivedAt).1 := by
    rcases endpoint.handleDatagram_step inner receivedAt datagram with hrefused |
      ⟨event, allowed, hstep⟩
    · rw [hrefused]
      exact .of_eq rfl rfl rfl
    · rw [hstep]
      exact untouched_step inner allowed _ _
  refine ⟨huntouched.goals, huntouched.lessons, ?_, ?_, ?_⟩
  · intro key task task' hbefore hafter
    have hspared : task.Spared task' := by
      rcases peek_tasks_handleDatagram hafter with hsame | ⟨taskId, agentId, occurredAt, h⟩
      · obtain rfl := Option.some.inj (hbefore.symm.trans hsame)
        exact .refl task
      · rwa [hbefore, Option.getD_some] at h
    exact ⟨hspared.task, hspared.definitionUpdatedAt, hspared.createdAt, hspared.inferred,
      hspared.attempt, hspared.planSummary, hspared.startedAt, hspared.outcome⟩
  · intro key task' habsent hafter
    rcases peek_tasks_handleDatagram hafter with hsame | ⟨taskId, agentId, occurredAt, h⟩
    · rw [habsent] at hsame
      cases hsame
    · rw [habsent, Option.getD_none] at h
      exact ⟨h.inferred, h.outcome.elim id id⟩
  · intro agentId agent agent' hbefore hafter
    have hspared := huntouched.agents agentId agent agent' hbefore hafter
    exact ⟨hspared.displayName, hspared.capabilities, hspared.metadata, hspared.currentGoalId,
      hspared.registeredAt, hspared.completedTasks, hspared.failedTasks⟩

end Endpoint

namespace Sample

def telemetry : Endpoint := { closed with
  maxPayloadBytes := 61440
  parser := wireParser Numeral }

def progress : Value Numeral := .object [
  ("protocol_version", .string "v1"),
  ("event_id", .string "00000000-0000-0000-0000-000000000001"),
  ("occurred_at", .string "1970-01-01T00:00:01Z"),
  ("agent", .object [("agent_id", .string "worker"), ("provider", .string "codex"),
    ("model", .string "gpt")]),
  ("kind", .string "progress_updated"),
  ("data", .object [("task_id", .string "a"), ("progress", .number (.unsigned 1)),
    ("summary", .string "summary")])]

theorem isSome_decode_progress : (TransportPayload.codec.decode progress).isSome = true := by
  decide +kernel

theorem nests_progress : progress.Nests 127 := by
  refine .object ?_
  simp only [List.forall_mem_cons, List.not_mem_nil, false_imp_iff, implies_true, and_true]
  refine ⟨.string _ _, .string _ _, .string _ _, .object ?_, .string _ _, .object ?_⟩
  · simp only [List.forall_mem_cons, List.not_mem_nil, false_imp_iff, implies_true, and_true]
    exact ⟨.string _ _, .string _ _, .string _ _⟩
  · simp only [List.forall_mem_cons, List.not_mem_nil, false_imp_iff, implies_true, and_true]
    exact ⟨.string _ _, .number _ _, .string _ _⟩

theorem handleDatagram_progress (inner : StoreInner RecencyCache) (receivedAt : DateTime) :
    telemetry.handleDatagram inner (toVec progress) receivedAt =
      let payload := Option.get _ isSome_decode_progress
      let reply := Endpoint.ingestReply inner payload.intoParts.2 .udp receivedAt
      (reply.1, some reply.2) := by
  have hparser : telemetry.parser.fromSlice = fromSlice (TransportPayload.codec : Codec Numeral _) :=
    rfl
  have hroom : (toVec progress).length ≤ telemetry.maxPayloadBytes := by
    have hshort : 4 * progress.print.length ≤ telemetry.maxPayloadBytes := by decide +kernel
    have hbytes := length_asBytes_le (String.ofList progress.print)
    rw [String.toList_ofList] at hbytes
    exact hbytes.trans hshort
  refine telemetry.handleDatagram_of_read inner receivedAt hroom ?_ rfl (by decide +kernel)
  rw [hparser, fromSlice_toVec nests_progress (Option.some_get isSome_decode_progress).symm]

/-- Progress over UDP creates an inferred task that has no outcome. -/
theorem udp_has_no_authority_progress : ∃ task,
    peek (telemetry.handleDatagram (.new cache (instant 0) : StoreInner RecencyCache)
      (toVec progress) (instant 1)).1.tasks ⟨"worker", "a"⟩ = some task ∧
    task.inferredFromOutOfOrderEvent = true ∧ task.outcome = none := by
  have hcreated : (peek (telemetry.handleDatagram (.new cache (instant 0) : StoreInner RecencyCache)
      (toVec progress) (instant 1)).1.tasks ⟨"worker", "a"⟩).isSome = true := by
    rw [handleDatagram_progress]
    decide +kernel
  obtain ⟨task, htask⟩ := Option.isSome_iff_exists.1 hcreated
  exact ⟨task, htask, (telemetry.udp_has_no_authority (.new cache (instant 0) :
    StoreInner RecencyCache) (toVec progress) (instant 1)).2.2.2.1 ⟨"worker", "a"⟩ task rfl htask⟩

end Sample

end ControlPlane
