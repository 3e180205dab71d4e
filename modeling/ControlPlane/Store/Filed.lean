import ControlPlane.Metacognition.CacheOrder
import ControlPlane.Store.EventTime
import ControlPlane.Store.Recent

/-! The entries of the caches are filed under the ids they hold, so a snapshot lists no id
twice. -/

namespace ControlPlane

open LruCache (peek push modify)

section Filed

variable {C : Type → Type → Type} [LruCache C]

structure StoreInner.Filed (inner : StoreInner C) : Prop where
  agents : ∀ id agent, peek inner.agents id = some agent → agent.agent.agentId = id
  goals : ∀ key goal, peek inner.goals key = some goal →
    (⟨goal.agentId, goal.goal.goalId⟩ : ScopedId) = key
  tasks : ∀ key task, peek inner.tasks key = some task →
    (⟨task.agentId, task.task.taskId⟩ : ScopedId) = key
  lessons : ∀ key lesson, peek inner.lessons key = some lesson →
    (⟨lesson.agentId, lesson.lesson.lessonId⟩ : ScopedId) = key
  events : ∀ id record, peek inner.events id = some record → record.event.eventId = id

variable [LawfulLruCache C]

def KeepsReferences (before after : StoreInner C) : Prop :=
  ∀ id agent, peek after.agents id = some agent →
    ∃ earlier, peek before.agents id = some earlier ∧ agent.agent = earlier.agent

namespace KeepsReferences

omit [LawfulLruCache C] in
theorem of_agents_eq {before after : StoreInner C} (h : after.agents = before.agents) :
    KeepsReferences before after := by
  intro id agent hagent
  rw [h] at hagent
  exact ⟨agent, hagent, rfl⟩

omit [LawfulLruCache C] in
theorem trans {a b c : StoreInner C} (h : KeepsReferences a b) (h' : KeepsReferences b c) :
    KeepsReferences a c := by
  intro id agent hagent
  obtain ⟨between, hbetween, heq⟩ := h' id agent hagent
  obtain ⟨earlier, hearlier, heq'⟩ := h id between hbetween
  exact ⟨earlier, hearlier, heq.trans heq'⟩

theorem modify {before after : StoreInner C} {agentId : String} {f : AgentState → AgentState}
    (h : after.agents = modify before.agents agentId f) (hf : ∀ agent, (f agent).agent = agent.agent) :
    KeepsReferences before after := by
  intro id agent hagent
  rw [h, LruCache.peek_modify] at hagent
  split at hagent
  · obtain ⟨earlier, hearlier, rfl⟩ := Option.map_eq_some_iff.1 hagent
    exact ⟨earlier, hearlier, hf earlier⟩
  · exact ⟨agent, hagent, rfl⟩

variable [CounterArith]

omit [LruCache C] [LawfulLruCache C] in
theorem agent_removeCompletionCounter (agent : AgentState) (outcome : Option TaskOutcome) :
    (removeCompletionCounter agent outcome).agent = agent.agent := by
  unfold removeCompletionCounter
  split <;> rfl

omit [LruCache C] [LawfulLruCache C] in
theorem agent_reconcileCompletionCounters (agent : AgentState) (previous : Option TaskOutcome)
    (current : TaskOutcome) :
    (reconcileCompletionCounters agent previous current).agent = agent.agent := by
  unfold reconcileCompletionCounters
  dsimp only
  split
  · cases completionBucket current <;> exact agent_removeCompletionCounter agent previous
  · rfl

theorem frame : TaskFrame (fun before after => after.agent = before.agent)
    (KeepsReferences : StoreInner C → StoreInner C → Prop) where
  refl _ := of_agents_eq rfl
  trans := trans
  modifyAgent _ _ _ hf := modify rfl hf
  project _ _ _ := of_agents_eq rfl
  removal := agent_removeCompletionCounter

theorem arm (inner : StoreInner C) (envelope : EventEnvelope) :
    KeepsReferences ((ensureAgent inner envelope).modifyAgent envelope.agent.agentId
      (touchAgent envelope)) (applyEvent inner envelope) := by
  unfold applyEvent
  dsimp only
  cases envelope.event with
  | goalDeclared goal => exact modify rfl fun _ => rfl
  | lessonLearned lesson => exact of_agents_eq rfl
  | taskCreated spec => exact frame.applyTaskCreated _ _ _
  | taskStarted started =>
    exact frame.execute _ _ _ _ _ _ fun previous agent =>
      agent_removeCompletionCounter agent previous.outcome
  | progressUpdated progress =>
    exact frame.execute _ _ _ _ _ _ fun previous agent =>
      agent_removeCompletionCounter agent previous.outcome
  | taskCompleted completed =>
    exact frame.execute _ _ _ _ _ _ fun previous agent =>
      agent_reconcileCompletionCounters { agent with activeTaskId := none } previous.outcome _
  | reflectionRecorded reflection => exact frame.applyReflectionRecorded _ _ _ fun _ => rfl
  | errorObserved error => exact frame.applyErrorObserved _ _ _ fun _ => rfl
  | _ => exact modify rfl fun _ => rfl

end KeepsReferences

theorem agents_filed_touched {inner : StoreInner C} (envelope : EventEnvelope)
    (h : ∀ id agent, peek inner.agents id = some agent → agent.agent.agentId = id) {id : String}
    {agent : AgentState}
    (hagent : peek ((ensureAgent inner envelope).modifyAgent envelope.agent.agentId
      (touchAgent envelope)).agents id = some agent) : agent.agent.agentId = id := by
  rw [StoreInner.modifyAgent, LruCache.peek_modify] at hagent
  split at hagent
  · next hid =>
    obtain ⟨_, -, rfl⟩ := Option.map_eq_some_iff.1 hagent
    exact hid.symm
  · next hid =>
    unfold ensureAgent at hagent
    dsimp only at hagent
    split at hagent
    · exact h id agent hagent
    · exact h id agent (LruCache.peek_of_peek_push hid hagent)

variable [CounterArith]

theorem agents_filed_applyEvent {inner : StoreInner C} (envelope : EventEnvelope)
    (h : ∀ id agent, peek inner.agents id = some agent → agent.agent.agentId = id) {id : String}
    {agent : AgentState} (hagent : peek (applyEvent inner envelope).agents id = some agent) :
    agent.agent.agentId = id := by
  obtain ⟨touched, htouched, heq⟩ := KeepsReferences.arm inner envelope id agent hagent
  rw [heq]
  exact agents_filed_touched envelope h htouched

theorem goals_filed_applyEvent {inner : StoreInner C} (envelope : EventEnvelope)
    (h : ∀ key goal, peek inner.goals key = some goal →
      (⟨goal.agentId, goal.goal.goalId⟩ : ScopedId) = key) {key : ScopedId} {goal : GoalState}
    (hgoal : peek (applyEvent inner envelope).goals key = some goal) :
    (⟨goal.agentId, goal.goal.goalId⟩ : ScopedId) = key := by
  cases hdeclares : envelope.declares key with
  | none => exact h key goal (goal_of_not_declares hdeclares hgoal)
  | some _ =>
    unfold EventEnvelope.declares at hdeclares
    split at hdeclares
    · next declared he =>
      obtain ⟨rfl, -⟩ := Option.ite_none_right_eq_some.1 hdeclares
      rw [goals_of_declared inner he, LruCache.peek_push_self] at hgoal
      cases hgoal
      rfl
    · cases hdeclares

theorem lessons_filed_applyEvent {inner : StoreInner C} (envelope : EventEnvelope)
    (h : ∀ key lesson, peek inner.lessons key = some lesson →
      (⟨lesson.agentId, lesson.lesson.lessonId⟩ : ScopedId) = key) {key : ScopedId}
    {lesson : LessonState} (hlesson : peek (applyEvent inner envelope).lessons key = some lesson) :
    (⟨lesson.agentId, lesson.lesson.lessonId⟩ : ScopedId) = key := by
  cases hteaches : envelope.teaches key with
  | none => exact h key lesson (lesson_of_not_teaches hteaches hlesson)
  | some _ =>
    unfold EventEnvelope.teaches at hteaches
    split at hteaches
    · next learned he =>
      obtain ⟨rfl, -⟩ := Option.ite_none_right_eq_some.1 hteaches
      obtain ⟨observations, hlessons⟩ := lessons_of_learned inner he
      rw [hlessons, LruCache.peek_push_self] at hlesson
      cases hlesson
      rfl
    · cases hteaches

theorem events_filed_step {inner : StoreInner C} {op : StoreOp} {event : EventEnvelope}
    (haccepted : inner.acceptedEvent op = some event)
    (h : ∀ id record, peek inner.events id = some record → record.event.eventId = id) {id : Uuid}
    {record : EventRecord} (hrecord : peek (inner.step op).events id = some record) :
    record.event.eventId = id := by
  obtain ⟨_, _, hevents⟩ := events_step_of_accepted haccepted
  rw [hevents] at hrecord
  by_cases hid : id = event.eventId
  · subst hid
    rw [LruCache.peek_push_self] at hrecord
    cases hrecord
    rfl
  · exact h id record (LruCache.peek_of_peek_push hid hrecord)

theorem filed_run (cache : CacheConfig) (startedAt : DateTime) (ops : List StoreOp) :
    (run cache startedAt ops : StoreInner C).Filed := by
  induction ops using List.reverseRecOn with
  | nil => constructor <;> simp [StoreInner.new, newCache]
  | append_singleton ops op ih =>
    have htasks : ∀ key task, peek (run cache startedAt (ops ++ [op]) : StoreInner C).tasks key =
        some task → (⟨task.agentId, task.task.taskId⟩ : ScopedId) = key := by
      intro key task htask
      obtain ⟨hagent, hid⟩ := task_filed cache startedAt (ops ++ [op]) htask
      rw [hagent, hid]
    rw [run_concat] at htasks ⊢
    cases haccepted : (run cache startedAt ops : StoreInner C).acceptedEvent op with
    | none =>
      have hsame := step_of_unaccepted haccepted
      refine ⟨?_, ?_, htasks, ?_, ?_⟩
      · rw [hsame.agents]
        exact ih.agents
      · rw [hsame.goals]
        exact ih.goals
      · rw [hsame.lessons]
        exact ih.lessons
      · rw [events_step_of_unaccepted haccepted]
        exact ih.events
    | some event =>
      obtain ⟨_, hsame⟩ := step_of_accepted haccepted
      refine ⟨?_, ?_, htasks, ?_, fun _ _ => events_filed_step haccepted ih.events⟩
      · rw [hsame.agents]
        refine fun _ _ h => agents_filed_applyEvent event ?_ h
        exact ih.agents
      · rw [hsame.goals]
        refine fun _ _ h => goals_filed_applyEvent event ?_ h
        exact ih.goals
      · rw [hsame.lessons]
        refine fun _ _ h => lessons_filed_applyEvent event ?_ h
        exact ih.lessons

omit [CounterArith] in
theorem StoreInner.Filed.keyed {inner : StoreInner C} (h : inner.Filed) (generatedAt : DateTime) :
    (snapshot inner generatedAt).Keyed := by
  have hpair : Function.Injective fun key : ScopedId => (key.agentId, key.entityId) := by
    rintro ⟨_, _⟩ ⟨_, _⟩ heq
    cases heq
    rfl
  constructor
  · exact LruCache.nodup_map_values Function.injective_id h.agents
  · exact LruCache.nodup_map_values hpair fun key goal hgoal => by rw [← h.goals key goal hgoal]
  · exact LruCache.nodup_map_values hpair fun key task htask => by
      rw [← h.tasks key task htask]
      rfl
  · exact LruCache.nodup_map_values hpair fun key lesson hlesson => by
      rw [← h.lessons key lesson hlesson]
  · rw [map_eventId_recentEvents h.events]
    exact (LawfulLruCache.nodup_keys inner.events).sublist ((List.take_sublist _ _).map _)

end Filed

end ControlPlane
