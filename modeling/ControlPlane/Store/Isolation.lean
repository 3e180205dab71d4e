import ControlPlane.Lib.Shadow
import ControlPlane.Store.Counters

/-! Agents do not see one another.  While no cache evicts, what a store keeps for an agent is
what a store keeps that was only ever sent this agent's events. -/

namespace ControlPlane

open LruCache (peek iter getMut push modify cap Fits)

def StoreInner.Calm {C : Type → Type → Type} (inner : StoreInner C) : Prop :=
  inner.evictions = .zero

section Store

variable {C : Type → Type → Type} [LruCache C]

structure Aside (agentId : String) (before after : StoreInner C) : Prop where
  agents : Apart (· = agentId) before.agents after.agents
  goals : Apart (fun key : ScopedId => key.agentId = agentId) before.goals after.goals
  tasks : Apart (fun key : ScopedId => key.agentId = agentId) before.tasks after.tasks
  lessons : Apart (fun key : ScopedId => key.agentId = agentId) before.lessons after.lessons

namespace Aside

variable {agentId : String} {a b c : StoreInner C}

theorem refl (agentId : String) (inner : StoreInner C) : Aside agentId inner inner :=
  ⟨.refl _ _, .refl _ _, .refl _ _, .refl _ _⟩

theorem trans (h : Aside agentId a b) (h' : Aside agentId b c) : Aside agentId a c where
  agents := h.agents.trans h'.agents
  goals := h.goals.trans h'.goals
  tasks := h.tasks.trans h'.tasks
  lessons := h.lessons.trans h'.lessons

end Aside

/-- A step on behalf of one agent: evictions are never undone, and without any the step leaves
the other agents alone. -/
structure Confined (agentId : String) (before after : StoreInner C) : Prop where
  calm : after.Calm → before.Calm
  aside : after.Calm → ∀ other, other ≠ agentId → Aside other before after

namespace Confined

variable {agentId : String} {a b c : StoreInner C}

theorem refl (agentId : String) (inner : StoreInner C) : Confined agentId inner inner where
  calm h := h
  aside _ _ _ := .refl _ _

theorem trans (h : Confined agentId a b) (h' : Confined agentId b c) : Confined agentId a c where
  calm hc := h.calm (h'.calm hc)
  aside hc other hne := (h.aside (h'.calm hc) other hne).trans (h'.aside hc other hne)

end Confined

/-- The second store holds what the first one keeps for an agent, and nothing else. -/
structure Mirrors (agentId : String) (full solo : StoreInner C) : Prop where
  agents : Shadow (· = agentId) full.agents solo.agents
  goals : Shadow (fun key : ScopedId => key.agentId = agentId) full.goals solo.goals
  tasks : Shadow (fun key : ScopedId => key.agentId = agentId) full.tasks solo.tasks
  lessons : Shadow (fun key : ScopedId => key.agentId = agentId) full.lessons solo.lessons

theorem calm_iff {C : Type → Type → Type} {inner : StoreInner C} :
    inner.Calm ↔ inner.evictions.agents = 0 ∧ inner.evictions.goals = 0 ∧
      inner.evictions.tasks = 0 ∧ inner.evictions.lessons = 0 ∧ inner.evictions.events = 0 ∧
      inner.evictions.idempotency = 0 := by
  rw [StoreInner.Calm, EvictionCounters.zero, EvictionCounters.mk.injEq]

theorem count_eq_zero_iff {α : Type} {displaced : Option α} {count : Nat} :
    (if displaced.isSome then U64.saturatingAdd count 1 else count) = 0 ↔
      displaced = none ∧ count = 0 := by
  cases displaced with
  | none => simp
  | some _ => simp [U64.saturatingAdd, U64.MAX]

variable [LawfulLruCache C]

theorem pushWithEviction_snd_eq_none_iff {K V : Type} [DecidableEq K] {c : C K V} {k : K} {v : V} :
    (pushWithEviction c k v).2 = none ↔ Fits c k := by
  unfold pushWithEviction Fits
  cases hk : peek c k with
  | some old => simp
  | none => simp [LruCache.push_snd_eq_none_iff hk]

theorem insertTask_of_fits [CounterArith] {inner : StoreInner C} {key : ScopedId}
    {task : TaskState} (h : Fits inner.tasks key) :
    insertTask inner key task = { inner with tasks := (push inner.tasks key task).1 } := by
  simp only [insertTask, pushWithEviction_snd_eq_none_iff.mpr h, pushWithEviction_fst]

theorem calm_insertTask [CounterArith] {inner : StoreInner C} {key : ScopedId} {task : TaskState}
    (h : (insertTask inner key task).Calm) : Fits inner.tasks key ∧ inner.Calm := by
  cases hpushed : (pushWithEviction inner.tasks key task).2 with
  | none =>
    have hfits := pushWithEviction_snd_eq_none_iff.mp hpushed
    rw [insertTask_of_fits hfits] at h
    exact ⟨hfits, h⟩
  | some evicted =>
    rw [calm_iff] at h
    simp [insertTask, hpushed, U64.saturatingAdd, U64.MAX] at h

def declareGoal (inner : StoreInner C) (agentId : String) (goal : Goal) (occurredAt : DateTime) :
    StoreInner C :=
  let pushed := pushWithEviction inner.goals ⟨agentId, goal.goalId⟩ ⟨goal, agentId, occurredAt⟩
  { inner with
    goals := pushed.1
    evictions.goals :=
      if pushed.2.isSome then U64.saturatingAdd inner.evictions.goals 1
      else inner.evictions.goals }

def executeTask [CounterArith] (inner : StoreInner C) (taskId agentId : String)
    (occurredAt : DateTime) (update : TaskState → TaskState)
    (f : TaskState → AgentState → AgentState) : StoreInner C :=
  let inner := ensureTask inner taskId agentId occurredAt
  let written := writeTask inner ⟨agentId, taskId⟩ occurredAt update
  match written.2 with
  | some previous => written.1.modifyAgent agentId (f previous)
  | none => written.1

theorem calm_declareGoal {inner : StoreInner C} {agentId : String} {goal : Goal}
    {occurredAt : DateTime} (h : (declareGoal inner agentId goal occurredAt).Calm) :
    Fits inner.goals ⟨agentId, goal.goalId⟩ ∧ inner.Calm := by
  rw [calm_iff] at h
  simp only [declareGoal, count_eq_zero_iff, pushWithEviction_snd_eq_none_iff] at h
  rw [calm_iff]
  grind

theorem calm_applyLessonLearned {inner : StoreInner C} {envelope : EventEnvelope}
    {lesson : Lesson} (h : (applyLessonLearned inner envelope lesson).Calm) :
    Fits inner.lessons ⟨envelope.agent.agentId, lesson.lessonId⟩ ∧ inner.Calm := by
  rw [calm_iff] at h
  simp only [applyLessonLearned, count_eq_zero_iff, pushWithEviction_snd_eq_none_iff] at h
  rw [calm_iff]
  grind

theorem calm_ensureAgent {inner : StoreInner C} {envelope : EventEnvelope}
    (h : (ensureAgent inner envelope).Calm) :
    Fits inner.agents envelope.agent.agentId ∧ inner.Calm := by
  unfold ensureAgent at h
  dsimp only at h
  split at h
  · next hpresent => exact ⟨.inl hpresent, h⟩
  · rw [calm_iff] at h
    simp only [count_eq_zero_iff, pushWithEviction_snd_eq_none_iff] at h
    rw [calm_iff]
    grind

omit [LawfulLruCache C] in
theorem calm_accept [CounterArith] {inner : StoreInner C} {envelope : EventEnvelope} {transport : Transport}
    {receivedAt : DateTime} (h : (accept inner envelope transport receivedAt).Calm) :
    (applyEvent inner envelope).Calm := by
  rw [calm_iff] at h ⊢
  simp only [accept, count_eq_zero_iff] at h
  grind

namespace Confined

variable {agentId : String} (inner : StoreInner C)

theorem modifyAgent (f : AgentState → AgentState) :
    Confined agentId inner (inner.modifyAgent agentId f) where
  calm h := h
  aside _ other hne :=
    { Aside.refl other inner with agents := .modify (fun h => hne h.symm) f }

theorem write {inner : StoreInner C} {taskId : String} {task : TaskState}
    {write : TaskState → C ScopedId TaskState}
    (hw : getMut inner.tasks ⟨agentId, taskId⟩ = some (task, write)) (task' : TaskState) :
    Confined agentId inner { inner with tasks := write task' } where
  calm h := h
  aside _ other hne :=
    { Aside.refl other inner with tasks := .write (fun h => hne h.symm) hw task' }

theorem writeTask (taskId : String) (occurredAt : DateTime) (update : TaskState → TaskState) :
    Confined agentId inner (writeTask inner ⟨agentId, taskId⟩ occurredAt update).1 := by
  unfold ControlPlane.writeTask
  split
  · next task _ hw =>
    split
    · exact write hw (update task)
    · exact write hw task
  · exact refl agentId inner

theorem declareGoal (goal : Goal) (occurredAt : DateTime) :
    Confined agentId inner (declareGoal inner agentId goal occurredAt) where
  calm h := (calm_declareGoal h).2
  aside h other hne :=
    { Aside.refl other inner with
      goals := .push (fun h => hne h.symm) (calm_declareGoal h).1 _ }

theorem applyLessonLearned (envelope : EventEnvelope) (lesson : Lesson) :
    Confined envelope.agent.agentId inner (applyLessonLearned inner envelope lesson) where
  calm h := (calm_applyLessonLearned h).2
  aside h other hne :=
    { Aside.refl other inner with
      lessons := .push (fun h => hne h.symm) (calm_applyLessonLearned h).1 _ }

theorem ensureAgent (envelope : EventEnvelope) :
    Confined envelope.agent.agentId inner (ensureAgent inner envelope) where
  calm h := (calm_ensureAgent h).2
  aside h other hne := by
    have hfits := (calm_ensureAgent h).1
    unfold ControlPlane.ensureAgent
    dsimp only
    split
    · exact .refl other inner
    · exact { Aside.refl other inner with agents := .push (fun h => hne h.symm) hfits _ }

variable [CounterArith]

theorem insertTask (taskId : String) (task : TaskState) :
    Confined agentId inner (insertTask inner ⟨agentId, taskId⟩ task) where
  calm h := (calm_insertTask h).2
  aside h other hne := by
    have hfits := (calm_insertTask h).1
    rw [insertTask_of_fits hfits]
    exact { Aside.refl other inner with tasks := .push (fun h => hne h.symm) hfits task }

theorem ensureTask (taskId : String) (occurredAt : DateTime) :
    Confined agentId inner (ensureTask inner taskId agentId occurredAt) := by
  unfold ControlPlane.ensureTask
  dsimp only
  split
  · exact refl agentId inner
  · exact insertTask inner taskId _

theorem annotate (taskId : String) (occurredAt : DateTime) (update : TaskState → TaskState) :
    Confined agentId inner (ControlPlane.writeTask
      (ControlPlane.ensureTask inner taskId agentId occurredAt) ⟨agentId, taskId⟩ occurredAt
      update).1 :=
  (ensureTask inner taskId occurredAt).trans (writeTask _ taskId occurredAt update)

theorem executeTask (taskId : String) (occurredAt : DateTime) (update : TaskState → TaskState)
    (f : TaskState → AgentState → AgentState) :
    Confined agentId inner (executeTask inner taskId agentId occurredAt update f) := by
  have hwritten : Confined agentId inner (ControlPlane.writeTask
      (ControlPlane.ensureTask inner taskId agentId occurredAt) ⟨agentId, taskId⟩ occurredAt
      update).1 := annotate inner taskId occurredAt update
  unfold ControlPlane.executeTask
  dsimp only
  split
  · exact hwritten.trans (modifyAgent _ _)
  · exact hwritten

theorem applyTaskCreated (envelope : EventEnvelope) (spec : TaskSpec) :
    Confined envelope.agent.agentId inner (applyTaskCreated inner envelope spec) := by
  unfold ControlPlane.applyTaskCreated
  dsimp only
  split
  · next hw => exact write hw _
  · exact insertTask inner spec.taskId _

theorem applyReflectionRecorded (envelope : EventEnvelope) (reflection : Reflection) :
    Confined envelope.agent.agentId inner
      (applyReflectionRecorded inner envelope reflection) := by
  unfold ControlPlane.applyReflectionRecorded
  refine trans ?_ (modifyAgent _ _)
  split
  · exact annotate inner _ _ _
  · exact refl _ inner

theorem applyErrorObserved (envelope : EventEnvelope) (error : ErrorObservation) :
    Confined envelope.agent.agentId inner (applyErrorObserved inner envelope error) := by
  unfold ControlPlane.applyErrorObserved
  refine trans ?_ (modifyAgent _ _)
  split
  · exact annotate inner _ _ _
  · exact refl _ inner

theorem arm (envelope : EventEnvelope) :
    Confined envelope.agent.agentId
      ((ControlPlane.ensureAgent inner envelope).modifyAgent envelope.agent.agentId
        (touchAgent envelope))
      (applyEvent inner envelope) := by
  unfold ControlPlane.applyEvent
  dsimp only
  cases envelope.event with
  | agentRegistered registration => exact modifyAgent _ _
  | heartbeat heartbeat => exact modifyAgent _ _
  | goalDeclared goal => exact (declareGoal _ goal envelope.occurredAt).trans (modifyAgent _ _)
  | taskCreated spec => exact applyTaskCreated _ envelope spec
  | taskStarted started => exact executeTask _ _ _ _ _
  | progressUpdated progress => exact executeTask _ _ _ _ _
  | reflectionRecorded reflection => exact applyReflectionRecorded _ envelope reflection
  | lessonLearned lesson => exact applyLessonLearned _ envelope lesson
  | errorObserved error => exact applyErrorObserved _ envelope error
  | taskCompleted completed => exact executeTask _ _ _ _ _
  | agentStatusChanged change => exact modifyAgent _ _

omit [CounterArith] in
theorem touched (envelope : EventEnvelope) :
    Confined envelope.agent.agentId inner
      ((ControlPlane.ensureAgent inner envelope).modifyAgent envelope.agent.agentId
        (touchAgent envelope)) :=
  (ensureAgent inner envelope).trans (modifyAgent _ _)

theorem accept (envelope : EventEnvelope) (transport : Transport) (receivedAt : DateTime) :
    Confined envelope.agent.agentId inner (accept inner envelope transport receivedAt) := by
  have happlied := (touched inner envelope).trans (arm inner envelope)
  have hsame : ∀ other, Aside other (applyEvent inner envelope)
      (ControlPlane.accept inner envelope transport receivedAt) :=
    fun other => ⟨.refl _ _, .refl _ _, .refl _ _, .refl _ _⟩
  exact {
    calm := fun h => happlied.calm (calm_accept h)
    aside := fun h other hne => (happlied.aside (calm_accept h) other hne).trans (hsame other) }

omit [LawfulLruCache C] [CounterArith] in
theorem of_same {before after : StoreInner C} (hagents : after.agents = before.agents)
    (hgoals : after.goals = before.goals) (htasks : after.tasks = before.tasks)
    (hlessons : after.lessons = before.lessons) (hevictions : after.evictions = before.evictions) :
    Confined agentId before after where
  calm h := by rwa [StoreInner.Calm, ← hevictions]
  aside _ other _ := by
    constructor
    · rw [hagents]
      exact .refl _ _
    · rw [hgoals]
      exact .refl _ _
    · rw [htasks]
      exact .refl _ _
    · rw [hlessons]
      exact .refl _ _

theorem ingest (event : EventEnvelope) (transport : Transport) (receivedAt : DateTime) :
    Confined event.agent.agentId inner (ingest inner event transport receivedAt).1 := by
  unfold ControlPlane.ingest
  split
  · exact of_same rfl rfl rfl rfl rfl
  · dsimp only
    split
    · exact of_same rfl rfl rfl rfl rfl
    · have hread : Confined event.agent.agentId inner { inner with
          seenEventIds := (LruCache.get inner.seenEventIds event.eventId).2 } :=
        of_same rfl rfl rfl rfl rfl
      exact hread.trans (accept _ event transport receivedAt)

end Confined

namespace Mirrors

variable {agentId : String} {full solo : StoreInner C}

theorem start (agentId : String) (cache : CacheConfig) (startedAt : DateTime) :
    Mirrors agentId (StoreInner.new cache startedAt : StoreInner C) (StoreInner.new cache startedAt)
    where
  agents := .new _ _
  goals := .new _ _
  tasks := .new _ _
  lessons := .new _ _

omit [LawfulLruCache C] in
theorem apart {full' : StoreInner C} (h : Mirrors agentId full solo)
    (hfull : Aside agentId full full') : Mirrors agentId full' solo where
  agents := h.agents.apart hfull.agents
  goals := h.goals.apart hfull.goals
  tasks := h.tasks.apart hfull.tasks
  lessons := h.lessons.apart hfull.lessons

theorem modifyAgent (h : Mirrors agentId full solo) (f : AgentState → AgentState) :
    Mirrors agentId (full.modifyAgent agentId f) (solo.modifyAgent agentId f) :=
  { h with agents := h.agents.modify agentId f }

theorem declareGoal (h : Mirrors agentId full solo) {goal : Goal} {occurredAt : DateTime}
    (calm : (declareGoal full agentId goal occurredAt).Calm) :
    Mirrors agentId (declareGoal full agentId goal occurredAt)
      (declareGoal solo agentId goal occurredAt) :=
  { h with goals := h.goals.push rfl (calm_declareGoal calm).1 _ }

theorem applyLessonLearned {envelope : EventEnvelope} {lesson : Lesson}
    (h : Mirrors envelope.agent.agentId full solo)
    (calm : (applyLessonLearned full envelope lesson).Calm) :
    Mirrors envelope.agent.agentId (applyLessonLearned full envelope lesson)
      (applyLessonLearned solo envelope lesson) := by
  have hfits := (calm_applyLessonLearned calm).1
  have hseen := h.lessons.kept ⟨envelope.agent.agentId, lesson.lessonId⟩ rfl
  unfold ControlPlane.applyLessonLearned
  dsimp only
  rw [hseen]
  exact { h with lessons := h.lessons.push rfl hfits _ }

theorem taskCounts_eq (h : Mirrors agentId full solo) (hfull : Coherent full)
    (hsolo : Coherent solo) : taskCounts solo agentId = taskCounts full agentId := by
  have hcount : ∀ bucket, bucketCount solo agentId bucket = bucketCount full agentId bucket := by
    intro bucket
    apply h.tasks.countP_eq
    intro e he hbucket
    have howned := hfull.owned (LruCache.peek_eq_some_iff.mpr he)
    have hagent : e.2.agentId = agentId := by
      simp only [inBucket, decide_eq_true_eq] at hbucket
      exact hbucket.1
    exact howned.symm.trans hagent
  rw [Coherent.taskCounts hsolo.capacity, Coherent.taskCounts hfull.capacity, hcount, hcount]

theorem ensureAgent {envelope : EventEnvelope} (h : Mirrors envelope.agent.agentId full solo)
    (hfull : Coherent full) (hsolo : Coherent solo) (calm : (ensureAgent full envelope).Calm) :
    Mirrors envelope.agent.agentId (ensureAgent full envelope) (ensureAgent solo envelope) := by
  have hfits := (calm_ensureAgent calm).1
  unfold ControlPlane.ensureAgent
  dsimp only
  rw [h.agents.kept envelope.agent.agentId rfl, h.taskCounts_eq hfull hsolo]
  split
  · exact h
  · exact { h with agents := h.agents.push rfl hfits _ }

theorem writeTask (h : Mirrors agentId full solo) (taskId : String) (occurredAt : DateTime)
    (update : TaskState → TaskState) :
    Mirrors agentId (writeTask full ⟨agentId, taskId⟩ occurredAt update).1
        (writeTask solo ⟨agentId, taskId⟩ occurredAt update).1 ∧
      (writeTask solo ⟨agentId, taskId⟩ occurredAt update).2 =
        (writeTask full ⟨agentId, taskId⟩ occurredAt update).2 := by
  have hkept := h.tasks.kept ⟨agentId, taskId⟩ rfl
  cases hpeek : peek full.tasks ⟨agentId, taskId⟩ with
  | none =>
    have hfull := LruCache.getMut_of_peek_none hpeek
    have hsolo := LruCache.getMut_of_peek_none (hkept.trans hpeek)
    simp only [ControlPlane.writeTask, hfull, hsolo]
    exact ⟨h, trivial⟩
  | some task =>
    obtain ⟨_, hfull, hwritten⟩ := writeTask_cases full _ occurredAt update hpeek
    obtain ⟨_, hsolo, hwritten'⟩ := writeTask_cases solo _ occurredAt update (hkept.trans hpeek)
    rw [hwritten, hwritten']
    split
    · exact ⟨{ h with tasks := h.tasks.write hfull hsolo _ }, rfl⟩
    · exact ⟨{ h with tasks := h.tasks.write hfull hsolo _ }, rfl⟩

variable [CounterArith]

theorem insertTask (h : Mirrors agentId full solo) {taskId : String} {task : TaskState}
    (calm : (insertTask full ⟨agentId, taskId⟩ task).Calm) :
    Mirrors agentId (insertTask full ⟨agentId, taskId⟩ task)
      (insertTask solo ⟨agentId, taskId⟩ task) := by
  have hfits := (calm_insertTask calm).1
  rw [insertTask_of_fits hfits, insertTask_of_fits (h.tasks.fits rfl hfits)]
  exact { h with tasks := h.tasks.push rfl hfits task }

theorem ensureTask (h : Mirrors agentId full solo) {taskId : String} {occurredAt : DateTime}
    (calm : (ensureTask full taskId agentId occurredAt).Calm) :
    Mirrors agentId (ensureTask full taskId agentId occurredAt)
      (ensureTask solo taskId agentId occurredAt) := by
  unfold ControlPlane.ensureTask at calm ⊢
  dsimp only at calm ⊢
  rw [h.tasks.kept ⟨agentId, taskId⟩ rfl]
  split
  · exact h
  · next hpeek =>
    rw [if_neg hpeek] at calm
    exact h.insertTask calm

theorem annotate (h : Mirrors agentId full solo) {taskId : String} {occurredAt : DateTime}
    {update : TaskState → TaskState}
    (calm : (ControlPlane.writeTask (ControlPlane.ensureTask full taskId agentId occurredAt)
      ⟨agentId, taskId⟩ occurredAt update).1.Calm) :
    Mirrors agentId
      (ControlPlane.writeTask (ControlPlane.ensureTask full taskId agentId occurredAt)
        ⟨agentId, taskId⟩ occurredAt update).1
      (ControlPlane.writeTask (ControlPlane.ensureTask solo taskId agentId occurredAt)
        ⟨agentId, taskId⟩ occurredAt update).1 :=
  ((h.ensureTask ((Confined.writeTask _ _ _ _).calm calm)).writeTask _ _ _).1

theorem executeTask (h : Mirrors agentId full solo) {taskId : String} {occurredAt : DateTime}
    {update : TaskState → TaskState} {f : TaskState → AgentState → AgentState}
    (calm : (executeTask full taskId agentId occurredAt update f).Calm) :
    Mirrors agentId (executeTask full taskId agentId occurredAt update f)
      (executeTask solo taskId agentId occurredAt update f) := by
  unfold ControlPlane.executeTask at calm ⊢
  dsimp only at calm ⊢
  have hensured : (ControlPlane.ensureTask full taskId agentId occurredAt).Calm := by
    have hconfined : Confined agentId (ControlPlane.ensureTask full taskId agentId occurredAt)
        (ControlPlane.writeTask (ControlPlane.ensureTask full taskId agentId occurredAt)
          ⟨agentId, taskId⟩ occurredAt update).1 := Confined.writeTask _ taskId occurredAt update
    apply hconfined.calm
    split at calm
    · exact calm
    · exact calm
  have hwritten := (h.ensureTask hensured).writeTask taskId occurredAt update
  rw [hwritten.2]
  split
  · exact hwritten.1.modifyAgent _
  · exact hwritten.1

theorem applyTaskCreated {envelope : EventEnvelope} {spec : TaskSpec}
    (h : Mirrors envelope.agent.agentId full solo)
    (calm : (applyTaskCreated full envelope spec).Calm) :
    Mirrors envelope.agent.agentId (applyTaskCreated full envelope spec)
      (applyTaskCreated solo envelope spec) := by
  have hkept := h.tasks.kept ⟨envelope.agent.agentId, spec.taskId⟩ rfl
  unfold ControlPlane.applyTaskCreated at calm ⊢
  dsimp only at calm ⊢
  cases hpeek : peek full.tasks ⟨envelope.agent.agentId, spec.taskId⟩ with
  | none =>
    rw [LruCache.getMut_of_peek_none hpeek] at calm ⊢
    rw [LruCache.getMut_of_peek_none (hkept.trans hpeek)]
    exact h.insertTask calm
  | some task =>
    obtain ⟨_, hfull⟩ := LruCache.getMut_of_peek_some hpeek
    obtain ⟨_, hsolo⟩ := LruCache.getMut_of_peek_some (hkept.trans hpeek)
    rw [hfull, hsolo]
    exact { h with tasks := h.tasks.write hfull hsolo _ }

theorem applyReflectionRecorded {envelope : EventEnvelope} {reflection : Reflection}
    (h : Mirrors envelope.agent.agentId full solo)
    (calm : (applyReflectionRecorded full envelope reflection).Calm) :
    Mirrors envelope.agent.agentId (applyReflectionRecorded full envelope reflection)
      (applyReflectionRecorded solo envelope reflection) := by
  unfold ControlPlane.applyReflectionRecorded at calm ⊢
  apply modifyAgent
  cases ht : reflection.taskId with
  | none => exact h
  | some taskId =>
    simp only [ht] at calm
    exact h.annotate calm

theorem applyErrorObserved {envelope : EventEnvelope} {error : ErrorObservation}
    (h : Mirrors envelope.agent.agentId full solo)
    (calm : (applyErrorObserved full envelope error).Calm) :
    Mirrors envelope.agent.agentId (applyErrorObserved full envelope error)
      (applyErrorObserved solo envelope error) := by
  unfold ControlPlane.applyErrorObserved at calm ⊢
  apply modifyAgent
  cases ht : error.taskId with
  | none => exact h
  | some taskId =>
    simp only [ht] at calm
    exact h.annotate calm

theorem applyEvent {envelope : EventEnvelope} (h : Mirrors envelope.agent.agentId full solo)
    (hfull : Coherent full) (hsolo : Coherent solo) (calm : (applyEvent full envelope).Calm) :
    Mirrors envelope.agent.agentId (applyEvent full envelope) (applyEvent solo envelope) := by
  have hpresent := h.ensureAgent hfull hsolo ((Confined.arm full envelope).calm calm)
  have htouched := hpresent.modifyAgent (touchAgent envelope)
  unfold ControlPlane.applyEvent at calm ⊢
  dsimp only at calm ⊢
  cases he : envelope.event with
  | agentRegistered registration => exact htouched.modifyAgent _
  | heartbeat heartbeat => exact htouched.modifyAgent _
  | goalDeclared goal =>
    simp only [he] at calm
    have hdeclared := htouched.declareGoal (Confined.calm (.modifyAgent _ _) calm)
    exact hdeclared.modifyAgent _
  | taskCreated spec =>
    simp only [he] at calm
    exact htouched.applyTaskCreated calm
  | taskStarted started =>
    simp only [he] at calm
    exact htouched.executeTask calm
  | progressUpdated progress =>
    simp only [he] at calm
    exact htouched.executeTask calm
  | reflectionRecorded reflection =>
    simp only [he] at calm
    exact htouched.applyReflectionRecorded calm
  | lessonLearned lesson =>
    simp only [he] at calm
    exact htouched.applyLessonLearned calm
  | errorObserved error =>
    simp only [he] at calm
    exact htouched.applyErrorObserved calm
  | taskCompleted completed =>
    simp only [he] at calm
    exact htouched.executeTask calm
  | agentStatusChanged change => exact htouched.modifyAgent _

theorem accept {envelope : EventEnvelope} {transport : Transport} {receivedAt : DateTime}
    (h : Mirrors envelope.agent.agentId full solo) (hfull : Coherent full) (hsolo : Coherent solo)
    (calm : (accept full envelope transport receivedAt).Calm) :
    Mirrors envelope.agent.agentId (accept full envelope transport receivedAt)
      (accept solo envelope transport receivedAt) := by
  have happlied := h.applyEvent hfull hsolo (calm_accept calm)
  exact ⟨happlied.agents, happlied.goals, happlied.tasks, happlied.lessons⟩

theorem ingest {event : EventEnvelope} {transport : Transport} {receivedAt : DateTime}
    (h : Mirrors event.agent.agentId full solo) (hfull : Coherent full) (hsolo : Coherent solo)
    (fresh : Fresh full event) (fresh' : Fresh solo event)
    (calm : (ingest full event transport receivedAt).1.Calm) :
    Mirrors event.agent.agentId (ingest full event transport receivedAt).1
      (ingest solo event transport receivedAt).1 := by
  obtain ⟨_, -, he⟩ := ingest_of_fresh fresh transport receivedAt
  obtain ⟨_, -, he'⟩ := ingest_of_fresh fresh' transport receivedAt
  rw [he] at calm ⊢
  rw [he']
  have hread : Mirrors event.agent.agentId
      { full with seenEventIds := (LruCache.get full.seenEventIds event.eventId).2 }
      { solo with seenEventIds := (LruCache.get solo.seenEventIds event.eventId).2 } :=
    ⟨h.agents, h.goals, h.tasks, h.lessons⟩
  exact hread.accept (hfull.congr rfl rfl) (hsolo.congr rfl rfl) calm

end Mirrors

def StoreOp.sentBy (agentId : String) : StoreOp → Bool
  | .ingest event _ _ => event.agent.agentId = agentId
  | .recordRejection _ => false

theorem calm_step {inner : StoreInner C} {op : StoreOp} (h : (inner.step op).Calm) :
    inner.Calm := by
  cases op with
  | recordRejection transport => exact h
  | ingest event transport receivedAt =>
    exact (Confined.ingest inner event transport receivedAt).calm h

theorem ingestedIds_filter (ops : List StoreOp) (p : StoreOp → Bool) :
    (ingestedIds (ops.filter p)).Sublist (ingestedIds ops) :=
  List.filter_sublist.filterMap _

theorem not_mem_ingestedIds {ops : List StoreOp} {event : EventEnvelope} {transport : Transport}
    {receivedAt : DateTime} (hv : event.validate = .ok ())
    (distinct : (ingestedIds (ops ++ [.ingest event transport receivedAt])).Nodup) :
    event.eventId ∉ ingestedIds ops := by
  have hid : StoreOp.ingestedId (.ingest event transport receivedAt) = some event.eventId :=
    if_pos (EventEnvelope.isValid_iff.mpr hv)
  rw [ingestedIds, List.filterMap_append, List.nodup_append] at distinct
  intro hmem
  exact distinct.2.2 _ hmem _ (by simp [hid]) rfl

theorem mirrors_run (cache : CacheConfig) (startedAt : DateTime) (ops : List StoreOp)
    (agentId : String) (distinct : (ingestedIds ops).Nodup)
    (calm : (run cache startedAt ops : StoreInner C).Calm) :
    Mirrors agentId (run cache startedAt ops : StoreInner C)
      (run cache startedAt (ops.filter (StoreOp.sentBy agentId))) := by
  induction ops using List.reverseRecOn with
  | nil => exact .start agentId cache startedAt
  | append_singleton ops op ih =>
    rw [run_concat] at calm ⊢
    have hbefore : (ingestedIds ops).Nodup :=
      distinct.sublist ((List.sublist_append_left ops [op]).filterMap _)
    have hmirrors := ih hbefore (calm_step calm)
    rw [List.filter_append]
    cases op with
    | recordRejection transport =>
      rw [List.filter_singleton, StoreOp.sentBy, cond_false, List.append_nil]
      exact ⟨hmirrors.agents, hmirrors.goals, hmirrors.tasks, hmirrors.lessons⟩
    | ingest event transport receivedAt =>
      by_cases hsent : event.agent.agentId = agentId
      · subst hsent
        rw [List.filter_singleton, StoreOp.sentBy, decide_eq_true rfl, cond_true, run_concat]
        by_cases hv : event.validate = .ok ()
        · have hnew := not_mem_ingestedIds hv distinct
          exact hmirrors.ingest (.run _ _ _) (.run _ _ _) (fresh_of_new _ _ hv hnew)
            (fresh_of_new _ _ hv fun hmem => hnew ((ingestedIds_filter _ _).subset hmem)) calm
        · rw [← EventEnvelope.isValid_iff] at hv
          obtain ⟨_, hfull⟩ := ingest_of_invalid hv (run cache startedAt ops : StoreInner C)
            transport receivedAt
          obtain ⟨_, hsolo⟩ := ingest_of_invalid hv (run cache startedAt
            (ops.filter (StoreOp.sentBy event.agent.agentId)) : StoreInner C) transport receivedAt
          rw [StoreInner.step, StoreInner.step, hfull, hsolo]
          exact ⟨hmirrors.agents, hmirrors.goals, hmirrors.tasks, hmirrors.lessons⟩
      · -- the event of another agent
        rw [List.filter_singleton, StoreOp.sentBy, decide_eq_false hsent, cond_false,
          List.append_nil]
        apply hmirrors.apart
        exact (Confined.ingest _ event transport receivedAt).aside calm agentId (Ne.symm hsent)

/-- What a run without evictions keeps for an agent is what the run of this agent's events alone
keeps, whatever ids the other agents use. -/
theorem agents_isolated (cache : CacheConfig) (startedAt : DateTime) (ops : List StoreOp)
    (agentId : String) (distinct : (ingestedIds ops).Nodup)
    (calm : (run cache startedAt ops : StoreInner C).evictions = .zero) :
    let full : StoreInner C := run cache startedAt ops
    let solo : StoreInner C := run cache startedAt (ops.filter (StoreOp.sentBy agentId))
    peek full.agents agentId = peek solo.agents agentId ∧
      (∀ goalId, peek full.goals ⟨agentId, goalId⟩ = peek solo.goals ⟨agentId, goalId⟩) ∧
      (∀ taskId, peek full.tasks ⟨agentId, taskId⟩ = peek solo.tasks ⟨agentId, taskId⟩) ∧
      ∀ lessonId, peek full.lessons ⟨agentId, lessonId⟩ = peek solo.lessons ⟨agentId, lessonId⟩ := by
  have hmirrors := mirrors_run cache startedAt ops agentId distinct calm
  dsimp only
  refine ⟨?_, ?_, ?_, ?_⟩
  · exact (hmirrors.agents.kept agentId rfl).symm
  · intro goalId
    exact (hmirrors.goals.kept ⟨agentId, goalId⟩ rfl).symm
  · intro taskId
    exact (hmirrors.tasks.kept ⟨agentId, taskId⟩ rfl).symm
  · intro lessonId
    exact (hmirrors.lessons.kept ⟨agentId, lessonId⟩ rfl).symm

end Store

namespace Sample

def roomy : CacheConfig :=
  { cache with events := ⟨4, by decide⟩, idempotency := ⟨4, by decide⟩ }

def ingestFrom (agentId : String) (eventId : Uuid) (secs : Int) (event : AgentEvent) : StoreOp :=
  .ingest { envelope eventId secs event with agent := ⟨agentId, "codex", "gpt", none⟩ } .http
    (instant secs)

end Sample

/-- Another agent completes a task of the same id between two events of the worker. -/
theorem agents_isolated_shared :
    peek (run Sample.roomy (Sample.instant 0)
        [Sample.ingestAt 1 1 (Sample.created "a"),
          Sample.ingestFrom "peer" 2 2 (Sample.completed "a" .failed),
          .recordRejection .http, Sample.ingestAt 3 3 (Sample.started "a")] :
        StoreInner RecencyCache).tasks ⟨"worker", "a"⟩ =
      peek (run Sample.roomy (Sample.instant 0)
        [Sample.ingestAt 1 1 (Sample.created "a"), Sample.ingestAt 3 3 (Sample.started "a")] :
        StoreInner RecencyCache).tasks ⟨"worker", "a"⟩ :=
  (agents_isolated Sample.roomy (Sample.instant 0) _ "worker" (by decide) (by decide)).2.2.1 "a"

end ControlPlane
