import ControlPlane.Store.Tasks

/-! The completion counters: each is the number of retained tasks in its bucket. -/

namespace ControlPlane

open LruCache (peek iter getMut push modify cap)

def AgentState.counter (agent : AgentState) : CompletionBucket → Nat
  | .completed => agent.completedTasks
  | .failed => agent.failedTasks

def weight (outcome : Option TaskOutcome) (bucket : CompletionBucket) : Nat :=
  if outcome.map completionBucket = some bucket then 1 else 0

def inBucket (agentId : String) (bucket : CompletionBucket) (entry : ScopedId × TaskState) : Bool :=
  entry.2.agentId = agentId ∧ entry.2.outcome.map completionBucket = some bucket

@[simp] theorem weight_none (bucket : CompletionBucket) : weight none bucket = 0 := rfl

theorem weight_some (outcome : TaskOutcome) (bucket : CompletionBucket) :
    weight (some outcome) bucket = if completionBucket outcome = bucket then 1 else 0 := by
  simp [weight]

theorem weight_inBucket (agentId : String) (bucket : CompletionBucket)
    (entry : ScopedId × TaskState) :
    (if inBucket agentId bucket entry = true then 1 else 0) =
      if entry.2.agentId = agentId then weight entry.2.outcome bucket else 0 := by
  by_cases h : entry.2.agentId = agentId <;> simp [inBucket, weight, h]

theorem removeCompletionCounter_counter {agent : AgentState} {outcome : Option TaskOutcome}
    (h : ∀ bucket, weight outcome bucket ≤ agent.counter bucket) (bucket : CompletionBucket) :
    (removeCompletionCounter agent outcome).counter bucket + weight outcome bucket =
      agent.counter bucket := by
  have hb := h bucket
  cases outcome with
  | none => rfl
  | some outcome =>
    rw [weight_some] at hb ⊢
    cases ho : completionBucket outcome <;> cases bucket <;>
      simp_all [removeCompletionCounter, AgentState.counter, CounterArith.sub]

/-- The correction swaps one unit between the buckets, if the counter that grows has room. -/
theorem reconcileCompletionCounters_counter (agent : AgentState) {previous : Option TaskOutcome}
    {current : TaskOutcome} (h : ∀ bucket, weight previous bucket ≤ agent.counter bucket)
    (room : ∀ bucket, agent.counter bucket + weight (some current) bucket ≤
      U64.MAX + weight previous bucket) (bucket : CompletionBucket) :
    (reconcileCompletionCounters agent previous current).counter bucket + weight previous bucket =
      agent.counter bucket + weight (some current) bucket := by
  have hremoved := removeCompletionCounter_counter h
  have hroom := room bucket
  have hr := hremoved bucket
  unfold reconcileCompletionCounters
  rw [weight_some] at hroom ⊢
  by_cases hsame : previous.map completionBucket = some (completionBucket current)
  · have hw : weight previous bucket = if completionBucket current = bucket then 1 else 0 := by
      simp only [weight, hsame, Option.some.injEq]
    rw [hw]
    simp only [hsame, ne_eq, not_true_eq_false, if_false]
    cases bucket <;> rfl
  · simp only [hsame, ne_eq, not_false_eq_true, if_true]
    cases hc : completionBucket current with
    | completed =>
      cases bucket with
      | completed =>
        simp only [hc, AgentState.counter, if_true, U64.saturatingAdd] at hroom hr ⊢
        omega
      | failed =>
        simp only [AgentState.counter] at hr ⊢
        simpa using hr
    | failed =>
      cases bucket with
      | failed =>
        simp only [hc, AgentState.counter, if_true, U64.saturatingAdd] at hroom hr ⊢
        omega
      | completed =>
        simp only [AgentState.counter] at hr ⊢
        simpa using hr

theorem TaskState.define_agentId {agentId : String} (task : TaskState) (h : task.agentId = agentId)
    (spec : TaskSpec) (occurredAt : DateTime) :
    (task.define spec agentId occurredAt).agentId = agentId := by
  unfold TaskState.define
  split
  · rfl
  · exact h

theorem TaskState.define_outcome (task : TaskState) (spec : TaskSpec) (agentId : String)
    (occurredAt : DateTime) : (task.define spec agentId occurredAt).outcome = task.outcome := by
  unfold TaskState.define
  split <;> rfl

theorem countP_filter_bucket (entries : List (ScopedId × TaskState)) (agentId : String)
    (bucket : CompletionBucket) :
    (entries.filter fun e => e.2.agentId = agentId).countP
        (fun e => e.2.outcome.map completionBucket = some bucket) =
      entries.countP (inBucket agentId bucket) := by
  rw [List.countP_filter]
  congr 1
  funext e
  simp [inBucket, Bool.and_comm]

theorem foldl_counts (entries : List (ScopedId × TaskState)) {completed failed : Nat}
    (hc : completed + entries.countP
      (fun e => e.2.outcome.map completionBucket = some .completed) ≤ U64.MAX)
    (hf : failed + entries.countP
      (fun e => e.2.outcome.map completionBucket = some .failed) ≤ U64.MAX) :
    entries.foldl countOutcome (completed, failed) =
      (completed + entries.countP (fun e => e.2.outcome.map completionBucket = some .completed),
        failed + entries.countP (fun e => e.2.outcome.map completionBucket = some .failed)) := by
  induction entries generalizing completed failed with
  | nil => rfl
  | cons e entries ih =>
    rw [List.countP_cons] at hc hf
    simp only [List.foldl_cons, List.countP_cons, countOutcome]
    cases ho : e.2.outcome.map completionBucket with
    | none =>
      simp only [ho, reduceCtorEq, decide_false, Bool.false_eq_true, if_false] at hc hf ⊢
      exact ih hc hf
    | some bucket =>
      cases bucket with
      | completed =>
        simp only [ho, Option.some.injEq, reduceCtorEq, decide_true, decide_false, if_true,
          Bool.false_eq_true, if_false] at hc hf ⊢
        have : U64.saturatingAdd completed 1 = completed + 1 := by
          rw [U64.saturatingAdd]
          omega
        rw [this, ih (by omega) hf, Nat.add_right_comm, Nat.add_assoc]
        rfl
      | failed =>
        simp only [ho, Option.some.injEq, reduceCtorEq, decide_true, decide_false, if_true,
          Bool.false_eq_true, if_false] at hc hf ⊢
        have : U64.saturatingAdd failed 1 = failed + 1 := by
          rw [U64.saturatingAdd]
          omega
        rw [this, ih hc (by omega), Nat.add_right_comm, Nat.add_assoc]
        rfl

section Store

variable {C : Type → Type → Type} [LruCache C]

def bucketCount (inner : StoreInner C) (agentId : String) (bucket : CompletionBucket) : Nat :=
  (iter inner.tasks).countP (inBucket agentId bucket)

/-- Every task sits under its own key, and the counters of the retained agents count the
retained tasks. -/
structure Coherent (inner : StoreInner C) : Prop where
  owned : ∀ {key task}, peek inner.tasks key = some task → task.agentId = key.agentId
  counted : ∀ {agentId agent}, peek inner.agents agentId = some agent →
    ∀ bucket, agent.counter bucket = bucketCount inner agentId bucket
  capacity : cap inner.tasks ≤ U64.MAX

variable [LawfulLruCache C]

theorem bucketCount_le (inner : StoreInner C) (h : cap inner.tasks ≤ U64.MAX) (agentId : String)
    (bucket : CompletionBucket) : bucketCount inner agentId bucket ≤ U64.MAX :=
  List.countP_le_length.trans ((LawfulLruCache.length_le_cap _).trans h)

theorem weight_le_bucketCount {inner : StoreInner C} {key : ScopedId} {task : TaskState}
    (h : peek inner.tasks key = some task) (bucket : CompletionBucket) :
    weight task.outcome bucket ≤ bucketCount inner task.agentId bucket := by
  unfold weight bucketCount
  split
  · next ho =>
    refine List.countP_pos_iff.mpr ⟨(key, task), LruCache.peek_eq_some_iff.mp h, ?_⟩
    simp [inBucket, ho]
  · exact Nat.zero_le _

theorem bucketCount_write {inner : StoreInner C} {key : ScopedId} {task task' : TaskState}
    {write : TaskState → C ScopedId TaskState}
    (hw : getMut inner.tasks key = some (task, write)) (hid : task'.agentId = task.agentId)
    (agentId : String) (bucket : CompletionBucket) :
    bucketCount { inner with tasks := write task' } agentId bucket +
        (if task.agentId = agentId then weight task.outcome bucket else 0) =
      bucketCount inner agentId bucket +
        (if task.agentId = agentId then weight task'.outcome bucket else 0) := by
  have := LruCache.countP_write (inBucket agentId bucket) hw task'
  rwa [weight_inBucket, weight_inBucket, hid] at this

theorem bucketCount_push {inner : StoreInner C} {key : ScopedId} {task : TaskState}
    (hk : peek inner.tasks key = none) (ho : task.outcome = none) (agentId : String)
    (bucket : CompletionBucket) :
    bucketCount { inner with tasks := (push inner.tasks key task).1 } agentId bucket +
        (push inner.tasks key task).2.toList.countP (inBucket agentId bucket) =
      bucketCount inner agentId bucket := by
  have := LruCache.countP_push (inBucket agentId bucket) hk task
  rw [weight_inBucket, ho, weight_none, ite_self] at this
  exact this

namespace Coherent

variable {inner : StoreInner C}

theorem start (cache : CacheConfig) (startedAt : DateTime) :
    Coherent (StoreInner.new cache startedAt : StoreInner C) where
  owned h := by simp [StoreInner.new, newCache] at h
  counted h := by simp [StoreInner.new, newCache] at h
  capacity := by
    have := cache.tasks.bound
    simp only [StoreInner.new, newCache, LawfulLruCache.cap_new, U64.MAX]
    exact Nat.le_sub_one_of_lt this

theorem weight_le (h : Coherent inner) {key : ScopedId} {task : TaskState} {agent : AgentState}
    (ht : peek inner.tasks key = some task) (ha : peek inner.agents key.agentId = some agent)
    (bucket : CompletionBucket) : weight task.outcome bucket ≤ agent.counter bucket := by
  rw [h.counted ha, ← h.owned ht]
  exact weight_le_bucketCount ht bucket

omit [LawfulLruCache C] in
theorem congr (h : Coherent inner) {inner' : StoreInner C} (ht : inner'.tasks = inner.tasks)
    (ha : inner'.agents = inner.agents) : Coherent inner' where
  owned hp := h.owned (ht ▸ hp)
  counted hp bucket := by
    rw [bucketCount, ht]
    exact h.counted (ha ▸ hp) bucket
  capacity := ht ▸ h.capacity

theorem modifyAgent (h : Coherent inner) (agentId : String) {f : AgentState → AgentState}
    (hf : ∀ agent bucket, (f agent).counter bucket = agent.counter bucket) :
    Coherent (inner.modifyAgent agentId f) where
  owned := h.owned
  counted {id agent} ha := by
    change peek (modify inner.agents agentId f) id = some agent at ha
    rw [LruCache.peek_modify] at ha
    split at ha
    · obtain ⟨before, hb, rfl⟩ := Option.map_eq_some_iff.mp ha
      intro bucket
      rw [hf]
      exact h.counted hb bucket
    · exact h.counted ha
  capacity := h.capacity

theorem write (h : Coherent inner) {key : ScopedId} {task task' : TaskState}
    {write : TaskState → C ScopedId TaskState}
    (hw : getMut inner.tasks key = some (task, write)) (hid : task'.agentId = task.agentId)
    {f : AgentState → AgentState}
    (hf : ∀ agent, peek inner.agents key.agentId = some agent → ∀ bucket,
      (f agent).counter bucket + weight task.outcome bucket =
        agent.counter bucket + weight task'.outcome bucket) :
    Coherent (StoreInner.modifyAgent { inner with tasks := write task' } key.agentId f) where
  owned {x t} ht := by
    change peek (write task') x = some t at ht
    rw [LruCache.peek_write hw] at ht
    split at ht
    · next hx =>
      obtain rfl := Option.some.inj ht
      rw [hid, hx]
      exact h.owned (LruCache.peek_of_getMut hw)
    · exact h.owned ht
  counted {id agent} ha := by
    change peek (modify inner.agents key.agentId f) id = some agent at ha
    intro bucket
    have hcount := bucketCount_write hw hid id bucket
    rw [h.owned (LruCache.peek_of_getMut hw)] at hcount
    change agent.counter bucket = bucketCount { inner with tasks := write task' } id bucket
    rw [LruCache.peek_modify] at ha
    split at ha
    · next hx =>
      subst hx
      obtain ⟨before, hb, rfl⟩ := Option.map_eq_some_iff.mp ha
      have := hf before hb bucket
      have := h.counted hb bucket
      rw [if_pos rfl, if_pos rfl] at hcount
      omega
    · next hx =>
      have := h.counted ha bucket
      rw [if_neg (Ne.symm hx), if_neg (Ne.symm hx)] at hcount
      omega
  capacity := (LawfulLruCache.cap_write _ _ hw _).trans_le h.capacity

theorem rewrite (h : Coherent inner) {key : ScopedId} {task task' : TaskState}
    {write : TaskState → C ScopedId TaskState}
    (hw : getMut inner.tasks key = some (task, write)) (hid : task'.agentId = task.agentId)
    (ho : task'.outcome = task.outcome) : Coherent { inner with tasks := write task' } where
  owned := (h.write hw hid (f := id) fun _ _ _ => by rw [ho]; rfl).owned
  counted {id agent} ha := by
    intro bucket
    have hcount := bucketCount_write hw hid id bucket
    rw [ho] at hcount
    rw [h.counted ha bucket]
    omega
  capacity := (LawfulLruCache.cap_write _ _ hw _).trans_le h.capacity

theorem insertTask (h : Coherent inner) {key : ScopedId} {task : TaskState}
    (hk : peek inner.tasks key = none) (hid : task.agentId = key.agentId)
    (ho : task.outcome = none) : Coherent (insertTask inner key task) := by
  have hcount := fun agentId => bucketCount_push hk ho agentId
  have howned : ∀ {x t}, peek (push inner.tasks key task).1 x = some t →
      t.agentId = x.agentId := by
    intro x t ht
    by_cases hx : x = key
    · subst hx
      obtain rfl : task = t := by simpa using ht
      exact hid
    · exact h.owned (LruCache.peek_of_peek_push hx ht)
  have hcap := (LawfulLruCache.cap_push inner.tasks key task).trans_le h.capacity
  unfold ControlPlane.insertTask
  rw [pushWithEviction_of_none hk]
  cases hd : (push inner.tasks key task).2 with
  | none =>
    refine ⟨howned, fun {id agent} ha bucket => ?_, hcap⟩
    rw [h.counted ha bucket, ← hcount id bucket, hd]
    rfl
  | some evicted =>
    have hpeek := (LruCache.push_displaced hk hd).2.1
    have hevicted := h.owned hpeek
    refine ⟨howned, fun {id agent} ha bucket => ?_, hcap⟩
    have hc := hcount id bucket
    simp only [hd, Option.toList_some, List.countP_singleton, weight_inBucket] at hc
    simp only [Option.map_some, LruCache.peek_modify] at ha
    change agent.counter bucket =
      bucketCount { inner with tasks := (push inner.tasks key task).1 } id bucket
    split at ha
    · next hx =>
      subst hx
      obtain ⟨before, hb, rfl⟩ := Option.map_eq_some_iff.mp ha
      have := removeCompletionCounter_counter (h.weight_le hpeek (hevicted ▸ hb)) bucket
      have := h.counted hb bucket
      rw [if_pos rfl] at hc
      omega
    · next hx =>
      have := h.counted ha bucket
      rw [if_neg (Ne.symm hx)] at hc
      omega

theorem taskCounts (h : cap inner.tasks ≤ U64.MAX) (agentId : String) :
    taskCounts inner agentId =
      (bucketCount inner agentId .completed, bucketCount inner agentId .failed) := by
  rw [ControlPlane.taskCounts, foldl_counts]
  · simp only [Nat.zero_add, countP_filter_bucket]
    rfl
  all_goals
    rw [Nat.zero_add, countP_filter_bucket]
    exact bucketCount_le _ h agentId _

/-- A re-created agent starts from the tasks that outlived it. -/
theorem ensureAgent (h : Coherent inner) (envelope : EventEnvelope) :
    Coherent (ensureAgent inner envelope) := by
  unfold ControlPlane.ensureAgent
  dsimp only
  split
  · exact h
  · refine ⟨h.owned, fun {id agent} ha bucket => ?_, h.capacity⟩
    simp only [pushWithEviction_fst, taskCounts h.capacity] at ha
    by_cases hx : id = envelope.agent.agentId
    · subst hx
      rw [LruCache.peek_push_self] at ha
      obtain rfl := Option.some.inj ha
      cases bucket <;> rfl
    · exact h.counted (LruCache.peek_of_peek_push hx ha) bucket

theorem ensureTask (h : Coherent inner) (taskId agentId : String) (occurredAt : DateTime) :
    Coherent (ensureTask inner taskId agentId occurredAt) := by
  unfold ControlPlane.ensureTask
  dsimp only
  split
  · exact h
  · next hk =>
    refine h.insertTask ?_ rfl rfl
    simpa using hk

theorem execute (h : Coherent inner) (taskId agentId : String) (occurredAt : DateTime)
    (update : TaskState → TaskState) (f : TaskState → AgentState → AgentState)
    (hu : ∀ task, (update task).agentId = task.agentId)
    (hf : ∀ task agent, (∀ bucket, weight task.outcome bucket ≤ agent.counter bucket) →
      (∀ bucket, agent.counter bucket + weight (update task).outcome bucket ≤
        U64.MAX + weight task.outcome bucket) →
      ∀ bucket, (f task agent).counter bucket + weight task.outcome bucket =
        agent.counter bucket + weight (update task).outcome bucket) :
    let written := writeTask (ControlPlane.ensureTask inner taskId agentId occurredAt)
      ⟨agentId, taskId⟩ occurredAt update
    Coherent (match written.2 with
      | some previous => written.1.modifyAgent agentId (f previous)
      | none => written.1) := by
  have hensured := h.ensureTask taskId agentId occurredAt
  have hpeek := peek_ensureTask_self inner taskId agentId occurredAt
  obtain ⟨write, hw, heq⟩ := writeTask_cases _ _ occurredAt update hpeek
  have hid := hensured.owned hpeek
  generalize (peek inner.tasks ⟨agentId, taskId⟩).getD _ = task at hpeek hw heq hid
  dsimp only
  rw [heq]
  by_cases hle : task.updatedAt ≤ occurredAt
  · rw [if_pos hle]
    refine hensured.write hw (hu _) fun agent ha => hf _ _ (fun bucket => ?_) fun bucket => ?_
    · exact hensured.weight_le hpeek ha bucket
    · have hcount := bucketCount_write hw (hu task) agentId bucket
      have hle := bucketCount_le
        { ControlPlane.ensureTask inner taskId agentId occurredAt with
          tasks := write (update task) }
        ((LawfulLruCache.cap_write _ _ hw _).trans_le hensured.capacity) agentId bucket
      rw [if_pos hid, if_pos hid, ← hensured.counted ha bucket] at hcount
      rw [← hcount]
      exact Nat.add_le_add_right hle _
  · rw [if_neg hle]
    exact hensured.rewrite hw rfl rfl

theorem annotate (h : Coherent inner) (taskId agentId : String) (occurredAt : DateTime)
    {update : TaskState → TaskState} (hu : ∀ task, (update task).agentId = task.agentId)
    (ho : ∀ task, (update task).outcome = task.outcome) :
    Coherent (writeTask (ControlPlane.ensureTask inner taskId agentId occurredAt)
      ⟨agentId, taskId⟩ occurredAt update).1 := by
  have hensured := h.ensureTask taskId agentId occurredAt
  have hpeek := peek_ensureTask_self inner taskId agentId occurredAt
  obtain ⟨write, hw, heq⟩ := writeTask_cases _ _ occurredAt update hpeek
  rw [heq]
  split
  · exact hensured.rewrite hw (hu _) (ho _)
  · exact hensured.rewrite hw rfl rfl

theorem applyTaskCreated (h : Coherent inner) (envelope : EventEnvelope) (spec : TaskSpec) :
    Coherent (applyTaskCreated inner envelope spec) := by
  unfold ControlPlane.applyTaskCreated
  dsimp only
  cases hk : peek inner.tasks ⟨envelope.agent.agentId, spec.taskId⟩ with
  | some task =>
    obtain ⟨write, hw⟩ := LruCache.getMut_of_peek_some hk
    rw [hw]
    refine h.rewrite hw ?_ (task.define_outcome _ _ _)
    exact (task.define_agentId (h.owned hk) _ _).trans (h.owned hk).symm
  | none =>
    rw [LruCache.getMut_of_peek_none hk]
    exact h.insertTask hk rfl rfl

theorem applyGoalDeclared (h : Coherent inner) (envelope : EventEnvelope) (goal : Goal) :
    Coherent (applyGoalDeclared inner envelope goal) := by
  unfold ControlPlane.applyGoalDeclared
  refine modifyAgent ?_ _ fun _ bucket => by cases bucket <;> rfl
  exact h.congr rfl rfl

theorem applyTaskStarted (h : Coherent inner) (envelope : EventEnvelope) (started : TaskStarted) :
    Coherent (applyTaskStarted inner envelope started) := by
  refine h.execute started.taskId _ envelope.occurredAt
    (fun task => task.start started envelope.occurredAt)
    (fun previous agent => { removeCompletionCounter agent previous.outcome with
      status := .running
      activeTaskId := some started.taskId }) (fun _ => rfl) fun task agent hle _ bucket => ?_
  have := removeCompletionCounter_counter hle bucket
  cases bucket <;> exact this

theorem applyProgressUpdated (h : Coherent inner) (envelope : EventEnvelope)
    (progress : ProgressUpdate) : Coherent (applyProgressUpdated inner envelope progress) := by
  refine h.execute progress.taskId _ envelope.occurredAt
    (fun task => task.advance progress envelope.occurredAt)
    (fun previous agent => { removeCompletionCounter agent previous.outcome with
      status := if progress.blocker.isSome then .blocked else .running
      activeTaskId := some progress.taskId }) (fun _ => rfl) fun task agent hle _ bucket => ?_
  have := removeCompletionCounter_counter hle bucket
  cases bucket <;> exact this

theorem applyReflectionRecorded (h : Coherent inner) (envelope : EventEnvelope)
    (reflection : Reflection) : Coherent (applyReflectionRecorded inner envelope reflection) := by
  unfold ControlPlane.applyReflectionRecorded
  refine modifyAgent ?_ _ fun _ bucket => by cases bucket <;> rfl
  split
  · exact h.annotate _ _ _ (fun _ => rfl) fun _ => rfl
  · exact h

theorem applyErrorObserved (h : Coherent inner) (envelope : EventEnvelope)
    (error : ErrorObservation) : Coherent (applyErrorObserved inner envelope error) := by
  unfold ControlPlane.applyErrorObserved
  refine modifyAgent ?_ _ fun _ bucket => by cases bucket <;> rfl
  split
  · exact h.annotate _ _ _ (fun _ => rfl) fun _ => rfl
  · exact h

theorem applyTaskCompleted (h : Coherent inner) (envelope : EventEnvelope)
    (completed : TaskCompleted) : Coherent (applyTaskCompleted inner envelope completed) := by
  refine h.execute completed.taskId _ envelope.occurredAt
    (fun task => task.complete completed envelope.occurredAt)
    (fun previous agent => reconcileCompletionCounters { agent with activeTaskId := none }
      previous.outcome completed.outcome) (fun _ => rfl) fun task agent hle room bucket => ?_
  have hcounter : ∀ bucket, AgentState.counter { agent with activeTaskId := none } bucket =
      agent.counter bucket := fun bucket => by cases bucket <;> rfl
  have := reconcileCompletionCounters_counter { agent with activeTaskId := none }
    (fun bucket => (hle bucket).trans_eq (hcounter bucket).symm)
    (fun bucket => by rw [hcounter]; exact room bucket) bucket
  rwa [hcounter] at this

theorem applyEvent (h : Coherent inner) (envelope : EventEnvelope) :
    Coherent (applyEvent inner envelope) := by
  have htouched := (h.ensureAgent envelope).modifyAgent envelope.agent.agentId
    (f := touchAgent envelope) fun _ bucket => by cases bucket <;> rfl
  unfold ControlPlane.applyEvent
  dsimp only
  cases envelope.event with
  | agentRegistered registration =>
    exact htouched.modifyAgent _ fun _ bucket => by cases bucket <;> rfl
  | heartbeat heartbeat => exact htouched.modifyAgent _ fun _ bucket => by cases bucket <;> rfl
  | goalDeclared goal => exact htouched.applyGoalDeclared envelope goal
  | taskCreated task => exact htouched.applyTaskCreated envelope task
  | taskStarted started => exact htouched.applyTaskStarted envelope started
  | progressUpdated progress => exact htouched.applyProgressUpdated envelope progress
  | reflectionRecorded reflection => exact htouched.applyReflectionRecorded envelope reflection
  | lessonLearned lesson => exact htouched.congr rfl rfl
  | errorObserved error => exact htouched.applyErrorObserved envelope error
  | taskCompleted completed => exact htouched.applyTaskCompleted envelope completed
  | agentStatusChanged change =>
    exact htouched.modifyAgent _ fun _ bucket => by cases bucket <;> rfl

theorem step (h : Coherent inner) (op : StoreOp) : Coherent (inner.step op) := by
  cases op with
  | recordRejection transport => exact h.congr rfl rfl
  | ingest event transport receivedAt =>
    change Coherent (ControlPlane.ingest inner event transport receivedAt).1
    unfold ControlPlane.ingest
    split
    · exact h.congr rfl rfl
    · dsimp only
      split
      · exact h.congr rfl rfl
      · have hgot : Coherent { inner with
            seenEventIds := (LruCache.get inner.seenEventIds event.eventId).2 } := h.congr rfl rfl
        exact (hgot.applyEvent event).congr rfl rfl

theorem run (cache : CacheConfig) (startedAt : DateTime) (ops : List StoreOp) :
    Coherent (run cache startedAt ops : StoreInner C) :=
  run_induction (.start cache startedAt) (fun _ op h => h.step op) ops

end Coherent

def ExactSub (sub : Nat → Nat → Nat) : Prop := ∀ a b, b ≤ a → sub a b = a - b

section Exact

variable {inner : StoreInner C} {sub : Nat → Nat → Nat}

theorem removeCompletionCounter_exact (hs : ExactSub sub) {agent : AgentState}
    {outcome : Option TaskOutcome} (h : ∀ bucket, weight outcome bucket ≤ agent.counter bucket) :
    @removeCompletionCounter ⟨sub⟩ agent outcome = removeCompletionCounter agent outcome := by
  cases outcome with
  | none => rfl
  | some outcome =>
    have hb := h (completionBucket outcome)
    rw [weight_some, if_pos rfl] at hb
    unfold removeCompletionCounter
    cases ho : completionBucket outcome with
    | completed =>
      rw [ho] at hb
      have : sub agent.completedTasks 1 = agent.completedTasks - 1 := hs _ _ hb
      simp only [Option.map_some, ho, CounterArith.sub, this]
    | failed =>
      rw [ho] at hb
      have : sub agent.failedTasks 1 = agent.failedTasks - 1 := hs _ _ hb
      simp only [Option.map_some, ho, CounterArith.sub, this]

theorem reconcileCompletionCounters_exact (hs : ExactSub sub) {agent : AgentState}
    {previous : Option TaskOutcome} (current : TaskOutcome)
    (h : ∀ bucket, weight previous bucket ≤ agent.counter bucket) :
    @reconcileCompletionCounters ⟨sub⟩ agent previous current =
      reconcileCompletionCounters agent previous current := by
  unfold reconcileCompletionCounters
  rw [removeCompletionCounter_exact hs h]

theorem insertTask_exact (hs : ExactSub sub) (h : Coherent inner) {key : ScopedId}
    (hk : peek inner.tasks key = none) (task : TaskState) :
    @insertTask C _ ⟨sub⟩ inner key task = insertTask inner key task := by
  unfold insertTask
  rw [pushWithEviction_of_none hk]
  cases hd : (push inner.tasks key task).2 with
  | none => rfl
  | some evicted =>
    have hpeek := (LruCache.push_displaced hk hd).2.1
    have hcongr := LruCache.modify_congr (c := inner.agents) (k := evicted.2.agentId)
      (f := fun agent => @removeCompletionCounter ⟨sub⟩ agent evicted.2.outcome)
      (g := fun agent => removeCompletionCounter agent evicted.2.outcome)
      fun agent hagent =>
        removeCompletionCounter_exact hs (h.weight_le hpeek (h.owned hpeek ▸ hagent))
    simp only [Option.map_some, hcongr]

theorem ensureTask_exact (hs : ExactSub sub) (h : Coherent inner) (taskId agentId : String)
    (occurredAt : DateTime) :
    @ensureTask C _ ⟨sub⟩ inner taskId agentId occurredAt =
      ensureTask inner taskId agentId occurredAt := by
  unfold ensureTask
  dsimp only
  split
  · rfl
  · next hk =>
    refine insertTask_exact hs h ?_ _
    simpa using hk

theorem executed_exact (h : Coherent inner) (taskId agentId : String) (occurredAt : DateTime)
    (update : TaskState → TaskState) {f g : TaskState → AgentState → AgentState}
    (hfg : ∀ task agent, (∀ bucket, weight task.outcome bucket ≤ agent.counter bucket) →
      f task agent = g task agent) :
    let written := writeTask (ensureTask inner taskId agentId occurredAt)
      ⟨agentId, taskId⟩ occurredAt update
    (match written.2 with
      | some previous => written.1.modifyAgent agentId (f previous)
      | none => written.1) =
    (match written.2 with
      | some previous => written.1.modifyAgent agentId (g previous)
      | none => written.1) := by
  have hensured := h.ensureTask taskId agentId occurredAt
  have hpeek := peek_ensureTask_self inner taskId agentId occurredAt
  obtain ⟨write, hw, heq⟩ := writeTask_cases _ _ occurredAt update hpeek
  generalize (peek inner.tasks ⟨agentId, taskId⟩).getD _ = task at hpeek hw heq
  dsimp only
  rw [heq]
  by_cases hle : task.updatedAt ≤ occurredAt
  · have hcongr := LruCache.modify_congr (c := (ensureTask inner taskId agentId occurredAt).agents)
      (k := agentId) (f := f task) (g := g task)
      fun agent hagent => hfg _ _ (hensured.weight_le hpeek hagent)
    simp only [if_pos hle, StoreInner.modifyAgent, hcongr]
  · rw [if_neg hle]

theorem applyEvent_exact (hs : ExactSub sub) (h : Coherent inner) (envelope : EventEnvelope) :
    @applyEvent C _ ⟨sub⟩ inner envelope = applyEvent inner envelope := by
  have htouched := (h.ensureAgent envelope).modifyAgent envelope.agent.agentId
    (f := touchAgent envelope) fun _ bucket => by cases bucket <;> rfl
  have hensure := fun taskId => ensureTask_exact hs htouched taskId envelope.agent.agentId
    envelope.occurredAt
  unfold applyEvent
  dsimp only
  cases envelope.event with
  | taskCreated spec =>
    simp only [applyTaskCreated]
    split
    · rfl
    · next hk =>
      exact insertTask_exact hs htouched (LruCache.peek_of_getMut_none hk) _
  | taskStarted started =>
    simp only [applyTaskStarted, hensure]
    exact executed_exact htouched _ _ _ _ fun task agent hle => by
      rw [removeCompletionCounter_exact hs hle]
  | progressUpdated progress =>
    simp only [applyProgressUpdated, hensure]
    exact executed_exact htouched _ _ _ _ fun task agent hle => by
      rw [removeCompletionCounter_exact hs hle]
  | reflectionRecorded reflection => simp only [applyReflectionRecorded, hensure]
  | errorObserved error => simp only [applyErrorObserved, hensure]
  | taskCompleted completed =>
    simp only [applyTaskCompleted, hensure]
    refine executed_exact htouched _ _ _ _ fun task agent hle => ?_
    exact reconcileCompletionCounters_exact hs completed.outcome fun bucket =>
      (hle bucket).trans_eq (by cases bucket <;> rfl)
  | _ => rfl

theorem step_exact (hs : ExactSub sub) (h : Coherent inner) (op : StoreOp) :
    @StoreInner.step C _ ⟨sub⟩ inner op = inner.step op := by
  cases op with
  | recordRejection transport => rfl
  | ingest event transport receivedAt =>
    change (@ingest C _ ⟨sub⟩ inner event transport receivedAt).1 =
      (ingest inner event transport receivedAt).1
    have hgot : Coherent { inner with
      seenEventIds := (LruCache.get inner.seenEventIds event.eventId).2 } := h.congr rfl rfl
    simp only [ingest, accept, applyEvent_exact hs hgot]

theorem run_exact (hs : ExactSub sub) (cache : CacheConfig) (startedAt : DateTime)
    (ops : List StoreOp) :
    @run C _ ⟨sub⟩ cache startedAt ops = run cache startedAt ops := by
  induction ops using List.reverseRecOn with
  | nil => rfl
  | append_singleton ops op ih =>
    rw [@run_concat C _ ⟨sub⟩, run_concat, ih, step_exact hs (.run cache startedAt ops)]

end Exact

omit [LawfulLruCache C] in
theorem counter_eq_countP (inner : StoreInner C) (agentId : String) :
    bucketCount inner agentId .completed =
        (iter inner.tasks).countP (fun e => e.2.agentId = agentId ∧
          (e.2.outcome = some .succeeded ∨ e.2.outcome = some .partially)) ∧
      bucketCount inner agentId .failed =
        (iter inner.tasks).countP (fun e => e.2.agentId = agentId ∧
          (e.2.outcome = some .failed ∨ e.2.outcome = some .canceled)) := by
  constructor <;> refine List.countP_congr fun e _ => ?_ <;>
    cases ho : e.2.outcome with
    | none => simp [inBucket, ho]
    | some outcome => cases outcome <;> simp [inBucket, ho, completionBucket]

/-- The completion counters of a retained agent are exact after every run, and none of the
subtractions that maintain them clips at zero. -/
theorem completion_counters_exact (cache : CacheConfig) (startedAt : DateTime)
    (ops : List StoreOp) :
    (∀ agentId agent, peek (run cache startedAt ops : StoreInner C).agents agentId = some agent →
      agent.completedTasks = (iter (run cache startedAt ops : StoreInner C).tasks).countP
        (fun e => e.2.agentId = agentId ∧
          (e.2.outcome = some .succeeded ∨ e.2.outcome = some .partially)) ∧
      agent.failedTasks = (iter (run cache startedAt ops : StoreInner C).tasks).countP
        (fun e => e.2.agentId = agentId ∧
          (e.2.outcome = some .failed ∨ e.2.outcome = some .canceled))) ∧
    ∀ sub : Nat → Nat → Nat, (∀ a b, b ≤ a → sub a b = a - b) →
      @run C _ ⟨sub⟩ cache startedAt ops = run cache startedAt ops := by
  refine ⟨fun agentId agent h => ?_, fun sub hs => run_exact hs cache startedAt ops⟩
  have hcounted := (Coherent.run cache startedAt ops).counted h
  rw [← (counter_eq_countP _ agentId).1, ← (counter_eq_countP _ agentId).2]
  exact ⟨hcounted .completed, hcounted .failed⟩

end Store

/-- Three completions in a cache of two tasks: the first task is evicted, and the second
is reopened before it succeeds again. -/
theorem completion_counters_exact_evicted :
    ∃ agent,
      peek (run Sample.cache (Sample.instant 0)
        [Sample.ingestAt 1 1 (Sample.completed "a" .succeeded),
          Sample.ingestAt 2 2 (Sample.completed "b" .succeeded),
          Sample.ingestAt 3 3 (Sample.completed "c" .failed),
          Sample.ingestAt 4 4 (Sample.started "b"),
          Sample.ingestAt 5 5 (Sample.completed "b" .partially)] :
        StoreInner RecencyCache).agents "worker" = some agent ∧
      agent.completedTasks = 1 ∧ agent.failedTasks = 1 := by
  refine Exists.imp (fun agent h => ⟨h, ?_⟩) (Option.isSome_iff_exists.mp ?_)
  · have hexact := (completion_counters_exact Sample.cache (Sample.instant 0) _).1 _ _ h
    rw [hexact.1, hexact.2]
    exact ⟨by decide, by decide⟩
  · decide

end ControlPlane
