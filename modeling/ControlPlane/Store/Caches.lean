import ControlPlane.Store.Filed
import ControlPlane.Store.Publish

/-! The six caches over a run: how full they are, and how many entries they have given up. -/

namespace ControlPlane

open LruCache (peek push)

inductive CacheKind
  | agents
  | goals
  | tasks
  | lessons
  | events
  | idempotency
  deriving DecidableEq, Repr

def CacheSnapshot.stats (caches : CacheSnapshot) : CacheKind → CacheStats
  | .agents => caches.agents
  | .goals => caches.goals
  | .tasks => caches.tasks
  | .lessons => caches.lessons
  | .events => caches.events
  | .idempotency => caches.idempotency

def CacheConfig.capacity (cache : CacheConfig) : CacheKind → Nat
  | .agents => cache.agents.value
  | .goals => cache.goals.value
  | .tasks => cache.tasks.value
  | .lessons => cache.lessons.value
  | .events => cache.events.value
  | .idempotency => cache.idempotency.value

/-- What the insertion of an absent key, or none, makes of a cache and its eviction counter. -/
inductive CacheStats.Moves : Bool → CacheStats → CacheStats → Prop
  | kept (stats : CacheStats) : Moves false stats stats
  | grown (stats : CacheStats) : Moves true stats { stats with length := stats.length + 1 }
  | displaced (stats : CacheStats) :
    Moves true stats { stats with evictions := U64.saturatingAdd stats.evictions 1 }

structure CacheStats.Accounted (insertions : Nat) (stats : CacheStats) : Prop where
  length_le : stats.length ≤ insertions
  evictions : stats.evictions = min (insertions - stats.length) U64.MAX

namespace CacheStats

variable {stats stats' stats'' : CacheStats} {inserted : Bool} {insertions : Nat}

theorem Moves.of_eq (h : stats' = stats) : Moves false stats stats' := h ▸ .kept stats

theorem Moves.eq (h : Moves false stats stats') : stats' = stats := by
  cases h
  rfl

theorem Moves.then_kept (h : Moves inserted stats stats') (heq : stats'' = stats') :
    Moves inserted stats stats'' := heq ▸ h

theorem Moves.capacity (h : Moves inserted stats stats') : stats'.capacity = stats.capacity := by
  cases h <;> rfl

theorem Accounted.moves (h : Accounted insertions stats) (hmoves : Moves inserted stats stats') :
    Accounted (insertions + inserted.toNat) stats' := by
  obtain ⟨hle, hevictions⟩ := h
  cases hmoves with
  | kept => exact ⟨hle, hevictions⟩
  | grown =>
    refine ⟨Nat.succ_le_succ hle, ?_⟩
    rw [hevictions, Bool.toNat_true, Nat.add_sub_add_right]
  | displaced =>
    refine ⟨hle.trans (Nat.le_succ _), ?_⟩
    dsimp only
    rw [hevictions, U64.saturatingAdd, Bool.toNat_true]
    omega

end CacheStats

open CacheStats (Moves Accounted)

section Push

variable {C : Type → Type → Type} [LruCache C] {K V : Type}

theorem cacheStats_eq {c c' : C K V} (hlen : LruCache.len c' = LruCache.len c)
    (hcap : LruCache.cap c' = LruCache.cap c) (evictions : Nat) :
    cacheStats c' evictions = cacheStats c evictions := by
  rw [cacheStats, cacheStats, hlen, hcap]

variable [LawfulLruCache C] [DecidableEq K]

theorem moves_pushWithEviction (c : C K V) (k : K) (v : V) (evictions : Nat) :
    Moves (peek c k).isNone (cacheStats c evictions)
      (cacheStats (pushWithEviction c k v).1
        (if (pushWithEviction c k v).2.isSome then U64.saturatingAdd evictions 1 else evictions)) := by
  have hcap : LruCache.cap (push c k v).1 = LruCache.cap c := LawfulLruCache.cap_push c k v
  cases hk : peek c k with
  | some old =>
    have hsome : (peek c k).isSome := by rw [hk]; rfl
    simp only [pushWithEviction, hsome, if_true]
    exact .of_eq (cacheStats_eq (LruCache.len_push_of_some hsome v) hcap evictions)
  | none =>
    have hlen := LruCache.len_push_of_none hk v
    rw [pushWithEviction_of_none hk]
    cases hpushed : (push c k v).2 with
    | none =>
      rw [hpushed] at hlen
      have hgrown : LruCache.len (push c k v).1 = LruCache.len c + 1 := hlen
      have hstats : cacheStats (push c k v).1 evictions =
          { cacheStats c evictions with length := LruCache.len c + 1 } := by
        rw [cacheStats, cacheStats, hgrown, hcap]
      exact (Moves.grown (cacheStats c evictions)).then_kept hstats
    | some e =>
      rw [hpushed] at hlen
      have hsame : LruCache.len (push c k v).1 = LruCache.len c := Nat.succ.inj hlen
      have hstats : cacheStats (push c k v).1 (U64.saturatingAdd evictions 1) =
          { cacheStats c evictions with evictions := U64.saturatingAdd evictions 1 } := by
        rw [cacheStats, cacheStats, hsame, hcap]
      exact (Moves.displaced (cacheStats c evictions)).then_kept hstats

end Push

section Store

variable {C : Type → Type → Type} [LruCache C]

def StoreInner.stats (inner : StoreInner C) (kind : CacheKind) : CacheStats :=
  (cacheSnapshot inner).stats kind

def EventEnvelope.inserts (envelope : EventEnvelope) (inner : StoreInner C) : CacheKind → Bool
  | .agents => (peek inner.agents envelope.agent.agentId).isNone
  | .goals =>
    match envelope.event with
    | .goalDeclared goal => (peek inner.goals ⟨envelope.agent.agentId, goal.goalId⟩).isNone
    | _ => false
  | .tasks =>
    match envelope.event.reducedTask with
    | some taskId => (peek inner.tasks (envelope.taskKey taskId)).isNone
    | none => false
  | .lessons =>
    match envelope.event with
    | .lessonLearned lesson => (peek inner.lessons ⟨envelope.agent.agentId, lesson.lessonId⟩).isNone
    | _ => false
  | .events => (peek inner.events envelope.eventId).isNone
  | .idempotency => (peek inner.seenEventIds envelope.eventId).isNone

variable [CounterArith]

def StoreInner.inserts (kind : CacheKind) (inner : StoreInner C) (op : StoreOp) : Bool :=
  match inner.acceptedEvent op with
  | some event => event.inserts inner kind
  | none => false

def insertions (C : Type → Type → Type) [LruCache C] (cache : CacheConfig) (startedAt : DateTime)
    (ops : List StoreOp) (kind : CacheKind) : Nat :=
  Run.tally (StoreInner.inserts kind) StoreInner.step (StoreInner.new cache startedAt : StoreInner C)
    ops

variable [LawfulLruCache C] (inner : StoreInner C) (kind : CacheKind)

omit [CounterArith] in
@[simp] theorem stats_modifyAgent (agentId : String) (f : AgentState → AgentState) :
    (inner.modifyAgent agentId f).stats kind = inner.stats kind := by
  cases kind with
  | agents => exact cacheStats_eq (LruCache.len_modify _ _ _) (LruCache.cap_modify _ _ _) _
  | _ => rfl

omit [CounterArith] in
theorem stats_writeTasks {key : ScopedId} {task : TaskState}
    {write : TaskState → C ScopedId TaskState}
    (hw : LruCache.getMut inner.tasks key = some (task, write)) (task' : TaskState) :
    StoreInner.stats { inner with tasks := write task' } kind = inner.stats kind := by
  cases kind with
  | tasks => exact cacheStats_eq (LruCache.len_write hw _) (LawfulLruCache.cap_write _ _ hw _) _
  | _ => rfl

omit [CounterArith] in
theorem stats_writeTask (key : ScopedId) (occurredAt : DateTime)
    (update : TaskState → TaskState) :
    (writeTask inner key occurredAt update).1.stats kind = inner.stats kind := by
  unfold writeTask
  split
  · next hw =>
    split
    · exact stats_writeTasks inner kind hw _
    · exact stats_writeTasks inner kind hw _
  · rfl

omit [CounterArith] in
theorem moves_ensureAgent (envelope : EventEnvelope) :
    Moves (kind == .agents && envelope.inserts inner .agents) (inner.stats kind)
      ((ensureAgent inner envelope).stats kind) := by
  rw [EventEnvelope.inserts]
  unfold ensureAgent
  dsimp only
  split
  · next hsome =>
    rw [Option.isNone_eq_false_iff.2 hsome, Bool.and_false]
    exact .kept _
  · cases kind with
    | agents => exact moves_pushWithEviction inner.agents _ _ _
    | _ => exact .kept _

theorem moves_insertTask {key : ScopedId} (h : peek inner.tasks key = none) (task : TaskState) :
    Moves (kind == .tasks) (inner.stats kind) ((insertTask inner key task).stats kind) := by
  have hpushed := moves_pushWithEviction inner.tasks key task inner.evictions.tasks
  rw [h] at hpushed
  unfold insertTask
  dsimp only
  split
  · next evicted he =>
    rw [he] at hpushed
    cases kind with
    | tasks => exact hpushed
    | agents => exact .of_eq (stats_modifyAgent inner .agents _ _)
    | _ => exact .kept _
  · next he =>
    rw [he] at hpushed
    cases kind with
    | tasks => exact hpushed
    | _ => exact .kept _

theorem moves_ensureTask (taskId agentId : String) (occurredAt : DateTime) :
    Moves (kind == .tasks && (peek inner.tasks ⟨agentId, taskId⟩).isNone) (inner.stats kind)
      ((ensureTask inner taskId agentId occurredAt).stats kind) := by
  unfold ensureTask
  dsimp only
  split
  · next hsome =>
    rw [Option.isNone_eq_false_iff.2 hsome, Bool.and_false]
    exact .kept _
  · next hnone =>
    rw [Option.not_isSome_iff_eq_none] at hnone
    rw [hnone]
    exact (Bool.and_true _).symm ▸ moves_insertTask inner kind hnone _

theorem moves_annotate (taskId agentId : String) (occurredAt : DateTime)
    (update : TaskState → TaskState) :
    Moves (kind == .tasks && (peek inner.tasks ⟨agentId, taskId⟩).isNone) (inner.stats kind)
      ((writeTask (ensureTask inner taskId agentId occurredAt) ⟨agentId, taskId⟩ occurredAt
        update).1.stats kind) :=
  (moves_ensureTask inner kind taskId agentId occurredAt).then_kept (stats_writeTask _ kind _ _ _)

theorem moves_executeTask (taskId agentId : String) (occurredAt : DateTime)
    (update : TaskState → TaskState) (f : TaskState → AgentState → AgentState) :
    Moves (kind == .tasks && (peek inner.tasks ⟨agentId, taskId⟩).isNone) (inner.stats kind)
      ((executeTask inner taskId agentId occurredAt update f).stats kind) := by
  refine (moves_annotate inner kind taskId agentId occurredAt update).then_kept ?_
  unfold executeTask
  dsimp only
  split
  · exact stats_modifyAgent _ kind _ _
  · rfl

theorem moves_applyTaskCreated (envelope : EventEnvelope) (spec : TaskSpec) :
    Moves (kind == .tasks && (peek inner.tasks (envelope.taskKey spec.taskId)).isNone)
      (inner.stats kind) ((applyTaskCreated inner envelope spec).stats kind) := by
  rw [EventEnvelope.taskKey]
  unfold applyTaskCreated
  dsimp only
  split
  · next hw =>
    rw [LruCache.peek_of_getMut hw, Option.isNone_some, Bool.and_false]
    exact .of_eq (stats_writeTasks inner kind hw _)
  · next hnone =>
    have habsent := LruCache.peek_of_getMut_none hnone
    rw [habsent, Option.isNone_none, Bool.and_true]
    exact moves_insertTask inner kind habsent _

omit [CounterArith] in
theorem moves_applyGoalDeclared (envelope : EventEnvelope) (goal : Goal) :
    Moves (kind == .goals && (peek inner.goals ⟨envelope.agent.agentId, goal.goalId⟩).isNone)
      (inner.stats kind) ((applyGoalDeclared inner envelope goal).stats kind) := by
  unfold applyGoalDeclared
  dsimp only
  rw [stats_modifyAgent]
  cases kind with
  | goals => exact moves_pushWithEviction inner.goals _ _ _
  | _ => exact .kept _

omit [CounterArith] in
theorem moves_applyLessonLearned (envelope : EventEnvelope) (lesson : Lesson) :
    Moves (kind == .lessons &&
        (peek inner.lessons ⟨envelope.agent.agentId, lesson.lessonId⟩).isNone)
      (inner.stats kind) ((applyLessonLearned inner envelope lesson).stats kind) := by
  unfold applyLessonLearned
  dsimp only
  cases kind with
  | lessons => exact moves_pushWithEviction inner.lessons _ _ _
  | _ => exact .kept _

def EventEnvelope.armInserts (envelope : EventEnvelope) (inner : StoreInner C) : CacheKind → Bool
  | .agents | .events | .idempotency => false
  | kind => envelope.inserts inner kind

section Arm

variable {inner} {kind} {envelope : EventEnvelope}

omit [CounterArith] [LawfulLruCache C]

theorem armInserts_of_declared {goal : Goal} (he : envelope.event = .goalDeclared goal) :
    envelope.armInserts inner kind =
      (kind == .goals && (peek inner.goals ⟨envelope.agent.agentId, goal.goalId⟩).isNone) := by
  cases kind <;> simp [EventEnvelope.armInserts, EventEnvelope.inserts, he, AgentEvent.reducedTask]

theorem armInserts_of_learned {lesson : Lesson} (he : envelope.event = .lessonLearned lesson) :
    envelope.armInserts inner kind =
      (kind == .lessons && (peek inner.lessons ⟨envelope.agent.agentId, lesson.lessonId⟩).isNone) := by
  cases kind <;> simp [EventEnvelope.armInserts, EventEnvelope.inserts, he, AgentEvent.reducedTask]

theorem armInserts_of_reducedTask {taskId : String}
    (ht : envelope.event.reducedTask = some taskId) :
    envelope.armInserts inner kind =
      (kind == .tasks && (peek inner.tasks (envelope.taskKey taskId)).isNone) := by
  cases kind with
  | tasks => simp [EventEnvelope.armInserts, EventEnvelope.inserts, ht]
  | _ =>
    simp only [EventEnvelope.armInserts, EventEnvelope.inserts]
    cases he : envelope.event <;> simp [he, AgentEvent.reducedTask] at ht ⊢

theorem armInserts_of_none (ht : envelope.event.reducedTask = none)
    (hgoal : ∀ goal, envelope.event ≠ .goalDeclared goal)
    (hlesson : ∀ lesson, envelope.event ≠ .lessonLearned lesson) :
    envelope.armInserts inner kind = false := by
  cases kind with
  | goals => simp only [EventEnvelope.armInserts, EventEnvelope.inserts]
  | lessons => simp only [EventEnvelope.armInserts, EventEnvelope.inserts]
  | tasks => simp only [EventEnvelope.armInserts, EventEnvelope.inserts, ht]
  | _ => rfl

end Arm

theorem moves_arm (envelope : EventEnvelope) :
    Moves (envelope.armInserts inner kind)
      (((ensureAgent inner envelope).modifyAgent envelope.agent.agentId (touchAgent envelope)).stats
        kind)
      ((applyEvent inner envelope).stats kind) := by
  let touched := (ensureAgent inner envelope).modifyAgent envelope.agent.agentId (touchAgent envelope)
  have hgoals : touched.goals = inner.goals := ensureAgent_goals inner envelope
  have hlessons : touched.lessons = inner.lessons := ensureAgent_lessons inner envelope
  have htasks : touched.tasks = inner.tasks := ensureAgent_tasks inner envelope
  have hexecuted : ∀ {taskId : String} {after : StoreInner C},
      envelope.event.reducedTask = some taskId →
      Moves (kind == .tasks && (peek touched.tasks ⟨envelope.agent.agentId, taskId⟩).isNone)
        (touched.stats kind) (after.stats kind) →
      Moves (envelope.armInserts inner kind) (touched.stats kind) (after.stats kind) := by
    intro taskId after ht hmoves
    rw [armInserts_of_reducedTask ht, EventEnvelope.taskKey, ← htasks]
    exact hmoves
  unfold applyEvent
  dsimp only
  cases he : envelope.event with
  | goalDeclared goal =>
    rw [armInserts_of_declared he, ← hgoals]
    exact moves_applyGoalDeclared touched kind envelope goal
  | lessonLearned lesson =>
    rw [armInserts_of_learned he, ← hlessons]
    exact moves_applyLessonLearned touched kind envelope lesson
  | taskCreated spec =>
    exact hexecuted (by rw [he]; rfl) (moves_applyTaskCreated touched kind envelope spec)
  | taskStarted started =>
    exact hexecuted (by rw [he]; rfl) (moves_executeTask touched kind _ _ _ _ _)
  | progressUpdated progress =>
    exact hexecuted (by rw [he]; rfl) (moves_executeTask touched kind _ _ _ _ _)
  | taskCompleted completed =>
    exact hexecuted (by rw [he]; rfl) (moves_executeTask touched kind _ _ _ _ _)
  | reflectionRecorded reflection =>
    refine Moves.then_kept ?_ (stats_modifyAgent _ kind _ _)
    cases ht : reflection.taskId with
    | some taskId => exact hexecuted (by rw [he]; exact ht) (moves_annotate touched kind _ _ _ _)
    | none =>
      rw [armInserts_of_none (by rw [he]; exact ht) (by simp [he]) (by simp [he])]
      exact .kept _
  | errorObserved error =>
    refine Moves.then_kept ?_ (stats_modifyAgent _ kind _ _)
    cases ht : error.taskId with
    | some taskId => exact hexecuted (by rw [he]; exact ht) (moves_annotate touched kind _ _ _ _)
    | none =>
      rw [armInserts_of_none (by rw [he]; exact ht) (by simp [he]) (by simp [he])]
      exact .kept _
  | agentRegistered _ | heartbeat _ | agentStatusChanged _ =>
    rw [armInserts_of_none (by rw [he]; rfl) (by simp [he]) (by simp [he])]
    exact .of_eq (stats_modifyAgent _ kind _ _)

theorem moves_accept (envelope : EventEnvelope) (transport : Transport) (receivedAt : DateTime) :
    Moves (envelope.inserts inner kind) (inner.stats kind)
      ((accept inner envelope transport receivedAt).stats kind) := by
  have htouched := (moves_ensureAgent inner kind envelope).then_kept
    (stats_modifyAgent _ kind envelope.agent.agentId (touchAgent envelope))
  have harm := moves_arm inner kind envelope
  have hkept := KeepsEvents.applyEvent inner envelope
  cases kind with
  | agents =>
    rw [← harm.eq] at htouched
    exact htouched
  | goals | tasks | lessons =>
    rw [htouched.eq] at harm
    exact harm
  | events =>
    have hsame : (applyEvent inner envelope).stats .events = inner.stats .events :=
      harm.eq.trans htouched.eq
    rw [← hsame, EventEnvelope.inserts, ← hkept.events]
    exact moves_pushWithEviction (applyEvent inner envelope).events _ _ _
  | idempotency =>
    have hsame : (applyEvent inner envelope).stats .idempotency = inner.stats .idempotency :=
      harm.eq.trans htouched.eq
    rw [← hsame, EventEnvelope.inserts, ← hkept.seen]
    exact moves_pushWithEviction (applyEvent inner envelope).seenEventIds _ _ _

omit [CounterArith] in
theorem stats_window (id : Uuid) :
    StoreInner.stats { inner with seenEventIds := (LruCache.get inner.seenEventIds id).2 } kind =
      inner.stats kind := by
  cases kind with
  | idempotency => exact cacheStats_eq (LruCache.len_get _ _) (LawfulLruCache.cap_get _ _) _
  | _ => rfl

omit [CounterArith] in
theorem inserts_window (envelope : EventEnvelope) (id : Uuid) :
    envelope.inserts { inner with seenEventIds := (LruCache.get inner.seenEventIds id).2 } kind =
      envelope.inserts inner kind := by
  cases kind with
  | idempotency => simp only [EventEnvelope.inserts, LruCache.peek_get]
  | _ => rfl

theorem moves_step (op : StoreOp) :
    Moves (inner.inserts kind op) (inner.stats kind) ((inner.step op).stats kind) := by
  cases op with
  | recordRejection transport =>
    cases kind <;> exact .kept _
  | ingest event transport receivedAt =>
    by_cases hfresh : Fresh inner event
    · obtain ⟨ingested, -, he⟩ := ingest_of_fresh hfresh transport receivedAt
      have hinserts : inner.inserts kind (.ingest event transport receivedAt) =
          event.inserts inner kind := by
        rw [StoreInner.inserts, acceptedEvent_of_fresh hfresh]
      rw [hinserts, StoreInner.step, he, ← stats_window inner kind event.eventId,
        ← inserts_window inner kind event event.eventId]
      exact moves_accept _ kind event transport receivedAt
    · rw [StoreInner.inserts, acceptedEvent_of_not_fresh hfresh, StoreInner.step]
      by_cases hvalid : event.validate = .ok ()
      · have hreplayed : Replayed inner event :=
          ⟨hvalid, Option.isSome_iff_ne_none.2 fun hnone => hfresh ⟨hvalid, hnone⟩⟩
        rw [ingest_of_replayed hreplayed]
        exact .of_eq (stats_window inner kind event.eventId)
      · rw [← EventEnvelope.isValid_iff] at hvalid
        obtain ⟨error, he⟩ := ingest_of_invalid hvalid inner transport receivedAt
        rw [he]
        cases kind <;> exact .kept _

omit [CounterArith] in
theorem length_le_capacity : (inner.stats kind).length ≤ (inner.stats kind).capacity := by
  cases kind <;> exact LawfulLruCache.length_le_cap _

omit [CounterArith] in
theorem stats_new (cache : CacheConfig) (startedAt : DateTime) :
    (StoreInner.new cache startedAt : StoreInner C).stats kind = ⟨0, cache.capacity kind, 0⟩ := by
  cases kind <;>
    simp [StoreInner.stats, cacheSnapshot, CacheSnapshot.stats, cacheStats, StoreInner.new, newCache,
      LruCache.len, LawfulLruCache.iter_new, LawfulLruCache.cap_new, CacheConfig.capacity,
      EvictionCounters.zero]

omit inner in
theorem accounted_run (cache : CacheConfig) (startedAt : DateTime) (ops : List StoreOp) :
    let stats := (run cache startedAt ops : StoreInner C).stats kind
    stats.capacity = cache.capacity kind ∧
      Accounted (insertions C cache startedAt ops kind) stats := by
  rw [insertions, ← Nat.zero_add (Run.tally _ _ _ _)]
  refine Run.invariant_tally (P := fun n (inner : StoreInner C) =>
    (inner.stats kind).capacity = cache.capacity kind ∧ Accounted n (inner.stats kind))
    (fun n inner op h => ?_) ?_ ops
  · have hmoves := moves_step inner kind op
    exact ⟨hmoves.capacity.trans h.1, h.2.moves hmoves⟩
  · rw [stats_new]
    exact ⟨rfl, le_rfl, rfl⟩

omit inner kind in
/-- In every reachable state each cache keeps to its capacity, its counter is exact until it
saturates, and every entry is filed under its own ids; so no snapshot lists an id twice. -/
theorem caches_exact (cache : CacheConfig) (startedAt : DateTime) (ops : List StoreOp) :
    let inner : StoreInner C := run cache startedAt ops
    (∀ kind, (inner.stats kind).capacity = cache.capacity kind ∧
      (inner.stats kind).length ≤ cache.capacity kind ∧
      (inner.stats kind).length ≤ insertions C cache startedAt ops kind ∧
      (inner.stats kind).evictions =
        min (insertions C cache startedAt ops kind - (inner.stats kind).length) U64.MAX) ∧
    inner.Filed ∧ ∀ generatedAt, (snapshot inner generatedAt).Keyed := by
  intro inner
  have hfiled : inner.Filed := filed_run cache startedAt ops
  refine ⟨fun kind => ?_, hfiled, hfiled.keyed⟩
  obtain ⟨hcapacity, hlength, hevictions⟩ := accounted_run (C := C) kind cache startedAt ops
  refine ⟨hcapacity, ?_, hlength, hevictions⟩
  rw [← hcapacity]
  exact length_le_capacity inner kind

end Store

namespace Sample

def threeTasks : List StoreOp :=
  [ingestAt 1 1 (created "a"), ingestAt 2 2 (created "b"), ingestAt 3 3 (created "c")]

end Sample

open Sample in
/-- The third of three tasks drives out the first. -/
theorem caches_exact_three :
    ((run cache (instant 0) threeTasks : StoreInner RecencyCache).stats .tasks).evictions = 1 ∧
      (snapshot (run cache (instant 0) threeTasks : StoreInner RecencyCache) (instant 4)).Keyed := by
  obtain ⟨hcaches, -, hkeyed⟩ := caches_exact (C := RecencyCache) cache (instant 0) threeTasks
  have hlength : ((run cache (instant 0) threeTasks : StoreInner RecencyCache).stats .tasks).length =
      2 := by decide
  have hinserted : insertions RecencyCache cache (instant 0) threeTasks .tasks = 3 := by decide
  obtain ⟨-, -, -, hevictions⟩ := hcaches .tasks
  rw [hlength, hinserted] at hevictions
  exact ⟨hevictions, hkeyed (instant 4)⟩

namespace Sample

def filling (n : Nat) : List StoreOp := (List.range n).map busy

theorem insertions_filling {n : Nat} (hn : n ≤ 2 ^ 65) :
    insertions RecencyCache cache (instant 0) (filling n) .idempotency = n := by
  induction n with
  | zero => rfl
  | succ n ih =>
    have hfresh : Fresh (run cache (instant 0) (filling n) : StoreInner RecencyCache)
        (envelope (eventId n) 1 (created "a")) := fresh_busy hn
    have hinserts : StoreInner.inserts .idempotency
        (run cache (instant 0) (filling n) : StoreInner RecencyCache) (busy n) = true := by
      rw [StoreInner.inserts, busy, ingestAt, acceptedEvent_of_fresh hfresh]
      exact Option.isNone_iff_eq_none.2 hfresh.2
    have hfilling : filling (n + 1) = filling n ++ [busy n] := by
      rw [filling, List.range_succ, List.map_append]
      rfl
    rw [hfilling, insertions, Run.tally_append, ← insertions, ih (Nat.le_of_succ_le hn)]
    change n + ((StoreInner.inserts .idempotency (run cache (instant 0) (filling n) :
      StoreInner RecencyCache) (busy n)).toNat + 0) = n + 1
    rw [hinserts]
    rfl

/-- The window holds two ids, so the counter is at its maximum after 2^64 + 1 events and stays
there. -/
theorem evictions_saturate : ¬∀ ops : List StoreOp,
    ((run cache (instant 0) ops : StoreInner RecencyCache).stats .idempotency).evictions =
      insertions RecencyCache cache (instant 0) ops .idempotency -
        ((run cache (instant 0) ops : StoreInner RecencyCache).stats .idempotency).length := by
  intro h
  have hall := h (filling (2 ^ 64 + 2))
  obtain ⟨hcapacity, -, hevictions⟩ := accounted_run (C := RecencyCache) .idempotency cache
    (instant 0) (filling (2 ^ 64 + 2))
  have hlength := length_le_capacity (run cache (instant 0) (filling (2 ^ 64 + 2)) :
    StoreInner RecencyCache) .idempotency
  have hcap : cache.capacity .idempotency = 2 := rfl
  rw [insertions_filling (by decide)] at hall hevictions
  rw [hcapacity, hcap] at hlength
  have hmax : U64.MAX = 2 ^ 64 - 1 := rfl
  omega

end Sample

end ControlPlane
