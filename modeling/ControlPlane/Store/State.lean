import ControlPlane.Lib.LruCache
import ControlPlane.Protocol.Event

/-! The bounded projections of the store. -/

namespace ControlPlane

structure ScopedId where
  agentId : String
  entityId : String
  deriving DecidableEq, Repr

inductive TaskStatus
  | pending
  | running
  | blocked
  | succeeded
  | failed
  | canceled
  | partially
  deriving DecidableEq, Repr

structure AgentState where
  agent : AgentRef
  displayName : String
  capabilities : List String
  metadata : BTreeMap String String
  status : AgentStatus
  sessionId : Option String
  currentGoalId : Option String
  activeTaskId : Option String
  registeredAt : DateTime
  lastSeenAt : DateTime
  completedTasks : Nat
  failedTasks : Nat
  latestReflection : Option Reflection
  latestError : Option ErrorObservation

structure GoalState where
  goal : Goal
  agentId : String
  declaredAt : DateTime
  deriving DecidableEq, Repr

structure TaskState where
  task : TaskSpec
  agentId : String
  status : TaskStatus
  progress : F32
  attempt : Nat
  planSummary : Option String
  progressSummary : Option String
  blocker : Option String
  nextAction : Option String
  latestReflection : Option Reflection
  outcome : Option TaskOutcome
  completionSummary : Option String
  artifacts : List String
  inferredFromOutOfOrderEvent : Bool
  definitionUpdatedAt : DateTime
  createdAt : DateTime
  startedAt : Option DateTime
  completedAt : Option DateTime
  updatedAt : DateTime
  deriving DecidableEq, Repr

structure LessonState where
  lesson : Lesson
  agentId : String
  learnedAt : DateTime
  observations : Nat
  deriving DecidableEq, Repr

structure EventRecord where
  event : EventEnvelope
  transport : Transport
  receivedAt : DateTime

structure Counters where
  accepted : Nat
  duplicate : Nat
  rejected : Nat
  acceptedByTransport : BTreeMap String Nat
  rejectedByTransport : BTreeMap String Nat

structure EvictionCounters where
  agents : Nat
  goals : Nat
  tasks : Nat
  lessons : Nat
  events : Nat
  idempotency : Nat
  deriving DecidableEq, Repr

/-- Validated capacities: `new_cache` panics on zero and the configuration rejects it. -/
structure CacheConfig where
  agents : NonZeroUsize
  goals : NonZeroUsize
  tasks : NonZeroUsize
  lessons : NonZeroUsize
  events : NonZeroUsize
  idempotency : NonZeroUsize

structure StoreInner (C : Type → Type → Type) where
  agents : C String AgentState
  goals : C ScopedId GoalState
  tasks : C ScopedId TaskState
  lessons : C ScopedId LessonState
  events : C Uuid EventRecord
  seenEventIds : C Uuid Nat
  evictions : EvictionCounters
  counters : Counters
  revision : Nat
  startedAt : DateTime

inductive CompletionBucket
  | completed
  | failed
  deriving DecidableEq, Repr

def completionBucket : TaskOutcome → CompletionBucket
  | .succeeded | .partially => .completed
  | .failed | .canceled => .failed

def TaskState.fromSpec (task : TaskSpec) (agentId : String) (occurredAt : DateTime)
    (inferred : Bool) : TaskState where
  task := task
  agentId := agentId
  status := .pending
  progress := F32.zero
  attempt := 0
  planSummary := none
  progressSummary := none
  blocker := none
  nextAction := none
  latestReflection := none
  outcome := none
  completionSummary := none
  artifacts := []
  inferredFromOutOfOrderEvent := inferred
  definitionUpdatedAt := occurredAt
  createdAt := occurredAt
  startedAt := none
  completedAt := none
  updatedAt := occurredAt

def EvictionCounters.zero : EvictionCounters := ⟨0, 0, 0, 0, 0, 0⟩

def Counters.zero : Counters := ⟨0, 0, 0, ∅, ∅⟩

section Store

variable {C : Type → Type → Type} [LruCache C]

def newCache {K V : Type} [DecidableEq K] (capacity : NonZeroUsize) : C K V :=
  LruCache.new capacity.value

def StoreInner.new (cache : CacheConfig) (startedAt : DateTime) : StoreInner C where
  agents := newCache cache.agents
  goals := newCache cache.goals
  tasks := newCache cache.tasks
  lessons := newCache cache.lessons
  events := newCache cache.events
  seenEventIds := newCache cache.idempotency
  evictions := .zero
  counters := .zero
  revision := 0
  startedAt := startedAt

def pushWithEviction {K V : Type} [DecidableEq K] (cache : C K V) (key : K) (value : V) :
    C K V × Option V :=
  let existed := (LruCache.peek cache key).isSome
  let (cache, displaced) := LruCache.push cache key value
  (cache, if existed then none else displaced.map Prod.snd)

section Push

variable {K V : Type} [DecidableEq K]

theorem pushWithEviction_of_none {cache : C K V} {key : K} (h : LruCache.peek cache key = none)
    (value : V) :
    pushWithEviction cache key value =
      ((LruCache.push cache key value).1, (LruCache.push cache key value).2.map Prod.snd) := by
  simp [pushWithEviction, h]

@[simp] theorem pushWithEviction_fst (cache : C K V) (key : K) (value : V) :
    (pushWithEviction cache key value).1 = (LruCache.push cache key value).1 := rfl

end Push

end Store

def SNAPSHOT_EVENT_LIMIT : Nat := 250

structure CacheStats where
  length : Nat
  capacity : Nat
  evictions : Nat
  deriving DecidableEq, Repr

structure CacheSnapshot where
  agents : CacheStats
  goals : CacheStats
  tasks : CacheStats
  lessons : CacheStats
  events : CacheStats
  idempotency : CacheStats
  deriving DecidableEq, Repr

structure Snapshot where
  generatedAt : DateTime
  startedAt : DateTime
  revision : Nat
  agents : List AgentState
  goals : List GoalState
  tasks : List TaskState
  lessons : List LessonState
  recentEvents : List EventRecord
  caches : CacheSnapshot
  counters : Counters

section Store

variable {C : Type → Type → Type} [LruCache C]

def cacheStats {K V : Type} (cache : C K V) (evictions : Nat) : CacheStats where
  length := LruCache.len cache
  capacity := LruCache.cap cache
  evictions := evictions

def cacheSnapshot (inner : StoreInner C) : CacheSnapshot where
  agents := cacheStats inner.agents inner.evictions.agents
  goals := cacheStats inner.goals inner.evictions.goals
  tasks := cacheStats inner.tasks inner.evictions.tasks
  lessons := cacheStats inner.lessons inner.evictions.lessons
  events := cacheStats inner.events inner.evictions.events
  idempotency := cacheStats inner.seenEventIds inner.evictions.idempotency

def snapshot (inner : StoreInner C) (generatedAt : DateTime) : Snapshot where
  generatedAt := generatedAt
  startedAt := inner.startedAt
  revision := inner.revision
  agents := (LruCache.iter inner.agents).map Prod.snd
  goals := (LruCache.iter inner.goals).map Prod.snd
  tasks := (LruCache.iter inner.tasks).map Prod.snd
  lessons := (LruCache.iter inner.lessons).map Prod.snd
  recentEvents := ((LruCache.iter inner.events).take SNAPSHOT_EVENT_LIMIT).map Prod.snd
  caches := cacheSnapshot inner
  counters := inner.counters

end Store

end ControlPlane
