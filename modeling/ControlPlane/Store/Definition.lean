import ControlPlane.Lib.Register
import ControlPlane.Store.Commute
import ControlPlane.Store.History

/-! The definition of a task: of the definitions accepted while it is retained, the one with
the greatest time, whatever its executions report in between. -/

namespace ControlPlane

open LruCache (peek)
open Register (newest newest_concat keepNewer_of_le keepNewer_of_lt)

def EventEnvelope.definitionOf (key : ScopedId) (envelope : EventEnvelope) :
    Option (DateTime × TaskSpec) :=
  match envelope.event with
  | .taskCreated spec =>
    if envelope.taskKey spec.taskId = key then some (envelope.occurredAt, spec) else none
  | _ => none

/-- The task holds the newest definition of a history, or the placeholder if there is none. -/
structure TaskState.DefinedBy (taskId : String) (history : List (DateTime × TaskSpec))
    (task : TaskState) : Prop where
  defined : ∀ definedAt spec, newest history = some (definedAt, spec) →
    task.task = spec ∧ task.inferredFromOutOfOrderEvent = false ∧
      task.definitionUpdatedAt = definedAt
  undefined : newest history = none →
    task.task = inferredSpec taskId ∧ task.inferredFromOutOfOrderEvent = true

namespace TaskState.DefinedBy

variable {taskId : String} {history : List (DateTime × TaskSpec)} {task : TaskState}

theorem inferred (taskId agentId : String) (occurredAt : DateTime) :
    (inferredTask taskId agentId occurredAt).DefinedBy taskId [] where
  defined _ _ h := by cases h
  undefined _ := ⟨rfl, rfl⟩

theorem fromSpec (taskId : String) (spec : TaskSpec) (agentId : String) (occurredAt : DateTime) :
    (TaskState.fromSpec spec agentId occurredAt false).DefinedBy taskId [(occurredAt, spec)] where
  defined _ _ h := by
    cases h
    exact ⟨rfl, rfl, rfl⟩
  undefined h := by cases h

theorem congr (h : task.DefinedBy taskId history) {task' : TaskState}
    (htask : task'.task = task.task)
    (hinferred : task'.inferredFromOutOfOrderEvent = task.inferredFromOutOfOrderEvent)
    (hclock : task'.definitionUpdatedAt = task.definitionUpdatedAt) :
    task'.DefinedBy taskId history where
  defined definedAt spec hn := by
    rw [htask, hinferred, hclock]
    exact h.defined definedAt spec hn
  undefined hn := by
    rw [htask, hinferred]
    exact h.undefined hn

theorem define (h : task.DefinedBy taskId history) (spec : TaskSpec) (agentId : String)
    (occurredAt : DateTime) :
    (task.define spec agentId occurredAt).DefinedBy taskId (history ++ [(occurredAt, spec)]) := by
  have replaced : (task.inferredFromOutOfOrderEvent = true ∨
      task.definitionUpdatedAt ≤ occurredAt) →
      newest (history ++ [(occurredAt, spec)]) = some (occurredAt, spec) →
      (task.define spec agentId occurredAt).DefinedBy taskId
        (history ++ [(occurredAt, spec)]) := by
    intro hcurrent hn
    rw [define_of_current hcurrent]
    refine ⟨fun definedAt spec' hn' => ?_, fun hn' => ?_⟩
    · rw [hn] at hn'
      cases hn'
      exact ⟨rfl, rfl, rfl⟩
    · rw [hn] at hn'
      cases hn'
  cases hn : newest history with
  | none =>
    refine replaced (.inl (h.undefined hn).2) ?_
    rw [newest_concat, hn]
    rfl
  | some held =>
    obtain ⟨htask, hinferred, hclock⟩ := h.defined held.1 held.2 hn
    rcases le_or_gt held.1 occurredAt with hle | hlt
    · refine replaced (.inr (hclock.trans_le hle)) ?_
      rw [newest_concat, hn]
      exact keepNewer_of_le hle
    · have houtdated : ¬(task.inferredFromOutOfOrderEvent = true ∨
          task.definitionUpdatedAt ≤ occurredAt) := by
        rw [hinferred, hclock]
        simpa using hlt
      have hkept : newest (history ++ [(occurredAt, spec)]) = newest history := by
        rw [newest_concat, hn]
        exact keepNewer_of_lt hlt
      rw [define_of_outdated houtdated]
      refine ⟨fun definedAt spec' hn' => ?_, fun hn' => ?_⟩
      · rw [hkept] at hn'
        exact h.defined definedAt spec' hn'
      · rw [hkept] at hn'
        exact h.undefined hn'

end TaskState.DefinedBy

theorem definedBy_taskAfter {envelope : EventEnvelope} {taskId : String}
    (ht : envelope.event.reducedTask = some taskId) {history : List (DateTime × TaskSpec)}
    {before : Option TaskState} (hsome : ∀ task, before = some task → task.DefinedBy taskId history)
    (hnone : before = none → history = []) :
    (envelope.taskAfter taskId before).DefinedBy taskId
      (history ++ (envelope.definitionOf (envelope.taskKey taskId)).toList) := by
  by_cases hspec : ∃ spec, envelope.event = .taskCreated spec
  · obtain ⟨spec, hd⟩ := hspec
    obtain rfl : spec.taskId = taskId := by simpa [hd, AgentEvent.reducedTask] using ht
    have hbrought : envelope.definitionOf (envelope.taskKey spec.taskId) =
        some (envelope.occurredAt, spec) := by
      simp only [EventEnvelope.definitionOf, hd, if_true]
    rw [taskAfter_definition hd, hbrought]
    cases before with
    | some task => exact (hsome task rfl).define spec _ _
    | none =>
      rw [hnone rfl]
      exact .fromSpec _ spec _ _
  · have hbrought : envelope.definitionOf (envelope.taskKey taskId) = none := by
      unfold EventEnvelope.definitionOf
      cases hd : envelope.event with
      | taskCreated spec => exact absurd ⟨spec, hd⟩ hspec
      | _ => rfl
    have hexecutes : envelope.event.Executes taskId := ⟨ht, fun spec hd => hspec ⟨spec, hd⟩⟩
    have hstart : (before.getD (inferredTask taskId envelope.agent.agentId
        envelope.occurredAt)).DefinedBy taskId history := by
      cases before with
      | some task => exact hsome task rfl
      | none =>
        rw [hnone rfl]
        exact .inferred _ _ _
    rw [EventEnvelope.taskAfter_executed hexecutes.2, hbrought, Option.toList_none, List.append_nil]
    dsimp only
    split
    · have only := executionOnly hexecutes envelope.occurredAt
        (before.getD (inferredTask taskId envelope.agent.agentId envelope.occurredAt))
      exact hstart.congr only.task only.inferred only.definitionUpdatedAt
    · exact hstart

theorem definitionOf_of_other {envelope : EventEnvelope} {key : ScopedId}
    (hother : ∀ taskId, envelope.event.reducedTask = some taskId → key ≠ envelope.taskKey taskId) :
    envelope.definitionOf key = none := by
  unfold EventEnvelope.definitionOf
  cases he : envelope.event with
  | taskCreated spec => exact if_neg (Ne.symm (hother spec.taskId (by rw [he]; rfl)))
  | _ => rfl

section Store

variable {C : Type → Type → Type} [LruCache C] [CounterArith]

def definitions (key : ScopedId) (inner : StoreInner C) (ops : List StoreOp) :
    List (DateTime × TaskSpec) :=
  Run.emitted (fun inner op => ((inner.acceptedEvent op).bind
    (EventEnvelope.definitionOf key)).toList) StoreInner.step inner ops

variable [LawfulLruCache C] {inner : StoreInner C} {key : ScopedId} {op : StoreOp}

structure Recorded (key : ScopedId) (history : List (DateTime × TaskSpec))
    (inner : StoreInner C) : Prop where
  retained : ∀ task, peek inner.tasks key = some task → task.DefinedBy key.entityId history
  absent : peek inner.tasks key = none → history = []

theorem Recorded.step {history : List (DateTime × TaskSpec)} (h : Recorded key history inner)
    (hkept : (peek (inner.step op).tasks key).isSome) :
    Recorded key (history ++ ((inner.acceptedEvent op).bind
      (EventEnvelope.definitionOf key)).toList) (inner.step op) := by
  refine ⟨fun task htask => ?_, fun hnone => ?_⟩
  · by_cases hnamed : ∃ event taskId, inner.acceptedEvent op = some event ∧
        event.event.reducedTask = some taskId ∧ key = event.taskKey taskId
    · obtain ⟨event, taskId, haccepted, ht, rfl⟩ := hnamed
      rw [peek_step_of_accepted haccepted ht, Option.some.injEq] at htask
      rw [← htask, haccepted]
      exact definedBy_taskAfter ht h.retained h.absent
    · have hother : ∀ event taskId, inner.acceptedEvent op = some event →
          event.event.reducedTask = some taskId → key ≠ event.taskKey taskId :=
        fun event taskId haccepted ht hkey => hnamed ⟨event, taskId, haccepted, ht, hkey⟩
      have hnothing : (inner.acceptedEvent op).bind (EventEnvelope.definitionOf key) = none := by
        rw [Option.bind_eq_none_iff]
        exact fun event haccepted => definitionOf_of_other fun taskId => hother event taskId haccepted
      rw [hnothing, Option.toList_none, List.append_nil]
      exact h.retained task (peek_of_peek_step hother htask)
  · rw [hnone] at hkept
    cases hkept

/-- A task that has been retained since it appeared holds the definition with the greatest time
of those accepted since then, the latest arrival of those with equal times.  It is the
placeholder, and says so, exactly while there is none. -/
theorem definition_is_newest (cache : CacheConfig) (startedAt : DateTime)
    (before since : List StoreOp) (key : ScopedId)
    (habsent : peek (run cache startedAt before : StoreInner C).tasks key = none)
    (hsince : since ≠ []) (hkept : TaskKept key (run cache startedAt before : StoreInner C) since) :
    ∃ task, peek (run cache startedAt (before ++ since) : StoreInner C).tasks key = some task ∧
      ((definitions key (run cache startedAt before : StoreInner C) since = [] ∧
          task.task = inferredSpec key.entityId ∧ task.inferredFromOutOfOrderEvent = true) ∨
        ∃ earlier definedAt later,
          definitions key (run cache startedAt before : StoreInner C) since =
            earlier ++ (definedAt, task.task) :: later ∧
          (∀ definition ∈ earlier, definition.1 ≤ definedAt) ∧
          (∀ definition ∈ later, definition.1 < definedAt) ∧
          task.inferredFromOutOfOrderEvent = false) := by
  have hstart : Recorded key [] (run cache startedAt before : StoreInner C) := by
    refine ⟨fun task htask => ?_, fun _ => rfl⟩
    rw [habsent] at htask
    cases htask
  have hrecorded := Run.invariant_emitted_along (fun _ _ _ h hsome => h.step hsome) hstart hkept
  rw [List.nil_append, ← run_append] at hrecorded
  have hpresent : (peek (run cache startedAt (before ++ since) : StoreInner C).tasks key).isSome := by
    obtain ⟨done, op, rfl⟩ := (List.eq_nil_or_concat since).resolve_left hsince
    rw [List.concat_eq_append] at hkept ⊢
    rw [← List.append_assoc, run_concat, run_append]
    exact (Run.Along.append.1 hkept).2.1
  obtain ⟨task, htask⟩ := Option.isSome_iff_exists.1 hpresent
  have hdefined := hrecorded.retained task htask
  refine ⟨task, htask, ?_⟩
  cases hn : newest (definitions key (run cache startedAt before : StoreInner C) since) with
  | none => exact .inl ⟨Register.newest_eq_none_iff.1 hn, hdefined.undefined hn⟩
  | some held =>
    obtain ⟨hspec, hinferred, -⟩ := hdefined.defined held.1 held.2 hn
    obtain ⟨earlier, later, heq, hearlier, hlater⟩ := Register.newest_eq_some_iff.1 hn
    exact .inr ⟨earlier, held.1, later, by rw [hspec]; exact heq, hearlier, hlater, hinferred⟩

end Store

namespace Sample

def titled (eventId : Uuid) (secs : Int) (title : String) : StoreOp :=
  ingestAt eventId secs (.taskCreated ⟨"a", title, none, [], [], none⟩)

def definedLate : List StoreOp :=
  [ingestAt 1 9 (started "a"), titled 2 5 "second", titled 3 4 "first"]

end Sample

open Sample in
theorem definition_is_newest_late :
    ∃ task, peek (run cache (instant 0) definedLate : StoreInner RecencyCache).tasks
        ⟨"worker", "a"⟩ = some task ∧ task.task.title = "second" := by
  have hkept : TaskKept ⟨"worker", "a"⟩ (run cache (instant 0) [] : StoreInner RecencyCache)
      definedLate := ⟨rfl, rfl, rfl, trivial⟩
  have hdefinitions : definitions ⟨"worker", "a"⟩
      (run cache (instant 0) [] : StoreInner RecencyCache) definedLate =
        [(instant 5, ⟨"a", "second", none, [], [], none⟩),
          (instant 4, ⟨"a", "first", none, [], [], none⟩)] := by
    decide
  obtain ⟨task, htask, hdefined⟩ := definition_is_newest cache (instant 0) [] definedLate
    ⟨"worker", "a"⟩ rfl (by decide) hkept
  refine ⟨task, htask, ?_⟩
  rw [hdefinitions] at hdefined
  rcases hdefined with ⟨hnone, -⟩ | ⟨earlier, definedAt, later, heq, hearlier, hlater, -⟩
  · cases hnone
  · have hnewest := Register.newest_eq_some_iff.2 ⟨earlier, later, heq, hearlier, hlater⟩
    exact congrArg (fun write => (write.map fun w => w.2.title).getD "") hnewest.symm

end ControlPlane
