import ControlPlane.Lib.Check
import ControlPlane.Store.Tasks

/-! The fields of a retained task agree with each other: its blocker with its status, its attempts
with its start, and every time it records with its last update. -/

namespace ControlPlane

open Check (seq_eq_ok_iff guard_eq_ok_iff)
open LruCache (peek)

def F32.InUnitInterval (x : F32) : Prop := x.isFinite ∧ 0 ≤ x.toRat ∧ x.toRat ≤ 1

theorem F32.InUnitInterval.zero : F32.zero.InUnitInterval :=
  ⟨rfl, toRat_zero.ge, toRat_zero.trans_le zero_le_one⟩

theorem F32.InUnitInterval.one : F32.one.InUnitInterval :=
  ⟨rfl, zero_le_one.trans toRat_one.ge, toRat_one.le⟩

theorem inUnitInterval_of_validate {field : String} {value : F32}
    (h : validateUnitInterval field value = .ok ()) : value.InUnitInterval := by
  unfold validateUnitInterval at h
  split at h
  · next hvalue =>
    rw [Bool.and_eq_true, Bool.and_eq_true] at hvalue
    obtain ⟨⟨hfinite, hzero⟩, hone⟩ := hvalue
    refine ⟨hfinite, ?_, ?_⟩
    · exact F32.toRat_zero.symm.trans_le (F32.toRat_le_toRat hzero)
    · exact (F32.toRat_le_toRat hone).trans_eq F32.toRat_one
  · cases h

structure AgentEvent.InRange (event : AgentEvent) : Prop where
  attempt : ∀ started, event = taskStarted started → started.attempt ≠ 0
  progress : ∀ progress, event = progressUpdated progress → progress.progress.InUnitInterval

theorem AgentEvent.inRange_of_validate {event : AgentEvent} (h : event.validate = .ok ()) :
    event.InRange := by
  refine ⟨?_, ?_⟩
  · rintro started rfl
    simp only [validate, seq_eq_ok_iff, guard_eq_ok_iff] at h
    exact h.2.1
  · rintro progress rfl
    simp only [validate, ProgressUpdate.validate, seq_eq_ok_iff] at h
    exact inUnitInterval_of_validate h.2.1

theorem EventEnvelope.validate_event {envelope : EventEnvelope} (h : envelope.validate = .ok ()) :
    envelope.event.validate = .ok () := by
  simp only [EventEnvelope.validate, seq_eq_ok_iff, guard_eq_ok_iff] at h
  exact h.2.2.2.2.2.2.2.2

namespace TaskState

/-- No time the task records is later than `now`. -/
structure DatedBy (task : TaskState) (now : DateTime) : Prop where
  created : task.createdAt ≤ now
  defined : task.definitionUpdatedAt ≤ now
  started : ∀ startedAt, task.startedAt = some startedAt → startedAt ≤ now
  completed : ∀ completedAt, task.completedAt = some completedAt → completedAt ≤ now

structure Consistent (task : TaskState) : Prop where
  blocked : task.blocker.isSome ↔ task.status = .blocked
  progress : task.progress.InUnitInterval
  dated : task.DatedBy task.updatedAt
  attempts : task.attempt = 0 ↔ task.startedAt = none

theorem DatedBy.mono {task : TaskState} {now later : DateTime} (h : task.DatedBy now)
    (hle : now ≤ later) : task.DatedBy later where
  created := h.created.trans hle
  defined := h.defined.trans hle
  started startedAt hs := (h.started startedAt hs).trans hle
  completed completedAt hc := (h.completed completedAt hc).trans hle

namespace Consistent

variable {task : TaskState}

theorem fromSpec (spec : TaskSpec) (agentId : String) (occurredAt : DateTime) (inferred : Bool) :
    (TaskState.fromSpec spec agentId occurredAt inferred).Consistent where
  blocked := by simp [TaskState.fromSpec]
  progress := .zero
  dated := ⟨le_rfl, le_rfl, fun _ h => (by cases h), fun _ h => by cases h⟩
  attempts := iff_of_true rfl rfl

theorem define (h : task.Consistent) (spec : TaskSpec) (agentId : String) (occurredAt : DateTime) :
    (task.define spec agentId occurredAt).Consistent := by
  unfold TaskState.define
  split
  · have hdated := h.dated.mono (le_max_left task.updatedAt occurredAt)
    refine ⟨h.blocked, h.progress, ⟨?_, ?_, hdated.started, hdated.completed⟩, h.attempts⟩
    · exact (min_le_left _ _).trans hdated.created
    · exact le_max_right _ _
  · exact h

theorem start (h : task.Consistent) {started : TaskStarted} (hattempt : started.attempt ≠ 0)
    {occurredAt : DateTime} (hle : task.updatedAt ≤ occurredAt) :
    (task.start started occurredAt).Consistent := by
  have hdated := h.dated.mono hle
  refine ⟨?_, h.progress, ⟨hdated.created, hdated.defined, ?_, ?_⟩, ?_⟩
  · simp [TaskState.start]
  · intro startedAt hs
    exact (Option.some.inj hs).ge
  · intro completedAt hc
    cases hc
  · exact iff_of_false hattempt (Option.some_ne_none _)

theorem advance (h : task.Consistent) {progress : ProgressUpdate}
    (hprogress : progress.progress.InUnitInterval) {occurredAt : DateTime}
    (hle : task.updatedAt ≤ occurredAt) : (task.advance progress occurredAt).Consistent := by
  have hdated := h.dated.mono hle
  refine ⟨?_, hprogress, ⟨hdated.created, hdated.defined, hdated.started, ?_⟩, h.attempts⟩
  · simp only [TaskState.advance]
    cases progress.blocker <;> simp
  · intro completedAt hc
    cases hc

theorem reflect (h : task.Consistent) (reflection : Reflection) {occurredAt : DateTime}
    (hle : task.updatedAt ≤ occurredAt) : (task.reflect reflection occurredAt).Consistent where
  blocked := h.blocked
  progress := h.progress
  dated :=
    have hdated := h.dated.mono hle
    ⟨hdated.created, hdated.defined, hdated.started, hdated.completed⟩
  attempts := h.attempts

theorem fault (h : task.Consistent) (error : ErrorObservation) {occurredAt : DateTime}
    (hle : task.updatedAt ≤ occurredAt) : (task.fault error occurredAt).Consistent where
  blocked := iff_of_true rfl rfl
  progress := h.progress
  dated :=
    have hdated := h.dated.mono hle
    ⟨hdated.created, hdated.defined, hdated.started, hdated.completed⟩
  attempts := h.attempts

theorem complete (h : task.Consistent) (completed : TaskCompleted) {occurredAt : DateTime}
    (hle : task.updatedAt ≤ occurredAt) : (task.complete completed occurredAt).Consistent := by
  have hdated := h.dated.mono hle
  refine ⟨?_, ?_, ⟨hdated.created, hdated.defined, hdated.started, ?_⟩, h.attempts⟩
  · -- no outcome stands for a blocked task
    have hstatus : statusOf completed.outcome ≠ .blocked := by
      cases completed.outcome <;> decide
    exact iff_of_false Bool.false_ne_true hstatus
  · simp only [TaskState.complete]
    split
    · exact .one
    · exact h.progress
  · intro completedAt hc
    exact (Option.some.inj hc).ge

theorem execute (h : task.Consistent) {event : AgentEvent} (hevent : event.InRange)
    {occurredAt : DateTime} (hle : task.updatedAt ≤ occurredAt) :
    (event.execute occurredAt task).Consistent := by
  cases event with
  | taskStarted started => exact h.start (hevent.attempt started rfl) hle
  | progressUpdated progress => exact h.advance (hevent.progress progress rfl) hle
  | reflectionRecorded reflection => exact h.reflect reflection hle
  | errorObserved error => exact h.fault error hle
  | taskCompleted completed => exact h.complete completed hle
  | _ => exact h

end Consistent

end TaskState

theorem EventEnvelope.consistent_taskAfter {envelope : EventEnvelope} {taskId : String}
    {before : Option TaskState} (hevent : envelope.event.InRange)
    (h : ∀ task, before = some task → task.Consistent) :
    (envelope.taskAfter taskId before).Consistent := by
  refine taskAfter_induction h (.fromSpec _ _ _ _) ?_ ?_ ?_
  · intro spec _
    exact .fromSpec _ _ _ _
  · intro spec task _ hbefore
    exact hbefore.define spec _ _
  · intro task _ hbefore hle
    exact hbefore.execute hevent hle

section Store

variable {C : Type → Type → Type} [LruCache C] [LawfulLruCache C]

theorem consistent_step {inner : StoreInner C} {op : StoreOp}
    (h : ∀ key task, peek inner.tasks key = some task → task.Consistent) {key : ScopedId}
    {task : TaskState} (htask : peek (inner.step op).tasks key = some task) : task.Consistent := by
  rcases peek_step_cases htask with hbefore | ⟨event, _, _, taskId, -, hfresh, -, -, rfl⟩
  · exact h key task hbefore
  · have hevent := AgentEvent.inRange_of_validate (EventEnvelope.validate_event hfresh.1)
    exact EventEnvelope.consistent_taskAfter hevent fun task hb => h key task hb

/-- In every state of the store, every retained task has a blocker exactly while it is blocked,
progress within the unit interval, no time later than its last update, and attempt 0 exactly
until it is started. -/
theorem task_consistent (cache : CacheConfig) (startedAt : DateTime) (ops : List StoreOp)
    {key : ScopedId} {task : TaskState}
    (h : peek (run cache startedAt ops : StoreInner C).tasks key = some task) : task.Consistent := by
  have hrun : ∀ key task, peek (run cache startedAt ops : StoreInner C).tasks key = some task →
      task.Consistent := by
    refine run_induction (P := fun inner => ∀ key task, peek inner.tasks key = some task →
      task.Consistent) ?_ (fun _ _ hbefore _ _ => consistent_step hbefore) ops
    intro key task hstart
    simp [StoreInner.new, newCache] at hstart
  exact hrun key task h

end Store

namespace Sample

def faultedLate : List StoreOp :=
  [ingestAt 1 9 (started "a"), ingestAt 2 4 (created "a"), ingestAt 3 12 (faulted "a")]

end Sample

open Sample in
theorem task_consistent_late :
    ∃ task, peek (run cache (instant 0) faultedLate : StoreInner RecencyCache).tasks
        ⟨"worker", "a"⟩ = some task ∧
      task.createdAt = instant 4 ∧ task.updatedAt = instant 12 ∧ task.Consistent := by
  obtain ⟨task, htask, hcreated, hupdated⟩ :
      ∃ task, peek (run cache (instant 0) faultedLate : StoreInner RecencyCache).tasks
          ⟨"worker", "a"⟩ = some task ∧ task.createdAt = instant 4 ∧ task.updatedAt = instant 12 :=
    ⟨_, rfl, rfl, rfl⟩
  exact ⟨task, htask, hcreated, hupdated, task_consistent cache (instant 0) faultedLate htask⟩

end ControlPlane
