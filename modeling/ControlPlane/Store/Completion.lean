import ControlPlane.Metacognition.Analysis
import ControlPlane.Store.Tasks

/-! Status, outcome and progress of the retained tasks agree, until an error is observed on a
completed task. -/

namespace ControlPlane

open LruCache (peek iter)
open Metacognition (isTerminal AnalysisPolicy analyzeWithPolicy)

/-- A terminal status is the one its outcome stands for; a success is complete. -/
structure TaskState.Settled (task : TaskState) : Prop where
  terminal : isTerminal task.status ↔ task.outcome.isSome
  agree : ∀ outcome, task.outcome = some outcome → task.status = statusOf outcome
  complete : task.status = .succeeded → task.progress = F32.one

namespace TaskState.Settled

variable {task : TaskState}

theorem isCompletionMismatch (h : task.Settled) :
    Metacognition.isCompletionMismatch task = false := by
  unfold Metacognition.isCompletionMismatch
  cases ho : task.outcome with
  | none =>
    have hactive : ¬isTerminal task.status := by simp [h.terminal, ho]
    cases hs : task.status <;> simp_all [isTerminal]
  | some outcome =>
    have hs := h.agree outcome ho
    cases outcome with
    | succeeded =>
      rw [hs, h.complete hs]
      exact F32.lt_irrefl _
    | failed => rw [hs]; rfl
    | canceled => rw [hs]; rfl
    | partially => rw [hs]; rfl

theorem fromSpec (spec : TaskSpec) (agentId : String) (occurredAt : DateTime) (inferred : Bool) :
    (TaskState.fromSpec spec agentId occurredAt inferred).Settled where
  terminal := by simp [TaskState.fromSpec, isTerminal]
  agree _ h := by cases h
  complete h := by cases h

theorem congr (h : task.Settled) {task' : TaskState} (hs : task'.status = task.status)
    (ho : task'.outcome = task.outcome) (hp : task'.progress = task.progress) : task'.Settled where
  terminal := by rw [hs, ho, h.terminal]
  agree outcome he := by rw [hs, h.agree outcome (ho ▸ he)]
  complete he := by rw [hp, h.complete (hs ▸ he)]

theorem of_active (hs : ¬isTerminal task.status) (ho : task.outcome = none) : task.Settled where
  terminal := by simp [hs, ho]
  agree outcome he := by
    rw [ho] at he
    cases he
  complete he := by
    rw [he] at hs
    exact absurd rfl hs

theorem define (h : task.Settled) (spec : TaskSpec) (agentId : String) (occurredAt : DateTime) :
    (task.define spec agentId occurredAt).Settled := by
  unfold TaskState.define
  split
  · exact h.congr rfl rfl rfl
  · exact h

theorem complete' (task : TaskState) (completed : TaskCompleted) (occurredAt : DateTime) :
    (task.complete completed occurredAt).Settled where
  terminal := by
    unfold TaskState.complete
    cases completed.outcome <;> simp [statusOf, isTerminal]
  agree outcome he := by
    obtain rfl := Option.some.inj he
    rfl
  complete he := by
    have ho : completed.outcome = .succeeded := by
      cases ho : completed.outcome with
      | succeeded => rfl
      | _ => simp [TaskState.complete, ho, statusOf] at he
    simp [TaskState.complete, ho]

theorem execute (h : task.Settled) {event : AgentEvent}
    (hfault : ∀ error, event = .errorObserved error → task.outcome = none)
    (occurredAt : DateTime) : (event.execute occurredAt task).Settled := by
  cases event with
  | taskStarted started => exact of_active (by simp [AgentEvent.execute, TaskState.start, isTerminal]) rfl
  | progressUpdated progress =>
    refine of_active ?_ rfl
    simp only [AgentEvent.execute, TaskState.advance]
    split <;> simp [isTerminal]
  | reflectionRecorded reflection => exact h.congr rfl rfl rfl
  | errorObserved error =>
    exact of_active (by simp [AgentEvent.execute, TaskState.fault, isTerminal]) (hfault error rfl)
  | taskCompleted completed => exact complete' task completed occurredAt
  | _ => exact h

end TaskState.Settled

def EventEnvelope.FaultsCompleted (envelope : EventEnvelope) (task : TaskState) : Prop :=
  (∃ error, envelope.event = .errorObserved error) ∧ task.outcome.isSome ∧
    task.updatedAt ≤ envelope.occurredAt

theorem EventEnvelope.settled_taskAfter {envelope : EventEnvelope} {taskId : String}
    {before : Option TaskState} (h : ∀ task, before = some task → task.Settled)
    (hfault : ∀ task, before = some task → ¬envelope.FaultsCompleted task) :
    (envelope.taskAfter taskId before).Settled := by
  refine taskAfter_induction h (.fromSpec _ _ _ _) ?_ ?_ ?_
  · intro spec _
    exact .fromSpec _ _ _ _
  · intro spec task _ hbefore
    exact hbefore.define spec _ _
  · intro task htask hbefore hle
    refine hbefore.execute (fun error he => ?_) _
    subst htask
    cases before with
    | none => rfl
    | some task =>
      by_contra ho
      exact hfault task rfl ⟨⟨error, he⟩, Option.isSome_iff_ne_none.mpr ho, hle⟩

section Store

variable {C : Type → Type → Type} [LruCache C] [LawfulLruCache C]

structure CompletionConsistent (inner : StoreInner C) : Prop where
  settled : ∀ key task, peek inner.tasks key = some task → task.Settled
  unreported : ∀ generatedAt policy, ∀ diagnostic ∈
    (analyzeWithPolicy (snapshot inner generatedAt) policy).diagnostics,
    diagnostic.rule ≠ .completionMismatch

theorem CompletionConsistent.of_settled {inner : StoreInner C}
    (h : ∀ key task, peek inner.tasks key = some task → task.Settled) :
    CompletionConsistent inner where
  settled := h
  unreported generatedAt policy diagnostic hd hrule := by
    obtain ⟨task, htask, hreport⟩ := Metacognition.mem_diagnostics.mp hd
    obtain ⟨entry, hentry, rfl⟩ := List.mem_map.mp htask
    have hsettled := h entry.1 entry.2 (LruCache.peek_eq_some_iff.mpr hentry)
    have happlied := Metacognition.reported_iff.mp ⟨diagnostic, hreport, hrule⟩
    simp [Metacognition.applyRule, Metacognition.completionMismatch,
      hsettled.isCompletionMismatch] at happlied

def StoreInner.FaultsCompleted (inner : StoreInner C) (op : StoreOp) : Prop :=
  ∃ event transport receivedAt taskId task, op = .ingest event transport receivedAt ∧
    Fresh inner event ∧ event.event.reducedTask = some taskId ∧
    peek inner.tasks (event.taskKey taskId) = some task ∧ event.FaultsCompleted task

theorem settled_step {inner : StoreInner C} {op : StoreOp}
    (h : ∀ key task, peek inner.tasks key = some task → task.Settled)
    (hop : ¬inner.FaultsCompleted op) :
    ∀ key task, peek (inner.step op).tasks key = some task → task.Settled := by
  intro key task hpeek
  rcases peek_step_cases hpeek with
    hbefore | ⟨event, transport, receivedAt, taskId, rfl, hfresh, ht, rfl, rfl⟩
  · exact h key task hbefore
  · exact EventEnvelope.settled_taskAfter (fun task hb => h _ task hb) fun task hb hf =>
      hop ⟨event, transport, receivedAt, taskId, task, rfl, hfresh, ht, hb, hf⟩

theorem not_settled_of_faults {inner : StoreInner C} {op : StoreOp}
    (hop : inner.FaultsCompleted op) :
    ∃ key task, peek (inner.step op).tasks key = some task ∧ ¬task.Settled := by
  obtain ⟨event, transport, receivedAt, taskId, task, rfl, hfresh, ht, hpeek, hfault⟩ := hop
  obtain ⟨⟨error, he⟩, ho, hle⟩ := hfault
  refine ⟨event.taskKey taskId, task.fault error event.occurredAt, ?_, fun hs => ?_⟩
  · rw [peek_step_fresh hfresh _ _ ht, hpeek]
    simp [EventEnvelope.taskAfter, he, hle, AgentEvent.execute]
  · have := hs.terminal.mpr ho
    simp [TaskState.fault, isTerminal] at this

/-- A run keeps every task settled, and its analyses free of completion mismatches, exactly if
it never accepts an error report on a completed task. -/
theorem completion_consistent_iff (cache : CacheConfig) (startedAt : DateTime)
    (ops : List StoreOp) :
    (∀ done rest, ops = done ++ rest →
      CompletionConsistent (run cache startedAt done : StoreInner C)) ↔
    ∀ done op rest, ops = done ++ op :: rest →
      ¬(run cache startedAt done : StoreInner C).FaultsCompleted op := by
  constructor
  · intro h done op rest hops hop
    obtain ⟨key, task, hpeek, hnot⟩ := not_settled_of_faults hop
    refine hnot ((h (done ++ [op]) rest (by simp [hops])).settled key task ?_)
    rwa [run_concat]
  · intro h done
    have settled : ∀ rest, ops = done ++ rest → ∀ key task,
        peek (run cache startedAt done : StoreInner C).tasks key = some task → task.Settled := by
      induction done using List.reverseRecOn with
      | nil => exact fun _ _ key task hp => by simp [StoreInner.new, newCache] at hp
      | append_singleton done op ih =>
        intro rest hops
        rw [run_concat]
        exact settled_step (ih (op :: rest) (by simp [hops])) (h done op rest (by simp [hops]))
    exact fun rest hops => .of_settled (settled rest hops)

end Store

theorem completion_consistent_completed :
    CompletionConsistent (run Sample.cache (Sample.instant 0)
      [Sample.ingestAt 1 1 (Sample.completed "a" .succeeded)] : StoreInner RecencyCache) := by
  refine (completion_consistent_iff Sample.cache (Sample.instant 0)
    [Sample.ingestAt 1 1 (Sample.completed "a" .succeeded)]).mpr (fun done op rest hops hop => ?_)
    _ [] rfl
  obtain rfl : done = [] := by
    cases done with
    | nil => rfl
    | cons first done => simp at hops
  obtain ⟨event, transport, receivedAt, taskId, task, -, -, -, hpeek, -⟩ := hop
  simp [StoreInner.new, newCache] at hpeek

/-- An error on a completed task leaves it blocked with its outcome, which the analyser reports. -/
theorem completion_mismatch_reached :
    ((analyzeWithPolicy (snapshot (run Sample.cache (Sample.instant 0)
        [Sample.ingestAt 1 1 (Sample.completed "a" .succeeded),
          Sample.ingestAt 2 2 (Sample.faulted "a")] : StoreInner RecencyCache) (Sample.instant 2))
      AnalysisPolicy.default).diagnostics.any fun diagnostic =>
        diagnostic.rule = .completionMismatch) = true := by
  decide

end ControlPlane
