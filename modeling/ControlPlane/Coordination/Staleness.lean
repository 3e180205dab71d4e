import ControlPlane.Coordination.Plan

/-! The priority of an assignment as the sum of its bonuses, and what the bonus for staleness makes
of a task that has not been heard of for very long. -/

namespace ControlPlane.Coordination

open Metacognition (Diagnostic TaskAnalysis ageSeconds)

theorem basePriority_le (action : AssignmentAction) : action.basePriority ≤ 900 := by
  cases action <;> decide

theorem maxSeverityBonus_le (diagnostics : List Diagnostic) : maxSeverityBonus diagnostics ≤ 80 := by
  rw [maxSeverityBonus]
  cases hmax : (diagnostics.map fun diagnostic => severityBonus diagnostic.severity).max? with
  | none => exact Nat.zero_le 80
  | some bonus =>
    obtain ⟨diagnostic, -, rfl⟩ := List.mem_map.1 (List.max?_mem hmax)
    rw [Option.getD_some]
    cases diagnostic.severity <;> decide

def stalenessBonus (staleForSeconds : Int) : Nat :=
  min (U32.ofI64 (max staleForSeconds 0) / 60) 100

def steadyPriority (diagnostics : List Diagnostic) (task : TaskAnalysis)
    (action : AssignmentAction) : Nat :=
  action.basePriority + (if task.onCriticalPath then 100 else 0) + maxSeverityBonus diagnostics +
    min task.attempt 10 * 5

theorem priority_eq (diagnostics : List Diagnostic) (task : TaskAnalysis)
    (taskState : Option TaskState) (action : AssignmentAction) :
    (assignment diagnostics task taskState action).priority =
      steadyPriority diagnostics task action + stalenessBonus task.staleForSeconds := by
  have hbase := basePriority_le action
  have hseverity := maxSeverityBonus_le diagnostics
  have hcritical : (if task.onCriticalPath then 100 else 0) ≤ 100 := by
    split <;> decide
  simp only [assignment, steadyPriority, stalenessBonus, U32.saturatingAdd, U32.saturatingMul]
  omega

theorem stalenessBonus_eq {seconds : Int} (h : 0 ≤ seconds) :
    (stalenessBonus seconds : Int) = min (seconds % 2 ^ 32 / 60) 100 := by
  rw [stalenessBonus, max_eq_left h, U32.ofI64]
  omega

theorem priority_mono_of_lt (diagnostics : List Diagnostic) (task : TaskAnalysis)
    (taskState : Option TaskState) (action : AssignmentAction) {shorter longer : Int}
    (h : 0 ≤ shorter) (hle : shorter ≤ longer) (hlt : longer < 2 ^ 32) :
    (assignment diagnostics { task with staleForSeconds := shorter } taskState action).priority ≤
      (assignment diagnostics { task with staleForSeconds := longer } taskState action).priority := by
  have hshorter := stalenessBonus_eq h
  have hlonger := stalenessBonus_eq (h.trans hle)
  rw [Int.emod_eq_of_lt h (lt_of_le_of_lt hle hlt)] at hshorter
  rw [Int.emod_eq_of_lt (h.trans hle) hlt] at hlonger
  simp only [priority_eq, steadyPriority]
  omega

/-- The priority keeps the order of two staleness values exactly when what the cast leaves of the
longer one reaches the cap of 100 minutes, or is no fewer minutes than is left of the shorter. -/
theorem priority_mono_iff (diagnostics : List Diagnostic) (task : TaskAnalysis)
    (taskState : Option TaskState) (action : AssignmentAction) {shorter longer : Int}
    (h : 0 ≤ shorter) (hle : shorter ≤ longer) :
    (assignment diagnostics { task with staleForSeconds := shorter } taskState action).priority ≤
        (assignment diagnostics { task with staleForSeconds := longer } taskState action).priority ↔
      6000 ≤ longer % 2 ^ 32 ∨ shorter % 2 ^ 32 / 60 ≤ longer % 2 ^ 32 / 60 := by
  have hshorter := stalenessBonus_eq h
  have hlonger := stalenessBonus_eq (h.trans hle)
  simp only [priority_eq, steadyPriority]
  omega

def idleTask : TaskAnalysis where
  agentId := "agent"
  taskId := "task"
  goalId := none
  status := .running
  selfReportedProgress := F32.zero
  evidenceBackedProgress := F32.zero
  confidence := none
  evidenceCount := 0
  attempt := 1
  staleForSeconds := 0
  blockerAgeSeconds := none
  unresolvedDependencies := []
  missingDependencies := []
  onCriticalPath := false
  diagnosticIds := []
  sourceEventIds := []
  sourceEventsRetained := true

theorem priority_mono_minutes :
    (assignment [] { idleTask with staleForSeconds := 60 } none .continueTask).priority ≤
      (assignment [] { idleTask with staleForSeconds := 120 } none .continueTask).priority :=
  (priority_mono_iff [] idleTask none .continueTask (by decide) (by decide)).2 (by decide)

/-- An event of 1889 seen in 2025 is 2 ^ 32 seconds old, and its task ranks below one that is 100
minutes stale. -/
theorem priority_falls_after_wrap :
    ageSeconds ⟨1760000000, 0⟩ ⟨-2534967296, 0⟩ = 2 ^ 32 ∧
    (assignment [] { idleTask with staleForSeconds := 6000 } none .continueTask).priority = 605 ∧
    (assignment [] { idleTask with staleForSeconds := 2 ^ 32 } none .continueTask).priority = 505 := by
  decide

end ControlPlane.Coordination
