import Mathlib.Data.List.Sort
import ControlPlane.Store.State

/-! What the metacognition engine reports. -/

namespace ControlPlane

def sortBy {α : Type} (cmp : α → α → Ordering) (l : List α) : List α :=
  l.insertionSort fun a b => (cmp a b).isLE

theorem sortBy_perm {α : Type} (cmp : α → α → Ordering) (l : List α) : (sortBy cmp l).Perm l :=
  List.perm_insertionSort _ l

theorem sortBy_pairwise {α : Type} {cmp : α → α → Ordering} (l : List α)
    (total : ∀ a b, (cmp a b).isLE ∨ (cmp b a).isLE)
    (trans : ∀ a b c, (cmp a b).isLE → (cmp b c).isLE → (cmp a c).isLE) :
    (sortBy cmp l).Pairwise fun a b => (cmp a b).isLE := by
  have : Std.Total fun a b => ((cmp a b).isLE : Prop) := ⟨total⟩
  have : IsTrans α fun a b => (cmp a b).isLE := ⟨trans⟩
  exact List.pairwise_insertionSort _ l

@[simp] theorem mem_sortBy {α : Type} {cmp : α → α → Ordering} {l : List α} {a : α} :
    a ∈ sortBy cmp l ↔ a ∈ l := (sortBy_perm cmp l).mem_iff

theorem transCmp_descending {α κ : Type} [Ord κ] [Std.TransOrd κ] (key : α → κ) :
    Std.TransCmp fun left right : α => compare (key right) (key left) :=
  @Std.TransCmp.opposite α (compareOn key) _

theorem sortBy_ordered {α : Type} (cmp : α → α → Ordering) [Std.TransCmp cmp] (l : List α) :
    (sortBy cmp l).Pairwise fun a b => (cmp a b).isLE := by
  refine sortBy_pairwise l (fun a b => ?_) fun _ _ _ => Std.TransCmp.isLE_trans
  rw [@Std.OrientedCmp.eq_swap α cmp _ b a]
  cases cmp a b <;> simp

theorem sortBy_eq_of_perm {α κ : Type} {cmp : α → α → Ordering} [Std.TransCmp cmp] (key : α → κ)
    (hkey : ∀ a b, cmp a b = .eq → key a = key b) {l l' : List α} (hl : (l.map key).Nodup)
    (h : l.Perm l') : sortBy cmp l = sortBy cmp l' := by
  have hperm : (sortBy cmp l).Perm (sortBy cmp l') :=
    (sortBy_perm cmp l).trans (h.trans (sortBy_perm cmp l').symm)
  refine List.Perm.eq_of_pairwise ?_ (sortBy_ordered cmp l) (sortBy_ordered cmp l') hperm
  intro a b ha hb hab hba
  rw [mem_sortBy] at ha hb
  apply List.inj_on_of_nodup_map hl ha (h.mem_iff.mpr hb)
  exact hkey a b (Std.OrientedCmp.isLE_antisymm hab hba)

namespace Metacognition

def MAX_SOURCE_EVENT_IDS : Nat := 12

abbrev TaskKey := String × String
abbrev GoalKey := String × String
abbrev TaskLookup := BTreeMap TaskKey TaskState
abbrev TaskEventIndex := BTreeMap TaskKey (List EventRecord)

structure AnalysisPolicy where
  staleAfterSeconds : Int
  retryLoopAttempts : Nat
  lowConfidenceThreshold : F32
  deriving DecidableEq, Repr

namespace AnalysisPolicy

/-- The default threshold is the float written `0.45`. -/
def default : AnalysisPolicy := ⟨15 * 60, 3, ⟨0x3EE66666⟩⟩

def normalized (policy : AnalysisPolicy) : AnalysisPolicy where
  staleAfterSeconds := max policy.staleAfterSeconds 1
  retryLoopAttempts := max policy.retryLoopAttempts 2
  lowConfidenceThreshold :=
    if policy.lowConfidenceThreshold.isFinite then
      policy.lowConfidenceThreshold.clamp F32.zero F32.one
    else default.lowConfidenceThreshold

end AnalysisPolicy

inductive DiagnosticSeverity
  | info
  | warning
  | critical
  deriving DecidableEq, Repr

def DiagnosticSeverity.rank : DiagnosticSeverity → Nat
  | info => 1
  | warning => 2
  | critical => 3

inductive DiagnosticRule
  | stalledTask
  | retryLoop
  | blockedDependency
  | orphanDependency
  | dependencyCycle
  | orphanGoal
  | missingEvidence
  | lowConfidence
  | missingNextAction
  | completionMismatch
  deriving DecidableEq, Repr

def DiagnosticRule.asStr : DiagnosticRule → String
  | stalledTask => "stalled_task"
  | retryLoop => "retry_loop"
  | blockedDependency => "blocked_dependency"
  | orphanDependency => "orphan_dependency"
  | dependencyCycle => "dependency_cycle"
  | orphanGoal => "orphan_goal"
  | missingEvidence => "missing_evidence"
  | lowConfidence => "low_confidence"
  | missingNextAction => "missing_next_action"
  | completionMismatch => "completion_mismatch"

structure Diagnostic where
  diagnosticId : String
  rule : DiagnosticRule
  severity : DiagnosticSeverity
  agentId : String
  goalId : Option String
  taskId : Option String
  summary : String
  explanation : String
  recommendedAction : Option String
  sourceEventIds : List Uuid
  sourceEventsRetained : Bool

structure TaskAnalysis where
  agentId : String
  taskId : String
  goalId : Option String
  status : TaskStatus
  selfReportedProgress : F32
  evidenceBackedProgress : F32
  confidence : Option F32
  evidenceCount : Nat
  attempt : Nat
  staleForSeconds : Int
  blockerAgeSeconds : Option Int
  unresolvedDependencies : List String
  missingDependencies : List String
  onCriticalPath : Bool
  diagnosticIds : List String
  sourceEventIds : List Uuid
  sourceEventsRetained : Bool

structure GoalAnalysis where
  agentId : String
  goalId : String
  title : String
  successCriteriaCount : Nat
  totalTasks : Nat
  activeTasks : Nat
  blockedTasks : Nat
  completedTasks : Nat
  stalledTasks : Nat
  selfReportedProgress : F32
  evidenceBackedProgress : F32
  evidenceCoverage : F32
  criticalPathRemaining : Option Nat
  criticalPathTaskIds : List String
  diagnosticIds : List String
  dataQualityWarnings : List String

structure MetacognitionSummary where
  totalGoals : Nat
  totalTasks : Nat
  activeTasks : Nat
  blockedTasks : Nat
  stalledTasks : Nat
  retryLoops : Nat
  criticalDiagnostics : Nat
  warningDiagnostics : Nat
  infoDiagnostics : Nat
  selfReportedProgress : F32
  evidenceBackedProgress : F32
  evidenceCoverage : F32

structure MetacognitionSnapshot where
  generatedAt : DateTime
  revision : Nat
  policy : AnalysisPolicy
  summary : MetacognitionSummary
  goals : List GoalAnalysis
  tasks : List TaskAnalysis
  diagnostics : List Diagnostic

end Metacognition

end ControlPlane
