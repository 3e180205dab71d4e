import ControlPlane.Lib.FairShare
import ControlPlane.Metacognition.Analysis

/-! The planner: every task of an analysis is given a place, and the candidates for dispatch
share the configured capacity. -/

namespace ControlPlane.Coordination

open Metacognition (TaskKey AnalysisPolicy Diagnostic DiagnosticRule DiagnosticSeverity TaskAnalysis
  MetacognitionSnapshot analyzeWithPolicy lookupTasks)

def MAX_SOURCE_EVENT_IDS : Nat := 16

structure PlanningPolicy where
  maxAssignments : Nat
  maxAssignmentsPerAgent : Nat
  maxInterventions : Nat
  maxHolds : Nat
  deriving DecidableEq, Repr

inductive PlanningError
  | invalidPolicy (name : String)
  deriving DecidableEq, Repr

def PlanningError.message : PlanningError → String
  | invalidPolicy name => name ++ " must be greater than zero"

namespace PlanningPolicy

def default : PlanningPolicy := ⟨16, 2, 32, 64⟩

def bounds (policy : PlanningPolicy) : List (String × Nat) :=
  [("maximum assignments", policy.maxAssignments),
    ("maximum assignments per agent", policy.maxAssignmentsPerAgent),
    ("maximum interventions", policy.maxInterventions),
    ("maximum holds", policy.maxHolds)]

def validate (policy : PlanningPolicy) : Except PlanningError PlanningPolicy :=
  match policy.bounds.find? fun bound => bound.2 = 0 with
  | some bound => .error (.invalidPolicy bound.1)
  | none => .ok policy

end PlanningPolicy

inductive AssignmentAction
  | startTask
  | continueTask
  | resolveBlocker
  | requestCheckpoint
  | changeStrategy
  | gatherEvidence
  | defineNextAction
  deriving DecidableEq, Repr

namespace AssignmentAction

def asStr : AssignmentAction → String
  | startTask => "start_task"
  | continueTask => "continue_task"
  | resolveBlocker => "resolve_blocker"
  | requestCheckpoint => "request_checkpoint"
  | changeStrategy => "change_strategy"
  | gatherEvidence => "gather_evidence"
  | defineNextAction => "define_next_action"

def basePriority : AssignmentAction → Nat
  | changeStrategy => 900
  | requestCheckpoint => 850
  | resolveBlocker => 800
  | gatherEvidence => 700
  | defineNextAction => 650
  | startTask => 600
  | continueTask => 500

end AssignmentAction

inductive InterventionKind
  | repairDependencyGraph
  | declareMissingGoal
  | reconcileCompletion
  deriving DecidableEq, Repr

namespace InterventionKind

def asStr : InterventionKind → String
  | repairDependencyGraph => "repair_dependency_graph"
  | declareMissingGoal => "declare_missing_goal"
  | reconcileCompletion => "reconcile_completion"

def basePriority : InterventionKind → Nat
  | reconcileCompletion => 1200
  | repairDependencyGraph => 1100
  | declareMissingGoal => 1000

end InterventionKind

inductive HoldReason
  | agentOffline
  | waitingOnDependencies
  | terminal
  | assignmentLimit
  deriving DecidableEq, Repr

structure Assignment where
  assignmentId : String
  agentId : String
  taskId : String
  goalId : Option String
  action : AssignmentAction
  priority : Nat
  rationale : String
  recommendedAction : String
  onCriticalPath : Bool
  diagnosticIds : List String
  sourceEventIds : List Uuid
  sourceEventsRetained : Bool
  deriving DecidableEq, Repr

structure Intervention where
  interventionId : String
  agentId : String
  taskId : String
  goalId : Option String
  kind : InterventionKind
  priority : Nat
  rationale : String
  recommendedAction : String
  diagnosticIds : List String
  sourceEventIds : List Uuid
  sourceEventsRetained : Bool
  deriving DecidableEq, Repr

structure HeldTask where
  agentId : String
  taskId : String
  goalId : Option String
  reason : HoldReason
  explanation : String
  unresolvedDependencies : List String
  diagnosticIds : List String
  sourceEventIds : List Uuid
  sourceEventsRetained : Bool
  deriving DecidableEq, Repr

structure CoordinationSummary where
  totalTasks : Nat
  assignmentCandidates : Nat
  assignments : Nat
  agentsWithAssignments : Nat
  interventions : Nat
  heldTasks : Nat
  suppressedByAssignmentLimits : Nat
  omittedInterventions : Nat
  omittedHolds : Nat
  deriving DecidableEq, Repr

structure CoordinationPlan where
  generatedAt : DateTime
  revision : Nat
  planningPolicy : PlanningPolicy
  analysisPolicy : AnalysisPolicy
  summary : CoordinationSummary
  assignments : List Assignment
  interventions : List Intervention
  heldTasks : List HeldTask

def Assignment.key (assignment : Assignment) : TaskKey := (assignment.agentId, assignment.taskId)
def Intervention.key (intervention : Intervention) : TaskKey :=
  (intervention.agentId, intervention.taskId)
def HeldTask.key (held : HeldTask) : TaskKey := (held.agentId, held.taskId)

def assignmentOrder (left right : Assignment) : Ordering :=
  (compare right.priority left.priority).then <| (compare left.agentId right.agentId).then <|
    (compare left.taskId right.taskId).then (compare left.assignmentId right.assignmentId)

def interventionOrder (left right : Intervention) : Ordering :=
  (compare right.priority left.priority).then <| (compare left.agentId right.agentId).then <|
    (compare left.taskId right.taskId).then (compare left.interventionId right.interventionId)

def holdRank : HoldReason → Nat
  | .agentOffline => 1
  | .waitingOnDependencies => 2
  | .assignmentLimit => 3
  | .terminal => 4

def holdOrder (left right : HeldTask) : Ordering :=
  (compare left.agentId right.agentId).then <| (compare left.taskId right.taskId).then
    (compare (holdRank left.reason) (holdRank right.reason))

def diagnosticsByTask (diagnostics : List Diagnostic) : BTreeMap TaskKey (List Diagnostic) :=
  let result := BTreeMap.collect
    (fun diagnostic => diagnostic.taskId.map fun taskId => (diagnostic.agentId, taskId)) diagnostics
  result.map fun _ values =>
    sortBy (fun left right => compare left.diagnosticId right.diagnosticId) values

section Task

variable (diagnostics : List Diagnostic)

def hasRule (rule : DiagnosticRule) : Bool :=
  diagnostics.any fun diagnostic => diagnostic.rule = rule

def severityBonus : DiagnosticSeverity → Nat
  | .critical => 80
  | .warning => 40
  | .info => 10

def maxSeverityBonus : Nat :=
  ((diagnostics.map fun diagnostic => severityBonus diagnostic.severity).max?).getD 0

def diagnosticIds : List String := diagnostics.map fun diagnostic => diagnostic.diagnosticId

def diagnosticRationale : String :=
  if diagnostics.isEmpty then "No retained diagnostic was attached."
  else String.intercalate " " ((diagnostics.take 3).map fun diagnostic => diagnostic.summary)

def recommendedAction : Option String :=
  diagnostics.findSome? fun diagnostic => diagnostic.recommendedAction

def defaultAction : AssignmentAction → String
  | .startTask => "Start the task and publish an observable plan summary."
  | .continueTask => "Execute the next observable step and publish progress with evidence."
  | .resolveBlocker =>
    "Test the blocker, record the result, and either clear it or revise the plan."
  | .requestCheckpoint =>
    "Publish a checkpoint with current state, blocker, evidence, and one next action."
  | .changeStrategy =>
    "Change a causal variable before another attempt and record the comparison."
  | .gatherEvidence =>
    "Attach a test, artifact, measurement, or independent evidence reference."
  | .defineNextAction => "Record one concrete, observable, and testable next action."

def defaultRepair : InterventionKind → String
  | .repairDependencyGraph => "Repair the dependency graph before dispatching this task."
  | .declareMissingGoal => "Declare the referenced goal or explicitly reassign the task."
  | .reconcileCompletion =>
    "Replay the visible lifecycle events and publish one consistent terminal state."

variable (task : TaskAnalysis)

def sourceEventIds : List Uuid :=
  let values := task.sourceEventIds ++
    diagnostics.flatMap fun diagnostic => diagnostic.sourceEventIds
  ((sortBy (fun left right => compare left.toNat right.toNat) values).eraseReps).take
    MAX_SOURCE_EVENT_IDS

def interventionKind : Option InterventionKind :=
  if hasRule diagnostics .completionMismatch then some .reconcileCompletion
  else if hasRule diagnostics .dependencyCycle || hasRule diagnostics .orphanDependency then
    some .repairDependencyGraph
  else if hasRule diagnostics .orphanGoal then some .declareMissingGoal
  else none

def interventionFor : Option Intervention :=
  (interventionKind diagnostics).map fun kind =>
    { interventionId := kind.asStr ++ ":" ++ task.agentId ++ ":" ++ task.taskId
      agentId := task.agentId
      taskId := task.taskId
      goalId := task.goalId
      kind := kind
      priority := U32.saturatingAdd
        (U32.saturatingAdd kind.basePriority (if task.onCriticalPath then 100 else 0))
        (maxSeverityBonus diagnostics)
      rationale := diagnosticRationale diagnostics
      recommendedAction := (recommendedAction diagnostics).getD (defaultRepair kind)
      diagnosticIds := diagnosticIds diagnostics
      sourceEventIds := sourceEventIds diagnostics task
      sourceEventsRetained := task.sourceEventsRetained }

def assignmentAction : Option AssignmentAction :=
  if hasRule diagnostics .retryLoop then some .changeStrategy
  else if hasRule diagnostics .stalledTask then some .requestCheckpoint
  else if task.status = .blocked then some .resolveBlocker
  else if hasRule diagnostics .lowConfidence || hasRule diagnostics .missingEvidence then
    some .gatherEvidence
  else if hasRule diagnostics .missingNextAction then some .defineNextAction
  else match task.status with
    | .pending => some .startTask
    | .running => some .continueTask
    | .blocked => some .resolveBlocker
    | .succeeded | .failed | .canceled | .partially => none

def assignment (taskState : Option TaskState) (action : AssignmentAction) : Assignment where
  assignmentId := action.asStr ++ ":" ++ task.agentId ++ ":" ++ task.taskId
  agentId := task.agentId
  taskId := task.taskId
  goalId := task.goalId
  action := action
  priority :=
    let priority := U32.saturatingAdd action.basePriority (if task.onCriticalPath then 100 else 0)
    let priority := U32.saturatingAdd priority (maxSeverityBonus diagnostics)
    let priority := U32.saturatingAdd priority (U32.saturatingMul (min task.attempt 10) 5)
    U32.saturatingAdd priority (min (U32.ofI64 (max task.staleForSeconds 0) / 60) 100)
  rationale :=
    if diagnostics.isEmpty then
      match action with
      | .startTask => "The task is pending and all retained dependencies are complete."
      | .continueTask =>
        "The task is active, dependency-safe, and has no higher-severity retained diagnostic."
      | _ => "The retained task state requires an explicit next step."
    else diagnosticRationale diagnostics
  recommendedAction :=
    ((taskState.bind fun state => state.nextAction).or (recommendedAction diagnostics)).getD
      (defaultAction action)
  onCriticalPath := task.onCriticalPath
  diagnosticIds := diagnosticIds diagnostics
  sourceEventIds := sourceEventIds diagnostics task
  sourceEventsRetained := task.sourceEventsRetained

def hold (reason : HoldReason) (explanation : String) : HeldTask where
  agentId := task.agentId
  taskId := task.taskId
  goalId := task.goalId
  reason := reason
  explanation := explanation
  unresolvedDependencies := task.unresolvedDependencies ++ task.missingDependencies
  diagnosticIds := diagnosticIds diagnostics
  sourceEventIds := sourceEventIds diagnostics task
  sourceEventsRetained := task.sourceEventsRetained

end Task

def selectAssignments (candidates : List Assignment) (maximum maximumPerAgent : Nat) :
    List Assignment × List Assignment :=
  let grouped := FairShare.group Assignment.agentId candidates
  let frontPriority (agentId : String) : Nat :=
    (((grouped.getD agentId []).head?).map fun value => value.priority).getD 0
  let agentOrder := sortBy
    (fun left right => (compare (frontPriority right) (frontPriority left)).then (compare left right))
    grouped.keys
  let share := FairShare.fill maximum maximumPerAgent agentOrder (FairShare.start grouped)
  (share.selected, sortBy assignmentOrder (FairShare.waiting share.queues))

/-- Where the loop over the tasks puts one of them. -/
inductive Placement
  | intervene (intervention : Intervention)
  | hold (held : HeldTask)
  | assign (candidate : Assignment)

structure Lookups where
  taskLookup : BTreeMap TaskKey TaskState
  agentStatuses : BTreeMap String AgentStatus
  diagnosticsByTask : BTreeMap TaskKey (List Diagnostic)

def agentStatuses (agents : List AgentState) : BTreeMap String AgentStatus :=
  .ofList (agents.map fun agent => (agent.agent.agentId, agent.status))

def lookups (snapshot : Snapshot) (analysis : MetacognitionSnapshot) : Lookups where
  taskLookup := lookupTasks snapshot.tasks
  agentStatuses := agentStatuses snapshot.agents
  diagnosticsByTask := diagnosticsByTask analysis.diagnostics

def waitingExplanation (task : TaskAnalysis) : String :=
  "The task is waiting on unresolved dependencies: " ++
    String.intercalate ", " (task.unresolvedDependencies ++ task.missingDependencies) ++ "."

def place (lookups : Lookups) (task : TaskAnalysis) : Placement :=
  let key : TaskKey := (task.agentId, task.taskId)
  let taskState := lookups.taskLookup[key]?
  let diagnostics := lookups.diagnosticsByTask.getD key []
  match interventionFor diagnostics task with
  | some intervention => .intervene intervention
  | none =>
    if lookups.agentStatuses[task.agentId]? = some .offline then
      .hold (hold diagnostics task .agentOffline
        "The owning agent is currently offline, so no executable assignment is emitted.")
    else if !task.missingDependencies.isEmpty || !task.unresolvedDependencies.isEmpty then
      .hold (hold diagnostics task .waitingOnDependencies (waitingExplanation task))
    else match assignmentAction diagnostics task with
      | some action => .assign (assignment diagnostics task taskState action)
      | none => .hold (hold diagnostics task .terminal
          "The task is terminal and has no retained diagnostic requiring follow-up.")

section Placed

variable (lookups : Lookups) (task : TaskAnalysis)

def Lookups.diagnostics : List Diagnostic :=
  lookups.diagnosticsByTask.getD (task.agentId, task.taskId) []

structure Open : Prop where
  consistent : interventionKind (lookups.diagnostics task) = none
  online : lookups.agentStatuses[task.agentId]? ≠ some .offline

inductive Placed : Placement → Prop
  | intervene (intervention : Intervention)
    (hfor : interventionFor (lookups.diagnostics task) task = some intervention) :
    Placed (.intervene intervention)
  | offline (explanation : String)
    (hoffline : lookups.agentStatuses[task.agentId]? = some .offline)
    (hconsistent : interventionKind (lookups.diagnostics task) = none) :
    Placed (.hold (hold (lookups.diagnostics task) task .agentOffline explanation))
  | waiting (explanation : String)
    (hwaiting : task.missingDependencies ≠ [] ∨ task.unresolvedDependencies ≠ [])
    (hopen : Open lookups task) :
    Placed (.hold (hold (lookups.diagnostics task) task .waitingOnDependencies explanation))
  | assign (action : AssignmentAction)
    (haction : assignmentAction (lookups.diagnostics task) task = some action)
    (hopen : Open lookups task) (hmissing : task.missingDependencies = [])
    (hunresolved : task.unresolvedDependencies = []) :
    Placed (.assign (assignment (lookups.diagnostics task) task
      lookups.taskLookup[(task.agentId, task.taskId)]? action))
  | ended (explanation : String)
    (haction : assignmentAction (lookups.diagnostics task) task = none)
    (hopen : Open lookups task) :
    Placed (.hold (hold (lookups.diagnostics task) task .terminal explanation))

theorem placed : Placed lookups task (place lookups task) := by
  unfold place
  dsimp only
  split
  · next intervention hfor => exact .intervene intervention hfor
  · next hfor =>
    have hconsistent : interventionKind (lookups.diagnostics task) = none :=
      Option.map_eq_none_iff.1 hfor
    split
    · next hoffline => exact .offline _ hoffline hconsistent
    · next honline =>
      split
      · next hwaiting => exact .waiting _ (by simpa using hwaiting) ⟨hconsistent, honline⟩
      · next hfree =>
        simp only [Bool.not_eq_true', Bool.or_eq_true, not_or, Bool.not_eq_false,
          List.isEmpty_iff] at hfree
        split
        · next action haction =>
          exact .assign action haction ⟨hconsistent, honline⟩ hfree.1 hfree.2
        · next haction => exact .ended _ haction ⟨hconsistent, honline⟩

end Placed

structure Draft where
  assignmentCandidates : List Assignment
  interventions : List Intervention
  heldTasks : List HeldTask

def Draft.add (draft : Draft) : Placement → Draft
  | .intervene intervention => { draft with interventions := draft.interventions ++ [intervention] }
  | .hold held => { draft with heldTasks := draft.heldTasks ++ [held] }
  | .assign candidate =>
    { draft with assignmentCandidates := draft.assignmentCandidates ++ [candidate] }

def draftPlan (snapshot : Snapshot) (analysis : MetacognitionSnapshot) : Draft :=
  let tasks := sortBy
    (fun left right => compare (left.agentId, left.taskId) (right.agentId, right.taskId))
    analysis.tasks
  let draft := tasks.foldl
    (fun (draft : Draft) task => draft.add (place (lookups snapshot analysis) task)) ⟨[], [], []⟩
  { assignmentCandidates := sortBy assignmentOrder draft.assignmentCandidates
    interventions := sortBy interventionOrder draft.interventions
    heldTasks := sortBy holdOrder draft.heldTasks }

def suppressedHold (assignment : Assignment) : HeldTask where
  agentId := assignment.agentId
  taskId := assignment.taskId
  goalId := assignment.goalId
  reason := .assignmentLimit
  explanation :=
    "A higher-priority fair-share assignment consumed the configured planning capacity."
  unresolvedDependencies := []
  diagnosticIds := assignment.diagnosticIds
  sourceEventIds := assignment.sourceEventIds
  sourceEventsRetained := assignment.sourceEventsRetained

/-- The plan after the selection of assignments and before the lists are truncated. -/
structure Arrangement where
  candidateCount : Nat
  suppressedCount : Nat
  assignments : List Assignment
  interventions : List Intervention
  heldTasks : List HeldTask

def arrange (draft : Draft) (policy : PlanningPolicy) : Arrangement :=
  let (assignments, suppressed) := selectAssignments draft.assignmentCandidates
    policy.maxAssignments policy.maxAssignmentsPerAgent
  { candidateCount := draft.assignmentCandidates.length
    suppressedCount := suppressed.length
    assignments := assignments
    interventions := draft.interventions
    heldTasks := sortBy holdOrder (draft.heldTasks ++ suppressed.map suppressedHold) }

def truncatePlan (analysis : MetacognitionSnapshot) (policy : PlanningPolicy)
    (arrangement : Arrangement) : CoordinationPlan :=
  let interventions := arrangement.interventions.take policy.maxInterventions
  let heldTasks := arrangement.heldTasks.take policy.maxHolds
  { generatedAt := analysis.generatedAt
    revision := analysis.revision
    planningPolicy := policy
    analysisPolicy := analysis.policy
    summary :=
      { totalTasks := analysis.tasks.length
        assignmentCandidates := arrangement.candidateCount
        assignments := arrangement.assignments.length
        agentsWithAssignments :=
          (Std.TreeSet.ofList (arrangement.assignments.map Assignment.agentId)).size
        interventions := interventions.length
        heldTasks := heldTasks.length
        suppressedByAssignmentLimits := arrangement.suppressedCount
        omittedInterventions := arrangement.interventions.length - policy.maxInterventions
        omittedHolds := arrangement.heldTasks.length - policy.maxHolds }
    assignments := arrangement.assignments
    interventions := interventions
    heldTasks := heldTasks }

def planFromAnalysis (snapshot : Snapshot) (analysis : MetacognitionSnapshot)
    (policy : PlanningPolicy) : CoordinationPlan :=
  truncatePlan analysis policy (arrange (draftPlan snapshot analysis) policy)

def buildPlanWithPolicy (snapshot : Snapshot) (analysisPolicy : AnalysisPolicy)
    (planningPolicy : PlanningPolicy) : Except PlanningError CoordinationPlan := do
  let planningPolicy ← planningPolicy.validate
  let analysis := analyzeWithPolicy snapshot analysisPolicy
  return planFromAnalysis snapshot analysis planningPolicy

def buildPlan (snapshot : Snapshot) : Except PlanningError CoordinationPlan :=
  buildPlanWithPolicy snapshot .default .default

end ControlPlane.Coordination
