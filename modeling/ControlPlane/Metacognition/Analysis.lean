import ControlPlane.Metacognition.Cycle
import ControlPlane.Metacognition.CriticalPath

/-! The analysis of a snapshot: the diagnostics of every task, and what each goal adds up to. -/

namespace ControlPlane.Metacognition

def debugStatus : TaskStatus → String
  | .pending => "Pending"
  | .running => "Running"
  | .blocked => "Blocked"
  | .succeeded => "Succeeded"
  | .failed => "Failed"
  | .canceled => "Canceled"
  | .partially => "Partial"

def debugOutcome : Option TaskOutcome → String
  | none => "None"
  | some .succeeded => "Some(Succeeded)"
  | some .failed => "Some(Failed)"
  | some .canceled => "Some(Canceled)"
  | some .partially => "Some(Partial)"

def percent (value : F32) : String := (value.mul (F32.ofNat 100)).display0

structure TaskFacts where
  sourceEventIds : List Uuid
  staleForSeconds : Int
  blockerAgeSeconds : Option Int
  evidenceCount : Nat
  evidenceBackedProgress : F32
  confidence : Option F32
  unresolvedDependencies : List String
  missingDependencies : List String
  inCycle : Bool
  goalRetained : String → Bool

structure Finding where
  rule : DiagnosticRule
  severity : DiagnosticSeverity
  summary : String
  explanation : String
  recommendedAction : Option String

section Rules

variable (policy : AnalysisPolicy) (task : TaskState) (facts : TaskFacts)

def stalledTask : Option Finding :=
  if isActive task.status ∧ policy.staleAfterSeconds ≤ facts.staleForSeconds then
    some
      { rule := .stalledTask
        severity :=
          if task.status = .blocked ∧
            I64.saturatingMul policy.staleAfterSeconds 2 ≤ facts.staleForSeconds then .critical
          else .warning
        summary := "Task " ++ task.task.taskId ++ " has stopped producing observable progress"
        explanation := "The task is " ++ debugStatus task.status ++
          " and its latest retained state is " ++ toString facts.staleForSeconds ++
          " seconds old; the configured stall threshold is " ++
          toString policy.staleAfterSeconds ++ " seconds."
        recommendedAction := "Request a checkpoint, verify the blocker, or revise the plan." }
  else none

def retryLoop : Option Finding :=
  if policy.retryLoopAttempts ≤ task.attempt ∧
    ¬(task.status = .succeeded ∨ task.status = .canceled) then
    some
      { rule := .retryLoop
        severity := .warning
        summary := "Task " ++ task.task.taskId ++ " is in a repeated-attempt loop"
        explanation := "The task is on attempt " ++ toString task.attempt ++
          ". The retry-loop threshold is " ++ toString policy.retryLoopAttempts ++ " attempts."
        recommendedAction :=
          "Change a causal variable before retrying again and record the result." }
  else none

def blockedDependency : Option Finding :=
  if task.status = .running ∧ facts.unresolvedDependencies ≠ [] then
    some
      { rule := .blockedDependency
        severity := .warning
        summary := "Task " ++ task.task.taskId ++ " is running before its dependencies are complete"
        explanation := "Unresolved dependencies: " ++
          String.intercalate ", " facts.unresolvedDependencies ++ "."
        recommendedAction := "Pause the task or explicitly revise the dependency graph." }
  else none

def orphanDependency : Option Finding :=
  if facts.missingDependencies ≠ [] then
    some
      { rule := .orphanDependency
        severity := .critical
        summary := "Task " ++ task.task.taskId ++ " references unknown dependencies"
        explanation := "Missing scoped task definitions: " ++
          String.intercalate ", " facts.missingDependencies ++ "."
        recommendedAction :=
          "Declare the missing tasks or remove the stale dependency references." }
  else none

def dependencyCycle : Option Finding :=
  if facts.inCycle then
    some
      { rule := .dependencyCycle
        severity := .critical
        summary := "Task " ++ task.task.taskId ++ " participates in a dependency cycle"
        explanation :=
          "The scoped task graph cannot produce a finite critical path while this cycle exists."
        recommendedAction := "Break the cycle by revising at least one dependency edge." }
  else none

def orphanGoal : Option Finding :=
  match task.task.goalId with
  | some goalId =>
    if facts.goalRetained goalId then none
    else some
      { rule := .orphanGoal
        severity := .warning
        summary := "Task " ++ task.task.taskId ++ " references an unknown goal"
        explanation := "Goal " ++ goalId ++
          " has not been retained or was never declared for agent " ++ task.agentId ++ "."
        recommendedAction := "Declare the goal or reassign the task to a retained goal." }
  | none => none

def missingEvidence : Option Finding :=
  if (F32.zero.lt task.progress ∨ isTerminal task.status) ∧ facts.evidenceCount = 0 then
    some
      { rule := .missingEvidence
        severity := if isTerminal task.status then .warning else .info
        summary := "Task " ++ task.task.taskId ++ " has progress without retained evidence"
        explanation := "Self-reported progress is " ++ percent task.progress ++
          "% but no reflection evidence or completion artifact is retained."
        recommendedAction :=
          "Attach a test, artifact, measurement, or other visible evidence reference." }
  else none

def lowConfidence : Option Finding :=
  match facts.confidence with
  | some confidence =>
    if confidence.lt policy.lowConfidenceThreshold then
      some
        { rule := .lowConfidence
          severity := .warning
          summary := "Task " ++ task.task.taskId ++ " has low declared confidence"
          explanation := "Latest declared confidence is " ++ percent confidence ++
            "%; the policy threshold is " ++ percent policy.lowConfidenceThreshold ++ "%."
          recommendedAction :=
            "Gather another independent signal or narrow the claim before acting." }
    else none
  | none => none

def missingNextAction : Option Finding :=
  if isActive task.status ∧ task.nextAction.isNone then
    some
      { rule := .missingNextAction
        severity := if task.status = .blocked then .warning else .info
        summary := "Task " ++ task.task.taskId ++ " has no explicit next action"
        explanation := "The latest retained state does not identify the next observable step."
        recommendedAction := "Record one concrete, testable next action." }
  else none

def isCompletionMismatch : Bool :=
  match task.status, task.outcome with
  | .succeeded, some .succeeded => task.progress.lt F32.one
  | .failed, some .failed => false
  | .canceled, some .canceled => false
  | .partially, some .partially => false
  | status, outcome => isTerminal status || outcome.isSome

def completionMismatch : Option Finding :=
  if isCompletionMismatch task then
    some
      { rule := .completionMismatch
        severity := .critical
        summary := "Task " ++ task.task.taskId ++ " has contradictory completion state"
        explanation := "Status " ++ debugStatus task.status ++ ", outcome " ++
          debugOutcome task.outcome ++ ", and progress " ++ percent task.progress ++
          "% do not form a consistent terminal projection."
        recommendedAction :=
          "Replay the causal events and publish a corrected authoritative state." }
  else none

def applyRule : DiagnosticRule → Option Finding
  | .stalledTask => stalledTask policy task facts
  | .retryLoop => retryLoop policy task
  | .blockedDependency => blockedDependency task facts
  | .orphanDependency => orphanDependency task facts
  | .dependencyCycle => dependencyCycle task facts
  | .orphanGoal => orphanGoal task facts
  | .missingEvidence => missingEvidence task facts
  | .lowConfidence => lowConfidence policy task facts
  | .missingNextAction => missingNextAction task
  | .completionMismatch => completionMismatch task

def ruleOrder : List DiagnosticRule :=
  [.stalledTask, .retryLoop, .blockedDependency, .orphanDependency, .dependencyCycle, .orphanGoal,
    .missingEvidence, .lowConfidence, .missingNextAction, .completionMismatch]

def findings : List Finding := ruleOrder.filterMap (applyRule policy task facts)

variable {policy task facts}

theorem rule_of_applyRule {rule : DiagnosticRule} {finding : Finding}
    (h : applyRule policy task facts rule = some finding) : finding.rule = rule := by
  cases rule <;>
    simp only [applyRule, stalledTask, retryLoop, blockedDependency, orphanDependency,
      dependencyCycle, orphanGoal, missingEvidence, lowConfidence, missingNextAction,
      completionMismatch] at h
  case orphanGoal | lowConfidence =>
    split at h
    · split at h <;> simp_all
      exact h ▸ rfl
    · cases h
  all_goals
    split at h
    · exact (Option.some.inj h) ▸ rfl
    · cases h

theorem mem_findings {finding : Finding} :
    finding ∈ findings policy task facts ↔
      applyRule policy task facts finding.rule = some finding := by
  rw [findings, List.mem_filterMap]
  constructor
  · rintro ⟨rule, -, h⟩
    rwa [rule_of_applyRule h]
  · intro h
    refine ⟨finding.rule, ?_, h⟩
    cases finding.rule <;> decide

end Rules

structure Indexes where
  policy : AnalysisPolicy
  generatedAt : DateTime
  taskLookup : TaskLookup
  goalLookup : BTreeSet GoalKey
  eventsByTask : TaskEventIndex
  cycleMembers : BTreeSet TaskKey
  criticalPathTasks : BTreeSet TaskKey

section Task

variable (indexes : Indexes) (task : TaskState)

def taskFacts : TaskFacts :=
  let staleForSeconds := ageSeconds indexes.generatedAt task.updatedAt
  let evidenceCount := U64.saturatingAdd
    ((task.latestReflection.map fun reflection => reflection.evidence.length).getD 0)
    task.artifacts.length
  let dependencies := dependencyState task indexes.taskLookup
  { sourceEventIds := sourceEventIds indexes.eventsByTask[taskKey task]?
    staleForSeconds := staleForSeconds
    blockerAgeSeconds := task.blocker.map fun _ => staleForSeconds
    evidenceCount := evidenceCount
    evidenceBackedProgress := if 0 < evidenceCount then task.progress else F32.zero
    confidence := task.latestReflection.map fun reflection => reflection.confidence
    unresolvedDependencies := dependencies.1
    missingDependencies := dependencies.2
    inCycle := indexes.cycleMembers.contains (taskKey task)
    goalRetained := fun goalId => indexes.goalLookup.contains (task.agentId, goalId) }

def report (facts : TaskFacts) (finding : Finding) : Diagnostic where
  diagnosticId := diagnosticId finding.rule task.agentId task.task.taskId
  rule := finding.rule
  severity := finding.severity
  agentId := task.agentId
  goalId := task.task.goalId
  taskId := some task.task.taskId
  summary := finding.summary
  explanation := finding.explanation
  recommendedAction := finding.recommendedAction
  sourceEventIds := facts.sourceEventIds
  sourceEventsRetained := !facts.sourceEventIds.isEmpty

def taskDiagnostics : List Diagnostic :=
  let facts := taskFacts indexes task
  (findings indexes.policy task facts).map (report task facts)

def analyzeTask : TaskAnalysis :=
  let facts := taskFacts indexes task
  { agentId := task.agentId
    taskId := task.task.taskId
    goalId := task.task.goalId
    status := task.status
    selfReportedProgress := task.progress
    evidenceBackedProgress := facts.evidenceBackedProgress
    confidence := facts.confidence
    evidenceCount := facts.evidenceCount
    attempt := task.attempt
    staleForSeconds := facts.staleForSeconds
    blockerAgeSeconds := facts.blockerAgeSeconds
    unresolvedDependencies := facts.unresolvedDependencies
    missingDependencies := facts.missingDependencies
    onCriticalPath := indexes.criticalPathTasks.contains (taskKey task)
    diagnosticIds := sortBy compare
      ((taskDiagnostics indexes task).map fun diagnostic => diagnostic.diagnosticId)
    sourceEventIds := facts.sourceEventIds
    sourceEventsRetained := !facts.sourceEventIds.isEmpty }

end Task

def diagnosticOrder (left right : Diagnostic) : Ordering :=
  (compare right.severity.rank left.severity.rank).then
    (compare left.diagnosticId right.diagnosticId)

def analyzeGoal (policy : AnalysisPolicy) (criticalPathRemaining : BTreeMap GoalKey (Option Nat))
    (taskAnalyses : List TaskAnalysis) (diagnostics : List Diagnostic) (goal : GoalState) :
    GoalAnalysis :=
  let goalTasks := taskAnalyses.filter fun task =>
    task.agentId = goal.agentId ∧ task.goalId = some goal.goal.goalId
  let totalTasks := goalTasks.length
  let remaining := criticalPathRemaining[(goal.agentId, goal.goal.goalId)]?.join
  { agentId := goal.agentId
    goalId := goal.goal.goalId
    title := goal.goal.title
    successCriteriaCount := goal.goal.successCriteria.length
    totalTasks := totalTasks
    activeTasks := goalTasks.countP fun task => isActive task.status
    blockedTasks := goalTasks.countP fun task => task.status = .blocked
    completedTasks := goalTasks.countP fun task => isTerminal task.status
    stalledTasks := goalTasks.countP fun task =>
      policy.staleAfterSeconds ≤ task.staleForSeconds ∧ isActive task.status
    selfReportedProgress := mean (goalTasks.map fun task => task.selfReportedProgress)
    evidenceBackedProgress := mean (goalTasks.map fun task => task.evidenceBackedProgress)
    evidenceCoverage := ratio (goalTasks.countP fun task => 0 < task.evidenceCount) totalTasks
    criticalPathRemaining := remaining
    criticalPathTaskIds := sortBy compare
      ((goalTasks.filter fun task => task.onCriticalPath).map fun task => task.taskId)
    diagnosticIds := sortBy compare
      ((diagnostics.filter fun diagnostic =>
        diagnostic.agentId = goal.agentId ∧ diagnostic.goalId = some goal.goal.goalId).map
          fun diagnostic => diagnostic.diagnosticId)
    dataQualityWarnings :=
      (if totalTasks = 0 then
        ["No retained tasks are mapped to this goal, so progress is indeterminate."] else []) ++
      (if remaining.isNone ∧ 0 < totalTasks then
        ["Critical-path progress is unavailable because the task graph contains a cycle."]
        else []) ++
      (if goalTasks.any fun task => !task.missingDependencies.isEmpty then
        ["At least one task references a dependency that is not retained."] else []) }

def summarize (taskAnalyses : List TaskAnalysis) (diagnostics : List Diagnostic)
    (goalAnalyses : List GoalAnalysis) : MetacognitionSummary where
  totalGoals := goalAnalyses.length
  totalTasks := taskAnalyses.length
  activeTasks := taskAnalyses.countP fun task => isActive task.status
  blockedTasks := taskAnalyses.countP fun task => task.status = .blocked
  stalledTasks := diagnostics.countP fun diagnostic => diagnostic.rule = .stalledTask
  retryLoops := diagnostics.countP fun diagnostic => diagnostic.rule = .retryLoop
  criticalDiagnostics := diagnostics.countP fun diagnostic => diagnostic.severity = .critical
  warningDiagnostics := diagnostics.countP fun diagnostic => diagnostic.severity = .warning
  infoDiagnostics := diagnostics.countP fun diagnostic => diagnostic.severity = .info
  selfReportedProgress := mean (taskAnalyses.map fun task => task.selfReportedProgress)
  evidenceBackedProgress := mean (taskAnalyses.map fun task => task.evidenceBackedProgress)
  evidenceCoverage :=
    ratio (taskAnalyses.countP fun task => 0 < task.evidenceCount) taskAnalyses.length

def lookupGoals (goals : List GoalState) : BTreeSet GoalKey :=
  .ofList (goals.map fun goal => (goal.agentId, goal.goal.goalId))

def indexSnapshot (snapshot : Snapshot) (policy : AnalysisPolicy) : Indexes :=
  let taskLookup := lookupTasks snapshot.tasks
  let cycleMembers := dependencyCycleMembers taskLookup
  { policy := policy.normalized
    generatedAt := snapshot.generatedAt
    taskLookup := taskLookup
    goalLookup := lookupGoals snapshot.goals
    eventsByTask := indexTaskEvents snapshot.recentEvents
    cycleMembers := cycleMembers
    criticalPathTasks :=
      (criticalPaths snapshot.tasks cycleMembers (remainingDepths taskLookup cycleMembers)).1 }

def sortedTasks (tasks : List TaskState) : List TaskState :=
  sortBy (fun left right => compare (taskKey left) (taskKey right)) tasks

def analyzeWithPolicy (snapshot : Snapshot) (policy : AnalysisPolicy) : MetacognitionSnapshot :=
  let indexes := indexSnapshot snapshot policy
  let goalCriticalPathRemaining :=
    (criticalPaths snapshot.tasks indexes.cycleMembers
      (remainingDepths indexes.taskLookup indexes.cycleMembers)).2
  let tasks := sortedTasks snapshot.tasks
  let taskAnalyses := tasks.map (analyzeTask indexes)
  let diagnostics := sortBy diagnosticOrder (tasks.flatMap (taskDiagnostics indexes))
  let goals := sortBy
    (fun left right =>
      compare (left.agentId, left.goal.goalId) (right.agentId, right.goal.goalId))
    snapshot.goals
  let goalAnalyses := goals.map
    (analyzeGoal indexes.policy goalCriticalPathRemaining taskAnalyses diagnostics)
  { generatedAt := snapshot.generatedAt
    revision := snapshot.revision
    policy := indexes.policy
    summary := summarize taskAnalyses diagnostics goalAnalyses
    goals := goalAnalyses
    tasks := taskAnalyses
    diagnostics := diagnostics }

section Report

variable {snapshot : Snapshot} {policy : AnalysisPolicy}

theorem mem_diagnostics {diagnostic : Diagnostic} :
    diagnostic ∈ (analyzeWithPolicy snapshot policy).diagnostics ↔
      ∃ task ∈ snapshot.tasks, diagnostic ∈ taskDiagnostics (indexSnapshot snapshot policy) task := by
  simp [analyzeWithPolicy, sortedTasks]

theorem mem_tasks {analysis : TaskAnalysis} :
    analysis ∈ (analyzeWithPolicy snapshot policy).tasks ↔
      ∃ task ∈ snapshot.tasks, analyzeTask (indexSnapshot snapshot policy) task = analysis := by
  simp [analyzeWithPolicy, sortedTasks]

theorem length_tasks (snapshot : Snapshot) (policy : AnalysisPolicy) :
    (analyzeWithPolicy snapshot policy).tasks.length = snapshot.tasks.length := by
  simp [analyzeWithPolicy, sortedTasks, (sortBy_perm _ _).length_eq]

theorem reported_iff {indexes : Indexes} {task : TaskState} {rule : DiagnosticRule} :
    (∃ diagnostic ∈ taskDiagnostics indexes task, diagnostic.rule = rule) ↔
      (applyRule indexes.policy task (taskFacts indexes task) rule).isSome := by
  constructor
  · rintro ⟨_, hd, rfl⟩
    obtain ⟨finding, hf, rfl⟩ := List.mem_map.mp hd
    exact Option.isSome_iff_exists.mpr ⟨finding, mem_findings.mp hf⟩
  · intro h
    obtain ⟨finding, hf⟩ := Option.isSome_iff_exists.mp h
    obtain rfl := rule_of_applyRule hf
    exact ⟨_, List.mem_map_of_mem (mem_findings.mpr hf), rfl⟩

/-- Every diagnostic names the task it was found on, and its id names the rule. -/
theorem diagnostic_names {indexes : Indexes} {task : TaskState} {diagnostic : Diagnostic}
    (h : diagnostic ∈ taskDiagnostics indexes task) :
    diagnostic.agentId = task.agentId ∧ diagnostic.taskId = some task.task.taskId ∧
      diagnostic.goalId = task.task.goalId ∧
      diagnostic.diagnosticId = diagnosticId diagnostic.rule task.agentId task.task.taskId := by
  obtain ⟨finding, -, rfl⟩ := List.mem_map.mp h
  exact ⟨rfl, rfl, rfl, rfl⟩

end Report

end ControlPlane.Metacognition
