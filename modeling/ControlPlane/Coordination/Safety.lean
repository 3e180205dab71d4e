import ControlPlane.Coordination.Conservation

/-! Every assignment of a plan can be dispatched: the analyser and the planner agree on what
stands in its way. -/

namespace ControlPlane.Coordination

open Metacognition (TaskKey AnalysisPolicy Diagnostic DiagnosticRule TaskAnalysis
  MetacognitionSnapshot analyzeWithPolicy analyzeTask taskKey taskFacts dependencyState lookupTasks
  indexSnapshot taskDiagnostics isCompletionMismatch)

section Loop

variable {place : TaskAnalysis → Placement} {tasks : List TaskAnalysis} {draft : Draft}

theorem mem_foldl_add {α : Type} {list : Draft → List α} {placement : α → Placement}
    (hadd : ∀ (draft : Draft) (placed : Placement) (x : α),
      x ∈ list (draft.add placed) ↔ x ∈ list draft ∨ placed = placement x) {x : α} :
    x ∈ list (tasks.foldl (fun (draft : Draft) task => draft.add (place task)) draft) ↔
      x ∈ list draft ∨ ∃ task ∈ tasks, place task = placement x := by
  induction tasks generalizing draft with
  | nil => simp
  | cons task tasks ih =>
    rw [List.foldl_cons, ih, hadd]
    simp only [List.mem_cons, exists_eq_or_imp, or_assoc]

theorem mem_candidates_foldl {candidate : Assignment} :
    candidate ∈ (tasks.foldl (fun (draft : Draft) task => draft.add (place task))
        draft).assignmentCandidates ↔
      candidate ∈ draft.assignmentCandidates ∨ ∃ task ∈ tasks, place task = .assign candidate := by
  refine mem_foldl_add fun draft placed candidate => ?_
  cases placed <;> simp [Draft.add, eq_comm]

theorem mem_interventions_foldl {intervention : Intervention} :
    intervention ∈ (tasks.foldl (fun (draft : Draft) task => draft.add (place task))
        draft).interventions ↔
      intervention ∈ draft.interventions ∨
        ∃ task ∈ tasks, place task = .intervene intervention := by
  refine mem_foldl_add fun draft placed intervention => ?_
  cases placed <;> simp [Draft.add, eq_comm]

theorem mem_heldTasks_foldl {held : HeldTask} :
    held ∈ (tasks.foldl (fun (draft : Draft) task => draft.add (place task)) draft).heldTasks ↔
      held ∈ draft.heldTasks ∨ ∃ task ∈ tasks, place task = .hold held := by
  refine mem_foldl_add fun draft placed held => ?_
  cases placed <;> simp [Draft.add, eq_comm]

end Loop

section Draft

variable {snapshot : Snapshot} {analysis : MetacognitionSnapshot}

theorem mem_assignmentCandidates {candidate : Assignment} :
    candidate ∈ (draftPlan snapshot analysis).assignmentCandidates ↔
      ∃ task ∈ analysis.tasks, place (lookups snapshot analysis) task = .assign candidate := by
  simp [draftPlan, mem_candidates_foldl]

theorem mem_interventions {intervention : Intervention} :
    intervention ∈ (draftPlan snapshot analysis).interventions ↔
      ∃ task ∈ analysis.tasks, place (lookups snapshot analysis) task = .intervene intervention := by
  simp [draftPlan, mem_interventions_foldl]

theorem mem_candidates_of_mem_assignments {policy : PlanningPolicy} {a : Assignment}
    (h : a ∈ (planFromAnalysis snapshot analysis policy).assignments) :
    a ∈ (draftPlan snapshot analysis).assignmentCandidates :=
  (selectAssignments_sound _ _ _).1.subset (List.mem_append_left _ h)

end Draft

theorem mem_diagnosticsByTask {diagnostics : List Diagnostic} {key : TaskKey}
    {diagnostic : Diagnostic} :
    diagnostic ∈ (diagnosticsByTask diagnostics).getD key [] ↔
      diagnostic ∈ diagnostics ∧ diagnostic.agentId = key.1 ∧ diagnostic.taskId = some key.2 := by
  have hcollected := BTreeMap.getD_collect (fun diagnostic : Diagnostic =>
    diagnostic.taskId.map fun taskId => (diagnostic.agentId, taskId)) diagnostics key
  rw [Std.TreeMap.getD_eq_getD_getElem?] at hcollected
  rw [diagnosticsByTask, Std.TreeMap.getD_eq_getD_getElem?, Std.TreeMap.getElem?_map]
  have hmem : ∀ values : Option (List Diagnostic), diagnostic ∈ (values.map fun values =>
      sortBy (fun left right => compare left.diagnosticId right.diagnosticId) values).getD [] ↔
        diagnostic ∈ values.getD [] := fun values => by cases values <;> simp
  rw [hmem, hcollected, List.mem_filter]
  simp only [decide_eq_true_eq, Option.map_eq_some_iff, Prod.ext_iff]
  constructor
  · rintro ⟨h, taskId, ht, ha, rfl⟩
    exact ⟨h, ha, ht⟩
  · rintro ⟨h, ha, ht⟩
    exact ⟨h, key.2, ht, ha, rfl⟩

theorem hasRule_iff {diagnostics : List Diagnostic} {rule : DiagnosticRule} :
    hasRule diagnostics rule = true ↔ ∃ diagnostic ∈ diagnostics, diagnostic.rule = rule := by
  simp [hasRule]

theorem interventionKind_eq_none_iff {diagnostics : List Diagnostic} :
    interventionKind diagnostics = none ↔
      hasRule diagnostics .completionMismatch = false ∧
        hasRule diagnostics .dependencyCycle = false ∧
        hasRule diagnostics .orphanDependency = false ∧ hasRule diagnostics .orphanGoal = false := by
  unfold interventionKind
  cases hasRule diagnostics .completionMismatch <;>
    cases hasRule diagnostics .dependencyCycle <;>
    cases hasRule diagnostics .orphanDependency <;>
    cases hasRule diagnostics .orphanGoal <;> simp

theorem place_eq_assign {lookups : Lookups} {task : TaskAnalysis} {candidate : Assignment}
    (h : place lookups task = .assign candidate) :
    candidate.key = (task.agentId, task.taskId) ∧ candidate.goalId = task.goalId ∧
      Open lookups task ∧ task.missingDependencies = [] ∧ task.unresolvedDependencies = [] := by
  have hplaced := placed lookups task
  rw [h] at hplaced
  cases hplaced with
  | assign action haction hopen hmissing hunresolved =>
    exact ⟨rfl, rfl, hopen, hmissing, hunresolved⟩

theorem hasRule_of_applies {snapshot : Snapshot} {policy : AnalysisPolicy} {task : TaskState}
    (ht : task ∈ snapshot.tasks) {rule : DiagnosticRule}
    (h : (Metacognition.applyRule policy.normalized task
      (taskFacts (indexSnapshot snapshot policy) task) rule).isSome) :
    hasRule ((diagnosticsByTask (analyzeWithPolicy snapshot policy).diagnostics).getD
      (taskKey task) []) rule = true := by
  obtain ⟨diagnostic, hd, hrule⟩ :
      ∃ diagnostic ∈ taskDiagnostics (indexSnapshot snapshot policy) task, diagnostic.rule = rule :=
    Metacognition.reported_iff.2 h
  obtain ⟨hagent, htask, -, -⟩ := Metacognition.diagnostic_names hd
  refine hasRule_iff.2 ⟨diagnostic, mem_diagnosticsByTask.2 ⟨?_, hagent, htask⟩, hrule⟩
  exact Metacognition.mem_diagnostics.2 ⟨task, ht, hd⟩

theorem mem_of_getElem?_lookupTasks {tasks : List TaskState} {key : TaskKey} {task : TaskState}
    (h : (lookupTasks tasks)[key]? = some task) : task ∈ tasks ∧ taskKey task = key := by
  rw [lookupTasks, BTreeMap.getElem?_ofList_eq, Option.map_eq_some_iff] at h
  obtain ⟨entry, hfind, rfl⟩ := h
  have hmem := List.mem_of_find?_eq_some hfind
  have hkey := List.find?_some hfind
  rw [List.mem_reverse, List.mem_map] at hmem
  obtain ⟨task, ht, rfl⟩ := hmem
  exact ⟨ht, by simpa using hkey⟩

theorem succeeded_of_dependencyState {tasks : List TaskState} {task : TaskState}
    (hunresolved : (dependencyState task (lookupTasks tasks)).1 = [])
    (hmissing : (dependencyState task (lookupTasks tasks)).2 = []) :
    ∀ dependencyId ∈ task.task.dependsOn, ∃ dependency ∈ tasks,
      taskKey dependency = (task.agentId, dependencyId) ∧ dependency.status = .succeeded := by
  intro dependencyId hdep
  have hretained : (task.agentId, dependencyId) ∈ lookupTasks tasks := by
    by_contra habsent
    have hcontains : (lookupTasks tasks).contains (task.agentId, dependencyId) = false := by
      rwa [← Bool.not_eq_true, Std.TreeMap.contains_iff_mem]
    have : dependencyId ∈ (dependencyState task (lookupTasks tasks)).2 := by
      simp [dependencyState, hdep, hcontains]
    rw [hmissing] at this
    cases this
  cases hlookup : (lookupTasks tasks)[(task.agentId, dependencyId)]? with
  | none =>
    rw [Std.TreeMap.mem_iff_isSome_getElem?, hlookup] at hretained
    cases hretained
  | some dependency =>
    obtain ⟨hmem, hkey⟩ := mem_of_getElem?_lookupTasks hlookup
    refine ⟨dependency, hmem, hkey, ?_⟩
    by_contra hstatus
    have : dependencyId ∈ (dependencyState task (lookupTasks tasks)).1 := by
      simp [dependencyState, hdep, hlookup, hstatus]
    rw [hunresolved] at this
    cases this

def recordedStatus (agents : List AgentState) (agentId : String) : Option AgentStatus :=
  (agents.reverse.find? fun agent => agent.agent.agentId = agentId).map fun agent => agent.status

theorem getElem?_agentStatuses (agents : List AgentState) (agentId : String) :
    (agentStatuses agents)[agentId]? = recordedStatus agents agentId := by
  rw [agentStatuses, BTreeMap.getElem?_ofList_eq, ← List.map_reverse, List.find?_map,
    Option.map_map]
  rfl

theorem recordedStatus_of_mem {agents : List AgentState}
    (hunique : (agents.map fun agent => agent.agent.agentId).Nodup) {agent : AgentState}
    (h : agent ∈ agents) : recordedStatus agents agent.agent.agentId = some agent.status := by
  rw [← getElem?_agentStatuses, agentStatuses, BTreeMap.getElem?_ofList_eq_some_iff]
  · exact List.mem_map_of_mem (f := fun agent : AgentState =>
      (agent.agent.agentId, agent.status)) h
  · rwa [List.map_map]

/-- Nothing that the snapshot or its analysis shows stands in the way of a task. -/
structure DispatchSafe (snapshot : Snapshot) (policy : AnalysisPolicy) (task : TaskState) :
    Prop where
  dependencies : ∀ dependencyId ∈ task.task.dependsOn, ∃ dependency ∈ snapshot.tasks,
    taskKey dependency = (task.agentId, dependencyId) ∧ dependency.status = .succeeded
  recorded : recordedStatus snapshot.agents task.agentId ≠ some .offline
  online : (snapshot.agents.map fun agent => agent.agent.agentId).Nodup →
    ∀ agent ∈ snapshot.agents, agent.agent.agentId = task.agentId → agent.status ≠ .offline
  goal : ∀ goalId, task.task.goalId = some goalId →
    ∃ goal ∈ snapshot.goals, goal.agentId = task.agentId ∧ goal.goal.goalId = goalId
  unreported : ∀ diagnostic ∈ (analyzeWithPolicy snapshot policy).diagnostics,
    diagnostic.agentId = task.agentId → diagnostic.taskId = some task.task.taskId →
      diagnostic.rule ≠ .dependencyCycle
  consistent : isCompletionMismatch task = false

theorem mem_lookupGoals {goals : List GoalState} {agentId goalId : String} :
    Std.TreeSet.contains (Metacognition.lookupGoals goals) (agentId, goalId) = true ↔
      ∃ goal ∈ goals, goal.agentId = agentId ∧ goal.goal.goalId = goalId := by
  rw [Metacognition.lookupGoals, Std.TreeSet.contains_iff_mem, Std.TreeSet.mem_ofList,
    List.contains_iff_mem, List.mem_map]
  simp only [Prod.mk.injEq]

theorem not_applies_of_unreported {snapshot : Snapshot} {policy : AnalysisPolicy}
    {task : TaskState} (ht : task ∈ snapshot.tasks) {rule : DiagnosticRule}
    (h : hasRule ((diagnosticsByTask (analyzeWithPolicy snapshot policy).diagnostics).getD
      (taskKey task) []) rule = false) :
    Metacognition.applyRule policy.normalized task
      (taskFacts (indexSnapshot snapshot policy) task) rule = none := by
  rw [← Option.not_isSome_iff_eq_none]
  intro happlies
  rw [hasRule_of_applies ht happlies] at h
  cases h

theorem dispatchSafe_of_place {snapshot : Snapshot} {policy : AnalysisPolicy} {task : TaskState}
    (ht : task ∈ snapshot.tasks) {candidate : Assignment}
    (h : place (lookups snapshot (analyzeWithPolicy snapshot policy))
      (analyzeTask (indexSnapshot snapshot policy) task) = .assign candidate) :
    DispatchSafe snapshot policy task := by
  obtain ⟨-, -, ⟨hkind, honline⟩, hmissing, hunresolved⟩ := place_eq_assign h
  obtain ⟨hmismatch, hcycle, -, hgoal⟩ := interventionKind_eq_none_iff.1 hkind
  have hrecorded : recordedStatus snapshot.agents task.agentId ≠ some .offline := by
    rwa [← getElem?_agentStatuses]
  refine {
    dependencies := succeeded_of_dependencyState hunresolved hmissing
    recorded := hrecorded
    online := fun hunique agent hagent hid hoffline => ?_
    goal := fun goalId hid => ?_
    unreported := fun diagnostic hd hagent htask hrule => ?_
    consistent := ?_ }
  · have hstatus := recordedStatus_of_mem hunique hagent
    rw [hid, hoffline] at hstatus
    exact hrecorded hstatus
  · -- The orphan goal rule applies unless the goal is retained.
    have hnone := not_applies_of_unreported ht hgoal
    simp only [Metacognition.applyRule, Metacognition.orphanGoal, hid] at hnone
    split at hnone
    · next hretained => exact mem_lookupGoals.1 hretained
    · cases hnone
  · have : hasRule ((diagnosticsByTask (analyzeWithPolicy snapshot policy).diagnostics).getD
        (taskKey task) []) .dependencyCycle = true :=
      hasRule_iff.2 ⟨diagnostic, mem_diagnosticsByTask.2 ⟨hd, hagent, htask⟩, hrule⟩
    exact absurd (this.symm.trans hcycle) (by simp)
  · have hnone := not_applies_of_unreported ht hmismatch
    simp only [Metacognition.applyRule, Metacognition.completionMismatch] at hnone
    split at hnone
    · cases hnone
    · next hconsistent => exact Bool.eq_false_iff.2 hconsistent

theorem eq_planFromAnalysis {snapshot : Snapshot} {analysisPolicy : AnalysisPolicy}
    {policy : PlanningPolicy} {plan : CoordinationPlan}
    (h : buildPlanWithPolicy snapshot analysisPolicy policy = .ok plan) :
    plan = planFromAnalysis snapshot (analyzeWithPolicy snapshot analysisPolicy) policy := by
  cases hvalid : policy.validate with
  | error error =>
    rw [buildPlanWithPolicy, hvalid] at h
    cases h
  | ok validated =>
    obtain rfl : validated = policy := by
      unfold PlanningPolicy.validate at hvalid
      split at hvalid
      · cases hvalid
      · exact (Except.ok.inj hvalid).symm
    rw [buildPlan_of_valid hvalid] at h
    exact (Except.ok.inj h).symm

/-- Every assignment of a plan is for a retained task that can be dispatched. -/
theorem assignment_dispatch_safe {snapshot : Snapshot} {analysisPolicy : AnalysisPolicy}
    {policy : PlanningPolicy} {plan : CoordinationPlan}
    (hplan : buildPlanWithPolicy snapshot analysisPolicy policy = .ok plan) :
    ∀ assignment ∈ plan.assignments, ∃ task ∈ snapshot.tasks,
      assignment.key = taskKey task ∧ assignment.goalId = task.task.goalId ∧
        DispatchSafe snapshot analysisPolicy task := by
  intro candidate hcandidate
  rw [eq_planFromAnalysis hplan] at hcandidate
  obtain ⟨analysis, hanalysis, hplace⟩ :=
    mem_assignmentCandidates.1 (mem_candidates_of_mem_assignments hcandidate)
  obtain ⟨task, ht, rfl⟩ := Metacognition.mem_tasks.1 hanalysis
  obtain ⟨hkey, hgoal, -⟩ := place_eq_assign hplace
  exact ⟨task, ht, hkey, hgoal, dispatchSafe_of_place ht hplace⟩

/-- Task `a` is dispatched while `b`, which is complete without evidence, is followed up. -/
theorem assignment_dispatch_safe_planned :
    ∃ plan, buildPlanWithPolicy Sample.planned .default .default = .ok plan ∧
      plan.assignments.map Assignment.key = [("worker", "b"), ("worker", "a")] ∧
      ∀ assignment ∈ plan.assignments, ∃ task ∈ Sample.planned.tasks,
        assignment.key = taskKey task ∧ assignment.goalId = task.task.goalId ∧
          DispatchSafe Sample.planned .default task :=
  ⟨_, buildPlan_of_valid (by decide) _ _, by decide,
    assignment_dispatch_safe (buildPlan_of_valid (by decide) _ _)⟩

end ControlPlane.Coordination
