import ControlPlane.Coordination.Safety

/-! An agent with unfinished work gets an assignment or an intervention, unless all of that
work waits on prerequisites that ended without success. -/

namespace ControlPlane.Coordination

open Relation (TransGen ReflTransGen)
open Metacognition (TaskKey AnalysisPolicy Diagnostic DiagnosticRule TaskAnalysis
  MetacognitionSnapshot analyzeWithPolicy analyzeTask taskKey taskFacts dependencyState lookupTasks
  indexSnapshot isActive)

theorem mem_heldTasks {snapshot : Snapshot} {analysis : MetacognitionSnapshot} {held : HeldTask} :
    held ∈ (draftPlan snapshot analysis).heldTasks ↔
      ∃ task ∈ analysis.tasks, place (lookups snapshot analysis) task = .hold held := by
  simp [draftPlan, mem_heldTasks_foldl]

def WaitsOn (tasks : List TaskState) (task dependency : TaskState) : Prop :=
  ∃ dependencyId ∈ task.task.dependsOn,
    (lookupTasks tasks)[(task.agentId, dependencyId)]? = some dependency ∧
      dependency.status ≠ .succeeded

/-- A prerequisite that ended without success and that the planner does not follow up. -/
structure Culprit (snapshot : Snapshot) (policy : AnalysisPolicy) (task : TaskState) : Prop where
  mem : task ∈ snapshot.tasks
  ended : task.status = .failed ∨ task.status = .canceled ∨ task.status = .partially
  held : ∃ held ∈ (draftPlan snapshot (analyzeWithPolicy snapshot policy)).heldTasks,
    held.key = taskKey task ∧ held.reason = .terminal

structure HoldsOnly (snapshot : Snapshot) (policy : AnalysisPolicy) (agentId : String) : Prop where
  candidates : ∀ candidate ∈
    (draftPlan snapshot (analyzeWithPolicy snapshot policy)).assignmentCandidates,
    candidate.agentId ≠ agentId
  interventions : ∀ intervention ∈
    (draftPlan snapshot (analyzeWithPolicy snapshot policy)).interventions,
    intervention.agentId ≠ agentId

section Waits

variable {tasks : List TaskState} {task dependency : TaskState}

theorem WaitsOn.mem (h : WaitsOn tasks task dependency) :
    dependency ∈ tasks ∧ dependency.agentId = task.agentId := by
  obtain ⟨dependencyId, -, hlookup, -⟩ := h
  obtain ⟨hmem, hkey⟩ := mem_of_getElem?_lookupTasks hlookup
  exact ⟨hmem, congrArg Prod.fst hkey⟩

theorem exists_waitsOn (h : (dependencyState task (lookupTasks tasks)).1 ≠ []) :
    ∃ dependency, WaitsOn tasks task dependency := by
  obtain ⟨dependencyId, hmem⟩ := List.exists_mem_of_ne_nil _ h
  simp only [dependencyState, mem_sortBy, List.mem_filter] at hmem
  obtain ⟨hdep, hunresolved⟩ := hmem
  split at hunresolved
  · next dependency hlookup =>
    exact ⟨dependency, dependencyId, hdep, hlookup, by simpa using hunresolved⟩
  · cases hunresolved

end Waits

theorem isActive_of_no_action {task : TaskAnalysis} {diagnostics : List Diagnostic}
    (h : assignmentAction diagnostics task = none) : isActive task.status = false := by
  unfold assignmentAction at h
  split_ifs at h
  cases hstatus : task.status <;> rw [hstatus] at h <;> first | rfl | cases h

theorem place_eq_hold {lookups : Lookups} {task : TaskAnalysis} {held : HeldTask}
    (h : place lookups task = .hold held) :
    lookups.agentStatuses[task.agentId]? = some .offline ∨ task.missingDependencies ≠ [] ∨
      task.unresolvedDependencies ≠ [] ∨
      isActive task.status = false ∧ held.reason = .terminal := by
  have hplaced := placed lookups task
  rw [h] at hplaced
  cases hplaced with
  | offline _ hoffline => exact .inl hoffline
  | waiting _ hwaiting => exact .inr (or_assoc.1 (.inl hwaiting))
  | ended _ haction => exact .inr (.inr (.inr ⟨isActive_of_no_action haction, rfl⟩))

theorem place_of_kind (lookups : Lookups) (task : TaskAnalysis) {kind : InterventionKind}
    (h : interventionKind (lookups.diagnosticsByTask.getD (task.agentId, task.taskId) []) =
      some kind) : ∃ intervention, place lookups task = .intervene intervention := by
  have hplaced := placed lookups task
  generalize place lookups task = placement at hplaced ⊢
  cases hplaced with
  | intervene intervention => exact ⟨intervention, rfl⟩
  | offline _ _ hconsistent => exact absurd (h.symm.trans hconsistent) (by simp)
  | waiting _ _ hopen => exact absurd (h.symm.trans hopen.consistent) (by simp)
  | assign _ _ hopen => exact absurd (h.symm.trans hopen.consistent) (by simp)
  | ended _ _ hopen => exact absurd (h.symm.trans hopen.consistent) (by simp)

section Stalled

variable {snapshot : Snapshot} {policy : AnalysisPolicy} {agentId : String}

theorem HoldsOnly.place (h : HoldsOnly snapshot policy agentId) {task : TaskState}
    (ht : task ∈ snapshot.tasks) (hagent : task.agentId = agentId) :
    ∃ held, place (lookups snapshot (analyzeWithPolicy snapshot policy))
      (analyzeTask (indexSnapshot snapshot policy) task) = .hold held := by
  have hanalysis : analyzeTask (indexSnapshot snapshot policy) task ∈
      (analyzeWithPolicy snapshot policy).tasks := Metacognition.mem_tasks.2 ⟨task, ht, rfl⟩
  have hkey := key_place (lookups snapshot (analyzeWithPolicy snapshot policy))
    (analyzeTask (indexSnapshot snapshot policy) task)
  cases hplace : Coordination.place (lookups snapshot (analyzeWithPolicy snapshot policy))
    (analyzeTask (indexSnapshot snapshot policy) task) with
  | hold held => exact ⟨held, rfl⟩
  | intervene intervention =>
    rw [hplace] at hkey
    exact absurd ((congrArg Prod.fst hkey).trans hagent)
      (h.interventions intervention (mem_interventions.2 ⟨_, hanalysis, hplace⟩))
  | assign candidate =>
    rw [hplace] at hkey
    exact absurd ((congrArg Prod.fst hkey).trans hagent)
      (h.candidates candidate (mem_assignmentCandidates.2 ⟨_, hanalysis, hplace⟩))

theorem HoldsOnly.not_applies (h : HoldsOnly snapshot policy agentId) {task : TaskState}
    (ht : task ∈ snapshot.tasks) (hagent : task.agentId = agentId) :
    Metacognition.applyRule policy.normalized task
        (taskFacts (indexSnapshot snapshot policy) task) .dependencyCycle = none ∧
      Metacognition.applyRule policy.normalized task
        (taskFacts (indexSnapshot snapshot policy) task) .orphanDependency = none := by
  obtain ⟨held, hheld⟩ := h.place ht hagent
  have hkind : interventionKind ((diagnosticsByTask
      (analyzeWithPolicy snapshot policy).diagnostics).getD (taskKey task) []) = none := by
    by_contra hsome
    obtain ⟨kind, hkind⟩ := Option.ne_none_iff_exists'.1 hsome
    obtain ⟨intervention, hplace⟩ := place_of_kind
      (lookups snapshot (analyzeWithPolicy snapshot policy))
      (analyzeTask (indexSnapshot snapshot policy) task) hkind
    rw [hheld] at hplace
    cases hplace
  obtain ⟨-, hcycle, horphan, -⟩ := interventionKind_eq_none_iff.1 hkind
  exact ⟨not_applies_of_unreported ht hcycle, not_applies_of_unreported ht horphan⟩

theorem HoldsOnly.waits_or_ended (h : HoldsOnly snapshot policy agentId)
    (honline : recordedStatus snapshot.agents agentId ≠ some .offline) {task : TaskState}
    (ht : task ∈ snapshot.tasks) (hagent : task.agentId = agentId) :
    (∃ dependency, WaitsOn snapshot.tasks task dependency) ∨
      isActive task.status = false ∧
        ∃ held ∈ (draftPlan snapshot (analyzeWithPolicy snapshot policy)).heldTasks,
          held.key = taskKey task ∧ held.reason = .terminal := by
  obtain ⟨held, hheld⟩ := h.place ht hagent
  have hkey := key_place (lookups snapshot (analyzeWithPolicy snapshot policy))
    (analyzeTask (indexSnapshot snapshot policy) task)
  rw [hheld] at hkey
  rcases place_eq_hold hheld with hoffline | hmissing | hunresolved | ⟨hended, hreason⟩
  · rw [lookups, getElem?_agentStatuses] at hoffline
    exact absurd (hagent ▸ hoffline) honline
  · have hnone := (h.not_applies ht hagent).2
    have hmissing : (taskFacts (indexSnapshot snapshot policy) task).missingDependencies ≠ [] :=
      hmissing
    simp only [Metacognition.applyRule, Metacognition.orphanDependency] at hnone
    rw [if_pos hmissing] at hnone
    cases hnone
  · exact .inl (exists_waitsOn hunresolved)
  · exact .inr ⟨hended, held,
      mem_heldTasks.2 ⟨_, Metacognition.mem_tasks.2 ⟨task, ht, rfl⟩, hheld⟩, hkey, hreason⟩

theorem HoldsOnly.acc (h : HoldsOnly snapshot policy agentId) {x : String}
    (hx : (agentId, x) ∈ lookupTasks snapshot.tasks) :
    Acc (fun y x => (Metacognition.agentGraph (lookupTasks snapshot.tasks) agentId).Edge x y) x := by
  refine Metacognition.acc_of_no_members (fun t hmember => ?_) hx
  have hcycle := (Metacognition.mem_dependencyCycleMembers.1 hmember).onCycle
  obtain ⟨y, hedge, -⟩ := Relation.TransGen.head'_iff.1 hcycle
  obtain ⟨task, hlookup, -⟩ := Metacognition.mem_next_iff.1 hedge
  obtain ⟨ht, hkey⟩ := mem_of_getElem?_lookupTasks hlookup
  have hnone := (h.not_applies ht (congrArg Prod.fst hkey)).1
  have hin : (taskFacts (indexSnapshot snapshot policy) task).inCycle = true := by
    rw [← hkey] at hmember
    exact Std.TreeSet.contains_iff_mem.2 hmember
  simp only [Metacognition.applyRule, Metacognition.dependencyCycle, hin, if_true] at hnone
  cases hnone

/-- From a prerequisite that has not succeeded, the waiting leads to a culprit. -/
theorem HoldsOnly.exists_culprit (h : HoldsOnly snapshot policy agentId)
    (honline : recordedStatus snapshot.agents agentId ≠ some .offline) {task : TaskState}
    (htask : (lookupTasks snapshot.tasks)[taskKey task]? = some task)
    (hagent : task.agentId = agentId) (hstatus : task.status ≠ .succeeded) :
    ∃ culprit, ReflTransGen (WaitsOn snapshot.tasks) task culprit ∧
      Culprit snapshot policy culprit := by
  have hacc := h.acc (x := task.task.taskId) (by
    rw [← hagent, Std.TreeMap.mem_iff_isSome_getElem?]
    exact Option.isSome_iff_exists.2 ⟨task, htask⟩)
  generalize hx : task.task.taskId = x at hacc
  induction hacc generalizing task with
  | intro x _ ih =>
    obtain ⟨ht, -⟩ := mem_of_getElem?_lookupTasks htask
    rcases h.waits_or_ended honline ht hagent with ⟨dependency, hwaits⟩ | ⟨hended, hheld⟩
    · obtain ⟨hmem, hsame⟩ := hwaits.mem
      obtain ⟨dependencyId, hdep, hlookup, hunresolved⟩ := id hwaits
      have hkey := (mem_of_getElem?_lookupTasks hlookup).2
      obtain rfl : dependency.task.taskId = dependencyId := congrArg Prod.snd hkey
      have hedge : (Metacognition.agentGraph (lookupTasks snapshot.tasks) agentId).Edge x
          dependency.task.taskId := by
        refine Metacognition.mem_next_iff.2 ⟨task, ?_, List.mem_filter.2 ⟨hdep, ?_⟩⟩
        · rw [← hx, ← hagent]
          exact htask
        · rw [Std.TreeMap.contains_iff_mem, Std.TreeMap.mem_iff_isSome_getElem?, ← hagent, hlookup]
          rfl
      obtain ⟨culprit, hpath, hculprit⟩ := ih _ hedge (hkey ▸ hlookup) (hsame.trans hagent)
        hunresolved rfl
      exact ⟨culprit, .head hwaits hpath, hculprit⟩
    · refine ⟨task, .refl, ht, ?_, hheld⟩
      cases hs : task.status <;> simp_all [isActive]

/-- An agent with unfinished work gets a candidate or an intervention, unless each of its
active tasks waits on a prerequisite that ended without success and is left alone. -/
theorem unfinished_work_answered (snapshot : Snapshot) (policy : AnalysisPolicy) (agentId : String)
    (honline : recordedStatus snapshot.agents agentId ≠ some .offline) :
    (∃ candidate ∈ (draftPlan snapshot (analyzeWithPolicy snapshot policy)).assignmentCandidates,
      candidate.agentId = agentId) ∨
    (∃ intervention ∈ (draftPlan snapshot (analyzeWithPolicy snapshot policy)).interventions,
      intervention.agentId = agentId) ∨
    ∀ task ∈ snapshot.tasks, task.agentId = agentId → isActive task.status = true →
      ∃ culprit, TransGen (WaitsOn snapshot.tasks) task culprit ∧
        Culprit snapshot policy culprit := by
  by_contra hnone
  simp only [not_or, not_exists, not_and] at hnone
  obtain ⟨hcandidates, hinterventions, hwaiting⟩ := hnone
  have h : HoldsOnly snapshot policy agentId := ⟨hcandidates, hinterventions⟩
  refine hwaiting fun task ht hagent hactive => ?_
  rcases h.waits_or_ended honline ht hagent with ⟨dependency, hwaits⟩ | ⟨hended, -⟩
  · obtain ⟨hmem, hsame⟩ := hwaits.mem
    obtain ⟨dependencyId, -, hlookup, hunresolved⟩ := id hwaits
    have hkey := (mem_of_getElem?_lookupTasks hlookup).2
    obtain ⟨culprit, hpath, hculprit⟩ := h.exists_culprit honline (hkey ▸ hlookup)
      (hsame.trans hagent) hunresolved
    exact ⟨culprit, .head' hwaits hpath, hculprit⟩
  · rw [hactive] at hended
    cases hended

end Stalled

def Sample.abandoned : Snapshot :=
  snapshot (run Sample.cache (Sample.instant 0)
    [Sample.ingestAt 1 1 (.taskCreated ⟨"b", "title", none, ["a"], [], none⟩),
      Sample.ingestAt 2 2 (.taskCompleted ⟨"a", .failed, "summary", ["report.txt"], none⟩)] :
      StoreInner RecencyCache) (Sample.instant 3)

/-- The agent of `planned` is not offline and has an active task that waits on nothing. -/
theorem unfinished_work_answered_planned :
    (∃ candidate ∈ (draftPlan Sample.planned
        (analyzeWithPolicy Sample.planned .default)).assignmentCandidates,
      candidate.agentId = "worker") ∨
    (∃ intervention ∈ (draftPlan Sample.planned
        (analyzeWithPolicy Sample.planned .default)).interventions,
      intervention.agentId = "worker") ∨
    ∀ task ∈ Sample.planned.tasks, task.agentId = "worker" → isActive task.status = true →
      ∃ culprit, TransGen (WaitsOn Sample.planned.tasks) task culprit ∧
        Culprit Sample.planned .default culprit :=
  unfinished_work_answered Sample.planned .default "worker" (by decide)

/-- The agent has an active task and is not offline, and its plan has holds only. -/
theorem active_task_stalled :
    (Sample.abandoned.tasks.any fun task => isActive task.status) = true ∧
      recordedStatus Sample.abandoned.agents "worker" = some .failed ∧
      (draftPlan Sample.abandoned
        (analyzeWithPolicy Sample.abandoned .default)).assignmentCandidates = [] ∧
      (draftPlan Sample.abandoned
        (analyzeWithPolicy Sample.abandoned .default)).interventions = [] ∧
      (draftPlan Sample.abandoned
        (analyzeWithPolicy Sample.abandoned .default)).heldTasks.map (fun held =>
          (held.taskId, held.reason)) = [("a", .terminal), ("b", .waitingOnDependencies)] := by
  decide

end ControlPlane.Coordination
