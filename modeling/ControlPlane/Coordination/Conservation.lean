import ControlPlane.Coordination.Plan
import ControlPlane.Store.Ingest

/-! A plan accounts for every task: none is lost between the loop, the selection and the
limits, and none appears twice. -/

namespace ControlPlane.Coordination

open Metacognition (TaskKey AnalysisPolicy TaskAnalysis MetacognitionSnapshot analyzeWithPolicy
  taskKey)
open scoped List

def Placement.key : Placement → TaskKey
  | intervene intervention => intervention.key
  | hold held => held.key
  | assign candidate => candidate.key

def Draft.keys (draft : Draft) : List TaskKey :=
  draft.assignmentCandidates.map Assignment.key ++
    (draft.interventions.map Intervention.key ++ draft.heldTasks.map HeldTask.key)

def Arrangement.keys (arrangement : Arrangement) : List TaskKey :=
  arrangement.assignments.map Assignment.key ++
    (arrangement.interventions.map Intervention.key ++ arrangement.heldTasks.map HeldTask.key)

@[simp] theorem key_suppressedHold (candidate : Assignment) :
    (suppressedHold candidate).key = candidate.key := rfl

theorem key_place (lookups : Lookups) (task : TaskAnalysis) :
    (place lookups task).key = (task.agentId, task.taskId) := by
  have hplaced := placed lookups task
  generalize place lookups task = placement at hplaced ⊢
  cases hplaced with
  | intervene intervention hfor =>
    obtain ⟨kind, -, rfl⟩ := Option.map_eq_some_iff.1 hfor
    rfl
  | _ => rfl

theorem keys_add (draft : Draft) (placement : Placement) :
    (draft.add placement).keys.Perm (draft.keys ++ [placement.key]) := by
  cases placement with
  | intervene intervention =>
    simp only [Draft.add, Draft.keys, List.map_append, List.map_singleton, List.append_assoc,
      Placement.key]
    exact .append_left _ (.append_left _ List.perm_append_comm)
  | hold held =>
    simp only [Draft.add, Draft.keys, List.map_append, List.map_singleton, List.append_assoc,
      Placement.key]
    exact .refl _
  | assign candidate =>
    simp only [Draft.add, Draft.keys, List.map_append, List.map_singleton, List.append_assoc,
      Placement.key]
    refine .append_left _ (List.perm_append_comm.trans ?_)
    rw [List.append_assoc]

theorem keys_foldl_add (place : TaskAnalysis → Placement) (tasks : List TaskAnalysis)
    (draft : Draft) :
    (tasks.foldl (fun (draft : Draft) task => draft.add (place task)) draft).keys.Perm
      (draft.keys ++ tasks.map fun task => (place task).key) := by
  induction tasks generalizing draft with
  | nil => simp
  | cons task tasks ih =>
    refine (ih _).trans (((keys_add draft (place task)).append_right _).trans ?_)
    rw [List.append_assoc, List.map_cons]
    rfl

theorem keys_draftPlan (snapshot : Snapshot) (analysis : MetacognitionSnapshot) :
    (draftPlan snapshot analysis).keys.Perm
      (analysis.tasks.map fun task => (task.agentId, task.taskId)) := by
  have hsorted : ∀ draft : Draft, Draft.keys
      { assignmentCandidates := sortBy assignmentOrder draft.assignmentCandidates
        interventions := sortBy interventionOrder draft.interventions
        heldTasks := sortBy holdOrder draft.heldTasks } |>.Perm draft.keys := fun draft =>
    ((sortBy_perm _ _).map _).append (((sortBy_perm _ _).map _).append ((sortBy_perm _ _).map _))
  refine (hsorted _).trans ((keys_foldl_add _ _ _).trans ?_)
  simp only [Draft.keys, List.map_nil, List.nil_append, key_place]
  exact (sortBy_perm _ _).map _

theorem keys_tasks (snapshot : Snapshot) (policy : AnalysisPolicy) :
    ((analyzeWithPolicy snapshot policy).tasks.map fun task => (task.agentId, task.taskId)).Perm
      (snapshot.tasks.map taskKey) := by
  simp only [analyzeWithPolicy, List.map_map]
  exact (sortBy_perm _ _).map _

section Selection

variable (candidates : List Assignment) (maximum maximumPerAgent : Nat)

theorem selectAssignments_sound :
    ((selectAssignments candidates maximum maximumPerAgent).1 ++
      (selectAssignments candidates maximum maximumPerAgent).2).Perm candidates ∧
    (selectAssignments candidates maximum maximumPerAgent).1.length ≤ maximum ∧
    ∀ agentId, (selectAssignments candidates maximum maximumPerAgent).1.countP
      (fun candidate => candidate.agentId = agentId) ≤ maximumPerAgent := by
  unfold selectAssignments
  dsimp only
  generalize sortBy _ _ = order
  have hsound := (FairShare.sound_start Assignment.agentId candidates maximum
    maximumPerAgent).fill order
  refine ⟨?_, hsound.bounded, fun agentId => (hsound.counted agentId).trans_le (hsound.fair agentId)⟩
  exact ((sortBy_perm _ _).append_left _).trans hsound.conserved

end Selection

section Arrange

variable (draft : Draft) (policy : PlanningPolicy)

/-- The candidates that are not selected come back as holds. -/
theorem keys_arrange : (arrange draft policy).keys.Perm draft.keys := by
  obtain ⟨hperm, -, -⟩ := selectAssignments_sound draft.assignmentCandidates
    policy.maxAssignments policy.maxAssignmentsPerAgent
  unfold arrange Arrangement.keys Draft.keys
  dsimp only
  generalize selectAssignments _ _ _ = selection at hperm
  have hheld : ((sortBy holdOrder (draft.heldTasks ++ selection.2.map suppressedHold)).map
      HeldTask.key).Perm (draft.heldTasks.map HeldTask.key ++ selection.2.map Assignment.key) := by
    refine ((sortBy_perm _ _).map _).trans ?_
    rw [List.map_append, List.map_map]
    exact .refl _
  have hcandidates := hperm.map Assignment.key
  rw [List.map_append] at hcandidates
  calc selection.1.map Assignment.key ++ (draft.interventions.map Intervention.key ++
        (sortBy holdOrder (draft.heldTasks ++ selection.2.map suppressedHold)).map HeldTask.key)
      ~ selection.1.map Assignment.key ++ (draft.interventions.map Intervention.key ++
        (draft.heldTasks.map HeldTask.key ++ selection.2.map Assignment.key)) :=
        .append_left _ (.append_left _ hheld)
    _ ~ selection.1.map Assignment.key ++ (selection.2.map Assignment.key ++
        (draft.interventions.map Intervention.key ++ draft.heldTasks.map HeldTask.key)) := by
        rw [← List.append_assoc (draft.interventions.map Intervention.key)]
        exact .append_left _ List.perm_append_comm
    _ ~ draft.assignmentCandidates.map Assignment.key ++
        (draft.interventions.map Intervention.key ++ draft.heldTasks.map HeldTask.key) := by
        rw [← List.append_assoc]
        exact hcandidates.append_right _

theorem length_arrange :
    (arrange draft policy).candidateCount =
      (arrange draft policy).assignments.length + (arrange draft policy).suppressedCount := by
  obtain ⟨hperm, -, -⟩ := selectAssignments_sound draft.assignmentCandidates
    policy.maxAssignments policy.maxAssignmentsPerAgent
  have hlength := hperm.length_eq
  rw [List.length_append] at hlength
  exact hlength.symm

end Arrange

def Arrangement.occurrences (arrangement : Arrangement) (key : TaskKey) : Nat :=
  (arrangement.assignments.map Assignment.key).count key +
    ((arrangement.interventions.map Intervention.key).count key +
      (arrangement.heldTasks.map HeldTask.key).count key)

/-- What a plan shows of the arrangement it was cut from. -/
structure Balanced (snapshot : Snapshot) (arrangement : Arrangement) (plan : CoordinationPlan) :
    Prop where
  assignments : plan.assignments = arrangement.assignments
  interventions : plan.interventions <+: arrangement.interventions
  heldTasks : plan.heldTasks <+: arrangement.heldTasks
  total : snapshot.tasks.length = plan.summary.totalTasks
  sum : plan.summary.totalTasks = plan.summary.assignments + plan.summary.interventions +
    plan.summary.omittedInterventions + plan.summary.heldTasks + plan.summary.omittedHolds
  candidates : plan.summary.assignmentCandidates =
    plan.summary.assignments + plan.summary.suppressedByAssignmentLimits
  assignmentCount : plan.summary.assignments = plan.assignments.length
  interventionCount : plan.summary.interventions = plan.interventions.length
  heldCount : plan.summary.heldTasks = plan.heldTasks.length

structure Bounded (policy : PlanningPolicy) (plan : CoordinationPlan) : Prop where
  assignments : plan.assignments.length ≤ policy.maxAssignments
  perAgent : ∀ agentId, plan.assignments.countP (fun a => a.agentId = agentId) ≤
    policy.maxAssignmentsPerAgent
  interventions : plan.interventions.length ≤ policy.maxInterventions
  heldTasks : plan.heldTasks.length ≤ policy.maxHolds

theorem buildPlan_of_valid {policy : PlanningPolicy} (h : policy.validate = .ok policy)
    (snapshot : Snapshot) (analysisPolicy : AnalysisPolicy) :
    buildPlanWithPolicy snapshot analysisPolicy policy =
      .ok (planFromAnalysis snapshot (analyzeWithPolicy snapshot analysisPolicy) policy) := by
  unfold buildPlanWithPolicy
  rw [h]
  rfl

theorem occurrences_eq_count (arrangement : Arrangement) (key : TaskKey) :
    arrangement.occurrences key = arrangement.keys.count key := by
  simp only [Arrangement.occurrences, Arrangement.keys, List.count_append]

theorem length_keys (arrangement : Arrangement) :
    arrangement.keys.length = arrangement.assignments.length + (arrangement.interventions.length +
      arrangement.heldTasks.length) := by
  simp [Arrangement.keys]

theorem balanced_planFromAnalysis (snapshot : Snapshot) (analysisPolicy : AnalysisPolicy)
    (policy : PlanningPolicy) :
    Balanced snapshot
      (arrange (draftPlan snapshot (analyzeWithPolicy snapshot analysisPolicy)) policy)
      (planFromAnalysis snapshot (analyzeWithPolicy snapshot analysisPolicy) policy) := by
  have hkeys := (keys_arrange (draftPlan snapshot (analyzeWithPolicy snapshot analysisPolicy))
    policy).trans (keys_draftPlan snapshot _)
  have hlength := hkeys.length_eq
  rw [length_keys, List.length_map] at hlength
  have hcandidates := length_arrange
    (draftPlan snapshot (analyzeWithPolicy snapshot analysisPolicy)) policy
  unfold planFromAnalysis truncatePlan
  generalize arrange _ policy = arrangement at hlength hcandidates
  refine {
    assignments := rfl
    interventions := List.take_prefix _ _
    heldTasks := List.take_prefix _ _
    total := (Metacognition.length_tasks snapshot analysisPolicy).symm
    sum := ?_
    candidates := hcandidates
    assignmentCount := rfl
    interventionCount := rfl
    heldCount := rfl }
  simp only [List.length_take]
  omega

theorem bounded_planFromAnalysis (snapshot : Snapshot) (analysis : MetacognitionSnapshot)
    (policy : PlanningPolicy) : Bounded policy (planFromAnalysis snapshot analysis policy) := by
  obtain ⟨-, hlength, hagent⟩ :=
    selectAssignments_sound (draftPlan snapshot analysis).assignmentCandidates
      policy.maxAssignments policy.maxAssignmentsPerAgent
  exact {
    assignments := hlength
    perAgent := hagent
    interventions := List.length_take_le _ _
    heldTasks := List.length_take_le _ _ }

/-- The plan classifies every task exactly once, its summary adds up, and its lists keep to
the policy. -/
theorem plan_conserves_tasks (snapshot : Snapshot) (analysisPolicy : AnalysisPolicy)
    (policy : PlanningPolicy) (hunique : (snapshot.tasks.map taskKey).Nodup)
    (hvalid : policy.validate = .ok policy) :
    let arrangement :=
      arrange (draftPlan snapshot (analyzeWithPolicy snapshot analysisPolicy)) policy
    ∃ plan, buildPlanWithPolicy snapshot analysisPolicy policy = .ok plan ∧
      (∀ key, arrangement.occurrences key = if key ∈ snapshot.tasks.map taskKey then 1 else 0) ∧
      Balanced snapshot arrangement plan ∧ Bounded policy plan := by
  dsimp only
  refine ⟨_, buildPlan_of_valid hvalid snapshot analysisPolicy, fun key => ?_, ?_, ?_⟩
  · rw [occurrences_eq_count, ((keys_arrange _ policy).trans ((keys_draftPlan snapshot _).trans
      (keys_tasks snapshot analysisPolicy))).count_eq, hunique.count]
  · exact balanced_planFromAnalysis snapshot analysisPolicy policy
  · exact bounded_planFromAnalysis snapshot _ policy

def Sample.planned : Snapshot :=
  snapshot (run Sample.cache (Sample.instant 0)
    [Sample.ingestAt 1 1 (Sample.created "a"), Sample.ingestAt 2 2 (Sample.completed "b" .succeeded)] :
      StoreInner RecencyCache) (Sample.instant 3)

theorem plan_conserves_planned :
    ∃ plan, buildPlanWithPolicy Sample.planned .default .default = .ok plan ∧
      Bounded .default plan := by
  obtain ⟨plan, hplan, -, -, hbounded⟩ :=
    plan_conserves_tasks Sample.planned .default .default (by decide) (by decide)
  exact ⟨plan, hplan, hbounded⟩

end ControlPlane.Coordination
