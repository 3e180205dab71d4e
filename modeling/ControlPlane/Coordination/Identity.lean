import ControlPlane.Coordination.Fairness
import ControlPlane.Coordination.Safety
import ControlPlane.Lib.Joined
import ControlPlane.Store.Tasks

/-! The ids of diagnostics, assignments and interventions: a kind, an agent and a task, joined by
colons.  The kinds are free of colons, but the ids of agents and tasks need not be. -/

namespace ControlPlane.Coordination

open Metacognition (TaskKey AnalysisPolicy Diagnostic DiagnosticRule TaskAnalysis
  MetacognitionSnapshot analyzeWithPolicy analyzeTask taskKey taskFacts indexSnapshot
  taskDiagnostics applyRule findings ruleOrder)

theorem colon_notMem_rule (rule : DiagnosticRule) : ':' ∉ rule.asStr.toList := by
  cases rule <;> decide

theorem colon_notMem_action (action : AssignmentAction) : ':' ∉ action.asStr.toList := by
  cases action <;> decide

theorem colon_notMem_kind (kind : InterventionKind) : ':' ∉ kind.asStr.toList := by
  cases kind <;> decide

theorem rule_injective : Function.Injective DiagnosticRule.asStr :=
  Joined.injective_of_nodup ruleOrder (fun rule => by cases rule <;> decide) (by decide)

theorem action_injective : Function.Injective AssignmentAction.asStr :=
  Joined.injective_of_nodup [.startTask, .continueTask, .resolveBlocker, .requestCheckpoint,
    .changeStrategy, .gatherEvidence, .defineNextAction]
    (fun action => by cases action <;> decide) (by decide)

theorem kind_injective : Function.Injective InterventionKind.asStr :=
  Joined.injective_of_nodup [.repairDependencyGraph, .declareMissingGoal, .reconcileCompletion]
    (fun kind => by cases kind <;> decide) (by decide)

section Labels

variable (snapshot : Snapshot) (policy : AnalysisPolicy)

def Reported (task : TaskState) (rule : DiagnosticRule) : Prop :=
  (applyRule policy.normalized task (taskFacts (indexSnapshot snapshot policy) task) rule).isSome

def placement (task : TaskState) : Placement :=
  place (lookups snapshot (analyzeWithPolicy snapshot policy))
    (analyzeTask (indexSnapshot snapshot policy) task)

def Proposed (task : TaskState) (action : AssignmentAction) : Prop :=
  ∃ candidate, placement snapshot policy task = .assign candidate ∧ candidate.action = action

def Intervened (task : TaskState) (kind : InterventionKind) : Prop :=
  ∃ intervention, placement snapshot policy task = .intervene intervention ∧
    intervention.kind = kind

def diagnosticLabels : List (DiagnosticRule × TaskKey) :=
  (analyzeWithPolicy snapshot policy).diagnostics.map fun diagnostic =>
    (diagnostic.rule, diagnostic.agentId, diagnostic.taskId.getD "")

def candidateLabels : List (AssignmentAction × TaskKey) :=
  (draftPlan snapshot (analyzeWithPolicy snapshot policy)).assignmentCandidates.map
    fun candidate => (candidate.action, candidate.key)

def interventionLabels : List (InterventionKind × TaskKey) :=
  (draftPlan snapshot (analyzeWithPolicy snapshot policy)).interventions.map
    fun intervention => (intervention.kind, intervention.key)

variable {snapshot policy}

theorem mem_diagnosticLabels {rule : DiagnosticRule} {key : TaskKey} :
    (rule, key) ∈ diagnosticLabels snapshot policy ↔
      ∃ task ∈ snapshot.tasks, taskKey task = key ∧ Reported snapshot policy task rule := by
  simp only [diagnosticLabels, List.mem_map, Metacognition.mem_diagnostics]
  constructor
  · rintro ⟨diagnostic, ⟨task, ht, hd⟩, hlabel⟩
    obtain ⟨hagent, htask, -, -⟩ := Metacognition.diagnostic_names hd
    rw [hagent, htask, Option.getD_some, Prod.mk.injEq] at hlabel
    exact ⟨task, ht, hlabel.2, Metacognition.reported_iff.1 ⟨diagnostic, hd, hlabel.1⟩⟩
  · rintro ⟨task, ht, rfl, hreported⟩
    obtain ⟨diagnostic, hd, rfl⟩ := Metacognition.reported_iff.2 hreported
    obtain ⟨hagent, htask, -, -⟩ := Metacognition.diagnostic_names hd
    refine ⟨diagnostic, ⟨task, ht, hd⟩, ?_⟩
    rw [hagent, htask, Option.getD_some]
    rfl

theorem diagnosticIds_eq :
    (analyzeWithPolicy snapshot policy).diagnostics.map (fun diagnostic =>
        diagnostic.diagnosticId) =
      (diagnosticLabels snapshot policy).map (Joined.labelId DiagnosticRule.asStr) := by
  rw [diagnosticLabels, List.map_map]
  refine List.map_congr_left fun diagnostic hd => ?_
  obtain ⟨task, -, hd⟩ := Metacognition.mem_diagnostics.1 hd
  obtain ⟨hagent, htask, -, hid⟩ := Metacognition.diagnostic_names hd
  rw [Function.comp_apply, hid, hagent, htask]
  rfl

theorem nodup_diagnosticLabels (hunique : (snapshot.tasks.map taskKey).Nodup) :
    (diagnosticLabels snapshot policy).Nodup := by
  have hrules : ∀ task, ((taskDiagnostics (indexSnapshot snapshot policy) task).map
      fun diagnostic => diagnostic.rule).Nodup := by
    intro task
    rw [taskDiagnostics, List.map_map, findings, List.map_filterMap]
    refine List.Nodup.filterMap (fun rule other found hrule hother => ?_) (by decide)
    simp only [Option.mem_def, Option.map_eq_some_iff] at hrule hother
    obtain ⟨finding, hfinding, rfl⟩ := hrule
    obtain ⟨finding', hfinding', heq⟩ := hother
    rw [← Metacognition.rule_of_applyRule hfinding, ← Metacognition.rule_of_applyRule hfinding']
    exact heq.symm
  have hperm := (sortBy_perm Metacognition.diagnosticOrder
    ((Metacognition.sortedTasks snapshot.tasks).flatMap
      (taskDiagnostics (indexSnapshot snapshot policy)))).map fun diagnostic =>
        (diagnostic.rule, diagnostic.agentId, diagnostic.taskId.getD "")
  rw [diagnosticLabels, analyzeWithPolicy]
  refine hperm.nodup_iff.2 ?_
  rw [List.map_flatMap, List.nodup_flatMap]
  refine ⟨fun task _ => ?_, ?_⟩
  · refine List.Nodup.of_map Prod.fst ?_
    rw [List.map_map]
    exact hrules task
  · have hsorted : ((Metacognition.sortedTasks snapshot.tasks).map taskKey).Nodup :=
      ((sortBy_perm _ _).map _).nodup_iff.2 hunique
    refine (List.pairwise_map.1 hsorted).imp fun {left right} hne label hleft hright => ?_
    obtain ⟨diagnostic, hd, rfl⟩ := List.mem_map.1 hleft
    obtain ⟨other, ho, heq⟩ := List.mem_map.1 hright
    obtain ⟨hagent, htask, -, -⟩ := Metacognition.diagnostic_names hd
    obtain ⟨hagent', htask', -, -⟩ := Metacognition.diagnostic_names ho
    rw [hagent, htask, hagent', htask', Prod.mk.injEq] at heq
    exact hne heq.2.symm

theorem place_eq_assign_id {task : TaskAnalysis} {lookups : Lookups} {candidate : Assignment}
    (h : place lookups task = .assign candidate) :
    candidate.assignmentId =
      Joined.labelId AssignmentAction.asStr (candidate.action, candidate.key) := by
  have hplaced := placed lookups task
  rw [h] at hplaced
  cases hplaced with
  | assign action => rfl

theorem place_eq_intervene_id {task : TaskAnalysis} {lookups : Lookups}
    {intervention : Intervention} (h : place lookups task = .intervene intervention) :
    intervention.interventionId =
      Joined.labelId InterventionKind.asStr (intervention.kind, intervention.key) := by
  have hplaced := placed lookups task
  rw [h] at hplaced
  cases hplaced with
  | intervene _ hfor =>
    obtain ⟨kind, -, rfl⟩ := Option.map_eq_some_iff.1 hfor
    rfl

theorem mem_candidateLabels {action : AssignmentAction} {key : TaskKey} :
    (action, key) ∈ candidateLabels snapshot policy ↔
      ∃ task ∈ snapshot.tasks, taskKey task = key ∧ Proposed snapshot policy task action := by
  simp only [candidateLabels, List.mem_map, mem_assignmentCandidates, Metacognition.mem_tasks]
  constructor
  · rintro ⟨candidate, ⟨_, ⟨task, ht, rfl⟩, hplace⟩, hlabel⟩
    obtain ⟨rfl, rfl⟩ := Prod.mk.inj hlabel
    exact ⟨task, ht, (place_eq_assign hplace).1.symm, candidate, hplace, rfl⟩
  · rintro ⟨task, ht, rfl, candidate, hplace, rfl⟩
    exact ⟨candidate, ⟨_, ⟨task, ht, rfl⟩, hplace⟩,
      congrArg (Prod.mk _) (place_eq_assign hplace).1⟩

theorem mem_interventionLabels {kind : InterventionKind} {key : TaskKey} :
    (kind, key) ∈ interventionLabels snapshot policy ↔
      ∃ task ∈ snapshot.tasks, taskKey task = key ∧ Intervened snapshot policy task kind := by
  have hkey : ∀ {task : TaskState} {intervention : Intervention},
      placement snapshot policy task = .intervene intervention →
      intervention.key = taskKey task := by
    intro task intervention hplace
    have hplaced := key_place (lookups snapshot (analyzeWithPolicy snapshot policy))
      (analyzeTask (indexSnapshot snapshot policy) task)
    rw [← placement, hplace] at hplaced
    exact hplaced
  simp only [interventionLabels, List.mem_map, mem_interventions, Metacognition.mem_tasks]
  constructor
  · rintro ⟨intervention, ⟨_, ⟨task, ht, rfl⟩, hplace⟩, hlabel⟩
    obtain ⟨rfl, rfl⟩ := Prod.mk.inj hlabel
    exact ⟨task, ht, (hkey hplace).symm, intervention, hplace, rfl⟩
  · rintro ⟨task, ht, rfl, intervention, hplace, rfl⟩
    exact ⟨intervention, ⟨_, ⟨task, ht, rfl⟩, hplace⟩, congrArg (Prod.mk _) (hkey hplace)⟩

theorem assignmentIds_eq :
    (draftPlan snapshot (analyzeWithPolicy snapshot policy)).assignmentCandidates.map
        Assignment.assignmentId =
      (candidateLabels snapshot policy).map (Joined.labelId AssignmentAction.asStr) := by
  rw [candidateLabels, List.map_map]
  refine List.map_congr_left fun candidate hmem => ?_
  obtain ⟨task, -, hplace⟩ := mem_assignmentCandidates.1 hmem
  exact place_eq_assign_id hplace

theorem interventionIds_eq :
    (draftPlan snapshot (analyzeWithPolicy snapshot policy)).interventions.map
        Intervention.interventionId =
      (interventionLabels snapshot policy).map (Joined.labelId InterventionKind.asStr) := by
  rw [interventionLabels, List.map_map]
  refine List.map_congr_left fun intervention hmem => ?_
  obtain ⟨task, -, hplace⟩ := mem_interventions.1 hmem
  exact place_eq_intervene_id hplace

theorem nodup_placementLabels (hunique : (snapshot.tasks.map taskKey).Nodup) :
    (candidateLabels snapshot policy).Nodup ∧ (interventionLabels snapshot policy).Nodup := by
  have hkeys : (draftPlan snapshot (analyzeWithPolicy snapshot policy)).keys.Nodup :=
    ((keys_draftPlan snapshot _).trans (keys_tasks snapshot policy)).nodup_iff.2 hunique
  rw [Draft.keys] at hkeys
  constructor
  · refine List.Nodup.of_map Prod.snd ?_
    rw [candidateLabels, List.map_map]
    exact hkeys.of_append_left
  · refine List.Nodup.of_map Prod.snd ?_
    rw [interventionLabels, List.map_map]
    exact hkeys.of_append_right.of_append_left

end Labels

section Plans

variable {snapshot : Snapshot} {policy : AnalysisPolicy}

def roomyPolicy (draft : Draft) : PlanningPolicy :=
  ⟨draft.assignmentCandidates.length + 1, draft.assignmentCandidates.length + 1,
    draft.interventions.length + 1, 1⟩

theorem buildPlan_roomy (draft : Draft) :
    buildPlanWithPolicy snapshot policy (roomyPolicy draft) =
      .ok (planFromAnalysis snapshot (analyzeWithPolicy snapshot policy) (roomyPolicy draft)) :=
  buildPlan_of_valid (by simp [PlanningPolicy.validate, PlanningPolicy.bounds, roomyPolicy]) _ _

theorem assignments_planFromAnalysis (analysis : MetacognitionSnapshot) (policy : PlanningPolicy) :
    (planFromAnalysis snapshot analysis policy).assignments =
      (selectAssignments (draftPlan snapshot analysis).assignmentCandidates policy.maxAssignments
        policy.maxAssignmentsPerAgent).1 := rfl

theorem interventions_planFromAnalysis (analysis : MetacognitionSnapshot)
    (policy : PlanningPolicy) :
    (planFromAnalysis snapshot analysis policy).interventions =
      (draftPlan snapshot analysis).interventions.take policy.maxInterventions := rfl

theorem nodup_assignmentIds_iff :
    (∀ planning plan, buildPlanWithPolicy snapshot policy planning = .ok plan →
      (plan.assignments.map Assignment.assignmentId).Nodup) ↔
    ((draftPlan snapshot (analyzeWithPolicy snapshot policy)).assignmentCandidates.map
      Assignment.assignmentId).Nodup := by
  constructor
  · intro h
    have hperm := selectAssignments_of_room
      (draftPlan snapshot (analyzeWithPolicy snapshot policy)).assignmentCandidates
      (Nat.le_succ _) (Nat.le_succ _)
    have hall := h _ _ (buildPlan_roomy (draftPlan snapshot (analyzeWithPolicy snapshot policy)))
    rw [assignments_planFromAnalysis] at hall
    exact (hperm.map _).nodup_iff.1 hall
  · intro h planning plan hplan
    rw [eq_planFromAnalysis hplan, assignments_planFromAnalysis]
    have hperm := ((selectAssignments_sound
      (draftPlan snapshot (analyzeWithPolicy snapshot policy)).assignmentCandidates
      planning.maxAssignments planning.maxAssignmentsPerAgent).1.map
        Assignment.assignmentId).nodup_iff.2 h
    rw [List.map_append] at hperm
    exact hperm.of_append_left

theorem nodup_interventionIds_iff :
    (∀ planning plan, buildPlanWithPolicy snapshot policy planning = .ok plan →
      (plan.interventions.map Intervention.interventionId).Nodup) ↔
    ((draftPlan snapshot (analyzeWithPolicy snapshot policy)).interventions.map
      Intervention.interventionId).Nodup := by
  constructor
  · intro h
    have hall := h _ _ (buildPlan_roomy (draftPlan snapshot (analyzeWithPolicy snapshot policy)))
    rwa [interventions_planFromAnalysis, roomyPolicy, List.take_of_length_le (Nat.le_succ _)]
      at hall
  · intro h planning plan hplan
    rw [eq_planFromAnalysis hplan, interventions_planFromAnalysis]
    exact h.sublist ((List.take_sublist _ _).map _)

end Plans

/-- The ids of a report and of its plans tell apart what they are about. -/
structure StableIds (snapshot : Snapshot) (policy : AnalysisPolicy) : Prop where
  diagnostics : ((analyzeWithPolicy snapshot policy).diagnostics.map fun diagnostic =>
    diagnostic.diagnosticId).Nodup
  assignments : ∀ planning plan, buildPlanWithPolicy snapshot policy planning = .ok plan →
    (plan.assignments.map Assignment.assignmentId).Nodup
  interventions : ∀ planning plan, buildPlanWithPolicy snapshot policy planning = .ok plan →
    (plan.interventions.map Intervention.interventionId).Nodup

/-- Something of one kind is said of both tasks: a rule applies to them, or they are candidates
for one action or for one kind of intervention. -/
def SameKind (snapshot : Snapshot) (policy : AnalysisPolicy) (left right : TaskState) : Prop :=
  (∃ rule, Reported snapshot policy left rule ∧ Reported snapshot policy right rule) ∨
    (∃ action, Proposed snapshot policy left action ∧ Proposed snapshot policy right action) ∨
    ∃ kind, Intervened snapshot policy left kind ∧ Intervened snapshot policy right kind

/-- Two different keys that read the same once they are joined. -/
def Confusable (left right : TaskKey) : Prop :=
  left ≠ right ∧ Joined.pair left = Joined.pair right

instance (left right : TaskKey) : Decidable (Confusable left right) :=
  inferInstanceAs (Decidable (_ ∧ _))

theorem stableIds_iff {snapshot : Snapshot} (policy : AnalysisPolicy)
    (hunique : (snapshot.tasks.map taskKey).Nodup) :
    StableIds snapshot policy ↔
      ∀ left ∈ snapshot.tasks, ∀ right ∈ snapshot.tasks,
        Confusable (taskKey left) (taskKey right) → ¬SameKind snapshot policy left right := by
  have hdiagnostics : (diagnosticLabels snapshot policy).Nodup := nodup_diagnosticLabels hunique
  obtain ⟨hcandidates, hinterventions⟩ :
      (candidateLabels snapshot policy).Nodup ∧ (interventionLabels snapshot policy).Nodup :=
    nodup_placementLabels hunique
  have hdiagnosticIds :=
    Joined.nodup_labelIds_iff colon_notMem_rule rule_injective hdiagnostics
  have hassignmentIds := Joined.nodup_labelIds_iff colon_notMem_action action_injective hcandidates
  have hinterventionIds :=
    Joined.nodup_labelIds_iff colon_notMem_kind kind_injective hinterventions
  rw [← diagnosticIds_eq] at hdiagnosticIds
  rw [← assignmentIds_eq, ← nodup_assignmentIds_iff] at hassignmentIds
  rw [← interventionIds_eq, ← nodup_interventionIds_iff] at hinterventionIds
  constructor
  · rintro h left hleft right hright ⟨hne, hpair⟩
      (⟨rule, hl, hr⟩ | ⟨action, hl, hr⟩ | ⟨kind, hl, hr⟩)
    · exact hne (hdiagnosticIds.1 h.diagnostics rule _ _
        (mem_diagnosticLabels.2 ⟨left, hleft, rfl, hl⟩)
        (mem_diagnosticLabels.2 ⟨right, hright, rfl, hr⟩) hpair)
    · exact hne (hassignmentIds.1 h.assignments action _ _
        (mem_candidateLabels.2 ⟨left, hleft, rfl, hl⟩)
        (mem_candidateLabels.2 ⟨right, hright, rfl, hr⟩) hpair)
    · exact hne (hinterventionIds.1 h.interventions kind _ _
        (mem_interventionLabels.2 ⟨left, hleft, rfl, hl⟩)
        (mem_interventionLabels.2 ⟨right, hright, rfl, hr⟩) hpair)
  · intro h
    refine ⟨hdiagnosticIds.2 ?_, hassignmentIds.2 ?_, hinterventionIds.2 ?_⟩
    · intro rule key other hkey hother hpair
      by_contra hne
      obtain ⟨left, hleft, rfl, hl⟩ := mem_diagnosticLabels.1 hkey
      obtain ⟨right, hright, rfl, hr⟩ := mem_diagnosticLabels.1 hother
      exact h left hleft right hright ⟨hne, hpair⟩ (.inl ⟨rule, hl, hr⟩)
    · intro action key other hkey hother hpair
      by_contra hne
      obtain ⟨left, hleft, rfl, hl⟩ := mem_candidateLabels.1 hkey
      obtain ⟨right, hright, rfl, hr⟩ := mem_candidateLabels.1 hother
      exact h left hleft right hright ⟨hne, hpair⟩ (.inr (.inl ⟨action, hl, hr⟩))
    · intro kind key other hkey hother hpair
      by_contra hne
      obtain ⟨left, hleft, rfl, hl⟩ := mem_interventionLabels.1 hkey
      obtain ⟨right, hright, rfl, hr⟩ := mem_interventionLabels.1 hother
      exact h left hleft right hright ⟨hne, hpair⟩ (.inr (.inr ⟨kind, hl, hr⟩))

section Reachable

variable {C : Type → Type → Type} [LruCache C] [LawfulLruCache C] [CounterArith]

theorem nodup_taskKey_run (cache : CacheConfig) (startedAt : DateTime) (ops : List StoreOp)
    (generatedAt : DateTime) :
    ((ControlPlane.snapshot (run cache startedAt ops : StoreInner C) generatedAt).tasks.map
      taskKey).Nodup := by
  let inner : StoreInner C := run cache startedAt ops
  have hkeys : (LruCache.iter inner.tasks).map (fun e => taskKey e.2) =
      (Recency.keys (LruCache.iter inner.tasks)).map fun key => (key.agentId, key.entityId) := by
    rw [Recency.keys, List.map_map]
    refine List.map_congr_left fun e he => ?_
    obtain ⟨hagent, htask⟩ := task_filed cache startedAt ops (LruCache.peek_eq_some_iff.2 he)
    exact Prod.ext hagent htask
  change (((LruCache.iter inner.tasks).map Prod.snd).map taskKey).Nodup
  rw [List.map_map]
  refine hkeys ▸ (LawfulLruCache.nodup_keys inner.tasks).map fun key other h => ?_
  cases key
  cases other
  cases h
  rfl

/-- The ids of a reachable snapshot identify what they are given to, exactly if no two tasks of
which the same kind of thing is said read the same. -/
theorem ids_identify_iff (cache : CacheConfig) (startedAt : DateTime) (ops : List StoreOp)
    (generatedAt : DateTime) (policy : AnalysisPolicy) :
    let snapshot := ControlPlane.snapshot (run cache startedAt ops : StoreInner C) generatedAt
    StableIds snapshot policy ↔
      ∀ left ∈ snapshot.tasks, ∀ right ∈ snapshot.tasks,
        Confusable (taskKey left) (taskKey right) → ¬SameKind snapshot policy left right :=
  stableIds_iff policy (nodup_taskKey_run cache startedAt ops generatedAt)

end Reachable

namespace Sample

open ControlPlane.Sample

def createdBy (agentId taskId : String) (goalId : Option String) (eventId : Uuid) : StoreOp :=
  .ingest { envelope eventId 1 (.taskCreated ⟨taskId, "title", goalId, [], [], none⟩) with
    agent := ⟨agentId, "codex", "gpt", none⟩ } .http (instant 1)

def clashing (goalId : Option String) : Snapshot :=
  ControlPlane.snapshot (run cache (instant 0)
    [createdBy "a" "b:c" goalId 1, createdBy "a:b" "c" goalId 2] : StoreInner RecencyCache)
    (instant 2)

def apart : Snapshot :=
  ControlPlane.snapshot (run cache (instant 0)
    [createdBy "a" "c" none 1, createdBy "a:b" "c" none 2] : StoreInner RecencyCache) (instant 2)

end Sample

theorem ids_identify_apart : StableIds Sample.apart .default :=
  (ids_identify_iff ControlPlane.Sample.cache (ControlPlane.Sample.instant 0)
    [Sample.createdBy "a" "c" none 1, Sample.createdBy "a:b" "c" none 2]
    (ControlPlane.Sample.instant 2) .default).2 (by
      have hclear : ∀ left ∈ Sample.apart.tasks, ∀ right ∈ Sample.apart.tasks,
          ¬Confusable (taskKey left) (taskKey right) := by
        decide
      exact fun left hleft right hright h => absurd h (hclear left hleft right hright))

/-- One diagnostic id for both tasks, and one assignment id; with a goal that is not retained, one
intervention id. -/
theorem clashing_ids_shared :
    (analyzeWithPolicy (Sample.clashing none) .default).diagnostics.map (fun diagnostic =>
        (diagnostic.diagnosticId, diagnostic.agentId)) =
      [("missing_next_action:a:b:c", "a"), ("missing_next_action:a:b:c", "a:b")] ∧
    (∃ plan, buildPlanWithPolicy (Sample.clashing none) .default .default = .ok plan ∧
      plan.assignments.map (fun assignment => (assignment.assignmentId, assignment.agentId)) =
        [("define_next_action:a:b:c", "a"), ("define_next_action:a:b:c", "a:b")]) ∧
    (∃ plan, buildPlanWithPolicy (Sample.clashing (some "g")) .default .default = .ok plan ∧
      plan.interventions.map (fun intervention =>
          (intervention.interventionId, intervention.agentId)) =
        [("declare_missing_goal:a:b:c", "a"), ("declare_missing_goal:a:b:c", "a:b")]) ∧
    ¬StableIds (Sample.clashing none) .default := by
  refine ⟨by decide, ⟨_, buildPlan_of_valid (by decide) _ _, by decide⟩,
    ⟨_, buildPlan_of_valid (by decide) _ _, by decide⟩, fun h => ?_⟩
  have hids := h.diagnostics
  revert hids
  decide

end ControlPlane.Coordination
