import ControlPlane.Metacognition.Analysis
import ControlPlane.Metacognition.Depth
import ControlPlane.Store.Ingest

/-! The critical path of a goal, as its report gives it: how long it is, and which tasks are on
it. -/

namespace ControlPlane.Metacognition

open Relation (ReflTransGen TransGen)

def cycleWarning : String :=
  "Critical-path progress is unavailable because the task graph contains a cycle."

def GoalAnalysis.key (report : GoalAnalysis) : GoalKey := (report.agentId, report.goalId)

section Report

variable {snapshot : Snapshot} {policy : AnalysisPolicy} {report : GoalAnalysis}

theorem exists_goal (h : report ∈ (analyzeWithPolicy snapshot policy).goals) :
    ∃ goal : GoalState, report.key = (goal.agentId, goal.goal.goalId) ∧
      report = analyzeGoal policy.normalized
        (criticalPaths snapshot.tasks (dependencyCycleMembers (lookupTasks snapshot.tasks))
          (remainingDepths (lookupTasks snapshot.tasks)
            (dependencyCycleMembers (lookupTasks snapshot.tasks)))).2
        (analyzeWithPolicy snapshot policy).tasks (analyzeWithPolicy snapshot policy).diagnostics
        goal := by
  obtain ⟨goal, -, rfl⟩ := List.mem_map.1 h
  exact ⟨goal, rfl, rfl⟩

theorem goalTasks_perm (snapshot : Snapshot) (policy : AnalysisPolicy) (goal : GoalKey) :
    (((analyzeWithPolicy snapshot policy).tasks.filter fun task =>
      task.agentId = goal.1 ∧ task.goalId = some goal.2).map
        fun task => (task.agentId, task.taskId)).Perm (goalTaskKeys snapshot.tasks goal) := by
  have hgoal : ∀ task : TaskState,
      decide ((task.task.goalId.map fun goalId => (task.agentId, goalId)) = some goal) =
        decide (task.agentId = goal.1 ∧ task.task.goalId = some goal.2) := by
    intro task
    rw [decide_eq_decide]
    cases task.task.goalId with
    | none => simp
    | some goalId => simp [Prod.ext_iff]
  simp only [goalTaskKeys, hgoal]
  change ((((sortedTasks snapshot.tasks).map _).filter _).map _).Perm _
  rw [List.filter_map, List.map_map]
  exact ((sortBy_perm _ snapshot.tasks).filter _).map _

theorem totalTasks_eq (h : report ∈ (analyzeWithPolicy snapshot policy).goals) :
    report.totalTasks = (goalTaskKeys snapshot.tasks report.key).length := by
  obtain ⟨goal, hkey, rfl⟩ := exists_goal h
  have hlength := (goalTasks_perm snapshot policy (goal.agentId, goal.goal.goalId)).length_eq
  rw [List.length_map] at hlength
  rw [hkey]
  exact hlength

theorem remaining_eq (h : report ∈ (analyzeWithPolicy snapshot policy).goals) :
    report.criticalPathRemaining =
      if goalTaskKeys snapshot.tasks report.key = [] then none
      else remainingOf (dependencyCycleMembers (lookupTasks snapshot.tasks))
        (remainingDepths (lookupTasks snapshot.tasks)
          (dependencyCycleMembers (lookupTasks snapshot.tasks)))
        (goalTaskKeys snapshot.tasks report.key) := by
  obtain ⟨goal, hkey, rfl⟩ := exists_goal h
  rw [hkey]
  dsimp only [analyzeGoal]
  rw [getElem?_criticalPaths_snd]
  split <;> rfl

theorem onCriticalPath_of_mem {analysis : TaskAnalysis}
    (h : analysis ∈ (analyzeWithPolicy snapshot policy).tasks) :
    analysis.onCriticalPath =
      (indexSnapshot snapshot policy).criticalPathTasks.contains
        (analysis.agentId, analysis.taskId) := by
  obtain ⟨task, -, rfl⟩ := mem_tasks.1 h
  rfl

theorem mem_criticalPathTaskIds (h : report ∈ (analyzeWithPolicy snapshot policy).goals)
    {taskId : String} :
    taskId ∈ report.criticalPathTaskIds ↔
      (report.agentId, taskId) ∈ goalTaskKeys snapshot.tasks report.key ∧
        (indexSnapshot snapshot policy).criticalPathTasks.contains (report.agentId, taskId) := by
  obtain ⟨goal, hkey, rfl⟩ := exists_goal h
  have hperm := goalTasks_perm snapshot policy (goal.agentId, goal.goal.goalId)
  rw [hkey, ← hperm.mem_iff]
  dsimp only [analyzeGoal]
  rw [mem_sortBy, List.mem_map, List.mem_map]
  constructor
  · rintro ⟨analysis, hmem, rfl⟩
    obtain ⟨hmem, hcritical⟩ := List.mem_filter.1 hmem
    obtain ⟨hanalysis, hgoal⟩ := List.mem_filter.1 hmem
    obtain ⟨hagent, -⟩ := of_decide_eq_true hgoal
    rw [onCriticalPath_of_mem hanalysis, hagent] at hcritical
    exact ⟨⟨analysis, hmem, Prod.ext hagent rfl⟩, hcritical⟩
  · rintro ⟨⟨analysis, hmem, hpair⟩, hcritical⟩
    obtain ⟨hanalysis, -⟩ := List.mem_filter.1 hmem
    obtain ⟨hagent, rfl⟩ := Prod.mk.inj hpair
    refine ⟨analysis, List.mem_filter.2 ⟨hmem, ?_⟩, rfl⟩
    rw [onCriticalPath_of_mem hanalysis, hagent]
    exact hcritical

theorem cycleWarning_of_none (h : report ∈ (analyzeWithPolicy snapshot policy).goals)
    (htasks : 0 < report.totalTasks) (hnone : report.criticalPathRemaining = none) :
    cycleWarning ∈ report.dataQualityWarnings := by
  obtain ⟨goal, -, rfl⟩ := exists_goal h
  dsimp only [analyzeGoal] at htasks hnone ⊢
  rw [List.mem_append, List.mem_append]
  refine .inl (.inr ?_)
  rw [if_pos ⟨by rw [hnone]; rfl, htasks⟩]
  exact List.mem_singleton_self _

end Report

def ReachesCycle (tasks : List TaskState) (key : TaskKey) : Prop :=
  ∃ on, ReflTransGen (Awaits tasks) key on ∧ TransGen (Awaits tasks) on on

def Covered (tasks : List TaskState) (key : TaskKey) : Prop :=
  (agentGraph (lookupTasks tasks) key.1).Covered key.2

theorem mem_members_iff {tasks : List TaskState} {key : TaskKey} :
    key ∈ dependencyCycleMembers (lookupTasks tasks) ↔ Covered tasks key :=
  mem_dependencyCycleMembers

/-- A chain of unfinished tasks that no chain of the goal exceeds. -/
def LongestChain (tasks : List TaskState) (goal : GoalKey) (chain : List TaskKey) : Prop :=
  GoalChain tasks (Awaits tasks) goal chain ∧
    IsGreatest (chainLengths tasks (Awaits tasks) goal) chain.length

structure RemainingExact (tasks : List TaskState) (report : GoalAnalysis) : Prop where
  available : report.criticalPathRemaining.isSome ↔
    ∀ key ∈ goalTaskKeys tasks report.key, ¬ReachesCycle tasks key
  longest : ∀ n, report.criticalPathRemaining = some n →
    IsGreatest (chainLengths tasks (Awaits tasks) report.key) n
  warned : report.criticalPathRemaining = none → cycleWarning ∈ report.dataQualityWarnings

/-- The cycles that are ahead of a goal show in its own tasks, and where there are none, a longest
chain passes no task of a cycle after its first. -/
structure PathFound (tasks : List TaskState) (goal : GoalKey) : Prop where
  cycle : (∃ key ∈ goalTaskKeys tasks goal, Covered tasks key) ↔
    ∃ key ∈ goalTaskKeys tasks goal, ReachesCycle tasks key
  chain : (∀ key ∈ goalTaskKeys tasks goal, ¬ReachesCycle tasks key) →
    ∃ chain, LongestChain tasks goal chain ∧ ∀ key ∈ chain.dropLast, ¬Covered tasks key

section Remaining

variable {snapshot : Snapshot} {policy : AnalysisPolicy} {report : GoalAnalysis}

theorem goalChain_counted_iff {tasks : List TaskState} {goal : GoalKey} {chain : List TaskKey} :
    GoalChain tasks (Counted tasks (dependencyCycleMembers (lookupTasks tasks))) goal chain ↔
      GoalChain tasks (Awaits tasks) goal chain ∧
        ∀ key ∈ chain.dropLast, ¬Covered tasks key := by
  cases chain with
  | nil => simp [GoalChain]
  | cons key rest =>
    simp only [GoalChain, isChain_counted_iff, mem_members_iff, and_assoc]

/-- The path is unavailable if a task of the goal is reported, and otherwise as long as the
longest chain that passes no reported task after its first. -/
theorem remaining_cases (hunique : (snapshot.tasks.map taskKey).Nodup)
    (hsize : snapshot.tasks.length < 2 ^ 64)
    (h : report ∈ (analyzeWithPolicy snapshot policy).goals)
    (htasks : goalTaskKeys snapshot.tasks report.key ≠ []) :
    (∃ key ∈ goalTaskKeys snapshot.tasks report.key, Covered snapshot.tasks key) ∧
        report.criticalPathRemaining = none ∨
      (∀ key ∈ goalTaskKeys snapshot.tasks report.key, ¬Covered snapshot.tasks key) ∧
        ∃ n, report.criticalPathRemaining = some n ∧
          IsGreatest (chainLengths snapshot.tasks (Counted snapshot.tasks
            (dependencyCycleMembers (lookupTasks snapshot.tasks))) report.key) n := by
  rw [remaining_eq h, if_neg htasks, remainingOf]
  split
  · next hany =>
    obtain ⟨key, hkey, hmember⟩ := List.any_eq_true.1 hany
    exact .inl ⟨⟨key, hkey, mem_members_iff.1 (Std.TreeSet.contains_iff_mem.1 hmember)⟩, rfl⟩
  · next hnone =>
    refine .inr ⟨fun key hkey hcovered => hnone (List.any_eq_true.2 ⟨key, hkey, ?_⟩), _, rfl,
      isGreatest_maxDepth hunique hsize (fun key => acc_followed hunique) _⟩
    exact Std.TreeSet.contains_iff_mem.2 (mem_members_iff.2 hcovered)

/-- The report of a goal is right about its critical path exactly if the path is found. -/
theorem critical_path_remaining_iff (snapshot : Snapshot) (policy : AnalysisPolicy)
    (hunique : (snapshot.tasks.map taskKey).Nodup) (hsize : snapshot.tasks.length < 2 ^ 64)
    (report : GoalAnalysis) (hreport : report ∈ (analyzeWithPolicy snapshot policy).goals)
    (htasks : 0 < report.totalTasks) :
    RemainingExact snapshot.tasks report ↔ PathFound snapshot.tasks report.key := by
  have hwarned := cycleWarning_of_none hreport htasks
  have hne : goalTaskKeys snapshot.tasks report.key ≠ [] :=
    List.ne_nil_of_length_pos (htasks.trans_eq (totalTasks_eq hreport))
  have hopen : (∀ key ∈ goalTaskKeys snapshot.tasks report.key,
      ¬ReachesCycle snapshot.tasks key) ↔
      ¬∃ key ∈ goalTaskKeys snapshot.tasks report.key, ReachesCycle snapshot.tasks key := by
    simp
  rcases remaining_cases hunique hsize hreport hne with
    ⟨hcovered, hnone⟩ | ⟨huncovered, n, hsome, hgreatest⟩
  · constructor
    · intro h
      have hreaches : ∃ key ∈ goalTaskKeys snapshot.tasks report.key,
          ReachesCycle snapshot.tasks key := by
        by_contra hno
        have havailable := h.available.2 (hopen.2 hno)
        rw [hnone] at havailable
        cases havailable
      exact ⟨⟨fun _ => hreaches, fun _ => hcovered⟩, fun hno => absurd hreaches (hopen.1 hno)⟩
    · intro h
      refine ⟨⟨fun hsome => ?_, fun hno => absurd (h.cycle.1 hcovered) (hopen.1 hno)⟩,
        fun n hn => ?_, hwarned⟩
      · rw [hnone] at hsome
        cases hsome
      · rw [hnone] at hn
        cases hn
  · have hnot : ¬∃ key ∈ goalTaskKeys snapshot.tasks report.key, Covered snapshot.tasks key :=
      fun ⟨key, hkey, hcovered⟩ => huncovered key hkey hcovered
    obtain ⟨⟨chain, hchain, hlength⟩, hbound⟩ := hgreatest
    obtain ⟨hawaits, hpassed⟩ := goalChain_counted_iff.1 hchain
    constructor
    · intro h
      have hno := h.available.1 (by rw [hsome]; rfl)
      refine ⟨⟨fun hcovered => absurd hcovered hnot, fun hreaches => absurd hreaches (hopen.1 hno)⟩,
        fun _ => ⟨chain, ⟨hawaits, ?_⟩, hpassed⟩⟩
      rw [hlength]
      exact h.longest n hsome
    · intro h
      have hno : ∀ key ∈ goalTaskKeys snapshot.tasks report.key,
          ¬ReachesCycle snapshot.tasks key := hopen.2 fun hreaches => hnot (h.cycle.2 hreaches)
      refine ⟨⟨fun _ => hno, fun _ => by rw [hsome]; rfl⟩, fun m hm => ?_, hwarned⟩
      rw [hsome, Option.some.injEq] at hm
      subst hm
      obtain ⟨longest, ⟨hlongest, hgreatest⟩, hclear⟩ := h.chain hno
      have hle := hbound ⟨longest, goalChain_counted_iff.2 ⟨hlongest, hclear⟩, rfl⟩
      refine ⟨⟨chain, hawaits, hlength⟩, fun m hm => (hgreatest.2 hm).trans hle⟩

end Remaining

namespace Sample

open ControlPlane.Sample

def specified (taskId : String) (goalId : Option String) (dependsOn : List String) : AgentEvent :=
  .taskCreated ⟨taskId, "title", goalId, dependsOn, [], none⟩

def pursuing (first second : AgentEvent) : Snapshot :=
  ControlPlane.snapshot (run cache (instant 0)
    [ingestAt 1 1 (.goalDeclared ⟨"g", "title", [], [], none⟩), ingestAt 2 2 first,
      ingestAt 3 3 second] : StoreInner RecencyCache) (instant 4)

def unordered : Snapshot := pursuing (specified "a" (some "g") []) (specified "b" (some "g") [])

def ordered : Snapshot := pursuing (specified "a" (some "g") []) (specified "b" (some "g") ["a"])

def entangled : Snapshot := pursuing (specified "a" none ["a"]) (specified "b" (some "g") ["a"])

def outline (snapshot : Snapshot) : List (GoalKey × Option Nat × List String × Nat) :=
  (analyzeWithPolicy snapshot .default).goals.map fun report =>
    (report.key, report.criticalPathRemaining, report.criticalPathTaskIds, report.totalTasks)

end Sample

theorem exists_report {snapshot : Snapshot} {goal : GoalKey} {remaining : Option Nat}
    {taskIds : List String} {total : Nat}
    (h : Sample.outline snapshot = [(goal, remaining, taskIds, total)]) :
    ∃ report ∈ (analyzeWithPolicy snapshot .default).goals, report.key = goal ∧
      report.criticalPathRemaining = remaining ∧ report.criticalPathTaskIds = taskIds ∧
      report.totalTasks = total := by
  have hmem : (goal, remaining, taskIds, total) ∈ Sample.outline snapshot := by
    rw [h]
    exact List.mem_singleton_self _
  obtain ⟨report, hreport, heq⟩ := List.mem_map.1 hmem
  simp only [Prod.mk.injEq] at heq
  exact ⟨report, hreport, heq⟩

theorem not_dependsOn_unordered {key dependency : TaskKey} :
    ¬DependsOn Sample.unordered.tasks key dependency := by
  rintro ⟨task, hmem, -, -, hdep, -⟩
  have hnone : ∀ task ∈ Sample.unordered.tasks, task.task.dependsOn = [] := by decide
  rw [hnone task hmem] at hdep
  cases hdep

theorem longestChain_unordered :
    LongestChain Sample.unordered.tasks ("worker", "g") [("worker", "a")] := by
  have hunfinished : ∃ task ∈ Sample.unordered.tasks, taskKey task = ("worker", "a") ∧
      task.status ≠ .succeeded := by
    decide
  refine ⟨⟨by decide, hunfinished, List.isChain_singleton _⟩,
    ⟨[("worker", "a")], ⟨by decide, hunfinished, List.isChain_singleton _⟩, rfl⟩, ?_⟩
  rintro _ ⟨chain, hchain, rfl⟩
  cases chain with
  | nil => exact Nat.zero_le _
  | cons last rest =>
    obtain ⟨-, -, hchain⟩ := hchain
    cases rest with
    | nil => exact le_rfl
    | cons next rest =>
      exact absurd (List.isChain_cons_cons.1 hchain).1.1 not_dependsOn_unordered

theorem outline_unordered :
    Sample.outline Sample.unordered = [(("worker", "g"), some 1, ["a", "b"], 2)] := by decide

theorem critical_path_remaining_unordered :
    ∃ report ∈ (analyzeWithPolicy Sample.unordered .default).goals,
      report.criticalPathRemaining = some 1 ∧ RemainingExact Sample.unordered.tasks report := by
  obtain ⟨report, hreport, hkey, hremaining, -, htotal⟩ := exists_report outline_unordered
  refine ⟨report, hreport, hremaining, (critical_path_remaining_iff Sample.unordered .default
    (by decide) (by decide) report hreport (by rw [htotal]; decide)).2 ?_⟩
  rw [hkey]
  refine ⟨iff_of_false ?_ ?_, fun _ => ⟨_, longestChain_unordered, fun _ h => by cases h⟩⟩
  · rintro ⟨key, -, hcovered⟩
    obtain ⟨_, hdepends, -⟩ := Relation.TransGen.head'_iff.1
      ((transGen_dependsOn_iff (by decide)).2 ⟨rfl, hcovered.onCycle⟩)
    exact not_dependsOn_unordered hdepends
  · rintro ⟨key, -, on, -, h⟩
    obtain ⟨_, hawaits, -⟩ := Relation.TransGen.head'_iff.1 h
    exact not_dependsOn_unordered hawaits.1

/-- The goal's task waits for one that never ends, and the report counts two steps. -/
theorem critical_path_through_cycle :
    ∃ report ∈ (analyzeWithPolicy Sample.entangled .default).goals,
      report.criticalPathRemaining = some 2 ∧
      (∃ key ∈ goalTaskKeys Sample.entangled.tasks report.key,
        ReachesCycle Sample.entangled.tasks key) ∧
      ¬RemainingExact Sample.entangled.tasks report := by
  have houtline : Sample.outline Sample.entangled =
      [(("worker", "g"), some 2, ["b"], 1)] := by decide
  obtain ⟨report, hreport, hkey, hremaining, -⟩ := exists_report houtline
  have hreaches : ∃ key ∈ goalTaskKeys Sample.entangled.tasks report.key,
      ReachesCycle Sample.entangled.tasks key := by
    have hunfinished : ∃ task ∈ Sample.entangled.tasks, taskKey task = ("worker", "a") ∧
        task.status ≠ .succeeded := by
      decide
    rw [hkey]
    exact ⟨("worker", "b"), by decide, ("worker", "a"), .single ⟨by decide, hunfinished⟩,
      .single ⟨by decide, hunfinished⟩⟩
  refine ⟨report, hreport, hremaining, hreaches, fun h => ?_⟩
  obtain ⟨key, hmem, hcycle⟩ := hreaches
  exact h.available.1 (by rw [hremaining]; rfl) key hmem hcycle

def AcyclicGoal (tasks : List TaskState) (goal : GoalKey) : Prop :=
  ∀ key ∈ goalTaskKeys tasks goal, ∀ on, ReflTransGen (DependsOn tasks) key on →
    ¬TransGen (DependsOn tasks) on on

structure PathMarked (snapshot : Snapshot) (policy : AnalysisPolicy) (report : GoalAnalysis) :
    Prop where
  exact : ∀ taskId, taskId ∈ report.criticalPathTaskIds ↔
    (report.agentId, taskId) ∈ goalTaskKeys snapshot.tasks report.key ∧
      ∃ chain, LongestChain snapshot.tasks report.key chain ∧ (report.agentId, taskId) ∈ chain
  enough : ∀ chain, LongestChain snapshot.tasks report.key chain →
    (∀ key ∈ chain, key ∈ goalTaskKeys snapshot.tasks report.key) →
    ∀ n, report.criticalPathRemaining = some n → n ≤ report.criticalPathTaskIds.length
  first : ∀ chain first, LongestChain snapshot.tasks report.key chain →
    (∀ key ∈ chain, key ∈ goalTaskKeys snapshot.tasks report.key) →
    chain.getLast? = some first →
    ∀ task ∈ (analyzeWithPolicy snapshot policy).tasks, (task.agentId, task.taskId) = first →
      task.onCriticalPath = true

section Marked

variable {snapshot : Snapshot} {policy : AnalysisPolicy} {report : GoalAnalysis}

theorem AcyclicGoal.not_covered {tasks : List TaskState} {goal : GoalKey}
    (h : AcyclicGoal tasks goal) (hunique : (tasks.map taskKey).Nodup) {key on : TaskKey}
    (hkey : key ∈ goalTaskKeys tasks goal) (hreaches : ReflTransGen (DependsOn tasks) key on) :
    ¬Covered tasks on :=
  fun hcovered => h key hkey on hreaches
    ((transGen_dependsOn_iff hunique).2 ⟨rfl, hcovered.onCycle⟩)

theorem AcyclicGoal.goalChain_iff {tasks : List TaskState} {goal : GoalKey}
    (h : AcyclicGoal tasks goal) (hunique : (tasks.map taskKey).Nodup) {chain : List TaskKey} :
    GoalChain tasks (Counted tasks (dependencyCycleMembers (lookupTasks tasks))) goal chain ↔
      GoalChain tasks (Awaits tasks) goal chain := by
  rw [goalChain_counted_iff, and_iff_left_iff_imp]
  intro hchain key hkey
  cases chain with
  | nil => cases hkey
  | cons last rest =>
    obtain ⟨hlast, -, hchain⟩ := hchain
    refine h.not_covered hunique hlast ?_
    exact hchain.induction (ReflTransGen (DependsOn tasks) last ·) _
      (fun _ _ hawaits hreached => hreached.tail hawaits.1) (fun _ => .refl) key
      (List.mem_of_mem_dropLast hkey)

theorem goal_unique (hunique : (snapshot.tasks.map taskKey).Nodup) {key : TaskKey}
    {goal other : GoalKey} (h : key ∈ goalTaskKeys snapshot.tasks goal)
    (h' : key ∈ goalTaskKeys snapshot.tasks other) : goal = other := by
  obtain ⟨task, hmem, hkey, hagent, hgoal⟩ := mem_goalTaskKeys.1 h
  obtain ⟨task', hmem', hkey', hagent', hgoal'⟩ := mem_goalTaskKeys.1 h'
  obtain rfl := List.inj_on_of_nodup_map hunique hmem hmem' (hkey.trans hkey'.symm)
  exact Prod.ext (hagent.symm.trans hagent') (Option.some.inj (hgoal.symm.trans hgoal'))

theorem AcyclicGoal.chainLengths_eq {tasks : List TaskState} {goal : GoalKey}
    (h : AcyclicGoal tasks goal) (hunique : (tasks.map taskKey).Nodup) :
    chainLengths tasks (Counted tasks (dependencyCycleMembers (lookupTasks tasks))) goal =
      chainLengths tasks (Awaits tasks) goal := by
  simp only [chainLengths, h.goalChain_iff hunique]

theorem mem_criticalOf_iff {tasks : List TaskState} {goal : GoalKey} {key : TaskKey}
    (hunique : (tasks.map taskKey).Nodup) (hsize : tasks.length < 2 ^ 64)
    (hacyclic : AcyclicGoal tasks goal) (hkey : key ∈ goalTaskKeys tasks goal) :
    key ∈ criticalOf (dependencyCycleMembers (lookupTasks tasks))
        (remainingDepths (lookupTasks tasks) (dependencyCycleMembers (lookupTasks tasks)))
        (goalTaskKeys tasks goal) ↔
      ∃ rest, LongestChain tasks goal (key :: rest) := by
  have hgreatest := isGreatest_maxDepth hunique hsize (fun key => acc_followed hunique) goal
  rw [hacyclic.chainLengths_eq hunique] at hgreatest
  obtain ⟨depth, hdepth, hexact⟩ := remainingDepths_exact hunique hsize
    (fun key => acc_followed hunique) (mem_of_mem_goalTaskKeys hkey)
  have hclear : ¬(goalTaskKeys tasks goal).any
      (dependencyCycleMembers (lookupTasks tasks)).contains = true := by
    intro hany
    obtain ⟨on, hon, hmember⟩ := List.any_eq_true.1 hany
    exact hacyclic.not_covered hunique hon .refl
      (mem_members_iff.1 (Std.TreeSet.contains_iff_mem.1 hmember))
  rw [criticalOf, if_neg hclear, List.mem_filter, decide_eq_true_eq, hdepth, Option.some.injEq]
  constructor
  · rintro ⟨-, hpositive, hmax⟩
    rcases hexact with ⟨hunfinished, ⟨rest, hchain, hlength⟩, -⟩ | ⟨-, hzero⟩
    · refine ⟨rest, (hacyclic.goalChain_iff hunique).1 ⟨hkey, hunfinished, hchain⟩, ?_⟩
      rw [hlength, hmax]
      exact hgreatest
    · exact absurd (hmax.symm.trans hzero) hpositive.ne'
  · rintro ⟨rest, hchain, hlongest⟩
    obtain ⟨-, hunfinished, hcounted⟩ := (hacyclic.goalChain_iff hunique).2 hchain
    have hmax := hgreatest.unique hlongest
    rw [hmax]
    rcases hexact with ⟨-, ⟨rest', hchain', hlength'⟩, hbound⟩ | ⟨hfinished, -⟩
    · have hle : depth ≤ (key :: rest).length :=
        hlongest.2 ⟨key :: rest', (hacyclic.goalChain_iff hunique).1
          ⟨hkey, hunfinished, hchain'⟩, hlength'⟩
      exact ⟨hkey, Nat.succ_pos _, le_antisymm hle (hbound ⟨rest, hcounted, rfl⟩)⟩
    · exact absurd hunfinished hfinished

theorem mem_criticalPathTaskIds_iff (hunique : (snapshot.tasks.map taskKey).Nodup)
    (hsize : snapshot.tasks.length < 2 ^ 64)
    (hreport : report ∈ (analyzeWithPolicy snapshot policy).goals)
    (hacyclic : AcyclicGoal snapshot.tasks report.key) {taskId : String} :
    taskId ∈ report.criticalPathTaskIds ↔
      ∃ rest, LongestChain snapshot.tasks report.key ((report.agentId, taskId) :: rest) := by
  rw [mem_criticalPathTaskIds hreport, Std.TreeSet.contains_iff_mem]
  change _ ∧ (report.agentId, taskId) ∈ (criticalPaths snapshot.tasks _ _).1 ↔ _
  rw [mem_criticalPaths_fst]
  constructor
  · rintro ⟨hkey, goal, hcritical⟩
    have hgoal : goal = report.key := by
      refine goal_unique hunique ?_ hkey
      unfold criticalOf at hcritical
      split at hcritical
      · cases hcritical
      · exact List.mem_of_mem_filter hcritical
    exact (mem_criticalOf_iff hunique hsize hacyclic hkey).1 (hgoal ▸ hcritical)
  · intro h
    obtain ⟨rest, hlongest⟩ := h
    have hkey := hlongest.1.1
    exact ⟨hkey, report.key, (mem_criticalOf_iff hunique hsize hacyclic hkey).2 ⟨rest, hlongest⟩⟩

/-- From a task within a chain no longest chain starts, for the two could be joined. -/
theorem LongestChain.not_within {tasks : List TaskState} {goal : GoalKey} {last key : TaskKey}
    {rest rest' : List TaskKey} (h : LongestChain tasks goal (last :: rest)) (hkey : key ∈ rest) :
    ¬LongestChain tasks goal (key :: rest') := by
  intro h'
  obtain ⟨between, after, rfl⟩ := List.append_of_mem hkey
  obtain ⟨⟨hlast, hunfinished, hchain⟩, -⟩ := h
  obtain ⟨⟨-, -, hchain'⟩, -, hbound⟩ := h'
  have hjoined : (last :: (between ++ key :: rest')).IsChain (Awaits tasks) :=
    List.isChain_cons_split.2 ⟨(List.isChain_cons_split.1 hchain).1, hchain'⟩
  have hle := hbound ⟨last :: (between ++ key :: rest'), ⟨hlast, hunfinished, hjoined⟩, rfl⟩
  rw [List.length_cons, List.length_append] at hle
  omega

theorem agentId_of_mem_goalTaskKeys {tasks : List TaskState} {goal : GoalKey} {key : TaskKey}
    (h : key ∈ goalTaskKeys tasks goal) : (goal.1, key.2) = key := by
  obtain ⟨task, -, rfl, hagent, -⟩ := mem_goalTaskKeys.1 h
  exact Prod.ext hagent.symm rfl

def Apart (tasks : List TaskState) (goal : GoalKey) : Prop :=
  ∀ chain, LongestChain tasks goal chain → ∀ key ∈ chain.tail, key ∉ goalTaskKeys tasks goal

theorem Apart.tail_eq_nil {tasks : List TaskState} {goal : GoalKey} (h : Apart tasks goal)
    {chain : List TaskKey} (hlongest : LongestChain tasks goal chain)
    (hgoal : ∀ key ∈ chain, key ∈ goalTaskKeys tasks goal) : chain.tail = [] := by
  rw [List.eq_nil_iff_forall_not_mem]
  intro key hkey
  exact h chain hlongest key hkey (hgoal key (List.mem_of_mem_tail hkey))

section Marks

variable (hunique : (snapshot.tasks.map taskKey).Nodup) (hsize : snapshot.tasks.length < 2 ^ 64)
  (hreport : report ∈ (analyzeWithPolicy snapshot policy).goals)
  (hacyclic : AcyclicGoal snapshot.tasks report.key)
include hunique hsize hreport hacyclic

theorem mem_taskIds_of_longestChain {key : TaskKey} {rest : List TaskKey}
    (h : LongestChain snapshot.tasks report.key (key :: rest)) :
    key.2 ∈ report.criticalPathTaskIds := by
  have hkey : (report.agentId, key.2) = key := agentId_of_mem_goalTaskKeys h.1.1
  exact (mem_criticalPathTaskIds_iff hunique hsize hreport hacyclic).2 ⟨rest, hkey.symm ▸ h⟩

theorem PathMarked.apart (h : PathMarked snapshot policy report) :
    Apart snapshot.tasks report.key := by
  intro chain hlongest key htail hkey
  have hagent : (report.agentId, key.2) = key := agentId_of_mem_goalTaskKeys hkey
  cases chain with
  | nil => cases htail
  | cons last rest =>
    have hlisted : key.2 ∈ report.criticalPathTaskIds := by
      rw [h.exact, hagent]
      exact ⟨hkey, _, hlongest, List.mem_cons_of_mem _ htail⟩
    obtain ⟨rest', hlongest'⟩ :=
      (mem_criticalPathTaskIds_iff hunique hsize hreport hacyclic).1 hlisted
    rw [hagent] at hlongest'
    exact hlongest.not_within htail hlongest'

theorem Apart.exact (h : Apart snapshot.tasks report.key) (taskId : String) :
    taskId ∈ report.criticalPathTaskIds ↔
      (report.agentId, taskId) ∈ goalTaskKeys snapshot.tasks report.key ∧
        ∃ chain, LongestChain snapshot.tasks report.key chain ∧
          (report.agentId, taskId) ∈ chain := by
  rw [mem_criticalPathTaskIds_iff hunique hsize hreport hacyclic]
  constructor
  · intro hlisted
    obtain ⟨rest, hlongest⟩ := hlisted
    exact ⟨hlongest.1.1, _, hlongest, List.mem_cons_self⟩
  · rintro ⟨hkey, chain, hlongest, hmem⟩
    cases chain with
    | nil => cases hmem
    | cons last rest =>
      rcases List.mem_cons.1 hmem with rfl | hmem
      · exact ⟨rest, hlongest⟩
      · exact absurd hkey (h _ hlongest _ hmem)

theorem Apart.enough (h : Apart snapshot.tasks report.key) {chain : List TaskKey}
    (hlongest : LongestChain snapshot.tasks report.key chain)
    (hgoal : ∀ key ∈ chain, key ∈ goalTaskKeys snapshot.tasks report.key) {n : Nat}
    (hn : report.criticalPathRemaining = some n) : n ≤ report.criticalPathTaskIds.length := by
  have htasks : goalTaskKeys snapshot.tasks report.key ≠ [] := by
    intro hnil
    rw [remaining_eq hreport, if_pos hnil] at hn
    cases hn
  rcases remaining_cases hunique hsize hreport htasks with ⟨-, hnone⟩ | ⟨-, m, hm, hgreatest⟩
  · rw [hnone] at hn
    cases hn
  · rw [hn, Option.some.injEq] at hm
    subst hm
    rw [hacyclic.chainLengths_eq hunique] at hgreatest
    rw [hgreatest.unique hlongest.2]
    have htail := h.tail_eq_nil hlongest hgoal
    cases chain with
    | nil => exact Nat.zero_le _
    | cons last rest =>
      obtain rfl : rest = [] := htail
      exact List.length_pos_of_mem
        (mem_taskIds_of_longestChain hunique hsize hreport hacyclic hlongest)

theorem Apart.first (h : Apart snapshot.tasks report.key) {chain : List TaskKey} {first : TaskKey}
    (hlongest : LongestChain snapshot.tasks report.key chain)
    (hgoal : ∀ key ∈ chain, key ∈ goalTaskKeys snapshot.tasks report.key)
    (hfirst : chain.getLast? = some first) {task : TaskAnalysis}
    (htask : task ∈ (analyzeWithPolicy snapshot policy).tasks)
    (hpair : (task.agentId, task.taskId) = first) : task.onCriticalPath = true := by
  have htail := h.tail_eq_nil hlongest hgoal
  cases chain with
  | nil => cases hfirst
  | cons last rest =>
    obtain rfl : rest = [] := htail
    obtain rfl : last = first := Option.some.inj hfirst
    have hlisted := mem_taskIds_of_longestChain hunique hsize hreport hacyclic hlongest
    have hagent : (report.agentId, last.2) = last := agentId_of_mem_goalTaskKeys hlongest.1.1
    rw [mem_criticalPathTaskIds hreport, hagent] at hlisted
    rw [onCriticalPath_of_mem htask, hpair]
    exact hlisted.2

end Marks

/-- The tasks of a goal are marked as the longest chains have it exactly if these chains have no
task of the goal but their last. -/
theorem critical_path_tasks_iff (snapshot : Snapshot) (policy : AnalysisPolicy)
    (hunique : (snapshot.tasks.map taskKey).Nodup) (hsize : snapshot.tasks.length < 2 ^ 64)
    (report : GoalAnalysis) (hreport : report ∈ (analyzeWithPolicy snapshot policy).goals)
    (hacyclic : AcyclicGoal snapshot.tasks report.key) :
    PathMarked snapshot policy report ↔
      ∀ chain, LongestChain snapshot.tasks report.key chain →
        ∀ key ∈ chain.tail, key ∉ goalTaskKeys snapshot.tasks report.key := by
  constructor
  · exact PathMarked.apart hunique hsize hreport hacyclic
  · intro h
    refine ⟨Apart.exact hunique hsize hreport hacyclic h, ?_, ?_⟩
    · intro chain hlongest hgoal n hn
      exact Apart.enough hunique hsize hreport hacyclic h hlongest hgoal hn
    · intro chain first hlongest hgoal hfirst task htask hpair
      exact Apart.first hunique hsize hreport hacyclic h hlongest hgoal hfirst htask hpair

end Marked

theorem critical_path_tasks_unordered :
    ∃ report ∈ (analyzeWithPolicy Sample.unordered .default).goals,
      PathMarked Sample.unordered .default report := by
  obtain ⟨report, hreport, -⟩ := exists_report outline_unordered
  refine ⟨report, hreport, (critical_path_tasks_iff Sample.unordered .default (by decide)
    (by decide) report hreport fun key _ on _ h => ?_).2 fun chain hlongest key hkey => ?_⟩
  · obtain ⟨_, hdepends, -⟩ := Relation.TransGen.head'_iff.1 h
    exact absurd hdepends not_dependsOn_unordered
  · cases chain with
    | nil => cases hkey
    | cons last rest =>
      obtain ⟨-, -, hchain⟩ := hlongest.1
      cases rest with
      | nil => cases hkey
      | cons next rest =>
        exact absurd (List.isChain_cons_cons.1 hchain).1.1 not_dependsOn_unordered

theorem dependsOn_ordered {key dependency : TaskKey}
    (h : DependsOn Sample.ordered.tasks key dependency) :
    key = ("worker", "b") ∧ dependency = ("worker", "a") := by
  obtain ⟨task, hmem, rfl, hagent, hdep, -⟩ := h
  have htasks : ∀ task ∈ Sample.ordered.tasks, ∀ dependencyId ∈ task.task.dependsOn,
      taskKey task = ("worker", "b") ∧ dependencyId = "a" := by
    decide
  obtain ⟨hkey, hdependency⟩ := htasks task hmem dependency.2 hdep
  rw [hkey] at hagent
  exact ⟨hkey, Prod.ext hagent hdependency⟩

theorem longestChain_ordered : LongestChain Sample.ordered.tasks ("worker", "g")
    [("worker", "b"), ("worker", "a")] := by
  have hfirst : ∃ task ∈ Sample.ordered.tasks, taskKey task = ("worker", "a") ∧
      task.status ≠ .succeeded := by
    decide
  have hlast : ∃ task ∈ Sample.ordered.tasks, taskKey task = ("worker", "b") ∧
      task.status ≠ .succeeded := by
    decide
  have hchain : GoalChain Sample.ordered.tasks (Awaits Sample.ordered.tasks) ("worker", "g")
      [("worker", "b"), ("worker", "a")] :=
    ⟨by decide, hlast, List.isChain_pair.2 ⟨by decide, hfirst⟩⟩
  refine ⟨hchain, ⟨_, hchain, rfl⟩, ?_⟩
  rintro _ ⟨chain, hchain, rfl⟩
  cases chain with
  | nil => exact Nat.zero_le _
  | cons last rest =>
    obtain ⟨-, -, hchain⟩ := hchain
    cases rest with
    | nil => exact Nat.le_succ 1
    | cons next rest =>
      obtain ⟨hlast, hchain⟩ := List.isChain_cons_cons.1 hchain
      cases rest with
      | nil => exact le_rfl
      | cons first rest =>
        -- The middle one would be both the task that waits and the one waited for.
        obtain ⟨-, hnext⟩ := dependsOn_ordered hlast.1
        obtain ⟨hnext', -⟩ := dependsOn_ordered (List.isChain_cons_cons.1 hchain).1.1
        exact absurd (hnext.symm.trans hnext') (by decide)

theorem acyclic_ordered (on : TaskKey) : ¬TransGen (DependsOn Sample.ordered.tasks) on on := by
  intro h
  obtain ⟨_, hhead, -⟩ := Relation.TransGen.head'_iff.1 h
  obtain ⟨_, -, htail⟩ := Relation.TransGen.tail'_iff.1 h
  exact absurd ((dependsOn_ordered hhead).1.symm.trans (dependsOn_ordered htail).2) (by decide)

/-- Both tasks are in the goal and on the longest chain, and only the last one is marked. -/
theorem first_task_unmarked :
    AcyclicGoal Sample.ordered.tasks ("worker", "g") ∧
      ∃ report ∈ (analyzeWithPolicy Sample.ordered .default).goals,
        report.key = ("worker", "g") ∧ report.criticalPathRemaining = some 2 ∧
        report.criticalPathTaskIds = ["b"] ∧
        LongestChain Sample.ordered.tasks ("worker", "g") [("worker", "b"), ("worker", "a")] ∧
        ¬PathMarked Sample.ordered .default report := by
  have houtline : Sample.outline Sample.ordered =
      [(("worker", "g"), some 2, ["b"], 2)] := by decide
  have hlongest := longestChain_ordered
  have hgoal : ∀ key ∈ [(("worker", "b") : TaskKey), ("worker", "a")],
      key ∈ goalTaskKeys Sample.ordered.tasks ("worker", "g") := by
    decide
  obtain ⟨report, hreport, hkey, hremaining, htaskIds, -⟩ := exists_report houtline
  refine ⟨fun _ _ on _ => acyclic_ordered on, report, hreport, hkey, hremaining, htaskIds,
    hlongest, fun h => ?_⟩
  rw [← hkey] at hlongest hgoal
  have hle := h.enough _ hlongest hgoal 2 hremaining
  rw [htaskIds] at hle
  exact absurd hle (by decide)

end ControlPlane.Metacognition
