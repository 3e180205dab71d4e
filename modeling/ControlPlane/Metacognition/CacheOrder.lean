import ControlPlane.Metacognition.Analysis

/-! The analysis of a snapshot does not depend on the order in which the caches list their
entries.  Maps built in different orders hold the same, and every list is sorted by a key of its
own before its order is seen. -/

namespace ControlPlane

open Metacognition (taskKey)

namespace Snapshot

structure Keyed (snapshot : Snapshot) : Prop where
  agents : (snapshot.agents.map fun agent => agent.agent.agentId).Nodup
  goals : (snapshot.goals.map fun goal => (goal.agentId, goal.goal.goalId)).Nodup
  tasks : (snapshot.tasks.map taskKey).Nodup
  lessons : (snapshot.lessons.map fun lesson => (lesson.agentId, lesson.lesson.lessonId)).Nodup
  recentEvents : (snapshot.recentEvents.map fun record => record.event.eventId).Nodup

structure Shuffled (snapshot shuffled : Snapshot) : Prop where
  generatedAt : snapshot.generatedAt = shuffled.generatedAt
  startedAt : snapshot.startedAt = shuffled.startedAt
  revision : snapshot.revision = shuffled.revision
  agents : snapshot.agents.Perm shuffled.agents
  goals : snapshot.goals.Perm shuffled.goals
  tasks : snapshot.tasks.Perm shuffled.tasks
  lessons : snapshot.lessons.Perm shuffled.lessons
  recentEvents : snapshot.recentEvents.Perm shuffled.recentEvents
  caches : snapshot.caches = shuffled.caches
  counters : snapshot.counters = shuffled.counters

end Snapshot

namespace Metacognition

section Lookup

variable {lookup lookup' : TaskLookup} (h : lookup.Equiv lookup')
include h

theorem dependencyState_congr (task : TaskState) :
    dependencyState task lookup = dependencyState task lookup' := by
  simp only [dependencyState, h.getElem?_eq, h.contains_eq]

theorem graphsByAgent_congr : graphsByAgent lookup = graphsByAgent lookup' := by
  have hretained : retainedDependencies lookup = retainedDependencies lookup' := by
    funext agentId task
    simp only [retainedDependencies, h.contains_eq]
  rw [graphsByAgent, graphsByAgent, hretained, h.toList_eq]

theorem dependencyCycleMembers_congr :
    dependencyCycleMembers lookup = dependencyCycleMembers lookup' := by
  have hsearch : searchCycles lookup = searchCycles lookup' := by
    rw [searchCycles, searchCycles, graphsByAgent_congr h]
  simp only [dependencyCycleMembers, hsearch]

theorem remainingDepth_congr (cycleMembers : BTreeSet TaskKey) (fuel : Nat) :
    remainingDepth lookup cycleMembers fuel = remainingDepth lookup' cycleMembers fuel := by
  induction fuel with
  | zero => rfl
  | succ fuel ih =>
    have hcontains : lookup.contains = lookup'.contains := by
      funext key
      exact h.contains_eq
    funext key memo
    rw [remainingDepth, remainingDepth, h.getElem?_eq, hcontains, ih]

theorem remainingDepths_congr (cycleMembers : BTreeSet TaskKey) :
    remainingDepths lookup cycleMembers = remainingDepths lookup' cycleMembers := by
  have hsearch : searchDepths lookup cycleMembers = searchDepths lookup' cycleMembers := by
    rw [searchDepths, searchDepths, h.keys_eq, h.size_eq, remainingDepth_congr h]
  simp only [remainingDepths, hsearch]

end Lookup

theorem lookupTasks_perm {tasks tasks' : List TaskState} (hkeys : (tasks.map taskKey).Nodup)
    (h : tasks.Perm tasks') : (lookupTasks tasks).Equiv (lookupTasks tasks') := by
  apply BTreeMap.ofList_equiv_of_perm
  · rw [List.map_map]
    exact hkeys
  · exact h.map _

theorem indexTaskEvents_eq (events : List EventRecord) :
    indexTaskEvents events =
      (BTreeMap.gather
        (fun record : EventRecord =>
          record.event.taskId.map fun taskId => (record.event.agent.agentId, taskId))
        id events).map fun _ records => sortBy recordOrder records := by
  rw [indexTaskEvents, BTreeMap.gather]
  congr 2
  funext indexed record
  cases record.event.taskId with
  | none => rfl
  | some taskId => rfl

instance : Std.TransCmp recordOrder :=
  inferInstanceAs (Std.TransCmp (compareLex
    (compareOn fun record : EventRecord => record.event.occurredAt)
    (compareOn fun record : EventRecord => record.event.eventId.toNat)))

theorem eventId_of_recordOrder (a b : EventRecord) (h : recordOrder a b = .eq) :
    a.event.eventId = b.event.eventId := by
  rw [recordOrder, Ordering.then_eq_eq, Nat.compare_eq_eq] at h
  exact BitVec.eq_of_toNat_eq h.2

theorem getElem?_indexTaskEvents_perm {events events' : List EventRecord}
    (hids : (events.map fun record => record.event.eventId).Nodup) (h : events.Perm events')
    (key : TaskKey) : (indexTaskEvents events)[key]? = (indexTaskEvents events')[key]? := by
  have hfilter := h.filter fun record =>
    record.event.taskId.map (fun taskId => (record.event.agent.agentId, taskId)) = some key
  rw [indexTaskEvents_eq, indexTaskEvents_eq, Std.TreeMap.getElem?_map, Std.TreeMap.getElem?_map,
    BTreeMap.getElem?_gather, BTreeMap.getElem?_gather]
  split
  · next hnil =>
    rw [hnil, List.nil_perm] at hfilter
    rw [if_pos hfilter]
  · next hne =>
    rw [if_neg fun hnil => hne (by rwa [hnil, List.perm_nil] at hfilter), List.map_id, List.map_id,
      Option.map_some, Option.map_some]
    congr 1
    apply sortBy_eq_of_perm _ eventId_of_recordOrder
    · exact hids.sublist (List.filter_sublist.map _)
    · exact hfilter

theorem contains_lookupGoals_perm {goals goals' : List GoalState} (h : goals.Perm goals')
    (key : GoalKey) : (lookupGoals goals).contains key = (lookupGoals goals').contains key := by
  rw [lookupGoals, lookupGoals, Std.TreeSet.contains_ofList, Std.TreeSet.contains_ofList]
  exact (h.map _).contains_eq

def SamePaths (paths paths' : BTreeSet TaskKey × BTreeMap GoalKey (Option Nat)) : Prop :=
  (∀ key, paths.1.contains key = paths'.1.contains key) ∧ paths.2 = paths'.2

theorem criticalPaths_perm {tasks tasks' : List TaskState} (h : tasks.Perm tasks')
    (cycleMembers : BTreeSet TaskKey) (remainingDepths : BTreeMap TaskKey Nat) :
    SamePaths (criticalPaths tasks cycleMembers remainingDepths)
      (criticalPaths tasks' cycleMembers remainingDepths) := by
  have hgroups := BTreeMap.forall₂_toList fun goal => BTreeMap.gather_perm
    (fun task : TaskState => task.task.goalId.map fun goalId => (task.agentId, goalId)) taskKey h goal
  rw [← groupByGoal_eq, ← groupByGoal_eq] at hgroups
  rw [criticalPaths, criticalPaths]
  refine List.rel_foldl ?_ ⟨fun _ => rfl, rfl⟩ hgroups
  rintro paths paths' ⟨hpaths, hremaining⟩ ⟨goal, keys⟩ ⟨goal', keys'⟩ ⟨hgoal, hkeys⟩
  obtain rfl : goal = goal' := hgoal
  dsimp only at hkeys ⊢
  rw [hkeys.any_eq, hremaining]
  split
  · exact ⟨hpaths, rfl⟩
  · have hmax := (hkeys.filterMap fun key => remainingDepths[key]?).foldl_eq (f := max) 0
    rw [hmax]
    refine ⟨fun key => ?_, rfl⟩
    rw [BTreeSet.contains_foldl_insert, BTreeSet.contains_foldl_insert, hpaths, hkeys.any_eq]

structure Indexes.Same (indexes indexes' : Indexes) : Prop where
  policy : indexes.policy = indexes'.policy
  generatedAt : indexes.generatedAt = indexes'.generatedAt
  taskLookup : indexes.taskLookup.Equiv indexes'.taskLookup
  goalLookup : ∀ key, indexes.goalLookup.contains key = indexes'.goalLookup.contains key
  eventsByTask : ∀ key : TaskKey, indexes.eventsByTask[key]? = indexes'.eventsByTask[key]?
  cycleMembers : indexes.cycleMembers = indexes'.cycleMembers
  criticalPathTasks : ∀ key,
    indexes.criticalPathTasks.contains key = indexes'.criticalPathTasks.contains key

namespace Indexes.Same

variable {indexes indexes' : Indexes} (h : indexes.Same indexes')
include h

theorem taskFacts (task : TaskState) : taskFacts indexes task = taskFacts indexes' task := by
  simp only [Metacognition.taskFacts, h.generatedAt, h.eventsByTask, h.cycleMembers, h.goalLookup,
    dependencyState_congr h.taskLookup]

theorem taskDiagnostics : taskDiagnostics indexes = taskDiagnostics indexes' := by
  funext task
  rw [Metacognition.taskDiagnostics, Metacognition.taskDiagnostics, h.policy, h.taskFacts]

theorem analyzeTask : analyzeTask indexes = analyzeTask indexes' := by
  funext task
  rw [Metacognition.analyzeTask, Metacognition.analyzeTask, h.taskFacts, h.taskDiagnostics,
    h.criticalPathTasks]

end Indexes.Same

section Snapshot

variable {snapshot shuffled : Snapshot} (keyed : snapshot.Keyed) (h : snapshot.Shuffled shuffled)
include keyed h

theorem sortedTasks_perm : sortedTasks snapshot.tasks = sortedTasks shuffled.tasks := by
  have : Std.TransCmp fun left right : TaskState => compare (taskKey left) (taskKey right) :=
    inferInstanceAs (Std.TransCmp (compareOn taskKey))
  apply sortBy_eq_of_perm taskKey _ keyed.tasks h.tasks
  exact fun _ _ => Std.LawfulEqOrd.eq_of_compare

theorem indexSnapshot_perm (policy : AnalysisPolicy) :
    (indexSnapshot snapshot policy).Same (indexSnapshot shuffled policy) := by
  have hlookup := lookupTasks_perm keyed.tasks h.tasks
  have hmembers := dependencyCycleMembers_congr hlookup
  have hdepths := remainingDepths_congr hlookup
  constructor
  · rfl
  · exact h.generatedAt
  · exact hlookup
  · exact contains_lookupGoals_perm h.goals
  · exact getElem?_indexTaskEvents_perm keyed.recentEvents h.recentEvents
  · exact hmembers
  · simp only [indexSnapshot, hmembers, hdepths]
    exact (criticalPaths_perm h.tasks _ _).1

theorem sortedGoals_perm :
    sortBy (fun left right : GoalState =>
      compare (left.agentId, left.goal.goalId) (right.agentId, right.goal.goalId)) snapshot.goals =
    sortBy (fun left right : GoalState =>
      compare (left.agentId, left.goal.goalId) (right.agentId, right.goal.goalId))
      shuffled.goals := by
  have : Std.TransCmp fun left right : GoalState =>
      compare (left.agentId, left.goal.goalId) (right.agentId, right.goal.goalId) :=
    inferInstanceAs (Std.TransCmp (compareOn fun goal : GoalState => (goal.agentId, goal.goal.goalId)))
  apply sortBy_eq_of_perm (fun goal : GoalState => (goal.agentId, goal.goal.goalId)) _ keyed.goals
    h.goals
  exact fun _ _ => Std.LawfulEqOrd.eq_of_compare

theorem analyzeWithPolicy_perm (policy : AnalysisPolicy) :
    analyzeWithPolicy snapshot policy = analyzeWithPolicy shuffled policy := by
  have hindexes := indexSnapshot_perm keyed h policy
  have hremaining : (criticalPaths snapshot.tasks (indexSnapshot snapshot policy).cycleMembers
      (remainingDepths (indexSnapshot snapshot policy).taskLookup
        (indexSnapshot snapshot policy).cycleMembers)).2 =
    (criticalPaths shuffled.tasks (indexSnapshot shuffled policy).cycleMembers
      (remainingDepths (indexSnapshot shuffled policy).taskLookup
        (indexSnapshot shuffled policy).cycleMembers)).2 := by
    rw [hindexes.cycleMembers, remainingDepths_congr hindexes.taskLookup]
    exact (criticalPaths_perm h.tasks _ _).2
  simp only [analyzeWithPolicy, hremaining, hindexes.analyzeTask, hindexes.taskDiagnostics,
    hindexes.policy, sortedTasks_perm keyed h, sortedGoals_perm keyed h, h.generatedAt, h.revision]

end Snapshot

end Metacognition

end ControlPlane
