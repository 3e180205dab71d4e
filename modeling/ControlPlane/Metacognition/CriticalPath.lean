import ControlPlane.Lib.Traversal
import ControlPlane.Metacognition.Graph

/-! The remaining depth of every task, and the critical paths read off it. -/

namespace ControlPlane.Metacognition

open Traversal (foldlM_invariant unseen unseen_le unseen_lt unseen_empty)

def remainingDepth (taskLookup : TaskLookup) (cycleMembers : BTreeSet TaskKey) :
    Nat → TaskKey → BTreeMap TaskKey Nat → Option (Nat × BTreeMap TaskKey Nat)
  | 0, _, _ => none
  | fuel + 1, key, memo =>
    match memo[key]? with
    | some depth => some (depth, memo)
    | none =>
      match taskLookup[key]? with
      | none => some (0, memo)
      | some task =>
        if task.status = .succeeded then some (0, memo.insert key 0)
        else if cycleMembers.contains key then some (1, memo.insert key 1)
        else do
          let dependencies := (task.task.dependsOn.map fun dependencyId => (key.1, dependencyId)).filter
            taskLookup.contains
          let deepest ← dependencies.foldlM
            (fun deepest dependencyKey => do
              let visited ← remainingDepth taskLookup cycleMembers fuel dependencyKey deepest.2
              return (max deepest.1 visited.1, visited.2))
            (0, memo.insert key 1)
          let depth := U64.saturatingAdd deepest.1 1
          return (depth, deepest.2.insert key depth)

def searchDepths (taskLookup : TaskLookup) (cycleMembers : BTreeSet TaskKey) :
    Option (BTreeMap TaskKey Nat) :=
  taskLookup.keys.foldlM
    (fun memo key => (remainingDepth taskLookup cycleMembers (taskLookup.size + 1) key memo).map
      Prod.snd)
    ∅

/-- The memo only grows, and every call that adds to it had fuel for what was left. -/
theorem remainingDepth_spec (taskLookup : TaskLookup) (cycleMembers : BTreeSet TaskKey)
    {fuel : Nat} {key : TaskKey} {memo : BTreeMap TaskKey Nat}
    (hfuel : unseen taskLookup.keys memo < fuel) :
    ∃ visited, remainingDepth taskLookup cycleMembers fuel key memo = some visited ∧
      ∀ k, k ∈ memo → k ∈ visited.2 := by
  induction fuel generalizing key memo with
  | zero => exact absurd hfuel (Nat.not_lt_zero _)
  | succ fuel ih =>
    have grows : ∀ (memo : BTreeMap TaskKey Nat) depth k, k ∈ memo → k ∈ memo.insert key depth :=
      fun _ _ _ hk => Std.TreeMap.mem_insert.mpr (.inr hk)
    rw [remainingDepth]
    cases hmemo : memo[key]? with
    | some depth => exact ⟨_, rfl, fun _ hk => hk⟩
    | none =>
      cases htask : taskLookup[key]? with
      | none => exact ⟨_, rfl, fun _ hk => hk⟩
      | some task =>
        dsimp only
        split
        · exact ⟨_, rfl, grows _ _⟩
        · split
          · exact ⟨_, rfl, grows _ _⟩
          · have hkey : key ∈ taskLookup.keys := by
              rw [Std.TreeMap.mem_keys, Std.TreeMap.mem_iff_isSome_getElem?, htask]
              rfl
            have hnew : key ∉ memo := fun hm => by
              rw [Std.TreeMap.mem_iff_isSome_getElem?, hmemo] at hm
              cases hm
            have hfewer : unseen taskLookup.keys (memo.insert key 1) < fuel := by
              have := unseen_lt (grows memo 1) hkey hnew Std.TreeMap.mem_insert_self
              omega
            obtain ⟨deepest, hdeepest, hgrown⟩ := foldlM_invariant
              (l := (task.task.dependsOn.map fun dependencyId => (key.1, dependencyId)).filter
                taskLookup.contains)
              (s := (0, memo.insert key 1))
              (f := fun deepest dependencyKey => do
                let visited ← remainingDepth taskLookup cycleMembers fuel dependencyKey deepest.2
                return (max deepest.1 visited.1, visited.2))
              (P := fun _ deepest => ∀ k, k ∈ memo.insert key 1 → k ∈ deepest.2)
              (fun _ hk => hk) (by
                intro _ dependencyKey _ deepest _ hgrown
                obtain ⟨visited, hvisited, hmore⟩ :
                    ∃ visited, remainingDepth taskLookup cycleMembers fuel dependencyKey
                      deepest.2 = some visited ∧ ∀ k, k ∈ deepest.2 → k ∈ visited.2 :=
                  ih ((unseen_le hgrown).trans_lt hfewer)
                refine ⟨(max deepest.1 visited.1, visited.2), ?_, fun k hk => hmore k (hgrown k hk)⟩
                rw [hvisited]
                rfl)
            have hreturn := congrArg (· >>= fun deepest : Nat × BTreeMap TaskKey Nat =>
              let depth := U64.saturatingAdd deepest.1 1
              some (depth, deepest.2.insert key depth)) hdeepest
            exact ⟨_, hreturn, fun k hk => grows _ _ k (hgrown k (grows memo 1 k hk))⟩

def visitDepths (taskLookup : TaskLookup) (cycleMembers : BTreeSet TaskKey) (order : List TaskKey) :
    Option (BTreeMap TaskKey Nat) :=
  order.foldlM
    (fun memo key => (remainingDepth taskLookup cycleMembers (taskLookup.size + 1) key memo).map
      Prod.snd)
    ∅

theorem visitDepths_isSome (taskLookup : TaskLookup) (cycleMembers : BTreeSet TaskKey)
    (order : List TaskKey) : (visitDepths taskLookup cycleMembers order).isSome := by
  obtain ⟨memo, hmemo, -⟩ := foldlM_invariant (l := order) (s := (∅ : BTreeMap TaskKey Nat))
    (f := fun memo key =>
      (remainingDepth taskLookup cycleMembers (taskLookup.size + 1) key memo).map Prod.snd)
    (P := fun _ _ => True) trivial (by
      intro _ key _ memo _ _
      have hfuel : unseen taskLookup.keys memo < taskLookup.size + 1 := by
        rw [← Std.TreeMap.length_keys]
        exact Nat.lt_succ_of_le List.countP_le_length
      obtain ⟨visited, hvisited, -⟩ := remainingDepth_spec taskLookup cycleMembers hfuel
      exact ⟨visited.2, by rw [hvisited]; rfl, trivial⟩)
  rw [visitDepths, hmemo]
  rfl

theorem searchDepths_isSome (taskLookup : TaskLookup) (cycleMembers : BTreeSet TaskKey) :
    (searchDepths taskLookup cycleMembers).isSome :=
  visitDepths_isSome taskLookup cycleMembers taskLookup.keys

def remainingDepths (taskLookup : TaskLookup) (cycleMembers : BTreeSet TaskKey) :
    BTreeMap TaskKey Nat :=
  (searchDepths taskLookup cycleMembers).get (searchDepths_isSome taskLookup cycleMembers)

def groupByGoal (tasks : List TaskState) : BTreeMap GoalKey (List TaskKey) :=
  tasks.foldl
    (fun grouped task =>
      match task.task.goalId with
      | some goalId => grouped.alter (task.agentId, goalId)
          fun keys => some (keys.getD [] ++ [(task.agentId, task.task.taskId)])
      | none => grouped)
    ∅

theorem groupByGoal_eq (tasks : List TaskState) :
    groupByGoal tasks =
      BTreeMap.gather (fun task : TaskState => task.task.goalId.map fun goalId => (task.agentId, goalId))
        taskKey tasks := by
  rw [groupByGoal, BTreeMap.gather]
  congr 1
  funext grouped task
  cases task.task.goalId with
  | none => rfl
  | some goalId => rfl

def criticalPaths (tasks : List TaskState) (cycleMembers : BTreeSet TaskKey)
    (remainingDepths : BTreeMap TaskKey Nat) : BTreeSet TaskKey × BTreeMap GoalKey (Option Nat) :=
  (groupByGoal tasks).toList.foldl
    (fun result entry =>
      if entry.2.any cycleMembers.contains then (result.1, result.2.insert entry.1 none)
      else
        let maxDepth := (entry.2.filterMap fun key => remainingDepths[key]?).foldl max 0
        let critical := entry.2.foldl
          (fun critical key =>
            if 0 < maxDepth ∧ remainingDepths[key]? = some maxDepth then critical.insert key
            else critical)
          result.1
        (critical, result.2.insert entry.1 (some maxDepth)))
    (∅, ∅)

def goalTaskKeys (tasks : List TaskState) (goal : GoalKey) : List TaskKey :=
  (tasks.filter fun task =>
    (task.task.goalId.map fun goalId => (task.agentId, goalId)) = some goal).map taskKey

theorem mem_goalTaskKeys {tasks : List TaskState} {goal : GoalKey} {key : TaskKey} :
    key ∈ goalTaskKeys tasks goal ↔ ∃ task ∈ tasks, taskKey task = key ∧
      task.agentId = goal.1 ∧ task.task.goalId = some goal.2 := by
  rw [goalTaskKeys, List.mem_map]
  simp only [List.mem_filter, decide_eq_true_eq, Option.map_eq_some_iff]
  constructor
  · rintro ⟨task, ⟨hmem, goalId, hgoal, rfl⟩, hkey⟩
    exact ⟨task, hmem, hkey, rfl, hgoal⟩
  · rintro ⟨task, hmem, hkey, hagent, hgoal⟩
    exact ⟨task, ⟨hmem, goal.2, hgoal, Prod.ext hagent rfl⟩, hkey⟩

theorem getElem?_groupByGoal (tasks : List TaskState) (goal : GoalKey) :
    (groupByGoal tasks)[goal]? =
      if goalTaskKeys tasks goal = [] then none else some (goalTaskKeys tasks goal) := by
  rw [groupByGoal_eq, BTreeMap.getElem?_gather, goalTaskKeys]
  exact if_congr List.map_eq_nil_iff.symm rfl rfl

def maxDepth (remainingDepths : BTreeMap TaskKey Nat) (keys : List TaskKey) : Nat :=
  (keys.filterMap fun key => remainingDepths[key]?).foldl max 0

section Fold

variable (cycleMembers : BTreeSet TaskKey) (remainingDepths : BTreeMap TaskKey Nat)

def remainingOf (keys : List TaskKey) : Option Nat :=
  if keys.any cycleMembers.contains then none else some (maxDepth remainingDepths keys)

def criticalOf (keys : List TaskKey) : List TaskKey :=
  if keys.any cycleMembers.contains then []
  else keys.filter fun key =>
    0 < maxDepth remainingDepths keys ∧ remainingDepths[key]? = some (maxDepth remainingDepths keys)

def addGroup (result : BTreeSet TaskKey × BTreeMap GoalKey (Option Nat))
    (entry : GoalKey × List TaskKey) : BTreeSet TaskKey × BTreeMap GoalKey (Option Nat) :=
  if entry.2.any cycleMembers.contains then (result.1, result.2.insert entry.1 none)
  else
    let maxDepth := (entry.2.filterMap fun key => remainingDepths[key]?).foldl max 0
    let critical := entry.2.foldl
      (fun critical key =>
        if 0 < maxDepth ∧ remainingDepths[key]? = some maxDepth then critical.insert key
        else critical)
      result.1
    (critical, result.2.insert entry.1 (some maxDepth))

theorem criticalPaths_eq (tasks : List TaskState) :
    criticalPaths tasks cycleMembers remainingDepths =
      (groupByGoal tasks).toList.foldl (addGroup cycleMembers remainingDepths) (∅, ∅) := rfl

variable {cycleMembers remainingDepths} {result : BTreeSet TaskKey × BTreeMap GoalKey (Option Nat)}
  {entry : GoalKey × List TaskKey}

theorem addGroup_snd :
    (addGroup cycleMembers remainingDepths result entry).2 =
      result.2.insert entry.1 (remainingOf cycleMembers remainingDepths entry.2) := by
  unfold addGroup remainingOf
  split <;> rfl

theorem mem_addGroup_fst {key : TaskKey} :
    key ∈ (addGroup cycleMembers remainingDepths result entry).1 ↔
      key ∈ result.1 ∨ key ∈ criticalOf cycleMembers remainingDepths entry.2 := by
  unfold addGroup criticalOf
  split
  · simp
  · dsimp only
    rw [← Std.TreeSet.contains_iff_mem, BTreeSet.contains_foldl_insert, Bool.or_eq_true,
      Std.TreeSet.contains_iff_mem, List.any_eq_true, List.mem_filter]
    refine or_congr_right ?_
    constructor
    · rintro ⟨other, hmem, h⟩
      obtain ⟨hcritical, rfl⟩ := of_decide_eq_true h
      exact ⟨hmem, decide_eq_true hcritical⟩
    · rintro ⟨hmem, hcritical⟩
      exact ⟨key, hmem, decide_eq_true ⟨of_decide_eq_true hcritical, rfl⟩⟩

theorem mem_criticalPaths_fst {tasks : List TaskState} {key : TaskKey} :
    key ∈ (criticalPaths tasks cycleMembers remainingDepths).1 ↔
      ∃ goal, key ∈ criticalOf cycleMembers remainingDepths (goalTaskKeys tasks goal) := by
  have hfold : ∀ entries : List (GoalKey × List TaskKey),
      key ∈ (entries.foldl (addGroup cycleMembers remainingDepths) (∅, ∅)).1 ↔
        ∃ entry ∈ entries, key ∈ criticalOf cycleMembers remainingDepths entry.2 := by
    intro entries
    induction entries using List.reverseRecOn with
    | nil => simp
    | append_singleton entries entry ih =>
      rw [List.foldl_concat, mem_addGroup_fst, ih]
      simp [or_and_right, exists_or]
  rw [criticalPaths_eq, hfold]
  constructor
  · rintro ⟨entry, hmem, hcritical⟩
    have hgroup := Std.TreeMap.mem_toList_iff_getElem?_eq_some.1 hmem
    rw [getElem?_groupByGoal, Option.ite_none_left_eq_some, Option.some.injEq] at hgroup
    exact ⟨entry.1, hgroup.2 ▸ hcritical⟩
  · rintro ⟨goal, hcritical⟩
    have hne : goalTaskKeys tasks goal ≠ [] := by
      intro hnil
      rw [hnil] at hcritical
      simp [criticalOf] at hcritical
    refine ⟨(goal, goalTaskKeys tasks goal), ?_, hcritical⟩
    rw [Std.TreeMap.mem_toList_iff_getElem?_eq_some, getElem?_groupByGoal, if_neg hne]

theorem getElem?_criticalPaths_snd (tasks : List TaskState) (goal : GoalKey) :
    (criticalPaths tasks cycleMembers remainingDepths).2[goal]? =
      if goalTaskKeys tasks goal = [] then none
      else some (remainingOf cycleMembers remainingDepths (goalTaskKeys tasks goal)) := by
  have hfold : ∀ entries : List (GoalKey × List TaskKey),
      (entries.foldl (addGroup cycleMembers remainingDepths) (∅, ∅)).2 =
        entries.foldl (fun remaining entry =>
          remaining.insert entry.1 (remainingOf cycleMembers remainingDepths entry.2)) ∅ := by
    intro entries
    induction entries using List.reverseRecOn with
    | nil => rfl
    | append_singleton entries entry ih =>
      rw [List.foldl_concat, List.foldl_concat, addGroup_snd, ih]
  rw [criticalPaths_eq, hfold, BTreeMap.getElem?_foldl_insert, Std.TreeMap.getElem?_emptyc,
    Option.or_none, BTreeMap.find?_toList, Option.map_map, getElem?_groupByGoal]
  split <;> rfl

end Fold

end ControlPlane.Metacognition
