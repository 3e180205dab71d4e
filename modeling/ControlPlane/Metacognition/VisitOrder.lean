import ControlPlane.Metacognition.CacheOrder
import ControlPlane.Metacognition.GoalPath

/-! The depths do not depend on the order of the visits.  Where no cycle is ahead of a task, its
depth is the length of the longest chain of unfinished tasks that ends in it. -/

namespace ControlPlane.Metacognition

open Relation (ReflTransGen TransGen)

def retainedTasks (tasks : List TaskState) : List TaskState :=
  (lookupTasks tasks).toList.map Prod.snd

section Retained

variable {tasks : List TaskState} {key : TaskKey} {task : TaskState}

theorem taskKey_of_getElem? (h : (lookupTasks tasks)[key]? = some task) : taskKey task = key := by
  rw [lookupTasks, BTreeMap.getElem?_ofList_eq] at h
  obtain ⟨⟨k, t⟩, hfound, rfl⟩ := Option.map_eq_some_iff.1 h
  obtain ⟨t', -, hpair⟩ := List.mem_map.1 (List.mem_reverse.1 (List.mem_of_find?_eq_some hfound))
  cases hpair
  have hkey := List.find?_some hfound
  exact of_decide_eq_true hkey

theorem mem_retainedTasks :
    task ∈ retainedTasks tasks ↔ (lookupTasks tasks)[taskKey task]? = some task := by
  rw [retainedTasks, List.mem_map]
  constructor
  · rintro ⟨⟨k, t⟩, hmem, rfl⟩
    have hfound := Std.TreeMap.mem_toList_iff_getElem?_eq_some.1 hmem
    rwa [taskKey_of_getElem? hfound]
  · exact fun h => ⟨(taskKey task, task), Std.TreeMap.mem_toList_iff_getElem?_eq_some.2 h, rfl⟩

theorem map_taskKey_retainedTasks (tasks : List TaskState) :
    (retainedTasks tasks).map taskKey = (lookupTasks tasks).keys := by
  rw [retainedTasks, List.map_map, ← Std.TreeMap.map_fst_toList_eq_keys]
  refine List.map_congr_left fun entry hmem => ?_
  exact taskKey_of_getElem? (Std.TreeMap.mem_toList_iff_getElem?_eq_some.1 hmem)

theorem nodup_retainedTasks (tasks : List TaskState) :
    ((retainedTasks tasks).map taskKey).Nodup := by
  rw [map_taskKey_retainedTasks]
  exact Std.TreeMap.nodup_keys

theorem lookupTasks_retainedTasks (tasks : List TaskState) :
    (lookupTasks (retainedTasks tasks)).Equiv (lookupTasks tasks) := by
  refine Std.TreeMap.Equiv.of_forall_constGet?_eq fun key => Option.ext fun task => ?_
  rw [getElem?_lookupTasks (nodup_retainedTasks tasks), mem_retainedTasks]
  constructor
  · rintro ⟨hfound, rfl⟩
    exact hfound
  · intro hfound
    obtain rfl := taskKey_of_getElem? hfound
    exact ⟨hfound, rfl⟩

theorem length_retainedTasks_le (tasks : List TaskState) :
    (retainedTasks tasks).length ≤ tasks.length := by
  have hsubperm : ((retainedTasks tasks).map taskKey).Subperm (tasks.map taskKey) := by
    refine (nodup_retainedTasks tasks).subperm fun key hkey => ?_
    rw [map_taskKey_retainedTasks, Std.TreeMap.mem_keys] at hkey
    exact mem_lookupTasks.1 hkey
  simpa using hsubperm.length_le

theorem unfinished_retainedTasks :
    Unfinished (retainedTasks tasks) key ↔
      ∃ task, (lookupTasks tasks)[key]? = some task ∧ task.status ≠ .succeeded := by
  constructor
  · rintro ⟨task, hmem, rfl, hstatus⟩
    exact ⟨task, mem_retainedTasks.1 hmem, hstatus⟩
  · rintro ⟨task, hfound, hstatus⟩
    obtain rfl := taskKey_of_getElem? hfound
    exact ⟨task, mem_retainedTasks.2 hfound, rfl, hstatus⟩

theorem dependsOn_retainedTasks {dependency : TaskKey} :
    DependsOn (retainedTasks tasks) key dependency ↔
      ∃ task, (lookupTasks tasks)[key]? = some task ∧ dependency.1 = key.1 ∧
        dependency.2 ∈ task.task.dependsOn ∧ dependency ∈ lookupTasks tasks := by
  rw [DependsOn, map_taskKey_retainedTasks, Std.TreeMap.mem_keys]
  constructor
  · rintro ⟨task, hmem, rfl, hdependency⟩
    exact ⟨task, mem_retainedTasks.1 hmem, hdependency⟩
  · rintro ⟨task, hfound, hdependency⟩
    obtain rfl := taskKey_of_getElem? hfound
    exact ⟨task, mem_retainedTasks.2 hfound, rfl, hdependency⟩

end Retained

/-- Unfinished tasks, each awaiting the next one, from the given task on. -/
def RemainingChain (tasks : List TaskState) (key : TaskKey) : List TaskKey → Prop
  | [] => True
  | last :: rest => last = key ∧ Unfinished tasks key ∧ (last :: rest).IsChain (Awaits tasks)

def remainingLengths (tasks : List TaskState) (key : TaskKey) : Set Nat :=
  {n | ∃ chain, RemainingChain tasks key chain ∧ chain.length = n}

def Upstream (tasks : List TaskState) : TaskKey → TaskKey → Prop :=
  TransGen fun key dependency => Unfinished tasks key ∧ DependsOn tasks key dependency

def Untangled (tasks : List TaskState) (key : TaskKey) : Prop :=
  ∀ dependency, Upstream tasks key dependency →
    ¬TransGen (DependsOn tasks) dependency dependency

section Untangled

variable {tasks : List TaskState} {key : TaskKey} (h : Untangled tasks key)
  (hunfinished : Unfinished tasks key)
include h hunfinished

theorem Untangled.of_dependsOn {dependency : TaskKey} (hdepends : DependsOn tasks key dependency) :
    Untangled tasks dependency := by
  intro on hupstream
  exact h on (.head ⟨hunfinished, hdepends⟩ hupstream)

theorem Untangled.not_onCycle : ¬TransGen (DependsOn tasks) key key := by
  intro hcycle
  obtain ⟨dependency, hdepends, hback⟩ := TransGen.head'_iff.1 hcycle
  exact h dependency (.single ⟨hunfinished, hdepends⟩) (TransGen.tail' hback hdepends)

theorem Untangled.of_isChain {rest : List TaskKey} (hchain : (key :: rest).IsChain (Awaits tasks)) :
    ∀ on ∈ key :: rest, ¬TransGen (DependsOn tasks) on on := by
  induction rest generalizing key with
  | nil =>
    intro on hon
    obtain rfl := List.mem_singleton.1 hon
    exact h.not_onCycle hunfinished
  | cons next rest ih =>
    obtain ⟨hawaits, hrest⟩ := List.isChain_cons_cons.1 hchain
    intro on hon
    rcases List.mem_cons.1 hon with rfl | hon
    · exact h.not_onCycle hunfinished
    · exact ih (h.of_dependsOn hunfinished hawaits.1) hawaits.2 hrest on hon

end Untangled

def dependencyKeys (taskLookup : TaskLookup) (task : TaskState) : List TaskKey :=
  (task.task.dependsOn.map fun dependencyId => (task.agentId, dependencyId)).filter
    taskLookup.contains

structure DepthExact (tasks : List TaskState) (taskLookup : TaskLookup)
    (depths : BTreeMap TaskKey Nat) (task : TaskState) (depth : Nat) : Prop where
  succeeded : task.status = .succeeded → depth = 0
  unfinished : task.status ≠ .succeeded → depth = 1 + maxDepth depths (dependencyKeys taskLookup task)
  known : ∀ dependency ∈ dependencyKeys taskLookup task, dependency ∈ depths
  longest : IsGreatest (remainingLengths tasks (taskKey task)) depth

section Exact

variable {tasks : List TaskState} (hunique : (tasks.map taskKey).Nodup)
include hunique

theorem onCycle_of_mem {key : TaskKey} (h : key ∈ dependencyCycleMembers (lookupTasks tasks)) :
    TransGen (DependsOn tasks) key key := by
  have hcovered := mem_dependencyCycleMembers.1 h
  exact (transGen_dependsOn_iff hunique).2 ⟨rfl, hcovered.onCycle⟩

theorem IsDepth.isGreatest {key : TaskKey} {depth : Nat}
    (h : IsDepth tasks (dependencyCycleMembers (lookupTasks tasks)) key depth)
    (huntangled : Untangled tasks key) : IsGreatest (remainingLengths tasks key) depth := by
  rcases h with ⟨hunfinished, ⟨rest, hchain, hlength⟩, hbound⟩ | ⟨hfinished, rfl⟩
  · refine ⟨⟨key :: rest, ⟨rfl, hunfinished, (isChain_counted_iff.1 hchain).1⟩, hlength⟩, ?_⟩
    rintro _ ⟨chain, hremaining, rfl⟩
    cases chain with
    | nil => exact Nat.zero_le _
    | cons last rest =>
      obtain ⟨rfl, -, hawaits⟩ := hremaining
      refine hbound ⟨rest, isChain_counted_iff.2 ⟨hawaits, fun on hon hmember => ?_⟩, rfl⟩
      exact huntangled.of_isChain hunfinished hawaits on (List.mem_of_mem_dropLast hon)
        (onCycle_of_mem hunique hmember)
  · refine ⟨⟨[], trivial, rfl⟩, ?_⟩
    rintro _ ⟨chain, hremaining, rfl⟩
    cases chain with
    | nil => exact le_rfl
    | cons last rest => exact absurd hremaining.2.1 hfinished

theorem IsDepth.eq_succ_maxDepth {cycleMembers : BTreeSet TaskKey} {depths : BTreeMap TaskKey Nat}
    (hexact : ∀ key ∈ tasks.map taskKey, ∃ depth, depths[key]? = some depth ∧
      IsDepth tasks cycleMembers key depth)
    {task : TaskState} (htask : (lookupTasks tasks)[taskKey task]? = some task)
    (hstatus : task.status ≠ .succeeded) (hnot : taskKey task ∉ cycleMembers) {depth : Nat}
    (h : IsDepth tasks cycleMembers (taskKey task) depth) :
    depth = 1 + maxDepth depths (dependencyKeys (lookupTasks tasks) task) := by
  have hdependencies := fun dependency =>
    @mem_dependencies_iff tasks hunique (taskKey task) dependency task htask
  have hknown : ∀ dependency ∈ dependencyKeys (lookupTasks tasks) task,
      ∃ depth, depths[dependency]? = some depth ∧ IsDepth tasks cycleMembers dependency depth :=
    fun dependency hmem => hexact dependency ((hdependencies dependency).1 hmem).mem
  obtain ⟨hattained, hbound⟩ := foldl_max_spec
    ((dependencyKeys (lookupTasks tasks) task).filterMap fun key => depths[key]?)
  rw [← maxDepth] at hattained hbound
  have hreached : maxDepth depths (dependencyKeys (lookupTasks tasks) task) = 0 ∨
      ∃ dependency ∈ dependencyKeys (lookupTasks tasks) task, IsDepth tasks cycleMembers dependency
        (maxDepth depths (dependencyKeys (lookupTasks tasks) task)) := by
    refine hattained.imp_right fun hmem => ?_
    obtain ⟨dependency, hdependency, hfound⟩ := List.mem_filterMap.1 hmem
    obtain ⟨n, hn, hdepth⟩ := hknown dependency hdependency
    rw [hfound] at hn
    cases hn
    exact ⟨dependency, hdependency, hdepth⟩
  have hnext := IsDepth.of_dependencies ((unfinished_iff hunique htask).2 hstatus) hnot
    hdependencies hreached (by
      intro dependency hdependency
      obtain ⟨n, hn, hdepth⟩ := hknown dependency hdependency
      exact ⟨n, hdepth, hbound n (List.mem_filterMap.2 ⟨dependency, hdependency, hn⟩)⟩)
  rw [h.unique hnext, Nat.add_comm]

theorem exists_depthExact (hsize : tasks.length < 2 ^ 64) {task : TaskState} (hmem : task ∈ tasks)
    (huntangled : Untangled tasks (taskKey task)) :
    let depths := remainingDepths (lookupTasks tasks) (dependencyCycleMembers (lookupTasks tasks))
    ∃ depth, depths[taskKey task]? = some depth ∧
      DepthExact tasks (lookupTasks tasks) depths task depth := by
  intro depths
  have hexact : ∀ key ∈ tasks.map taskKey, ∃ depth, depths[key]? = some depth ∧
      IsDepth tasks (dependencyCycleMembers (lookupTasks tasks)) key depth :=
    fun key hkey => remainingDepths_exact hunique hsize (fun key => acc_followed hunique) hkey
  have htask := (getElem?_lookupTasks hunique).2 ⟨hmem, rfl⟩
  obtain ⟨depth, hfound, hdepth⟩ := hexact (taskKey task) (List.mem_map_of_mem hmem)
  refine ⟨depth, hfound, ?_, fun hstatus => ?_, ?_, hdepth.isGreatest hunique huntangled⟩
  · intro hsucceeded
    rcases hdepth with ⟨hunfinished, -⟩ | ⟨-, hzero⟩
    · exact absurd hsucceeded ((unfinished_iff hunique htask).1 hunfinished)
    · exact hzero
  · have hunfinished := (unfinished_iff hunique htask).2 hstatus
    exact hdepth.eq_succ_maxDepth hunique hexact htask hstatus fun hmember =>
      huntangled.not_onCycle hunfinished (onCycle_of_mem hunique hmember)
  · intro dependency hdependency
    have hdepends := (mem_dependencies_iff hunique htask).1 hdependency
    obtain ⟨n, hn, -⟩ := hexact dependency hdepends.mem
    rw [Std.TreeMap.mem_iff_isSome_getElem?, hn]
    rfl

/-- From whatever tasks the search starts, and in whatever order, it finds the same depths. -/
theorem visitDepths_eq (hsize : tasks.length < 2 ^ 64) {order : List TaskKey}
    (hretained : ∀ key ∈ order, key ∈ tasks.map taskKey) :
    ∃ memo, visitDepths (lookupTasks tasks) (dependencyCycleMembers (lookupTasks tasks)) order =
        some memo ∧
      ∀ key ∈ order, memo[key]? =
        (remainingDepths (lookupTasks tasks) (dependencyCycleMembers (lookupTasks tasks)))[key]? := by
  obtain ⟨memo, hmemo⟩ := Option.isSome_iff_exists.1 (visitDepths_isSome (lookupTasks tasks)
    (dependencyCycleMembers (lookupTasks tasks)) order)
  obtain ⟨hexact, hall⟩ := visitDepths_exact hunique hsize (fun key => acc_followed hunique)
    hretained hmemo
  refine ⟨memo, hmemo, fun key hkey => ?_⟩
  obtain ⟨depth, hfound, hdepth⟩ := remainingDepths_exact hunique hsize
    (fun key => acc_followed hunique) (hretained key hkey)
  have hvisited := hall key hkey
  rw [Std.TreeMap.mem_iff_isSome_getElem?] at hvisited
  obtain ⟨found, hvisited⟩ := Option.isSome_iff_exists.1 hvisited
  have hfoundDepth := (hexact key found hvisited).resolve_left List.not_mem_nil
  rw [hvisited, hfound, hfoundDepth.unique hdepth]

end Exact

structure SameTask (task other : TaskState) : Prop where
  status : task.status = other.status
  dependsOn : task.task.dependsOn.Perm other.task.dependsOn

/-- The same tasks in another order, their dependencies in other orders. -/
def Rearranged (tasks others : List TaskState) : Prop :=
  ∀ key : TaskKey, Option.Rel SameTask (lookupTasks tasks)[key]? (lookupTasks others)[key]?

section Rearranged

variable {tasks others : List TaskState} (h : Rearranged tasks others)
include h

theorem Rearranged.cases (key : TaskKey) :
    ((lookupTasks tasks)[key]? = none ∧ (lookupTasks others)[key]? = none) ∨
      ∃ task other, (lookupTasks tasks)[key]? = some task ∧
        (lookupTasks others)[key]? = some other ∧ SameTask task other := by
  have hrel := h key
  generalize (lookupTasks tasks)[key]? = found at hrel ⊢
  generalize (lookupTasks others)[key]? = found' at hrel ⊢
  cases hrel with
  | none => exact .inl ⟨rfl, rfl⟩
  | some hsame => exact .inr ⟨_, _, rfl, rfl, hsame⟩

theorem Rearranged.mem_iff (key : TaskKey) : key ∈ lookupTasks tasks ↔ key ∈ lookupTasks others := by
  rw [Std.TreeMap.mem_iff_isSome_getElem?, Std.TreeMap.mem_iff_isSome_getElem?]
  rcases h.cases key with ⟨hnone, hnone'⟩ | ⟨_, _, hfound, hfound', -⟩
  · rw [hnone, hnone']
  · simp [hfound, hfound']

theorem Rearranged.length_eq : (retainedTasks tasks).length = (retainedTasks others).length := by
  have hperm : (lookupTasks tasks).keys.Perm (lookupTasks others).keys :=
    (List.perm_ext_iff_of_nodup Std.TreeMap.nodup_keys Std.TreeMap.nodup_keys).2 fun key => by
      rw [Std.TreeMap.mem_keys, Std.TreeMap.mem_keys, h.mem_iff]
  simpa [← map_taskKey_retainedTasks] using hperm.length_eq

theorem Rearranged.unfinished_eq :
    Unfinished (retainedTasks tasks) = Unfinished (retainedTasks others) := by
  funext key
  rw [eq_iff_iff, unfinished_retainedTasks, unfinished_retainedTasks]
  rcases h.cases key with ⟨hnone, hnone'⟩ | ⟨_, _, hfound, hfound', hsame⟩
  · rw [hnone, hnone']
  · simp [hfound, hfound', hsame.status]

theorem Rearranged.dependsOn_eq :
    DependsOn (retainedTasks tasks) = DependsOn (retainedTasks others) := by
  funext key dependency
  rw [eq_iff_iff, dependsOn_retainedTasks, dependsOn_retainedTasks, h.mem_iff]
  rcases h.cases key with ⟨hnone, hnone'⟩ | ⟨_, _, hfound, hfound', hsame⟩
  · rw [hnone, hnone']
  · simp [hfound, hfound', hsame.dependsOn.mem_iff]

theorem Rearranged.untangled_iff {key : TaskKey} :
    Untangled (retainedTasks tasks) key ↔ Untangled (retainedTasks others) key := by
  simp only [Untangled, Upstream, h.unfinished_eq, h.dependsOn_eq]

theorem Rearranged.remainingLengths_eq :
    remainingLengths (retainedTasks tasks) = remainingLengths (retainedTasks others) := by
  have hawaits : Awaits (retainedTasks tasks) = Awaits (retainedTasks others) := by
    funext key dependency
    simp only [Awaits, h.unfinished_eq, h.dependsOn_eq]
  have hchain : RemainingChain (retainedTasks tasks) = RemainingChain (retainedTasks others) := by
    funext key chain
    cases chain with
    | nil => rfl
    | cons last rest => simp only [RemainingChain, h.unfinished_eq, hawaits]
  funext key
  simp only [remainingLengths, hchain]

end Rearranged

def cycleMembersOf (tasks : List TaskState) : BTreeSet TaskKey :=
  dependencyCycleMembers (lookupTasks tasks)

def depthsOf (tasks : List TaskState) : BTreeMap TaskKey Nat :=
  remainingDepths (lookupTasks tasks) (cycleMembersOf tasks)

theorem cycleMembersOf_retainedTasks (tasks : List TaskState) :
    cycleMembersOf (retainedTasks tasks) = cycleMembersOf tasks :=
  dependencyCycleMembers_congr (lookupTasks_retainedTasks tasks)

theorem depthsOf_retainedTasks (tasks : List TaskState) :
    depthsOf (retainedTasks tasks) = depthsOf tasks := by
  rw [depthsOf, depthsOf, cycleMembersOf_retainedTasks,
    remainingDepths_congr (lookupTasks_retainedTasks tasks)]

theorem visitDepths_retainedTasks (tasks : List TaskState) (cycleMembers : BTreeSet TaskKey)
    (order : List TaskKey) :
    visitDepths (lookupTasks (retainedTasks tasks)) cycleMembers order =
      visitDepths (lookupTasks tasks) cycleMembers order := by
  have hlookup := lookupTasks_retainedTasks tasks
  rw [visitDepths, visitDepths, hlookup.size_eq, remainingDepth_congr hlookup]

theorem exists_depthExact_retainedTasks {tasks : List TaskState}
    (hsize : (retainedTasks tasks).length < 2 ^ 64) {task : TaskState}
    (hmem : task ∈ retainedTasks tasks)
    (huntangled : Untangled (retainedTasks tasks) (taskKey task)) :
    ∃ depth, (depthsOf tasks)[taskKey task]? = some depth ∧
      DepthExact (retainedTasks tasks) (lookupTasks tasks) (depthsOf tasks) task depth := by
  have hkeys : dependencyKeys (lookupTasks (retainedTasks tasks)) task =
      dependencyKeys (lookupTasks tasks) task := by
    refine List.filter_congr fun key _ => ?_
    exact (lookupTasks_retainedTasks tasks).contains_eq
  obtain ⟨depth, hfound, hexact⟩ :=
    exists_depthExact (nodup_retainedTasks tasks) hsize hmem huntangled
  rw [← cycleMembersOf, ← depthsOf, depthsOf_retainedTasks] at hfound hexact
  refine ⟨depth, hfound, hexact.succeeded, ?_, ?_, hexact.longest⟩
  · rw [← hkeys]
    exact hexact.unfinished
  · rw [← hkeys]
    exact hexact.known

theorem Rearranged.getElem?_depthsOf {tasks others : List TaskState} (h : Rearranged tasks others)
    (hsize : (retainedTasks tasks).length < 2 ^ 64) {task : TaskState}
    (hmem : task ∈ retainedTasks tasks)
    (huntangled : Untangled (retainedTasks tasks) (taskKey task)) {depth : Nat}
    (hdepth : IsGreatest (remainingLengths (retainedTasks tasks) (taskKey task)) depth) :
    (depthsOf others)[taskKey task]? = some depth := by
  have htask := mem_retainedTasks.1 hmem
  rcases h.cases (taskKey task) with ⟨hnone, -⟩ | ⟨_, other, -, hother, -⟩
  · rw [hnone] at htask
    cases htask
  · have hkey := taskKey_of_getElem? hother
    have hmem' : other ∈ retainedTasks others := by
      rw [mem_retainedTasks, hkey]
      exact hother
    obtain ⟨found, hfound, hexact⟩ := exists_depthExact_retainedTasks (h.length_eq ▸ hsize) hmem'
      (hkey ▸ h.untangled_iff.1 huntangled)
    have hlongest := hexact.longest
    rw [hkey, ← h.remainingLengths_eq] at hlongest
    rw [← hkey, hfound, hlongest.unique hdepth]

/-- The search ends, from any tasks in any order, with the same depths; and the depth of a task
with no cycle upstream is that of its longest remaining chain, however the tasks and their
dependencies are ordered. -/
theorem remaining_depths_exact (snapshot : Snapshot) (hsize : snapshot.tasks.length < 2 ^ 64) :
    let tasks := retainedTasks snapshot.tasks
    let taskLookup := lookupTasks snapshot.tasks
    let depths := depthsOf snapshot.tasks
    searchDepths taskLookup (cycleMembersOf snapshot.tasks) = some depths ∧
    (∀ order : List TaskKey, (∀ key ∈ order, key ∈ taskLookup) →
      ∃ memo, visitDepths taskLookup (cycleMembersOf snapshot.tasks) order = some memo ∧
        ∀ key ∈ order, memo[key]? = depths[key]?) ∧
    ∀ task ∈ tasks, Untangled tasks (taskKey task) →
      ∃ depth, depths[taskKey task]? = some depth ∧
        DepthExact tasks taskLookup depths task depth ∧
        ∀ others, Rearranged snapshot.tasks others → (depthsOf others)[taskKey task]? = some depth := by
  intro tasks taskLookup depths
  have hsize' : tasks.length < 2 ^ 64 := (length_retainedTasks_le snapshot.tasks).trans_lt hsize
  refine ⟨(Option.some_get (searchDepths_isSome _ _)).symm, fun order horder => ?_,
    fun task hmem huntangled => ?_⟩
  · obtain ⟨memo, hmemo, hsame⟩ := visitDepths_eq (nodup_retainedTasks snapshot.tasks) hsize'
      fun key hkey => by
        rw [map_taskKey_retainedTasks, Std.TreeMap.mem_keys]
        exact horder key hkey
    rw [visitDepths_retainedTasks, ← cycleMembersOf, cycleMembersOf_retainedTasks] at hmemo
    rw [← cycleMembersOf, ← depthsOf, depthsOf_retainedTasks] at hsame
    exact ⟨memo, hmemo, hsame⟩
  · obtain ⟨depth, hfound, hexact⟩ := exists_depthExact_retainedTasks hsize' hmem huntangled
    exact ⟨depth, hfound, hexact, fun others h =>
      h.getElem?_depthsOf hsize' hmem huntangled hexact.longest⟩

theorem retained_dependsOn_ordered {key dependency : TaskKey}
    (h : DependsOn (retainedTasks Sample.ordered.tasks) key dependency) :
    key = ("worker", "b") ∧ dependency = ("worker", "a") := by
  obtain ⟨task, hmem, rfl, hagent, hdependency, -⟩ := h
  have hall : ∀ task ∈ retainedTasks Sample.ordered.tasks, ∀ dependencyId ∈ task.task.dependsOn,
      taskKey task = ("worker", "b") ∧ dependencyId = "a" := by
    decide
  obtain ⟨hkey, hid⟩ := hall task hmem dependency.2 hdependency
  rw [hkey] at hagent ⊢
  exact ⟨rfl, Prod.ext hagent hid⟩

theorem untangled_ordered (key : TaskKey) : Untangled (retainedTasks Sample.ordered.tasks) key := by
  intro on hupstream hcycle
  obtain ⟨_, -, -, hlast⟩ := TransGen.tail'_iff.1 hupstream
  obtain ⟨_, hfirst, -⟩ := TransGen.head'_iff.1 hcycle
  obtain ⟨-, rfl⟩ := retained_dependsOn_ordered hlast
  exact absurd (retained_dependsOn_ordered hfirst).1 (by decide)

theorem remaining_depths_ordered :
    (depthsOf Sample.ordered.tasks)[(("worker", "b") : TaskKey)]? = some 2 ∧
      IsGreatest (remainingLengths (retainedTasks Sample.ordered.tasks) ("worker", "b")) 2 := by
  have htask : ∃ task ∈ retainedTasks Sample.ordered.tasks, taskKey task = ("worker", "b") := by
    decide
  obtain ⟨task, hmem, hkey⟩ := htask
  obtain ⟨depth, hfound, hexact, -⟩ := (remaining_depths_exact Sample.ordered (by decide)).2.2 task
    hmem (untangled_ordered _)
  have hlongest := hexact.longest
  have hdepth : (depthsOf Sample.ordered.tasks)[(("worker", "b") : TaskKey)]? = some 2 := by decide
  rw [hkey] at hfound hlongest
  obtain rfl : depth = 2 := Option.some.inj (hfound.symm.trans hdepth)
  exact ⟨hdepth, hlongest⟩

end ControlPlane.Metacognition
