import ControlPlane.Lib.Chain
import ControlPlane.Metacognition.CriticalPath
import ControlPlane.Metacognition.Cycle

/-! What the depths mean.  The depth of an unfinished task is the length of the longest chain of
unfinished dependencies from it, where a chain goes no further than a reported cycle member. -/

namespace ControlPlane.Metacognition

open Chain (Longest)
open Relation (TransGen)

def Unfinished (tasks : List TaskState) (key : TaskKey) : Prop :=
  ∃ task ∈ tasks, taskKey task = key ∧ task.status ≠ .succeeded

def Awaits (tasks : List TaskState) (key dependency : TaskKey) : Prop :=
  DependsOn tasks key dependency ∧ Unfinished tasks dependency

section Depth

variable (tasks : List TaskState) (cycleMembers : BTreeSet TaskKey)

def Followed (key dependency : TaskKey) : Prop :=
  key ∉ cycleMembers ∧ DependsOn tasks key dependency

def Counted (key dependency : TaskKey) : Prop :=
  key ∉ cycleMembers ∧ Awaits tasks key dependency

def IsDepth (key : TaskKey) (depth : Nat) : Prop :=
  Unfinished tasks key ∧ Longest (Counted tasks cycleMembers) key depth ∨
    ¬Unfinished tasks key ∧ depth = 0

/-- What the memo holds is right, the tasks in progress apart. -/
def MemoExact (path : List TaskKey) (memo : BTreeMap TaskKey Nat) : Prop :=
  ∀ key depth, memo[key]? = some depth → key ∈ path ∨ IsDepth tasks cycleMembers key depth

variable {tasks cycleMembers} (hunique : (tasks.map taskKey).Nodup)
include hunique

theorem unfinished_iff {key : TaskKey} {task : TaskState}
    (h : (lookupTasks tasks)[key]? = some task) :
    Unfinished tasks key ↔ task.status ≠ .succeeded := by
  constructor
  · rintro ⟨other, hmem, hkey, hstatus⟩
    rw [(getElem?_lookupTasks hunique).2 ⟨hmem, hkey⟩] at h
    exact Option.some.inj h ▸ hstatus
  · intro hstatus
    obtain ⟨hmem, hkey⟩ := (getElem?_lookupTasks hunique).1 h
    exact ⟨task, hmem, hkey, hstatus⟩

theorem mem_dependencies_iff {key dependency : TaskKey} {task : TaskState}
    (h : (lookupTasks tasks)[key]? = some task) :
    dependency ∈ (task.task.dependsOn.map fun dependencyId => (key.1, dependencyId)).filter
      (lookupTasks tasks).contains ↔ DependsOn tasks key dependency := by
  rw [List.mem_filter, ← Std.TreeMap.mem_iff_contains, mem_lookupTasks, List.mem_map, DependsOn]
  constructor
  · rintro ⟨⟨dependencyId, hdep, rfl⟩, hretained⟩
    obtain ⟨hmem, hkey⟩ := (getElem?_lookupTasks hunique).1 h
    exact ⟨task, hmem, hkey, rfl, hdep, hretained⟩
  · rintro ⟨other, hmem, hkey, hagent, hdep, hretained⟩
    rw [(getElem?_lookupTasks hunique).2 ⟨hmem, hkey⟩] at h
    obtain rfl := Option.some.inj h
    exact ⟨⟨dependency.2, hdep, Prod.ext hagent.symm rfl⟩, hretained⟩

omit hunique in
theorem Counted.followed {key dependency : TaskKey} (h : Counted tasks cycleMembers key dependency) :
    Followed tasks cycleMembers key dependency := ⟨h.1, h.2.1⟩

omit hunique in
theorem DependsOn.mem {key dependency : TaskKey} (h : DependsOn tasks key dependency) :
    dependency ∈ tasks.map taskKey := by
  obtain ⟨_, -, -, -, -, hmem⟩ := h
  exact hmem

omit hunique in
theorem IsDepth.of_dependencies {key : TaskKey} {dependencies : List TaskKey} {deepest : Nat}
    (hunfinished : Unfinished tasks key) (hnot : key ∉ cycleMembers)
    (hdependencies : ∀ dependency, dependency ∈ dependencies ↔ DependsOn tasks key dependency)
    (hreached : deepest = 0 ∨
      ∃ dependency ∈ dependencies, IsDepth tasks cycleMembers dependency deepest)
    (hbound : ∀ dependency ∈ dependencies,
      ∃ depth, IsDepth tasks cycleMembers dependency depth ∧ depth ≤ deepest) :
    IsDepth tasks cycleMembers key (deepest + 1) := by
  refine .inl ⟨hunfinished, .cons ?_ fun dependency hcounted => ?_⟩
  · rcases hreached with hzero | ⟨dependency, hmem, ⟨hawaited, hlongest⟩ | ⟨-, hzero⟩⟩
    · exact .inl hzero
    · exact .inr ⟨dependency, ⟨hnot, (hdependencies dependency).1 hmem, hawaited⟩, hlongest⟩
    · exact .inl hzero
  · obtain ⟨depth, ⟨-, hlongest⟩ | ⟨hfinished, -⟩, hle⟩ :=
      hbound dependency ((hdependencies dependency).2 hcounted.2.1)
    · exact ⟨depth, hlongest, hle⟩
    · exact absurd hcounted.2.2 hfinished

omit hunique in
theorem IsDepth.le_length {key : TaskKey} {depth : Nat}
    (h : IsDepth tasks cycleMembers key depth) (hmem : key ∈ tasks.map taskKey)
    (hacc : Acc (fun b a => Followed tasks cycleMembers a b) key) : depth ≤ tasks.length := by
  rcases h with ⟨-, ⟨rest, hchain, rfl⟩, -⟩ | ⟨-, rfl⟩
  · have hacc' : Acc (fun b a => Counted tasks cycleMembers a b) key :=
      Subrelation.accessible (fun hcounted => hcounted.followed) hacc
    have hle := Chain.length_le_of_isChain hacc' hmem (fun _ _ hcounted => hcounted.2.1.mem) hchain
    rwa [List.length_map] at hle
  · exact Nat.zero_le _

omit hunique in
theorem MemoExact.enter {path : List TaskKey} {memo : BTreeMap TaskKey Nat}
    (h : MemoExact tasks cycleMembers path memo) (key : TaskKey) (provisional : Nat) :
    MemoExact tasks cycleMembers (key :: path) (memo.insert key provisional) := by
  intro k depth hk
  rw [BTreeMap.getElem?_insert_eq] at hk
  split at hk
  · next hkey => exact .inl (hkey ▸ List.mem_cons_self)
  · exact (h k depth hk).imp_left (List.mem_cons_of_mem key)

omit hunique in
theorem MemoExact.leave {path : List TaskKey} {memo : BTreeMap TaskKey Nat} {key : TaskKey}
    {depth : Nat} (h : MemoExact tasks cycleMembers (key :: path) memo)
    (hdepth : IsDepth tasks cycleMembers key depth) :
    MemoExact tasks cycleMembers path (memo.insert key depth) := by
  intro k d hk
  rw [BTreeMap.getElem?_insert_eq] at hk
  split at hk
  · next hkey =>
    cases hk
    exact .inr (hkey ▸ hdepth)
  · next hkey =>
    rcases h k d hk with hpath | hd
    · exact .inl ((List.mem_cons.1 hpath).resolve_left (Ne.symm hkey))
    · exact .inr hd

omit hunique in
theorem MemoExact.insert {path : List TaskKey} {memo : BTreeMap TaskKey Nat} {key : TaskKey}
    {depth : Nat} (h : MemoExact tasks cycleMembers path memo)
    (hdepth : IsDepth tasks cycleMembers key depth) :
    MemoExact tasks cycleMembers path (memo.insert key depth) :=
  .leave (fun k d hk => (h k d hk).imp_left (List.mem_cons_of_mem key)) hdepth

structure Deepest (tasks : List TaskState) (cycleMembers : BTreeSet TaskKey) (path : List TaskKey)
    (entered : BTreeMap TaskKey Nat) (seen : List TaskKey)
    (deepest : Nat × BTreeMap TaskKey Nat) : Prop where
  exact : MemoExact tasks cycleMembers path deepest.2
  grown : ∀ k, k ∈ entered → k ∈ deepest.2
  reached : deepest.1 = 0 ∨ ∃ dependency ∈ seen, IsDepth tasks cycleMembers dependency deepest.1
  bound : ∀ dependency ∈ seen,
    ∃ depth, IsDepth tasks cycleMembers dependency depth ∧ depth ≤ deepest.1

omit hunique in
theorem Deepest.add {path seen : List TaskKey} {entered : BTreeMap TaskKey Nat}
    {deepest found : Nat × BTreeMap TaskKey Nat} {dependency : TaskKey}
    (h : Deepest tasks cycleMembers path entered seen deepest)
    (hdepth : IsDepth tasks cycleMembers dependency found.1)
    (hexact : MemoExact tasks cycleMembers path found.2)
    (hkept : ∀ k, k ∈ deepest.2 → k ∈ found.2) :
    Deepest tasks cycleMembers path entered (seen ++ [dependency])
      (max deepest.1 found.1, found.2) := by
  refine ⟨hexact, fun k hk => hkept k (h.grown k hk), ?_, fun d hd => ?_⟩
  · rcases max_choice deepest.1 found.1 with hmax | hmax
    · rw [hmax]
      refine h.reached.imp_right fun hreached => ?_
      obtain ⟨d, hd, hdeepest⟩ := hreached
      exact ⟨d, List.mem_append_left _ hd, hdeepest⟩
    · rw [hmax]
      exact .inr ⟨dependency, List.mem_append_right _ (List.mem_singleton_self _), hdepth⟩
  · rcases List.mem_append.1 hd with hd | hd
    · obtain ⟨depth, hd', hle⟩ := h.bound d hd
      exact ⟨depth, hd', hle.trans (le_max_left _ _)⟩
    · exact List.mem_singleton.1 hd ▸ ⟨found.1, hdepth, le_max_right _ _⟩

omit hunique in
theorem Deepest.of_loop {path dependencies : List TaskKey} {entered : BTreeMap TaskKey Nat}
    {visit : TaskKey → BTreeMap TaskKey Nat → Option (Nat × BTreeMap TaskKey Nat)}
    {deepest : Nat × BTreeMap TaskKey Nat}
    (hloop : dependencies.foldlM
      (fun deepest dependencyKey => do
        let visited ← visit dependencyKey deepest.2
        return (max deepest.1 visited.1, visited.2))
      (0, entered) = some deepest)
    (hentered : MemoExact tasks cycleMembers path entered)
    (hvisit : ∀ dependency ∈ dependencies, ∀ memo found, visit dependency memo = some found →
      MemoExact tasks cycleMembers path memo → IsDepth tasks cycleMembers dependency found.1 ∧
        MemoExact tasks cycleMembers path found.2 ∧ ∀ k, k ∈ memo → k ∈ found.2) :
    Deepest tasks cycleMembers path entered dependencies deepest := by
  refine Traversal.foldlM_some_invariant hloop
    (P := Deepest tasks cycleMembers path entered) ?_ ?_
  · exact ⟨hentered, fun _ hk => hk, .inl rfl, fun _ hd => by cases hd⟩
  · intro pre dependency post before after hl hbefore hstep
    obtain ⟨found, hfound, hafter⟩ := Option.bind_eq_some_iff.1 hstep
    cases hafter
    have hmem : dependency ∈ dependencies := by
      rw [hl]
      simp
    obtain ⟨hdepth, hexact, hkept⟩ := hvisit dependency hmem before.2 found hfound hbefore.exact
    exact hbefore.add hdepth hexact hkept

/-- What a call returns is the depth, whatever tasks are in progress: none of them is met again. -/
theorem remainingDepth_exact (hsize : tasks.length < 2 ^ 64) {fuel : Nat} {key : TaskKey}
    {path : List TaskKey} {memo : BTreeMap TaskKey Nat} {visited : Nat × BTreeMap TaskKey Nat}
    (hvisited : remainingDepth (lookupTasks tasks) cycleMembers fuel key memo = some visited)
    (hmem : key ∈ tasks.map taskKey)
    (hacc : Acc (fun b a => Followed tasks cycleMembers a b) key)
    (hpath : ∀ ahead ∈ path, TransGen (Followed tasks cycleMembers) ahead key)
    (hmemo : MemoExact tasks cycleMembers path memo) :
    IsDepth tasks cycleMembers key visited.1 ∧ MemoExact tasks cycleMembers path visited.2 ∧
      (∀ k, k ∈ memo → k ∈ visited.2) ∧ key ∈ visited.2 := by
  induction fuel generalizing key path memo visited with
  | zero => cases hvisited
  | succ fuel ih =>
    have hkept : ∀ (memo : BTreeMap TaskKey Nat) depth k, k ∈ memo → k ∈ memo.insert key depth :=
      fun _ _ _ hk => Std.TreeMap.mem_insert.mpr (.inr hk)
    rw [remainingDepth] at hvisited
    cases hfound : memo[key]? with
    | some depth =>
      rw [hfound] at hvisited
      cases hvisited
      refine ⟨?_, hmemo, fun _ hk => hk, ?_⟩
      · exact (hmemo key depth hfound).resolve_left fun hmet =>
          Chain.not_transGen_self hacc (hpath key hmet)
      · rw [Std.TreeMap.mem_iff_isSome_getElem?, hfound]
        rfl
    | none =>
      have hretained : (lookupTasks tasks)[key]?.isSome := by
        rw [← Std.TreeMap.mem_iff_isSome_getElem?, mem_lookupTasks]
        exact hmem
      obtain ⟨task, htask⟩ := Option.isSome_iff_exists.1 hretained
      rw [hfound, htask] at hvisited
      dsimp only at hvisited
      split at hvisited
      · next hsucceeded =>
        cases hvisited
        have hdepth : IsDepth tasks cycleMembers key 0 :=
          .inr ⟨fun h => (unfinished_iff hunique htask).1 h hsucceeded, rfl⟩
        exact ⟨hdepth, hmemo.insert hdepth, hkept _ _, Std.TreeMap.mem_insert_self⟩
      · next hstatus =>
        have hunfinished := (unfinished_iff hunique htask).2 hstatus
        split at hvisited
        · next hmember =>
          cases hvisited
          have hdepth : IsDepth tasks cycleMembers key 1 :=
            .inl ⟨hunfinished, .cons (.inl rfl) fun _ hcounted =>
              absurd (Std.TreeSet.contains_iff_mem.1 hmember) hcounted.1⟩
          exact ⟨hdepth, hmemo.insert hdepth, hkept _ _, Std.TreeMap.mem_insert_self⟩
        · next hmember =>
          have hnot : key ∉ cycleMembers := fun h => hmember (Std.TreeSet.contains_iff_mem.2 h)
          obtain ⟨deepest, hloop, hreturn⟩ := Option.bind_eq_some_iff.1 hvisited
          cases hreturn
          have hdependencies := fun dependency =>
            @mem_dependencies_iff tasks hunique key dependency task htask
          have hinvariant := Deepest.of_loop hloop (hmemo.enter key 1) (by
            intro dependency hmember memo found hfound hbefore
            have hfollowed : Followed tasks cycleMembers key dependency :=
              ⟨hnot, (hdependencies dependency).1 hmember⟩
            -- No dependency that is looked at is in progress, for it would be in a chain of its
            -- own.
            have hahead : ∀ ahead ∈ key :: path,
                TransGen (Followed tasks cycleMembers) ahead dependency := by
              intro ahead hahead
              rcases List.mem_cons.1 hahead with rfl | hahead
              · exact .single hfollowed
              · exact (hpath ahead hahead).tail hfollowed
            obtain ⟨hdepth, hexact, hkept, -⟩ :=
              ih hfound hfollowed.2.mem (hacc.inv hfollowed) hahead hbefore
            exact ⟨hdepth, hexact, hkept⟩)
          have hdepth := IsDepth.of_dependencies hunfinished hnot hdependencies hinvariant.reached
            hinvariant.bound
          have hle := hdepth.le_length hmem hacc
          rw [U64.saturatingAdd_of_lt (by omega)]
          exact ⟨hdepth, hinvariant.exact.leave hdepth,
            fun k hk => hkept _ _ k (hinvariant.grown k (hkept _ _ k hk)),
            Std.TreeMap.mem_insert_self⟩

omit hunique in
theorem IsDepth.unique {key : TaskKey} {depth other : Nat}
    (h : IsDepth tasks cycleMembers key depth) (h' : IsDepth tasks cycleMembers key other) :
    depth = other := by
  rcases h with ⟨hunfinished, hlongest⟩ | ⟨hfinished, rfl⟩
  · rcases h' with ⟨-, hlongest'⟩ | ⟨hfinished', -⟩
    · exact hlongest.unique hlongest'
    · exact absurd hunfinished hfinished'
  · rcases h' with ⟨hunfinished', -⟩ | ⟨-, rfl⟩
    · exact absurd hunfinished' hfinished
    · rfl

theorem visitDepths_exact (hsize : tasks.length < 2 ^ 64)
    (hacc : ∀ key ∈ tasks.map taskKey, Acc (fun b a => Followed tasks cycleMembers a b) key)
    {order : List TaskKey} (hretained : ∀ key ∈ order, key ∈ tasks.map taskKey)
    {memo : BTreeMap TaskKey Nat}
    (hmemo : visitDepths (lookupTasks tasks) cycleMembers order = some memo) :
    MemoExact tasks cycleMembers [] memo ∧ ∀ key ∈ order, key ∈ memo := by
  refine Traversal.foldlM_some_invariant hmemo
    (P := fun pre memo => MemoExact tasks cycleMembers [] memo ∧ ∀ k ∈ pre, k ∈ memo)
    ⟨fun k d hk => by simp at hk, fun _ hk => by cases hk⟩ ?_
  intro pre k post memo memo' hl hbefore hstep
  obtain ⟨visited, hvisited, rfl⟩ := Option.map_eq_some_iff.1 hstep
  have hmem : k ∈ tasks.map taskKey := by
    apply hretained
    rw [hl]
    simp
  obtain ⟨-, hexact, hkept, hnew⟩ := remainingDepth_exact hunique hsize hvisited hmem
    (hacc k hmem) (fun _ hahead => by cases hahead) hbefore.1
  refine ⟨hexact, fun k' hk' => ?_⟩
  rcases List.mem_append.1 hk' with hk' | hk'
  · exact hkept k' (hbefore.2 k' hk')
  · exact List.mem_singleton.1 hk' ▸ hnew

theorem remainingDepths_exact (hsize : tasks.length < 2 ^ 64)
    (hacc : ∀ key ∈ tasks.map taskKey, Acc (fun b a => Followed tasks cycleMembers a b) key)
    {key : TaskKey} (hmem : key ∈ tasks.map taskKey) :
    ∃ depth, (remainingDepths (lookupTasks tasks) cycleMembers)[key]? = some depth ∧
      IsDepth tasks cycleMembers key depth := by
  obtain ⟨hexact, hall⟩ := visitDepths_exact hunique hsize hacc
    (fun k hk => mem_lookupTasks.1 (Std.TreeMap.mem_keys.1 hk))
    (Option.some_get (searchDepths_isSome (lookupTasks tasks) cycleMembers)).symm
  rw [← remainingDepths] at hexact hall
  have hfound := hall key (Std.TreeMap.mem_keys.2 (mem_lookupTasks.2 hmem))
  rw [Std.TreeMap.mem_iff_isSome_getElem?] at hfound
  obtain ⟨found, hfound⟩ := Option.isSome_iff_exists.1 hfound
  exact ⟨found, hfound, (hexact key found hfound).resolve_left List.not_mem_nil⟩

theorem acc_followed {key : TaskKey} (hmem : key ∈ tasks.map taskKey) :
    Acc (fun b a => Followed tasks (dependencyCycleMembers (lookupTasks tasks)) a b) key := by
  obtain ⟨agentId, taskId⟩ := key
  have hacc := acc_unreported (mem_lookupTasks.2 hmem)
  clear hmem
  induction hacc with
  | intro taskId _ ih =>
    refine .intro _ fun dependency hfollowed => ?_
    obtain ⟨hnot, hdepends⟩ := hfollowed
    obtain ⟨hagent, hedge⟩ := (dependsOn_iff_edge hunique).1 hdepends
    obtain ⟨other, dependencyId⟩ := dependency
    obtain rfl : other = agentId := hagent
    exact ih dependencyId ⟨hedge, hnot⟩

end Depth

/-- A chain that ends in an unfinished task of the goal, from its last task to its first. -/
def GoalChain (tasks : List TaskState) (R : TaskKey → TaskKey → Prop) (goal : GoalKey) :
    List TaskKey → Prop
  | [] => True
  | key :: rest =>
    key ∈ goalTaskKeys tasks goal ∧ Unfinished tasks key ∧ (key :: rest).IsChain R

def chainLengths (tasks : List TaskState) (R : TaskKey → TaskKey → Prop) (goal : GoalKey) :
    Set Nat := {n | ∃ chain, GoalChain tasks R goal chain ∧ chain.length = n}

theorem foldl_max_spec (l : List Nat) :
    (l.foldl max 0 = 0 ∨ l.foldl max 0 ∈ l) ∧ ∀ n ∈ l, n ≤ l.foldl max 0 := by
  induction l using List.reverseRecOn with
  | nil => exact ⟨.inl rfl, fun _ hn => by cases hn⟩
  | append_singleton l m ih =>
    obtain ⟨hattained, hbound⟩ := ih
    rw [List.foldl_concat]
    refine ⟨?_, fun n hn => ?_⟩
    · rcases max_choice (l.foldl max 0) m with hmax | hmax
      · rw [hmax]
        exact hattained.imp_right (List.mem_append_left _)
      · rw [hmax]
        exact .inr (List.mem_append_right _ (List.mem_singleton_self m))
    · rcases List.mem_append.1 hn with hn | hn
      · exact (hbound n hn).trans (le_max_left _ _)
      · exact List.mem_singleton.1 hn ▸ le_max_right _ _

section Goal

variable {tasks : List TaskState} {cycleMembers : BTreeSet TaskKey}

theorem mem_of_mem_goalTaskKeys {goal : GoalKey} {key : TaskKey}
    (h : key ∈ goalTaskKeys tasks goal) : key ∈ tasks.map taskKey := by
  obtain ⟨task, hmem, rfl, -⟩ := mem_goalTaskKeys.1 h
  exact List.mem_map_of_mem hmem

theorem isGreatest_maxDepth (hunique : (tasks.map taskKey).Nodup) (hsize : tasks.length < 2 ^ 64)
    (hacc : ∀ key ∈ tasks.map taskKey, Acc (fun b a => Followed tasks cycleMembers a b) key)
    (goal : GoalKey) :
    IsGreatest (chainLengths tasks (Counted tasks cycleMembers) goal)
      (maxDepth (remainingDepths (lookupTasks tasks) cycleMembers) (goalTaskKeys tasks goal)) := by
  have hexact : ∀ key ∈ tasks.map taskKey,
      ∃ depth, (remainingDepths (lookupTasks tasks) cycleMembers)[key]? = some depth ∧
        IsDepth tasks cycleMembers key depth :=
    fun key hmem => remainingDepths_exact hunique hsize hacc hmem
  obtain ⟨hattained, hbound⟩ := foldl_max_spec ((goalTaskKeys tasks goal).filterMap fun key =>
    (remainingDepths (lookupTasks tasks) cycleMembers)[key]?)
  rw [← maxDepth] at hattained hbound
  constructor
  · rcases hattained with hzero | hmem
    · exact ⟨[], trivial, hzero.symm⟩
    · obtain ⟨key, hkey, hfound⟩ := List.mem_filterMap.1 hmem
      obtain ⟨depth, hdepth, hexact⟩ := hexact key (mem_of_mem_goalTaskKeys hkey)
      rw [hfound] at hdepth
      obtain rfl := Option.some.inj hdepth
      rcases hexact with ⟨hunfinished, ⟨rest, hchain, hlength⟩, -⟩ | ⟨-, hzero⟩
      · exact ⟨key :: rest, ⟨hkey, hunfinished, hchain⟩, hlength⟩
      · exact ⟨[], trivial, hzero.symm⟩
  · rintro _ ⟨chain, hchain, rfl⟩
    cases chain with
    | nil => exact Nat.zero_le _
    | cons key rest =>
      obtain ⟨hkey, hunfinished, hchain⟩ := hchain
      obtain ⟨depth, hdepth, ⟨-, hlongest⟩ | ⟨hfinished, -⟩⟩ :=
        hexact key (mem_of_mem_goalTaskKeys hkey)
      · exact (hlongest.2 ⟨rest, hchain, rfl⟩).trans
          (hbound depth (List.mem_filterMap.2 ⟨key, hkey, hdepth⟩))
      · exact absurd hunfinished hfinished

theorem isChain_counted_iff {chain : List TaskKey} :
    chain.IsChain (Counted tasks cycleMembers) ↔
      chain.IsChain (Awaits tasks) ∧ ∀ key ∈ chain.dropLast, key ∉ cycleMembers := by
  induction chain with
  | nil => simp
  | cons key rest ih =>
    cases rest with
    | nil => simp
    | cons next rest =>
      rw [List.isChain_cons_cons, List.isChain_cons_cons, ih, List.dropLast_cons_cons,
        List.forall_mem_cons, Counted]
      tauto

end Goal

end ControlPlane.Metacognition
