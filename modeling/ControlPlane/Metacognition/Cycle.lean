import ControlPlane.Metacognition.CycleSearch

/-! The cycle search of a snapshot, and what `dependency_cycle_members` misses. -/

namespace ControlPlane.Metacognition

open Traversal (foldlM_invariant)
open Relation (TransGen)

section Lookup

variable (taskLookup : TaskLookup)

def agentGraph (agentId : String) : OrderedGraph String where
  roots := taskLookup.keys.filterMap fun key => if key.1 = agentId then some key.2 else none
  next taskId :=
    match taskLookup[(agentId, taskId)]? with
    | some task => retainedDependencies taskLookup agentId task
    | none => []

variable {taskLookup} in
theorem mem_next_iff {agentId taskId d : String} :
    d ∈ (agentGraph taskLookup agentId).next taskId ↔
      ∃ task, taskLookup[(agentId, taskId)]? = some task ∧
        d ∈ retainedDependencies taskLookup agentId task := by
  unfold agentGraph
  dsimp only
  split
  · next task ht => simp [ht]
  · next ht => simp [ht]

def insertTaskNode (byAgent : BTreeMap String DependencyGraph) (entry : TaskKey × TaskState) :
    BTreeMap String DependencyGraph :=
  byAgent.alter entry.1.1 fun graph =>
    some ((graph.getD ∅).insert entry.1.2 (retainedDependencies taskLookup entry.1.1 entry.2))

variable {taskLookup}

theorem insertTaskNodes_spec (taskLookup : TaskLookup) (entries : List (TaskKey × TaskState))
    (hentries : (entries.map Prod.fst).Nodup) (agentId : String) :
    match (entries.foldl (insertTaskNode taskLookup) ∅)[agentId]? with
    | some graph => (∃ entry ∈ entries, entry.1.1 = agentId) ∧ ∀ (taskId : String) deps,
      graph[taskId]? = some deps ↔ ∃ task, ((agentId, taskId), task) ∈ entries ∧
        retainedDependencies taskLookup agentId task = deps
    | none => ∀ entry ∈ entries, entry.1.1 ≠ agentId := by
  induction entries using List.reverseRecOn with
  | nil => simp
  | append_singleton entries entry ih =>
    obtain ⟨⟨entryAgent, entryTask⟩, task⟩ := entry
    rw [List.map_append, List.nodup_append] at hentries
    obtain ⟨hnodup, -, hdisjoint⟩ := hentries
    have hfresh : ∀ t, ((entryAgent, entryTask), t) ∉ entries := fun t hm =>
      hdisjoint _ (List.mem_map_of_mem hm) _ (by simp) rfl
    specialize ih hnodup
    rw [List.foldl_append, List.foldl_cons, List.foldl_nil, insertTaskNode,
      BTreeMap.getElem?_alter_eq]
    by_cases hagent : entryAgent = agentId
    · subst hagent
      rw [if_pos rfl]
      refine ⟨⟨_, List.mem_append_right _ (List.mem_singleton_self _), rfl⟩, fun taskId deps => ?_⟩
      rw [BTreeMap.getElem?_insert_eq]
      by_cases htask : entryTask = taskId
      · subst htask
        simp [hfresh, eq_comm]
      · rw [if_neg htask]
        cases hgraph : (entries.foldl (insertTaskNode taskLookup) ∅)[entryAgent]? with
        | some graph =>
          rw [hgraph] at ih
          simp [ih.2, Ne.symm htask]
        | none =>
          rw [hgraph] at ih
          have hnone : ∀ t, ((entryAgent, taskId), t) ∉ entries := fun t hm => ih _ hm rfl
          simp [hnone, Ne.symm htask]
    · rw [if_neg hagent]
      cases hgraph : (entries.foldl (insertTaskNode taskLookup) ∅)[agentId]? with
      | some graph =>
        rw [hgraph] at ih
        obtain ⟨⟨other, hm, ho⟩, ih⟩ := ih
        refine ⟨⟨other, List.mem_append_left _ hm, ho⟩, fun taskId deps => ?_⟩
        simp [ih, Ne.symm hagent]
      | none =>
        rw [hgraph] at ih
        intro other hm
        rcases List.mem_append.mp hm with hm | hm
        · exact ih other hm
        · exact List.mem_singleton.mp hm ▸ hagent

theorem graphsByAgent_spec (taskLookup : TaskLookup) (agentId : String) :
    match (graphsByAgent taskLookup)[agentId]? with
    | some graph => (∃ taskId, (agentId, taskId) ∈ taskLookup) ∧ ∀ (taskId : String) deps,
      graph[taskId]? = some deps ↔ ∃ task, taskLookup[(agentId, taskId)]? = some task ∧
        retainedDependencies taskLookup agentId task = deps
    | none => ∀ taskId, (agentId, taskId) ∉ taskLookup := by
  have hspec := insertTaskNodes_spec taskLookup taskLookup.toList
    (by rw [Std.TreeMap.map_fst_toList_eq_keys]; exact Std.TreeMap.nodup_keys) agentId
  have hmem : ∀ key, key ∈ taskLookup ↔ ∃ task, (key, task) ∈ taskLookup.toList := by
    intro key
    simp only [Std.TreeMap.mem_toList_iff_getElem?_eq_some,
      Std.TreeMap.mem_iff_isSome_getElem?, Option.isSome_iff_exists]
  change match (taskLookup.toList.foldl (insertTaskNode taskLookup) ∅)[agentId]? with
    | some graph => _
    | none => _
  split at hspec
  · next graph _ =>
    obtain ⟨⟨⟨⟨_, taskId⟩, task⟩, hm, rfl⟩, hdeps⟩ := hspec
    refine ⟨⟨taskId, (hmem _).mpr ⟨task, hm⟩⟩, fun t deps => ?_⟩
    rw [hdeps]
    simp only [Std.TreeMap.mem_toList_iff_getElem?_eq_some]
  · intro taskId hk
    obtain ⟨task, hm⟩ := (hmem _).mp hk
    exact hspec _ hm rfl

section Graph

variable {agentId : String} {graph : DependencyGraph}

theorem getElem?_graph (hgraph : (graphsByAgent taskLookup)[agentId]? = some graph)
    {taskId : String} {deps : List String} :
    graph[taskId]? = some deps ↔ ∃ task, taskLookup[(agentId, taskId)]? = some task ∧
      retainedDependencies taskLookup agentId task = deps := by
  have hspec := graphsByAgent_spec taskLookup agentId
  rw [hgraph] at hspec
  exact hspec.2 taskId deps

theorem mem_graph (hgraph : (graphsByAgent taskLookup)[agentId]? = some graph) {taskId : String} :
    taskId ∈ graph ↔ (agentId, taskId) ∈ taskLookup := by
  simp only [Std.TreeMap.mem_iff_isSome_getElem?, Option.isSome_iff_exists,
    getElem?_graph hgraph]
  exact ⟨fun ⟨_, task, ht, _⟩ => ⟨task, ht⟩, fun ⟨task, ht⟩ => ⟨_, task, ht, rfl⟩⟩

theorem ordered_graph (hgraph : (graphsByAgent taskLookup)[agentId]? = some graph) :
    graph.ordered = agentGraph taskLookup agentId := by
  have hnext : graph.ordered.next = (agentGraph taskLookup agentId).next := by
    funext taskId
    simp only [DependencyGraph.ordered, agentGraph, Std.TreeMap.getD_eq_getD_getElem?]
    cases hg : graph[taskId]? with
    | some deps =>
      obtain ⟨task, ht, rfl⟩ := (getElem?_graph hgraph).mp hg
      simp only [ht, Option.getD_some]
    | none =>
      cases ht : taskLookup[(agentId, taskId)]? with
      | some task =>
        rw [(getElem?_graph hgraph).mpr ⟨task, ht, rfl⟩] at hg
        cases hg
      | none => rfl
  have hroots : graph.ordered.roots = (agentGraph taskLookup agentId).roots := by
    refine BTreeMap.keys_eq_of_mem_iff ?_ fun taskId => ?_
    · refine List.Pairwise.filterMap _ (fun a b hab x hx y hy => ?_)
        (Std.TreeMap.ordered_keys (t := taskLookup))
      simp only [Option.ite_none_right_eq_some, Option.some.injEq] at hx hy
      obtain ⟨⟨ha, rfl⟩, hb, rfl⟩ := And.intro hx hy
      rw [BTreeMap.compare_pair, ha, hb, Std.ReflOrd.compare_self] at hab
      exact hab
    · rw [mem_graph hgraph]
      simp [agentGraph]
  unfold DependencyGraph.ordered agentGraph at *
  simp_all

theorem next_mem_graph (hgraph : (graphsByAgent taskLookup)[agentId]? = some graph) (x : String) :
    ∀ d ∈ graph.ordered.next x, d ∈ graph := by
  intro d hd
  rw [ordered_graph hgraph] at hd
  obtain ⟨task, -, hd⟩ := mem_next_iff.mp hd
  rw [mem_graph hgraph]
  exact Std.TreeMap.contains_iff_mem.mp (List.mem_filter.mp hd).2

end Graph

variable (taskLookup) in
structure SearchedAgents (agents : List String) (members : BTreeSet TaskKey) : Prop where
  marked : ∀ agentId t, (agentId, t) ∈ members ↔
    agentId ∈ agents ∧ (agentGraph taskLookup agentId).Covered t
  acyclic : ∀ agentId ∈ agents, ∀ x, (agentId, x) ∈ taskLookup →
    Acc (fun y x => (agentGraph taskLookup agentId).Edge x y ∧ (agentId, x) ∉ members) x

theorem SearchedAgents.step {agents : List String} {members : BTreeSet TaskKey}
    (h : SearchedAgents taskLookup agents members) {agentId : String} {graph : DependencyGraph}
    (hgraph : (graphsByAgent taskLookup)[agentId]? = some graph) (hnew : agentId ∉ agents) :
    ∃ after, visitAgent agentId graph members = some after ∧
      SearchedAgents taskLookup (agents ++ [agentId]) after := by
  obtain ⟨after, hafter, hs⟩ := visitAgent_spec agentId members (next_mem_graph hgraph)
    fun t ht => hnew ((h.marked agentId t).mp ht).1
  have hordered := ordered_graph hgraph
  refine ⟨after, hafter, fun other t => ?_, fun other ho x hx => ?_⟩
  · by_cases hother : other = agentId
    · subst hother
      simp [hs.marked, hordered]
    · rw [hs.others _ hother, h.marked]
      simp [hother]
  · by_cases hother : other = agentId
    · subst hother
      exact hordered ▸ hs.acyclic x ((mem_graph hgraph).mpr hx)
    · have ho' : other ∈ agents := by simpa [hother] using ho
      exact Subrelation.accessible
        (fun hd => ⟨hd.1, fun ht => hd.2 ((hs.others _ hother).mpr ht)⟩) (h.acyclic other ho' x hx)

theorem mem_agents_of_mem {agentId taskId : String} (h : (agentId, taskId) ∈ taskLookup) :
    agentId ∈ (graphsByAgent taskLookup).keys := by
  have hspec := graphsByAgent_spec taskLookup agentId
  rw [Std.TreeMap.mem_keys, Std.TreeMap.mem_iff_isSome_getElem?]
  split at hspec
  · next hg =>
    rw [hg]
    rfl
  · exact absurd h (hspec taskId)

theorem mem_of_covered {agentId t : String} (h : (agentGraph taskLookup agentId).Covered t) :
    ∃ u, (agentId, u) ∈ taskLookup := by
  obtain ⟨u, path, w, -, hw, -⟩ := h
  obtain ⟨task, ht, -⟩ := mem_next_iff.mp hw
  refine ⟨u, ?_⟩
  rw [Std.TreeMap.mem_iff_isSome_getElem?, ht]
  rfl

/-- The whole search returns.  It marks the covered tasks of every agent, and no chain of
dependencies goes on for ever without a marked task. -/
theorem searchCycles_spec (taskLookup : TaskLookup) :
    ∃ members, searchCycles taskLookup = some members ∧
      (∀ agentId t, (agentId, t) ∈ members ↔ (agentGraph taskLookup agentId).Covered t) ∧
      ∀ agentId x, (agentId, x) ∈ taskLookup →
        Acc (fun y x => (agentGraph taskLookup agentId).Edge x y ∧ (agentId, x) ∉ members) x := by
  have hdistinct : ((graphsByAgent taskLookup).toList.map Prod.fst).Nodup := by
    rw [Std.TreeMap.map_fst_toList_eq_keys]
    exact Std.TreeMap.nodup_keys
  obtain ⟨members, hmembers, hsearched⟩ : ∃ members, searchCycles taskLookup = some members ∧
      SearchedAgents taskLookup ((graphsByAgent taskLookup).toList.map Prod.fst) members := by
    refine foldlM_invariant
      (P := fun pre members => SearchedAgents taskLookup (pre.map Prod.fst) members) ?_ ?_
    · exact ⟨by simp, by simp⟩
    · rintro pre ⟨agentId, graph⟩ post members hl h
      rw [List.map_append]
      refine h.step ?_ ?_
      · rw [← Std.TreeMap.mem_toList_iff_getElem?_eq_some, hl]
        simp
      · rw [hl, List.map_append, List.nodup_append] at hdistinct
        exact fun hm => hdistinct.2.2 _ hm _ (by simp) rfl
  rw [Std.TreeMap.map_fst_toList_eq_keys] at hsearched
  refine ⟨members, hmembers, fun agentId t => ?_, fun agentId x hx =>
    hsearched.acyclic agentId (mem_agents_of_mem hx) x hx⟩
  rw [hsearched.marked]
  refine and_iff_right_of_imp fun hc => ?_
  obtain ⟨u, hu⟩ := mem_of_covered hc
  exact mem_agents_of_mem hu

end Lookup

def dependencyCycleMembers (taskLookup : TaskLookup) : BTreeSet TaskKey :=
  (searchCycles taskLookup).get (by
    obtain ⟨members, hmembers, -⟩ := searchCycles_spec taskLookup
    rw [hmembers]
    rfl)

theorem mem_dependencyCycleMembers {taskLookup : TaskLookup} {agentId t : String} :
    (agentId, t) ∈ dependencyCycleMembers taskLookup ↔
      (agentGraph taskLookup agentId).Covered t := by
  obtain ⟨members, hmembers, hmarked, -⟩ := searchCycles_spec taskLookup
  have : dependencyCycleMembers taskLookup = members := by simp [dependencyCycleMembers, hmembers]
  rw [this, hmarked]

theorem acc_unreported {taskLookup : TaskLookup} {agentId x : String}
    (hx : (agentId, x) ∈ taskLookup) :
    Acc (fun y x => (agentGraph taskLookup agentId).Edge x y ∧
      (agentId, x) ∉ dependencyCycleMembers taskLookup) x := by
  obtain ⟨members, hmembers, -, hacyclic⟩ := searchCycles_spec taskLookup
  have : dependencyCycleMembers taskLookup = members := by simp [dependencyCycleMembers, hmembers]
  rw [this]
  exact hacyclic agentId x hx

theorem acc_of_no_members {taskLookup : TaskLookup} {agentId : String}
    (h : ∀ t, (agentId, t) ∉ dependencyCycleMembers taskLookup) {x : String}
    (hx : (agentId, x) ∈ taskLookup) :
    Acc (fun y x => (agentGraph taskLookup agentId).Edge x y) x :=
  Subrelation.accessible (fun {_} {x} hedge => ⟨hedge, h x⟩) (acc_unreported hx)

def DependsOn (tasks : List TaskState) (key dependency : TaskKey) : Prop :=
  ∃ task ∈ tasks, taskKey task = key ∧ dependency.1 = key.1 ∧
    dependency.2 ∈ task.task.dependsOn ∧ dependency ∈ tasks.map taskKey

instance (tasks : List TaskState) (key dependency : TaskKey) :
    Decidable (DependsOn tasks key dependency) :=
  inferInstanceAs (Decidable (∃ task ∈ tasks, _ ∧ _ ∧ _ ∧ _))

section Tasks

variable {tasks : List TaskState}

theorem getElem?_lookupTasks (hunique : (tasks.map taskKey).Nodup) {key : TaskKey}
    {task : TaskState} :
    (lookupTasks tasks)[key]? = some task ↔ task ∈ tasks ∧ taskKey task = key := by
  rw [lookupTasks, BTreeMap.getElem?_ofList_eq_some_iff]
  · simp [and_comm]
  · rw [List.map_map]
    exact hunique

theorem mem_lookupTasks {key : TaskKey} : key ∈ lookupTasks tasks ↔ key ∈ tasks.map taskKey := by
  rw [lookupTasks, BTreeMap.mem_ofList_iff, List.map_map]
  rfl

theorem dependsOn_iff_edge (hunique : (tasks.map taskKey).Nodup) {key dependency : TaskKey} :
    DependsOn tasks key dependency ↔
      dependency.1 = key.1 ∧ (agentGraph (lookupTasks tasks) key.1).Edge key.2 dependency.2 := by
  obtain ⟨agentId, taskId⟩ := key
  obtain ⟨other, dependencyId⟩ := dependency
  rw [DependsOn, OrderedGraph.Edge, mem_next_iff]
  constructor
  · rintro ⟨task, ht, hkey, rfl, hdep, hmem⟩
    exact ⟨rfl, task, (getElem?_lookupTasks hunique).mpr ⟨ht, hkey⟩, List.mem_filter.mpr
      ⟨hdep, Std.TreeMap.contains_iff_mem.mpr (mem_lookupTasks.mpr hmem)⟩⟩
  · rintro ⟨rfl, task, ht, hedge⟩
    obtain ⟨htask, hkey⟩ := (getElem?_lookupTasks hunique).mp ht
    obtain ⟨hdep, hmem⟩ := List.mem_filter.mp hedge
    exact ⟨task, htask, hkey, rfl, hdep,
      mem_lookupTasks.mp (Std.TreeMap.contains_iff_mem.mp hmem)⟩

theorem transGen_dependsOn_iff (hunique : (tasks.map taskKey).Nodup) {key dependency : TaskKey} :
    TransGen (DependsOn tasks) key dependency ↔ dependency.1 = key.1 ∧
      TransGen (agentGraph (lookupTasks tasks) key.1).Edge key.2 dependency.2 := by
  constructor
  · intro h
    induction h with
    | single h =>
      obtain ⟨hagent, hedge⟩ := (dependsOn_iff_edge hunique).mp h
      exact ⟨hagent, .single hedge⟩
    | tail _ h ih =>
      obtain ⟨hagent, hedge⟩ := (dependsOn_iff_edge hunique).mp h
      rw [ih.1] at hagent hedge
      exact ⟨hagent, ih.2.tail hedge⟩
  · obtain ⟨agentId, taskId⟩ := key
    obtain ⟨other, dependencyId⟩ := dependency
    rintro ⟨rfl, h⟩
    exact TransGen.lift (fun t => (other, t))
      (fun _ _ hedge => (dependsOn_iff_edge hunique).mpr ⟨rfl, hedge⟩) _ _ h

/-- The search reports exactly the tasks on a cycle where, and only where, every such task is
covered: on the first path to some task, at or after one of that task's own dependencies. -/
theorem cycle_members_exact_iff (tasks : List TaskState) (hunique : (tasks.map taskKey).Nodup) :
    ∃ members, searchCycles (lookupTasks tasks) = some members ∧
      ((∀ key, key ∈ members ↔ TransGen (DependsOn tasks) key key) ↔
        ∀ key, TransGen (DependsOn tasks) key key →
          (agentGraph (lookupTasks tasks) key.1).Covered key.2) := by
  obtain ⟨members, hmembers, hmarked, -⟩ := searchCycles_spec (lookupTasks tasks)
  refine ⟨members, hmembers, fun h key hkey => ?_, fun h key => ⟨fun hkey => ?_, fun hkey => ?_⟩⟩
  · exact (hmarked _ _).mp ((h key).mpr hkey)
  · have hcovered := (hmarked key.1 key.2).mp hkey
    exact (transGen_dependsOn_iff hunique).mpr ⟨rfl, hcovered.onCycle⟩
  · exact (hmarked key.1 key.2).mpr (h key hkey)

end Tasks

end ControlPlane.Metacognition

namespace ControlPlane.Sample

def task (taskId : String) (dependsOn : List String) : TaskState :=
  .fromSpec ⟨taskId, "title", none, dependsOn, [], none⟩ "worker" ⟨0, 0⟩ false

end ControlPlane.Sample

namespace ControlPlane.Metacognition

open Relation (TransGen)

/-- Two tasks that depend on each other are both covered. -/
theorem cycle_members_exact_pair :
    ∃ members, searchCycles (lookupTasks [Sample.task "a" ["b"], Sample.task "b" ["a"]]) =
        some members ∧
      ((∀ key, key ∈ members ↔
          TransGen (DependsOn [Sample.task "a" ["b"], Sample.task "b" ["a"]]) key key) ↔
        ∀ key, TransGen (DependsOn [Sample.task "a" ["b"], Sample.task "b" ["a"]]) key key →
          (agentGraph (lookupTasks [Sample.task "a" ["b"], Sample.task "b" ["a"]])
            key.1).Covered key.2) :=
  cycle_members_exact_iff _ (by decide)

/-- Task `c` is on the cycle `c → b → a → c`, but `b` is done when the search reaches `c`. -/
theorem cycle_members_incomplete :
    (searchCycles (lookupTasks [Sample.task "a" ["b", "c"], Sample.task "b" ["a"],
        Sample.task "c" ["b"]])).map (fun members => members.contains ("worker", "c")) =
      some false ∧
    TransGen (DependsOn [Sample.task "a" ["b", "c"], Sample.task "b" ["a"],
      Sample.task "c" ["b"]]) ("worker", "c") ("worker", "c") := by
  refine ⟨by decide, ?_⟩
  have hcb : DependsOn [Sample.task "a" ["b", "c"], Sample.task "b" ["a"],
      Sample.task "c" ["b"]] ("worker", "c") ("worker", "b") := by decide
  have hba : DependsOn [Sample.task "a" ["b", "c"], Sample.task "b" ["a"],
      Sample.task "c" ["b"]] ("worker", "b") ("worker", "a") := by decide
  have hac : DependsOn [Sample.task "a" ["b", "c"], Sample.task "b" ["a"],
      Sample.task "c" ["b"]] ("worker", "a") ("worker", "c") := by decide
  exact ((TransGen.single hcb).tail hba).tail hac

end ControlPlane.Metacognition
