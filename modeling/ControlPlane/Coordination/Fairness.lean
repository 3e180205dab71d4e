import ControlPlane.Coordination.Conservation
import ControlPlane.Lib.MaxMin

/-! The selection of assignments is max-min fair: in rounds over the agents, the agent of the
candidate with the highest priority first. -/

namespace ControlPlane.Coordination

open FairShare (itemsOf demand)

section Selection

variable (candidates : List Assignment)

def candidatesOf (agentId : String) : List Assignment :=
  itemsOf Assignment.agentId candidates agentId

def bestPriority (agentId : String) : Nat :=
  ((candidatesOf candidates agentId).map Assignment.priority).foldr max 0

def eligible (maximumPerAgent : Nat) (agentId : String) : Nat :=
  min (candidatesOf candidates agentId).length maximumPerAgent

def Precedes (left right : String) : Prop :=
  bestPriority candidates right < bestPriority candidates left ∨
    bestPriority candidates left = bestPriority candidates right ∧ compare left right = .lt

structure MaxMinFair (maximum maximumPerAgent : Nat) (selected suppressed : List Assignment) :
    Prop where
  permutation : (selected ++ suppressed).Perm candidates
  prefixes : ∀ agentId, candidatesOf selected agentId <+: candidatesOf candidates agentId
  conserving : selected.length = min maximum
    (∑ agentId ∈ (candidates.map Assignment.agentId).toFinset,
      eligible candidates maximumPerAgent agentId)
  rounds : ∃ (complete : Nat) (early late : List String),
    (early ++ late).Pairwise (Precedes candidates) ∧
    (∀ agentId, agentId ∈ early ++ late ↔ agentId ∈ candidates.map Assignment.agentId) ∧
    (∀ agentId ∈ early, (candidatesOf selected agentId).length =
      min (eligible candidates maximumPerAgent agentId) (complete + 1)) ∧
    ∀ agentId ∈ late, (candidatesOf selected agentId).length =
      min (eligible candidates maximumPerAgent agentId) complete

def frontPriority (agentId : String) : Nat :=
  ((((FairShare.group Assignment.agentId candidates).getD agentId []).head?).map
    fun value => value.priority).getD 0

def agentOrder : List String :=
  sortBy (fun left right => (compare (frontPriority candidates right)
    (frontPriority candidates left)).then (compare left right))
    (FairShare.group Assignment.agentId candidates).keys

def selectionRounds (maximum maximumPerAgent fuel : Nat) :
    Option (FairShare String Assignment) :=
  FairShare.rounds maximum maximumPerAgent (agentOrder candidates) fuel
    (FairShare.start (FairShare.group Assignment.agentId candidates))

theorem mem_agentOrder {agentId : String} :
    agentId ∈ agentOrder candidates ↔ agentId ∈ candidates.map Assignment.agentId := by
  rw [agentOrder, mem_sortBy, Std.TreeMap.mem_keys, FairShare.mem_group]

theorem nodup_agentOrder : (agentOrder candidates).Nodup :=
  (sortBy_perm _ _).nodup_iff.2 Std.TreeMap.nodup_keys

theorem selectAssignments_maxMin (maximum maximumPerAgent : Nat) :
    FairShare.MaxMin Assignment.agentId candidates maximum maximumPerAgent
      (agentOrder candidates) (FairShare.fill maximum maximumPerAgent (agentOrder candidates)
        (FairShare.start (FairShare.group Assignment.agentId candidates))) :=
  FairShare.maxMin_fill (nodup_agentOrder candidates)
    fun _ hmem => (mem_agentOrder candidates).2 (List.mem_map_of_mem hmem)

theorem selectAssignments_of_room {maximum maximumPerAgent : Nat}
    (hmaximum : candidates.length ≤ maximum) (hagent : candidates.length ≤ maximumPerAgent) :
    (selectAssignments candidates maximum maximumPerAgent).1.Perm candidates := by
  have hlength : (selectAssignments candidates maximum maximumPerAgent).1.length =
      candidates.length := by
    have hdemand : ∀ agentId, demand Assignment.agentId candidates maximumPerAgent agentId =
        (candidatesOf candidates agentId).length :=
      fun agentId => min_eq_left ((List.length_filter_le _ _).trans hagent)
    have hall : candidates.length = ∑ agentId ∈ (agentOrder candidates).toFinset,
        (candidatesOf candidates agentId).length :=
      FairShare.length_eq_sum_itemsOf fun candidate hmem =>
        List.mem_toFinset.2 ((mem_agentOrder candidates).2 (List.mem_map_of_mem hmem))
    refine (selectAssignments_maxMin candidates maximum maximumPerAgent).length.trans ?_
    rw [Finset.sum_congr rfl fun agentId _ => hdemand agentId]
    exact (congrArg (min maximum) hall.symm).trans (min_eq_right hmaximum)
  have hperm := (selectAssignments_sound candidates maximum maximumPerAgent).1
  have hrest : (selectAssignments candidates maximum maximumPerAgent).2 = [] := by
    have htotal := hperm.length_eq
    rw [List.length_append, hlength] at htotal
    exact List.length_eq_zero_iff.1 (by omega)
  rwa [hrest, List.append_nil] at hperm

variable {candidates}

theorem frontPriority_eq
    (hsorted : candidates.Pairwise fun left right => (assignmentOrder left right).isLE)
    (agentId : String) : frontPriority candidates agentId = bestPriority candidates agentId := by
  have hordered : (candidatesOf candidates agentId).Pairwise
      fun left right => right.priority ≤ left.priority :=
    (hsorted.filter _).imp fun hle => Nat.isLE_compare.1 (Ordering.isLE_left_of_isLE_then hle)
  rw [frontPriority, bestPriority, FairShare.getD_group, ← candidatesOf]
  cases hcandidates : candidatesOf candidates agentId with
  | nil => rfl
  | cons first rest =>
    rw [hcandidates, List.pairwise_cons] at hordered
    have hrest : (rest.map Assignment.priority).foldr max 0 ≤ first.priority :=
      List.max_le_of_forall_le _ _ (by simpa using hordered.1)
    simpa using hrest

theorem pairwise_agentOrder
    (hsorted : candidates.Pairwise fun left right => (assignmentOrder left right).isLE) :
    (agentOrder candidates).Pairwise (Precedes candidates) := by
  have htrans : Std.TransCmp fun left right =>
      (compare (frontPriority candidates right) (frontPriority candidates left)).then
        (compare left right) :=
    have := transCmp_descending (frontPriority candidates)
    inferInstanceAs (Std.TransCmp (compareLex
      (fun left right => compare (frontPriority candidates right) (frontPriority candidates left))
      compare))
  refine ((sortBy_ordered _ _).and (nodup_agentOrder candidates)).imp fun {left right} h => ?_
  obtain ⟨hle, hne⟩ := h
  rw [Ordering.isLE_then_iff_or, frontPriority_eq hsorted, frontPriority_eq hsorted,
    Nat.compare_eq_lt, Nat.compare_eq_eq] at hle
  refine hle.imp id fun heq => ⟨heq.1.symm, ?_⟩
  cases hcompare : compare left right with
  | lt => rfl
  | eq => exact absurd (Std.LawfulEqOrd.eq_of_compare hcompare) hne
  | gt => rw [hcompare] at heq; cases heq.2

end Selection

/-- Round after round, every agent gets the next of its candidates until its share is used up or
the selection is full. -/
theorem select_assignments_max_min_fair (candidates : List Assignment)
    (hsorted : candidates.Pairwise fun left right => (assignmentOrder left right).isLE)
    (maximum maximumPerAgent : Nat) :
    (∃ fuel share, selectionRounds candidates maximum maximumPerAgent fuel = some share ∧
        share.selected = (selectAssignments candidates maximum maximumPerAgent).1) ∧
      MaxMinFair candidates maximum maximumPerAgent
        (selectAssignments candidates maximum maximumPerAgent).1
        (selectAssignments candidates maximum maximumPerAgent).2 := by
  have hfair := selectAssignments_maxMin candidates maximum maximumPerAgent
  have howners : (agentOrder candidates).toFinset =
      (candidates.map Assignment.agentId).toFinset := by
    ext agentId
    rw [List.mem_toFinset, List.mem_toFinset, mem_agentOrder]
  obtain ⟨complete, early, late, horder, hlevel⟩ := hfair.level
  refine ⟨⟨_, _, (Option.some_get _).symm, rfl⟩,
    (selectAssignments_sound candidates maximum maximumPerAgent).1, hfair.prefixes,
    howners ▸ hfair.length, complete, early, late, horder ▸ pairwise_agentOrder hsorted,
    fun agentId => horder ▸ mem_agentOrder candidates, fun agentId hmem => ?_,
    fun agentId hmem => ?_⟩
  · exact (hfair.counted agentId).trans (hlevel.ahead agentId hmem)
  · exact (hfair.counted agentId).trans (hlevel.behind agentId hmem)

namespace Sample

def candidate (agentId taskId : String) (priority : Nat) : Assignment where
  assignmentId := "start_task:" ++ agentId ++ ":" ++ taskId
  agentId := agentId
  taskId := taskId
  goalId := none
  action := .startTask
  priority := priority
  rationale := "The task is pending and all retained dependencies are complete."
  recommendedAction := "Start the task and publish an observable plan summary."
  onCriticalPath := false
  diagnosticIds := []
  sourceEventIds := []
  sourceEventsRetained := true

def shared : List Assignment :=
  [candidate "b" "x" 90, candidate "a" "x" 80, candidate "b" "y" 80, candidate "b" "z" 70]

end Sample

theorem select_assignments_max_min_fair_shared :
    MaxMinFair Sample.shared 3 2 (selectAssignments Sample.shared 3 2).1
      (selectAssignments Sample.shared 3 2).2 :=
  (select_assignments_max_min_fair Sample.shared (by decide) 3 2).2

end ControlPlane.Coordination
