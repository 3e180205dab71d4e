import ControlPlane.Lib.Digraph
import ControlPlane.Lib.Traversal
import ControlPlane.Metacognition.Graph

/-! The cycle search of one graph returns, and marks exactly its covered vertices. -/

namespace ControlPlane.Metacognition

open OrderedGraph (upTo)
open Traversal (foldlM_invariant unseen unseen_le unseen_lt unseen_empty)

def DependencyGraph.ordered (graph : DependencyGraph) : OrderedGraph String where
  roots := graph.keys
  next taskId := graph.getD taskId []

theorem mem_markCycle {agentId : String} {segment : List String} {members : BTreeSet TaskKey}
    {key : TaskKey} :
    key ∈ markCycle agentId segment members ↔
      key ∈ members ∨ key.1 = agentId ∧ key.2 ∈ segment := by
  unfold markCycle
  induction segment generalizing members with
  | nil => simp
  | cons t segment ih =>
    rw [List.foldl_cons, ih, Std.TreeSet.mem_insert, Std.LawfulEqCmp.compare_eq_iff_eq,
      List.mem_cons, Prod.ext_iff]
    constructor
    · rintro ((⟨rfl, rfl⟩ | h) | ⟨h, ht⟩)
      · exact .inr ⟨rfl, .inl rfl⟩
      · exact .inl h
      · exact .inr ⟨h, .inr ht⟩
    · rintro (h | ⟨h, rfl | ht⟩)
      · exact .inl (.inr h)
      · exact .inl (.inl ⟨h.symm, rfl⟩)
      · exact .inr ⟨h, ht⟩

theorem upTo_split {w : String} {ahead : List String} (h : w ∉ ahead) (behind : List String) :
    upTo w (ahead ++ w :: behind) = ahead ++ [w] := by
  induction ahead with
  | nil => simp [upTo]
  | cons x ahead ih =>
    rw [List.mem_cons, not_or] at h
    rw [List.cons_append, upTo, if_neg (Ne.symm h.1), ih h.2, List.cons_append]

theorem mem_drop_findIdx {path : List String} (hpath : path.Nodup) {w : String} (hw : w ∈ path) :
    ∃ position, path.reverse.findIdx? (· == w) = some position ∧
      ∀ t, t ∈ path.reverse.drop position ↔ t ∈ upTo w path := by
  obtain ⟨ahead, behind, rfl, hahead⟩ := List.eq_append_cons_of_mem hw
  have hbehind : w ∉ behind.reverse := by
    rw [List.nodup_append] at hpath
    simpa using (List.nodup_cons.mp hpath.2.1).1
  refine ⟨behind.reverse.length, ?_, fun t => ?_⟩
  · rw [List.reverse_append, List.reverse_cons, List.append_assoc, List.findIdx?_append,
      List.findIdx?_eq_none_iff.mpr]
    · simp [List.findIdx?_cons]
    · intro x hx
      rw [beq_eq_false_iff_ne]
      rintro rfl
      exact hbehind hx
  · rw [List.reverse_append, List.reverse_cons, List.append_assoc, List.drop_left, upTo_split hahead]
    simp [or_comm]

def CycleSearch.Done (search : CycleSearch) (taskId : String) : Prop :=
  search.states[taskId]? = some .done

section Search

variable (graph : DependencyGraph) (agentId : String)

/-- The invariant of the search while `path` is on its stack. -/
structure Searching (path : List String) (search : CycleSearch) : Prop where
  stack : search.stack = path.reverse
  visiting : ∀ x, search.states[x]? = some .visiting ↔ x ∈ path
  closed : ∀ x, search.Done x → ∀ d ∈ graph.ordered.next x, search.Done d ∨ d ∈ path
  tracks : graph.ordered.Tracks search.Done path
  sound : ∀ t, (agentId, t) ∈ search.members → graph.ordered.Covered t
  complete : ∀ u, search.Done u → ∃ behind, graph.ordered.Leads u (u :: behind) ∧
    ∀ w ∈ graph.ordered.next u, w ∈ u :: behind →
      ∀ t ∈ upTo w (u :: behind), (agentId, t) ∈ search.members
  acyclic : ∀ x, search.Done x →
    Acc (fun y x => graph.ordered.Edge x y ∧ (agentId, x) ∉ search.members) x

structure Extends (before after : CycleSearch) : Prop where
  done : ∀ x, before.Done x → after.Done x
  known : ∀ x, x ∈ before.states → x ∈ after.states
  members : ∀ key, key ∈ before.members → key ∈ after.members
  others : ∀ key, key.1 ≠ agentId → (key ∈ after.members ↔ key ∈ before.members)

structure Settled (path : List String) (search : CycleSearch) (c : String) : Prop where
  reached : search.Done c ∨ c ∈ path
  marked : c ∈ path → ∀ t ∈ upTo c path, (agentId, t) ∈ search.members

variable {graph agentId} {path : List String} {search : CycleSearch}

theorem Extends.refl (search : CycleSearch) : Extends agentId search search :=
  ⟨fun _ h => h, fun _ h => h, fun _ h => h, fun _ _ => .rfl⟩

theorem Extends.trans {a b c : CycleSearch} (h : Extends agentId a b) (h' : Extends agentId b c) :
    Extends agentId a c where
  done x hx := h'.done x (h.done x hx)
  known x hx := h'.known x (h.known x hx)
  members key hk := h'.members key (h.members key hk)
  others key hk := (h'.others key hk).trans (h.others key hk)

theorem Settled.mono {after : CycleSearch} {c : String} (h : Settled agentId path search c)
    (he : Extends agentId search after) : Settled agentId path after c where
  reached := h.reached.imp_left (he.done c)
  marked hc t ht := he.members _ (h.marked hc t ht)

theorem Searching.explored (h : Searching graph agentId path search) {c y : String}
    (hc : Settled agentId path search c) (hr : graph.ordered.Reaches path c y) :
    search.Done y :=
  hr.closed h.closed (hc.reached.resolve_right hr.1)

def CycleSearch.enter (search : CycleSearch) (taskId : String) : CycleSearch :=
  { search with
    states := search.states.insert taskId .visiting
    stack := search.stack ++ [taskId] }

def CycleSearch.leave (search : CycleSearch) (taskId : String) : CycleSearch :=
  { search with
    stack := search.stack.dropLast
    states := search.states.insert taskId .done }

theorem CycleSearch.done_enter {x : String} (hx : search.states[x]? = none) (y : String) :
    (search.enter x).Done y ↔ search.Done y := by
  unfold CycleSearch.Done CycleSearch.enter
  rw [BTreeMap.getElem?_insert_eq]
  by_cases hxy : x = y
  · simp [← hxy, hx]
  · rw [if_neg hxy]

theorem CycleSearch.done_leave (search : CycleSearch) (x y : String) :
    (search.leave x).Done y ↔ y = x ∨ search.Done y := by
  unfold CycleSearch.Done CycleSearch.leave
  rw [BTreeMap.getElem?_insert_eq]
  by_cases hxy : x = y
  · simp [hxy]
  · simp [hxy, Ne.symm hxy]

variable {x : String} {skipped rest : List String}

theorem Searching.enter (h : Searching graph agentId path search)
    (hx : search.states[x]? = none) (hc : graph.ordered.choices path = skipped ++ x :: rest)
    (hs : ∀ c ∈ skipped, Settled agentId path search c) :
    Searching graph agentId (x :: path) (search.enter x) := by
  have hnot : x ∉ path := fun hm => by
    rw [← h.visiting, hx] at hm
    cases hm
  have hdone := CycleSearch.done_enter hx
  refine ⟨?_, fun y => ?_, fun y hy d hd => ?_, ?_, h.sound, fun u hu => ?_, fun y hy => ?_⟩
  · rw [CycleSearch.enter, h.stack, List.reverse_cons]
  · unfold CycleSearch.enter
    rw [BTreeMap.getElem?_insert_eq, List.mem_cons, ← h.visiting]
    by_cases hxy : x = y
    · simp [hxy]
    · simp [hxy, Ne.symm hxy]
  · rw [hdone] at hy ⊢
    exact (h.closed y hy d hd).imp_right (List.mem_cons_of_mem x)
  · refine .cons hc (fun c hm y hr => (hdone y).mpr (h.explored (hs c hm) hr)) hnot ?_
    exact h.tracks.mono fun y hy => (hdone y).mpr hy
  · exact h.complete u ((hdone u).mp hu)
  · exact h.acyclic y ((hdone y).mp hy)

theorem Extends.enter (agentId : String) (hx : search.states[x]? = none) :
    Extends agentId search (search.enter x) where
  done y hy := (CycleSearch.done_enter hx y).mpr hy
  known _ hy := Std.TreeMap.mem_insert.mpr (.inr hy)
  members _ hk := hk
  others _ _ := .rfl

theorem Extends.leave (x : String) : Extends agentId search (search.leave x) where
  done y hy := (CycleSearch.done_leave _ x y).mpr (.inr hy)
  known _ hy := Std.TreeMap.mem_insert.mpr (.inr hy)
  members _ hk := hk
  others _ _ := .rfl

theorem Searching.notDone (h : Searching graph agentId (x :: path) search) : ¬search.Done x := by
  intro hd
  have hv := (h.visiting x).mpr List.mem_cons_self
  rw [CycleSearch.Done, hv] at hd
  cases hd

theorem Searching.leads (h : Searching graph agentId (x :: path) search) :
    graph.ordered.Leads x (x :: path) :=
  h.tracks.leads h.notDone (.refl (List.nodup_cons.mp h.tracks.nodup).1)

theorem Searching.leave (h : Searching graph agentId (x :: path) search)
    (hs : ∀ d ∈ graph.ordered.next x, Settled agentId (x :: path) search d) :
    Searching graph agentId path (search.leave x) := by
  have hnot : x ∉ path := (List.nodup_cons.mp h.tracks.nodup).1
  have hdone := fun y => search.done_leave x y
  refine ⟨?_, fun y => ?_, fun y hy d hd => ?_, ?_, h.sound, fun u hu => ?_, fun y hy => ?_⟩
  · rw [CycleSearch.leave, h.stack, List.reverse_cons, List.dropLast_concat]
  · unfold CycleSearch.leave
    rw [BTreeMap.getElem?_insert_eq]
    by_cases hxy : x = y
    · simp [← hxy, hnot]
    · rw [if_neg hxy, h.visiting, List.mem_cons]
      simp [Ne.symm hxy]
  · have hd' : search.Done d ∨ d ∈ x :: path := by
      rcases (hdone y).mp hy with rfl | hy
      · exact (hs d hd).reached
      · exact h.closed y hy d hd
    rw [hdone, List.mem_cons] at *
    tauto
  · cases h.tracks with
    | cons _ _ _ ht => exact ht.mono fun y hy => (hdone y).mpr (.inr hy)
  · rcases (hdone u).mp hu with rfl | hu
    · exact ⟨path, h.leads, fun w hw hmem => (hs w hw).marked hmem⟩
    · exact h.complete u hu
  · rcases (hdone y).mp hy with rfl | hy
    · refine .intro _ fun d hd => ?_
      rcases (hs d hd.1).reached with hd' | hd'
      · exact h.acyclic d hd'
      · exact absurd ((hs d hd.1).marked hd' _ OrderedGraph.mem_upTo_self) hd.2
    · exact h.acyclic y hy

theorem Searching.mark (h : Searching graph agentId path search) (hx : x ∈ path)
    (hc : graph.ordered.choices path = skipped ++ x :: rest) :
    ∃ position, search.stack.findIdx? (· == x) = some position ∧
      let after := { search with
        members := markCycle agentId (search.stack.drop position) search.members }
      Searching graph agentId path after ∧ Extends agentId search after ∧
        Settled agentId path after x := by
  obtain ⟨position, hfind, hsegment⟩ := mem_drop_findIdx h.tracks.nodup hx
  rw [h.stack]
  refine ⟨position, hfind, ?_⟩
  have hkeep : ∀ key, key ∈ search.members →
      key ∈ markCycle agentId (path.reverse.drop position) search.members :=
    fun key hk => mem_markCycle.mpr (.inl hk)
  obtain _ | ⟨u, behind⟩ := path
  · cases hx
  · have hedge : x ∈ graph.ordered.next u := by
      change graph.ordered.next u = _ at hc
      rw [hc]
      exact List.mem_append_right _ List.mem_cons_self
    refine ⟨⟨rfl, h.visiting, h.closed, h.tracks, fun t ht => ?_, fun v hv => ?_, fun y hy => ?_⟩,
      ⟨fun _ hd => hd, fun _ hk => hk, hkeep, fun key hk => ?_⟩, ⟨.inr hx, fun _ t ht => ?_⟩⟩
    · rcases mem_markCycle.mp ht with ht | ⟨-, ht⟩
      · exact h.sound t ht
      · exact ⟨u, behind, x, h.leads, hedge, hx, (hsegment t).mp ht⟩
    · obtain ⟨behind', hlead, hmarked⟩ := h.complete v hv
      exact ⟨behind', hlead, fun w hw hmem t ht => hkeep _ (hmarked w hw hmem t ht)⟩
    · exact Subrelation.accessible (fun hd => ⟨hd.1, fun ht => hd.2 (hkeep _ ht)⟩) (h.acyclic y hy)
    · rw [mem_markCycle]
      exact or_iff_left fun hm => hk hm.1
    · exact mem_markCycle.mpr (.inr ⟨rfl, (hsegment t).mpr ht⟩)

structure Visited (graph : DependencyGraph) (agentId : String) (path : List String)
    (before : CycleSearch) (x : String) (after : CycleSearch) : Prop where
  searching : Searching graph agentId path after
  grown : Extends agentId before after
  settled : Settled agentId path after x

theorem visitChoices_spec {fuel : Nat}
    (hvisit : ∀ {search x skipped rest}, Searching graph agentId path search → x ∈ graph →
      graph.ordered.choices path = skipped ++ x :: rest →
      (∀ c ∈ skipped, Settled agentId path search c) → unseen graph.keys search.states < fuel →
      ∃ after, visitCycle graph agentId fuel x search = some after ∧
        Visited graph agentId path search x after)
    (h : Searching graph agentId path search) (hin : ∀ x ∈ graph.ordered.choices path, x ∈ graph)
    (hfuel : unseen graph.keys search.states < fuel) :
    ∃ after, (graph.ordered.choices path).foldlM
        (fun search x => visitCycle graph agentId fuel x search) search = some after ∧
      Searching graph agentId path after ∧ Extends agentId search after ∧
      ∀ c ∈ graph.ordered.choices path, Settled agentId path after c := by
  refine foldlM_invariant (P := fun pre after => Searching graph agentId path after ∧
    Extends agentId search after ∧ ∀ c ∈ pre, Settled agentId path after c) ?_ ?_
  · exact ⟨h, .refl _, fun _ hm => absurd hm List.not_mem_nil⟩
  · intro pre x post s hl hP
    obtain ⟨after, hafter, hv⟩ := hvisit hP.1 (hin x (by rw [hl]; simp)) hl hP.2.2
      ((unseen_le hP.2.1.known).trans_lt hfuel)
    refine ⟨after, hafter, hv.searching, hP.2.1.trans hv.grown, fun c hm => ?_⟩
    rcases List.mem_append.mp hm with hm | hm
    · exact (hP.2.2 c hm).mono hv.grown
    · exact List.mem_singleton.mp hm ▸ hv.settled

theorem visitCycle_spec (hgraph : ∀ x, ∀ d ∈ graph.ordered.next x, d ∈ graph) {fuel : Nat}
    (h : Searching graph agentId path search) (hx : x ∈ graph)
    (hc : graph.ordered.choices path = skipped ++ x :: rest)
    (hs : ∀ c ∈ skipped, Settled agentId path search c)
    (hfuel : unseen graph.keys search.states < fuel) :
    ∃ after, visitCycle graph agentId fuel x search = some after ∧
      Visited graph agentId path search x after := by
  induction fuel generalizing path search x skipped rest with
  | zero => exact absurd hfuel (Nat.not_lt_zero _)
  | succ fuel ih =>
    rw [visitCycle]
    cases hstate : search.states[x]? with
    | some state =>
      cases state with
      | done =>
        refine ⟨search, rfl, h, .refl search, ⟨.inl hstate, fun hm => ?_⟩⟩
        rw [← h.visiting, hstate] at hm
        cases hm
      | visiting =>
        obtain ⟨position, hfind, hmark⟩ := h.mark ((h.visiting x).mp hstate) hc
        simp only [hfind]
        exact ⟨_, rfl, hmark.1, hmark.2.1, hmark.2.2⟩
    | none =>
      have hentered := h.enter hstate hc hs
      have hnew : x ∉ search.states := fun hm => by
        rw [Std.TreeMap.mem_iff_isSome_getElem?, hstate] at hm
        cases hm
      have hfewer : unseen graph.keys (search.enter x).states < fuel := by
        have := unseen_lt (Extends.enter agentId hstate).known (Std.TreeMap.mem_keys.mpr hx) hnew
          Std.TreeMap.mem_insert_self
        omega
      obtain ⟨left, hleft, hsearching, hgrown, hsettled⟩ :=
        visitChoices_spec ih hentered (hgraph x) hfewer
      refine ⟨left.leave x, ?_, hsearching.leave hsettled, ?_, ⟨?_, ?_⟩⟩
      · change ((graph.ordered.choices (x :: path)).foldlM
          (fun search dependencyId => visitCycle graph agentId fuel dependencyId search)
          (search.enter x) >>= fun left => some (left.leave x)) = _
        rw [hleft]
        rfl
      · exact ((Extends.enter agentId hstate).trans hgrown).trans (.leave x)
      · exact .inl ((CycleSearch.done_leave _ x x).mpr (.inl rfl))
      · exact fun hm => absurd hm (List.nodup_cons.mp hentered.tracks.nodup).1

structure Searched (graph : DependencyGraph) (agentId : String) (before after : BTreeSet TaskKey) :
    Prop where
  marked : ∀ t, (agentId, t) ∈ after ↔ graph.ordered.Covered t
  others : ∀ key, key.1 ≠ agentId → (key ∈ after ↔ key ∈ before)
  acyclic : ∀ x ∈ graph, Acc (fun y x => graph.ordered.Edge x y ∧ (agentId, x) ∉ after) x

theorem visitAgent_spec (agentId : String) (members : BTreeSet TaskKey)
    (hgraph : ∀ x, ∀ d ∈ graph.ordered.next x, d ∈ graph) (hfresh : ∀ t, (agentId, t) ∉ members) :
    ∃ after, visitAgent agentId graph members = some after ∧
      Searched graph agentId members after := by
  have hstart : Searching graph agentId [] (CycleSearch.start members) := by
    have hnone : ∀ x, (CycleSearch.start members).states[x]? = none :=
      fun x => Std.TreeMap.getElem?_emptyc
    have hdone : ∀ x, ¬(CycleSearch.start members).Done x := fun x hd => by
      rw [CycleSearch.Done, hnone] at hd
      cases hd
    refine ⟨rfl, fun x => ?_, fun x hx => absurd hx (hdone x), .nil,
      fun t ht => absurd ht (hfresh t), fun x hx => absurd hx (hdone x),
      fun x hx => absurd hx (hdone x)⟩
    rw [hnone]
    simp
  have hfuel : unseen graph.keys (CycleSearch.start members).states < graph.size + 1 := by
    rw [CycleSearch.start, unseen_empty, Std.TreeMap.length_keys]
    exact Nat.lt_succ_self _
  obtain ⟨search, hsearch, hsearching, hgrown, hsettled⟩ := visitChoices_spec
    (visitCycle_spec hgraph) hstart (fun x hx => Std.TreeMap.mem_keys.mp hx) hfuel
  have hall : ∀ x ∈ graph, search.Done x := fun x hx =>
    (hsettled x (Std.TreeMap.mem_keys.mpr hx)).reached.resolve_right List.not_mem_nil
  refine ⟨search.members, ?_, fun t => ⟨hsearching.sound t, ?_⟩, hgrown.others,
    fun x hx => hsearching.acyclic x (hall x hx)⟩
  · change ((graph.ordered.choices []).foldlM
      (fun search taskId => visitCycle graph agentId (graph.size + 1) taskId search)
      (CycleSearch.start members) >>= fun search => some search.members) = _
    rw [hsearch]
    rfl
  · rintro ⟨u, path, w, hlead, hw, hmem, ht⟩
    have hu : u ∈ graph := by
      by_contra hu
      change w ∈ graph.getD u [] at hw
      rw [Std.TreeMap.getD_eq_fallback hu] at hw
      exact absurd hw List.not_mem_nil
    obtain ⟨behind, hlead', hmarked⟩ := hsearching.complete u (hall u hu)
    obtain rfl := hlead.unique hlead'
    exact hmarked w hw hmem t ht

end Search

end ControlPlane.Metacognition
