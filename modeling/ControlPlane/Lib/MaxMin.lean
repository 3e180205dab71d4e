import ControlPlane.Lib.FairShare

/-! What the owners of a selection in rounds get: all of them equally much, up to what they have
and one item, and the ones that are ahead by the item come first. -/

universe u v

namespace ControlPlane.FairShare

variable {K : Type u} {α : Type v} [Ord K] [DecidableEq K]

def itemsOf (owner : α → K) (items : List α) (k : K) : List α :=
  items.filter fun item => owner item = k

def demand (owner : α → K) (items : List α) (perOwner : Nat) (k : K) : Nat :=
  min (itemsOf owner items k).length perOwner

def served (share : FairShare K α) (k : K) : Nat := share.granted.getD k 0

structure InTurn (owner : α → K) (items : List α) (share : FairShare K α) : Prop where
  split : ∀ k, itemsOf owner share.selected k ++ share.queues.getD k [] = itemsOf owner items k
  counted : ∀ k, (itemsOf owner share.selected k).length = share.served k

variable [Std.TransOrd K] [Std.LawfulEqOrd K]
variable {owner : α → K} {items : List α} {maximum perOwner : Nat} {share : FairShare K α}

theorem getD_group (owner : α → K) (items : List α) (k : K) :
    (group owner items).getD k [] = itemsOf owner items k := by
  simpa [itemsOf, group] using BTreeMap.getD_collect (fun item => some (owner item)) items k

omit [DecidableEq K] in
theorem mem_group {k : K} : k ∈ group owner items ↔ k ∈ items.map owner := by
  induction items using List.reverseRecOn with
  | nil => simp [group, BTreeMap.collect]
  | append_singleton items item ih =>
    rw [group, BTreeMap.collect, List.foldl_concat]
    change k ∈ BTreeMap.pushAt (group owner items) (owner item) item ↔ _
    rw [BTreeMap.pushAt, Std.TreeMap.mem_insert, Std.LawfulEqCmp.compare_eq_iff_eq, ih,
      List.map_append, List.mem_append, List.map_singleton, List.mem_singleton, or_comm, eq_comm]

theorem InTurn.start (owner : α → K) (items : List α) :
    InTurn owner items (start (group owner items)) where
  split k := by simpa [FairShare.start, itemsOf] using getD_group owner items k
  counted k := by simp [itemsOf, FairShare.start, served]

section Turn

variable {k : K} {after : FairShare K α}

omit [Std.TransOrd K] [Std.LawfulEqOrd K] in
theorem InTurn.owner_of_queue (h : InTurn owner items share) {item : α}
    (hitem : item ∈ share.queues.getD k []) : owner item = k := by
  have hmem : item ∈ itemsOf owner items k := by
    rw [← h.split k]
    exact List.mem_append_right _ hitem
  simpa using (List.mem_filter.1 hmem).2

omit [Std.LawfulEqOrd K] in
theorem InTurn.isSome_turn (h : InTurn owner items share) :
    (turn perOwner share k).isSome ↔ share.served k < demand owner items perOwner k := by
  have hlength : (itemsOf owner items k).length =
      share.served k + (share.queues.getD k []).length := by
    rw [← h.split k, List.length_append, h.counted k]
  rw [demand, lt_min_iff, hlength, Nat.lt_add_right_iff_pos]
  unfold turn
  split
  · next hgranted => simp [served, hgranted]
  · next hgranted =>
    rw [Std.TreeMap.getD_eq_getD_getElem? (t := share.queues)]
    have hroom : share.served k < perOwner := not_le.1 hgranted
    cases share.queues[k]? with
    | none => simp
    | some queue =>
      cases queue with
      | nil => simp
      | cons item rest => simpa using hroom

theorem served_turn (hturn : turn perOwner share k = some after) (other : K) :
    after.served other = if k = other then share.served k + 1 else share.served other := by
  obtain ⟨item, rest, -, -, rfl⟩ := turn_eq_some hturn
  exact BTreeMap.getD_insert_eq _ _ _ _ _

theorem InTurn.turn (h : InTurn owner items share)
    (hturn : turn perOwner share k = some after) : InTurn owner items after := by
  have hserved := served_turn hturn
  obtain ⟨item, rest, -, hqueue, rfl⟩ := turn_eq_some hturn
  have hfront : share.queues.getD k [] = item :: rest := by
    rw [Std.TreeMap.getD_eq_getD_getElem?, hqueue, Option.getD_some]
  have hitem : owner item = k := h.owner_of_queue (hfront ▸ List.mem_cons_self)
  have hselected : ∀ other, itemsOf owner (share.selected ++ [item]) other =
      itemsOf owner share.selected other ++ if k = other then [item] else [] := by
    intro other
    rw [itemsOf, List.filter_append, ← itemsOf, List.filter_singleton, hitem, Bool.cond_decide]
  constructor
  · intro other
    rw [hselected, BTreeMap.getD_insert_eq, ← h.split other]
    by_cases hk : k = other
    · subst hk
      rw [if_pos rfl, if_pos rfl, hfront, List.append_assoc, List.singleton_append]
    · rw [if_neg hk, if_neg hk, List.append_nil]
  · intro other
    rw [hselected, hserved, List.length_append, h.counted other]
    by_cases hk : k = other
    · subst hk
      rw [if_pos rfl, if_pos rfl, List.length_singleton]
    · rw [if_neg hk, if_neg hk, List.length_nil, Nat.add_zero]

end Turn

structure Level (owner : α → K) (items : List α) (perOwner level : Nat) (early late : List K)
    (share : FairShare K α) : Prop where
  ahead : ∀ k ∈ early, share.served k = min (demand owner items perOwner k) (level + 1)
  behind : ∀ k ∈ late, share.served k = min (demand owner items perOwner k) level

section Round

variable {level : Nat} {early late order : List K} {k : K}

theorem Level.turn (h : Level owner items perOwner level early (k :: late) share)
    (hnodup : (early ++ k :: late).Nodup) {after : FairShare K α}
    (hturn : FairShare.turn perOwner share k = some after)
    (hless : share.served k < demand owner items perOwner k) :
    Level owner items perOwner level (early ++ [k]) late after := by
  rw [List.nodup_append, List.nodup_cons] at hnodup
  obtain ⟨-, ⟨hlate, -⟩, hdisjoint⟩ := hnodup
  have hbehind := h.behind k List.mem_cons_self
  constructor
  · intro other hmem
    rw [served_turn hturn]
    rcases List.mem_append.1 hmem with hearly | hlast
    · rw [if_neg fun hk => hdisjoint other hearly k List.mem_cons_self hk.symm]
      exact h.ahead other hearly
    · rw [List.mem_singleton.1 hlast, if_pos rfl]
      omega
  · intro other hmem
    rw [served_turn hturn, if_neg (by rintro rfl; exact hlate hmem)]
    exact h.behind other (List.mem_cons_of_mem _ hmem)

omit [Std.TransOrd K] [Std.LawfulEqOrd K] in
theorem Level.pass (h : Level owner items perOwner level early (k :: late) share)
    (hfull : demand owner items perOwner k ≤ share.served k) :
    Level owner items perOwner level (early ++ [k]) late share := by
  have hbehind := h.behind k List.mem_cons_self
  constructor
  · intro other hmem
    rcases List.mem_append.1 hmem with hearly | hlast
    · exact h.ahead other hearly
    · rw [List.mem_singleton.1 hlast]
      omega
  · exact fun other hmem => h.behind other (List.mem_cons_of_mem _ hmem)

theorem Level.round (h : Level owner items perOwner level early late share)
    (hin : InTurn owner items share) (hnodup : (early ++ late).Nodup) :
    ∃ first rest, first ++ rest = early ++ late ∧
      Level owner items perOwner level first rest
        (FairShare.round maximum perOwner late share).1 ∧
      (rest = [] ∨ maximum ≤ (FairShare.round maximum perOwner late share).1.selected.length) := by
  induction late generalizing early share with
  | nil => exact ⟨early, [], rfl, h, .inl rfl⟩
  | cons k late ih =>
    have hcons : early ++ [k] ++ late = early ++ k :: late := by simp
    have hnodup' : (early ++ [k] ++ late).Nodup := hcons ▸ hnodup
    have hserves : (FairShare.turn perOwner share k).isSome ↔
        share.served k < demand owner items perOwner k := hin.isSome_turn
    unfold FairShare.round
    split
    · next hfull => exact ⟨early, k :: late, rfl, h, .inr hfull⟩
    · cases hturn : FairShare.turn perOwner share k with
      | some after =>
        rw [hturn] at hserves
        rw [← hcons]
        exact ih (h.turn hnodup hturn (hserves.1 rfl)) (hin.turn hturn) hnodup'
      | none =>
        rw [hturn] at hserves
        rw [← hcons]
        exact ih (h.pass (by simpa using hserves)) hin hnodup'

theorem InTurn.round (hin : InTurn owner items share) (order : List K) :
    InTurn owner items (FairShare.round maximum perOwner order share).1 := by
  induction order generalizing share with
  | nil => exact hin
  | cons k order ih =>
    unfold FairShare.round
    split
    · exact hin
    · cases hturn : FairShare.turn perOwner share k with
      | some after => exact ih (hin.turn hturn)
      | none => exact ih hin

omit [Std.LawfulEqOrd K] in
theorem InTurn.of_no_progress (hin : InTurn owner items share)
    (hround : (FairShare.round maximum perOwner order share).2 = false) :
    (FairShare.round maximum perOwner order share).1 = share ∧
      (maximum ≤ share.selected.length ∨
        ∀ k ∈ order, demand owner items perOwner k ≤ share.served k) := by
  induction order with
  | nil => exact ⟨rfl, .inr fun _ hmem => absurd hmem List.not_mem_nil⟩
  | cons k order ih =>
    have hserves : (FairShare.turn perOwner share k).isSome ↔
        share.served k < demand owner items perOwner k := hin.isSome_turn
    unfold FairShare.round at hround ⊢
    split
    · next hfull => exact ⟨rfl, .inl hfull⟩
    · next hroom =>
      rw [if_neg hroom] at hround
      cases hturn : FairShare.turn perOwner share k with
      | some after =>
        rw [hturn] at hround
        cases hround
      | none =>
        rw [hturn] at hround hserves
        obtain ⟨hsame, hfull | hserved⟩ := ih hround
        · exact ⟨hsame, .inl hfull⟩
        · exact ⟨hsame, .inr (List.forall_mem_cons.2 ⟨by simpa using hserves, hserved⟩)⟩

end Round

section Rounds

variable {level fuel : Nat} {order : List K} {after : FairShare K α}

theorem InTurn.rounds (hin : InTurn owner items share)
    (hrounds : FairShare.rounds maximum perOwner order fuel share = some after) :
    InTurn owner items after := by
  induction fuel generalizing share with
  | zero => cases hrounds
  | succ fuel ih =>
    unfold FairShare.rounds at hrounds
    dsimp only at hrounds
    split at hrounds
    · exact Option.some.inj hrounds ▸ hin.round order
    · exact ih (hin.round order) hrounds

/-- When the rounds end, the owners are level up to one item, and the selection is full or every
owner has got what it may. -/
theorem Level.rounds (h : Level owner items perOwner level [] order share)
    (hin : InTurn owner items share) (hnodup : order.Nodup)
    (hrounds : FairShare.rounds maximum perOwner order fuel share = some after) :
    ∃ last early late, early ++ late = order ∧
      Level owner items perOwner last early late after ∧
      (maximum ≤ after.selected.length ∨
        ∀ k ∈ order, demand owner items perOwner k ≤ after.served k) := by
  induction fuel generalizing level share with
  | zero => cases hrounds
  | succ fuel ih =>
    obtain ⟨early, late, horder, hlevel, hend⟩ : ∃ early late, early ++ late = [] ++ order ∧
        Level owner items perOwner level early late
          (FairShare.round maximum perOwner order share).1 ∧
        (late = [] ∨
          maximum ≤ (FairShare.round maximum perOwner order share).1.selected.length) :=
      h.round hin hnodup
    unfold FairShare.rounds at hrounds
    dsimp only at hrounds
    split at hrounds
    · next hstop =>
      rw [← Option.some.inj hrounds]
      rcases hstop with hfull | hstuck
      · exact ⟨level, early, late, horder, hlevel, .inl hfull⟩
      · obtain ⟨hsame, hserved⟩ := hin.of_no_progress hstuck
        rw [hsame]
        exact ⟨level, [], order, rfl, h, hserved⟩
    · next hopen =>
      obtain ⟨hroom, -⟩ := not_or.1 hopen
      -- The round has come to all owners, so they are level again.
      obtain rfl := hend.resolve_right hroom
      rw [List.append_nil, List.nil_append] at horder
      exact ih ⟨fun _ hmem => absurd hmem List.not_mem_nil, horder ▸ hlevel.ahead⟩
        (hin.round order) hrounds

end Rounds

omit [Ord K] [Std.TransOrd K] [Std.LawfulEqOrd K] in
theorem length_eq_sum_itemsOf {l : List α} {owners : Finset K}
    (howners : ∀ item ∈ l, owner item ∈ owners) :
    l.length = ∑ k ∈ owners, (itemsOf owner l k).length := by
  have hmap : ∀ k ∈ (l.map owner : Multiset K), k ∈ owners := by
    simpa using howners
  rw [← l.length_map owner, ← Multiset.coe_card, ← Multiset.sum_count_eq_card hmap]
  refine Finset.sum_congr rfl fun k _ => ?_
  rw [itemsOf, ← List.countP_eq_length_filter, Multiset.coe_count, List.count, List.countP_map]
  rfl

/-- The selection is full, or takes from every owner what it may, and no owner has to stand back
behind another one by more than the item of a round that is cut short. -/
structure MaxMin (owner : α → K) (items : List α) (maximum perOwner : Nat) (order : List K)
    (share : FairShare K α) : Prop where
  prefixes : ∀ k, itemsOf owner share.selected k <+: itemsOf owner items k
  counted : ∀ k, (itemsOf owner share.selected k).length = share.served k
  length : share.selected.length =
    min maximum (∑ k ∈ order.toFinset, demand owner items perOwner k)
  level : ∃ last early late, early ++ late = order ∧
    Level owner items perOwner last early late share

theorem maxMin_fill {order : List K} (hnodup : order.Nodup)
    (howners : ∀ item ∈ items, owner item ∈ order) :
    MaxMin owner items maximum perOwner order
      (fill maximum perOwner order (start (group owner items))) := by
  generalize hshare : fill maximum perOwner order (start (group owner items)) = share
  have hrounds : FairShare.rounds maximum perOwner order
      (maximum - (start (group owner items)).selected.length + 1) (start (group owner items)) =
        some share := by
    rw [← hshare, fill, Option.some_get]
  have hsound : Sound owner items maximum perOwner share :=
    hshare ▸ (sound_start owner items maximum perOwner).fill order
  have hin : InTurn owner items share := (InTurn.start owner items).rounds hrounds
  have hstart : Level owner items perOwner 0 [] order (start (group owner items)) :=
    ⟨fun _ hmem => absurd hmem List.not_mem_nil, fun k _ => by simp [served, start]⟩
  obtain ⟨last, early, late, horder, hlevel, hend⟩ :=
    hstart.rounds (InTurn.start owner items) hnodup hrounds
  refine ⟨fun k => ⟨_, hin.split k⟩, hin.counted, ?_, last, early, late, horder, hlevel⟩
  have hserved : ∀ k, share.served k ≤ demand owner items perOwner k := fun k => by
    rw [demand, le_min_iff, ← hin.counted k, ← hin.split k, List.length_append]
    exact ⟨Nat.le_add_right _ _, hin.counted k ▸ hsound.fair k⟩
  have hlength : share.selected.length = ∑ k ∈ order.toFinset, share.served k := by
    simp only [← hin.counted]
    refine length_eq_sum_itemsOf fun item hitem => List.mem_toFinset.2 (howners item ?_)
    exact hsound.conserved.subset (List.mem_append_left _ hitem)
  have hle : share.selected.length ≤ ∑ k ∈ order.toFinset, demand owner items perOwner k :=
    hlength.trans_le (Finset.sum_le_sum fun k _ => hserved k)
  rcases hend with hfull | hall
  · rw [le_antisymm hsound.bounded hfull, min_eq_left (hfull.trans hle)]
  · have hsum : ∑ k ∈ order.toFinset, demand owner items perOwner k = share.selected.length := by
      rw [hlength]
      exact Finset.sum_congr rfl fun k hk =>
        le_antisymm (hall k (List.mem_toFinset.1 hk)) (hserved k)
    rw [hsum, min_eq_right hsound.bounded]

end ControlPlane.FairShare
