import ControlPlane.Lib.BTree

/-! Selection in rounds.  Every owner has a queue; a round takes the head of each queue in
turn, and the rounds go on until the selection is full or no queue gives anything. -/

universe u v

namespace ControlPlane

structure FairShare (K : Type u) (α : Type v) [Ord K] where
  queues : BTreeMap K (List α)
  selected : List α
  granted : BTreeMap K Nat

namespace FairShare

variable {K : Type u} {α : Type v} [Ord K]

def group (owner : α → K) (items : List α) : BTreeMap K (List α) :=
  BTreeMap.collect (fun item => some (owner item)) items

def waiting (queues : BTreeMap K (List α)) : List α := queues.toList.flatMap Prod.snd

def start (queues : BTreeMap K (List α)) : FairShare K α := ⟨queues, [], ∅⟩

/-- An owner's turn; `none` if its share is used up or its queue has run dry. -/
def turn (perOwner : Nat) (share : FairShare K α) (k : K) : Option (FairShare K α) :=
  if perOwner ≤ share.granted.getD k 0 then none
  else match share.queues[k]? with
    | some (item :: rest) => some
        { queues := share.queues.insert k rest
          selected := share.selected ++ [item]
          granted := share.granted.insert k (share.granted.getD k 0 + 1) }
    | _ => none

def round (maximum perOwner : Nat) : List K → FairShare K α → FairShare K α × Bool
  | [], share => (share, false)
  | k :: order, share =>
    if maximum ≤ share.selected.length then (share, false)
    else match turn perOwner share k with
      | some share => ((round maximum perOwner order share).1, true)
      | none => round maximum perOwner order share

def rounds (maximum perOwner : Nat) (order : List K) :
    Nat → FairShare K α → Option (FairShare K α)
  | 0, _ => none
  | fuel + 1, share =>
    let (after, madeProgress) := round maximum perOwner order share
    if maximum ≤ after.selected.length ∨ madeProgress = false then some after
    else rounds maximum perOwner order fuel after

section Progress

variable {perOwner : Nat} {share after : FairShare K α}

theorem turn_eq_some {k : K} (h : turn perOwner share k = some after) :
    ∃ item rest, share.granted.getD k 0 < perOwner ∧ share.queues[k]? = some (item :: rest) ∧
      after =
        { queues := share.queues.insert k rest
          selected := share.selected ++ [item]
          granted := share.granted.insert k (share.granted.getD k 0 + 1) } := by
  unfold turn at h
  split at h
  · cases h
  · next hgranted =>
    split at h
    · next item rest hq => exact ⟨item, rest, not_le.1 hgranted, hq, (Option.some.inj h).symm⟩
    · cases h

theorem length_turn {k : K} (h : turn perOwner share k = some after) :
    after.selected.length = share.selected.length + 1 := by
  obtain ⟨item, rest, -, -, rfl⟩ := turn_eq_some h
  simp

theorem length_round (maximum perOwner : Nat) (order : List K) (share : FairShare K α) :
    share.selected.length ≤ (round maximum perOwner order share).1.selected.length ∧
      ((round maximum perOwner order share).2 = true →
        share.selected.length < (round maximum perOwner order share).1.selected.length) := by
  induction order generalizing share with
  | nil => exact ⟨le_rfl, fun hp => by cases hp⟩
  | cons k order ih =>
    unfold round
    split
    · exact ⟨le_rfl, fun hp => by cases hp⟩
    · cases hturn : turn perOwner share k with
      | some after =>
        have hlength := length_turn hturn
        have hle := (ih after).1
        dsimp only
        exact ⟨by omega, fun _ => by omega⟩
      | none => exact ih share

theorem isSome_rounds (maximum : Nat) (order : List K) {fuel : Nat}
    (h : maximum - share.selected.length < fuel) :
    (rounds maximum perOwner order fuel share).isSome := by
  induction fuel generalizing share with
  | zero => omega
  | succ fuel ih =>
    have hprogress := (length_round maximum perOwner order share).2
    unfold rounds
    dsimp only
    split
    · rfl
    · next hopen =>
      obtain ⟨hroom, hmade⟩ := not_or.1 hopen
      have hless := hprogress (by simpa using hmade)
      exact ih (by omega)

end Progress

def fill (maximum perOwner : Nat) (order : List K) (share : FairShare K α) : FairShare K α :=
  (rounds maximum perOwner order (maximum - share.selected.length + 1) share).get
    (isSome_rounds maximum order (Nat.lt_succ_self _))

/-- Nothing is lost or taken twice, and no bound is exceeded. -/
structure Sound [DecidableEq K] (owner : α → K) (items : List α) (maximum perOwner : Nat)
    (share : FairShare K α) : Prop where
  conserved : (share.selected ++ waiting share.queues).Perm items
  owned : ∀ {k queue}, share.queues[k]? = some queue → ∀ item ∈ queue, owner item = k
  counted : ∀ k, share.selected.countP (fun item => owner item = k) = share.granted.getD k 0
  bounded : share.selected.length ≤ maximum
  fair : ∀ k, share.granted.getD k 0 ≤ perOwner

variable [Std.TransOrd K] [Std.LawfulEqOrd K] [DecidableEq K]

theorem waiting_insert (queues : BTreeMap K (List α)) (k : K) (queue : List α) :
    (waiting (queues.insert k queue)).Perm
      (queue ++ (queues.toList.filter fun e => k ≠ e.1).flatMap Prod.snd) := by
  have h := (BTreeMap.toList_insert_perm queues k queue).flatMap_right Prod.snd
  rwa [List.flatMap_cons] at h

theorem waiting_of_getD (queues : BTreeMap K (List α)) (k : K) :
    (waiting queues).Perm
      (queues.getD k [] ++ (queues.toList.filter fun e => k ≠ e.1).flatMap Prod.snd) := by
  rw [Std.TreeMap.getD_eq_getD_getElem?]
  cases h : queues[k]? with
  | some queue =>
    have := (BTreeMap.toList_perm_of_getElem? h).flatMap_right Prod.snd
    rwa [List.flatMap_cons] at this
  | none => rw [BTreeMap.toList_filter_of_getElem?_none h]; rfl

section Group

variable (owner : α → K)

theorem waiting_pushAt (queues : BTreeMap K (List α)) (k : K) (item : α) :
    (waiting (queues.pushAt k item)).Perm (waiting queues ++ [item]) := by
  refine (waiting_insert _ _ _).trans ?_
  refine .trans ?_ ((waiting_of_getD queues k).symm.append_right [item])
  rw [List.append_assoc, List.append_assoc]
  exact .append_left _ List.perm_append_comm

theorem waiting_group (items : List α) : (waiting (group owner items)).Perm items := by
  induction items using List.reverseRecOn with
  | nil => exact .refl _
  | append_singleton items item ih =>
    rw [group, BTreeMap.collect, List.foldl_concat]
    exact (waiting_pushAt _ _ item).trans (ih.append_right [item])

theorem owner_of_group (items : List α) {k : K} {queue : List α}
    (h : (group owner items)[k]? = some queue) : ∀ item ∈ queue, owner item = k := by
  intro item hitem
  have hqueue := BTreeMap.getD_collect (fun item => some (owner item)) items k
  rw [← group, Std.TreeMap.getD_eq_getD_getElem?, h, Option.getD_some] at hqueue
  rw [hqueue] at hitem
  simpa using (List.mem_filter.1 hitem).2

end Group

section Rounds

variable {owner : α → K} {items : List α} {maximum perOwner : Nat} {share : FairShare K α}

theorem sound_start (owner : α → K) (items : List α) (maximum perOwner : Nat) :
    Sound owner items maximum perOwner (start (group owner items)) where
  conserved := waiting_group owner items
  owned h := owner_of_group owner items h
  counted k := by simp [start]
  bounded := Nat.zero_le _
  fair k := by simp [start]

theorem Sound.turn (h : Sound owner items maximum perOwner share)
    (hroom : share.selected.length < maximum) {k : K} {after : FairShare K α}
    (hturn : turn perOwner share k = some after) :
    Sound owner items maximum perOwner after := by
  obtain ⟨item, rest, hgranted, hq, rfl⟩ := turn_eq_some hturn
  have hitem : owner item = k := h.owned hq item (by simp)
  refine ⟨?_, ?_, ?_, ?_, ?_⟩
  · -- The item moves from the head of its queue to the end of the selection.
    refine .trans ?_ h.conserved
    have hbefore := waiting_of_getD share.queues k
    rw [Std.TreeMap.getD_eq_getD_getElem?, hq, Option.getD_some, List.cons_append] at hbefore
    rw [List.append_assoc]
    refine .append_left _ ?_
    rw [List.singleton_append]
    exact (((waiting_insert share.queues k rest).cons item)).trans hbefore.symm
  · intro k' queue hqueue other hother
    rw [BTreeMap.getElem?_insert_eq] at hqueue
    split at hqueue
    · next hk =>
      cases hqueue
      exact (h.owned hq other (List.mem_cons_of_mem _ hother)).trans hk
    · exact h.owned hqueue other hother
  · intro k'
    rw [List.countP_append, h.counted k', List.countP_singleton,
      Std.TreeMap.getD_eq_getD_getElem?, Std.TreeMap.getD_eq_getD_getElem?,
      BTreeMap.getElem?_insert_eq, hitem]
    by_cases hk : k = k'
    · cases hk
      simp [Std.TreeMap.getD_eq_getD_getElem?]
    · simp [hk]
  · simpa using hroom
  · intro k'
    rw [Std.TreeMap.getD_eq_getD_getElem?, BTreeMap.getElem?_insert_eq]
    split
    · exact hgranted
    · rw [← Std.TreeMap.getD_eq_getD_getElem?]
      exact h.fair k'

theorem Sound.round (h : Sound owner items maximum perOwner share) (order : List K) :
    Sound owner items maximum perOwner (round maximum perOwner order share).1 := by
  induction order generalizing share with
  | nil => exact h
  | cons k order ih =>
    unfold FairShare.round
    split
    · exact h
    · next hroom =>
      cases hturn : FairShare.turn perOwner share k with
      | some after => exact ih (h.turn (not_le.1 hroom) hturn)
      | none => exact ih h

theorem Sound.rounds (h : Sound owner items maximum perOwner share) (order : List K) {fuel : Nat}
    {after : FairShare K α} (hrounds : rounds maximum perOwner order fuel share = some after) :
    Sound owner items maximum perOwner after := by
  induction fuel generalizing share with
  | zero => cases hrounds
  | succ fuel ih =>
    unfold FairShare.rounds at hrounds
    dsimp only at hrounds
    split at hrounds
    · exact Option.some.inj hrounds ▸ h.round order
    · exact ih (h.round order) hrounds

theorem Sound.fill (h : Sound owner items maximum perOwner share) (order : List K) :
    Sound owner items maximum perOwner (fill maximum perOwner order share) :=
  h.rounds order (Option.some_get _).symm

end Rounds

end FairShare

end ControlPlane
