import Mathlib.Algebra.BigOperators.Group.Finset.Basic
import Mathlib.Algebra.Order.BigOperators.Group.Finset

/-! Counters of many keys that only grow, read now and then.  The rises between the readings of
a key add up to its last one, and missed readings are made up for by the next. -/

namespace ControlPlane.Cumulative

variable {K V : Type} [DecidableEq K]

def latest (readings : List (K × V)) (k : K) : Option V := readings.reverse.lookup k

theorem latest_concat (readings : List (K × V)) (k' : K) (v : V) (k : K) :
    latest (readings ++ [(k', v)]) k = if k = k' then some v else latest readings k := by
  rw [latest, List.reverse_concat, List.lookup_cons]
  by_cases h : k = k'
  · rw [if_pos h, beq_iff_eq.2 h]
  · rw [if_neg h, beq_eq_false_iff_ne.2 h]
    rfl

variable (measure : V → Nat)

def level (readings : List (K × V)) (k : K) : Nat := ((latest readings k).map measure).getD 0

/-- No reading is below an earlier one of its key. -/
def Grows (readings : List (K × V)) : Prop :=
  readings.Pairwise fun earlier later => earlier.1 = later.1 → measure earlier.2 ≤ measure later.2

variable {measure} {readings readings' : List (K × V)}

theorem level_concat (readings : List (K × V)) (k' : K) (v : V) (k : K) :
    level measure (readings ++ [(k', v)]) k =
      if k = k' then measure v else level measure readings k := by
  rw [level, latest_concat]
  split <;> rfl

omit [DecidableEq K] in
theorem Grows.sublist (h : Grows measure readings') (hsub : readings.Sublist readings') :
    Grows measure readings :=
  List.Pairwise.sublist hsub h

theorem Grows.le_level (h : Grows measure readings) {k : K} {v : V} (hmem : (k, v) ∈ readings) :
    measure v ≤ level measure readings k := by
  induction readings using List.reverseRecOn with
  | nil => cases hmem
  | append_singleton readings last ih =>
    obtain ⟨hbefore, -, hlast⟩ := List.pairwise_append.1 h
    rw [level_concat]
    rcases List.mem_append.1 hmem with hmem | hmem
    · split
      · next hk => exact hlast (k, v) hmem last List.mem_cons_self hk
      · exact ih hbefore hmem
    · cases List.mem_singleton.1 hmem
      rw [if_pos rfl]

theorem mem_of_latest {k : K} {v : V} (h : latest readings k = some v) : (k, v) ∈ readings := by
  obtain ⟨before, after, heq, -⟩ := List.lookup_eq_some_iff.1 h
  rw [← List.mem_reverse, heq]
  exact List.mem_append_right before List.mem_cons_self

theorem Grows.level_le_of_sublist (h : Grows measure readings') (hsub : readings.Sublist readings')
    (k : K) : level measure readings k ≤ level measure readings' k := by
  cases hlatest : latest readings k with
  | none =>
    rw [level, hlatest]
    exact Nat.zero_le _
  | some v =>
    rw [level, hlatest]
    exact h.le_level (hsub.subset (mem_of_latest hlatest))

theorem Grows.le_of_concat {k : K} {v : V} (h : Grows measure (readings ++ [(k, v)])) :
    level measure readings k ≤ measure v := by
  have hlevel := h.level_le_of_sublist (List.sublist_append_left readings [(k, v)]) k
  rwa [level_concat, if_pos rfl] at hlevel

variable (measure) (chosen : K → Prop) [DecidablePred chosen]

/-- What the chosen keys of some readings have come to together. -/
def reported (readings : List (K × V)) : Nat :=
  ∑ k ∈ (readings.map Prod.fst).toFinset with chosen k, level measure readings k

variable {measure chosen}

theorem level_of_not_mem {k : K} (h : k ∉ readings.map Prod.fst) : level measure readings k = 0 := by
  cases hlatest : latest readings k with
  | none => rw [level, hlatest, Option.map_none, Option.getD_none]
  | some v => exact absurd (List.mem_map_of_mem (mem_of_latest hlatest)) h

theorem reported_eq_sum {keys : Finset K} (h : ∀ k ∈ readings.map Prod.fst, k ∈ keys) :
    reported measure chosen readings = ∑ k ∈ keys with chosen k, level measure readings k := by
  refine Finset.sum_subset (Finset.filter_subset_filter _ ?_) ?_
  · exact fun k hk => h k (List.mem_toFinset.1 hk)
  · intro k hk hnot
    refine level_of_not_mem fun hmem => hnot ?_
    exact Finset.mem_filter.2 ⟨List.mem_toFinset.2 hmem, (Finset.mem_filter.1 hk).2⟩

@[simp] theorem reported_nil : reported measure chosen ([] : List (K × V)) = 0 := rfl

theorem reported_concat {k : K} {v : V} (h : level measure readings k ≤ measure v) :
    reported measure chosen (readings ++ [(k, v)]) = reported measure chosen readings +
      if chosen k then measure v - level measure readings k else 0 := by
  let keys := insert k (readings.map Prod.fst).toFinset
  have hafter : ∀ k' ∈ (readings ++ [(k, v)]).map Prod.fst, k' ∈ keys := by
    intro k' hk'
    simpa [keys, or_comm] using hk'
  have hbefore : ∀ k' ∈ readings.map Prod.fst, k' ∈ keys := by
    intro k' hk'
    exact Finset.mem_insert_of_mem (List.mem_toFinset.2 hk')
  rw [reported_eq_sum hafter, reported_eq_sum hbefore]
  by_cases hchosen : chosen k
  · have hk : k ∈ keys.filter chosen := Finset.mem_filter.2 ⟨Finset.mem_insert_self _ _, hchosen⟩
    have hothers : ∀ k' ∈ (keys.filter chosen).erase k,
        level measure (readings ++ [(k, v)]) k' = level measure readings k' := by
      intro k' hk'
      rw [level_concat, if_neg (Finset.ne_of_mem_erase hk')]
    rw [if_pos hchosen, ← Finset.add_sum_erase _ (level measure (readings ++ [(k, v)])) hk,
      ← Finset.add_sum_erase _ (level measure readings) hk, level_concat, if_pos rfl,
      Finset.sum_congr rfl hothers, Nat.add_right_comm, Nat.add_sub_cancel' h]
  · rw [if_neg hchosen, Nat.add_zero]
    refine Finset.sum_congr rfl ?_
    intro k' hk'
    have hne : k' ≠ k := fun heq => hchosen (heq ▸ (Finset.mem_filter.1 hk').2)
    rw [level_concat, if_neg hne]

/-- Some of the readings sum to less than all of them, unless every chosen key got its last
reading through. -/
theorem Grows.reported_le_of_sublist (h : Grows measure readings')
    (hsub : readings.Sublist readings') :
    reported measure chosen readings ≤ reported measure chosen readings' ∧
      (reported measure chosen readings = reported measure chosen readings' ↔
        ∀ k, chosen k → level measure readings k = level measure readings' k) := by
  have hkeys : ∀ k ∈ readings.map Prod.fst, k ∈ (readings'.map Prod.fst).toFinset :=
    fun k hk => List.mem_toFinset.2 ((hsub.map Prod.fst).subset hk)
  rw [reported_eq_sum hkeys]
  have hle : ∀ k ∈ (readings'.map Prod.fst).toFinset.filter chosen,
      level measure readings k ≤ level measure readings' k :=
    fun k _ => h.level_le_of_sublist hsub k
  refine ⟨Finset.sum_le_sum hle, ?_⟩
  rw [reported, Finset.sum_eq_sum_iff_of_le hle]
  constructor
  · intro heq k hchosen
    by_cases hmem : k ∈ readings'.map Prod.fst
    · exact heq k (Finset.mem_filter.2 ⟨List.mem_toFinset.2 hmem, hchosen⟩)
    · have hnot : k ∉ readings.map Prod.fst := fun hk => hmem ((hsub.map Prod.fst).subset hk)
      rw [level_of_not_mem hmem, level_of_not_mem hnot]
  · exact fun heq k hk => heq k (Finset.mem_filter.1 hk).2

end ControlPlane.Cumulative
