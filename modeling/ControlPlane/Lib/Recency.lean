import Mathlib.Data.List.Basic
import Mathlib.Data.List.Nodup
import Mathlib.Data.List.Dedup
import Mathlib.Data.Finset.Card
import Mathlib.Data.Finset.Dedup

/-! Keyed lists in recency order: the head is the entry used last, and the entry at
the end is the one a full cache gives up.  Nothing here depends on what is stored. -/

universe u v

namespace ControlPlane.Recency

variable {K : Type u} {V : Type v}

def keys (l : List (K × V)) : List K := l.map Prod.fst

@[simp] theorem keys_nil : keys ([] : List (K × V)) = [] := rfl

@[simp] theorem keys_cons (e : K × V) (l : List (K × V)) : keys (e :: l) = e.1 :: keys l := rfl

@[simp] theorem keys_append (l m : List (K × V)) : keys (l ++ m) = keys l ++ keys m := by
  simp [keys]

theorem mem_keys_of_mem {k : K} {v : V} {l : List (K × V)} (h : (k, v) ∈ l) : k ∈ keys l :=
  List.mem_map.mpr ⟨(k, v), h, rfl⟩

theorem exists_last_use {h : List K} {x : K} (hx : x ∈ h) :
    ∃ pre post, h = pre ++ x :: post ∧ x ∉ post := by
  obtain ⟨as, bs, hr, has⟩ := List.eq_append_cons_of_mem (List.mem_reverse.mpr hx)
  refine ⟨bs.reverse, as.reverse, ?_, by simpa using has⟩
  rw [← List.reverse_reverse h, hr]
  simp

variable [DecidableEq K]

def find (k : K) : List (K × V) → Option V
  | [] => none
  | e :: l => if e.1 = k then some e.2 else find k l

def without (k : K) (l : List (K × V)) : List (K × V) := l.filter (fun e => e.1 ≠ k)

def put (k : K) (v : V) (l : List (K × V)) : List (K × V) := (k, v) :: without k l

def touch (k : K) (l : List (K × V)) : List (K × V) :=
  match find k l with
  | some v => put k v l
  | none => l

def push (cap : Nat) (k : K) (v : V) (l : List (K × V)) : List (K × V) × Option (K × V) :=
  match find k l with
  | some old => (put k v l, some (k, old))
  | none => if l.length < cap then ((k, v) :: l, none) else ((k, v) :: l.dropLast, l.getLast?)

def others (x : K) (l : List K) : List K := l.filter (fun y => y ≠ x)

@[simp] theorem others_nil (x : K) : others x [] = [] := rfl

@[simp] theorem others_cons_self (x : K) (l : List K) : others x (x :: l) = others x l := by
  simp [others]

theorem others_cons_of_ne {x y : K} (h : y ≠ x) (l : List K) :
    others x (y :: l) = y :: others x l := by
  simp [others, h]

@[simp] theorem others_append (x : K) (l m : List K) :
    others x (l ++ m) = others x l ++ others x m := by
  simp [others]

@[simp] theorem mem_others {x y : K} {l : List K} : y ∈ others x l ↔ y ∈ l ∧ y ≠ x := by
  simp [others]

theorem nodup_others {x : K} {l : List K} (h : l.Nodup) : (others x l).Nodup := h.filter _

theorem others_of_notMem {x : K} {l : List K} (h : x ∉ l) : others x l = l := by
  rw [others, List.filter_eq_self]
  intro y hy
  simpa using fun hyx : y = x => h (hyx ▸ hy)

theorem find_eq_none_iff {k : K} {l : List (K × V)} : find k l = none ↔ k ∉ keys l := by
  induction l with
  | nil => simp [find]
  | cons e l ih =>
    by_cases h : e.1 = k
    · simp [find, h]
    · simp [find, h, ih, Ne.symm h]

theorem mem_of_find {k : K} {v : V} {l : List (K × V)} (h : find k l = some v) : (k, v) ∈ l := by
  induction l with
  | nil => simp [find] at h
  | cons e l ih =>
    by_cases hk : e.1 = k
    · simp only [find, hk, if_true, Option.some.injEq] at h
      subst hk h
      exact List.mem_cons_self
    · simp only [find, hk, if_false] at h
      exact List.mem_cons_of_mem _ (ih h)

theorem find_of_mem {k : K} {v : V} {l : List (K × V)} (hl : (keys l).Nodup) (h : (k, v) ∈ l) :
    find k l = some v := by
  induction l with
  | nil => simp at h
  | cons e l ih =>
    rw [keys_cons, List.nodup_cons] at hl
    rcases List.mem_cons.mp h with rfl | h
    · simp [find]
    · have hk : e.1 ≠ k := fun hk => hl.1 (hk ▸ mem_keys_of_mem h)
      simp [find, hk, ih hl.2 h]

theorem find_eq_some_iff {k : K} {v : V} {l : List (K × V)} (hl : (keys l).Nodup) :
    find k l = some v ↔ (k, v) ∈ l :=
  ⟨mem_of_find, find_of_mem hl⟩

theorem keys_without (k : K) (l : List (K × V)) :
    keys (without k l) = others k (keys l) := by
  simp [keys, without, others, List.filter_map, Function.comp_def]

theorem without_of_notMem {k : K} {l : List (K × V)} (h : k ∉ keys l) : without k l = l := by
  rw [without, List.filter_eq_self]
  intro e he
  have : e.1 ≠ k := fun hk => h (hk ▸ List.mem_map.mpr ⟨e, he, rfl⟩)
  simpa using this

theorem find_without_of_ne {k x : K} (h : x ≠ k) (l : List (K × V)) :
    find x (without k l) = find x l := by
  induction l with
  | nil => rfl
  | cons e l ih =>
    by_cases hk : e.1 = k
    · have hx : e.1 ≠ x := fun hx => h (hx ▸ hk)
      have hk' : without k (e :: l) = without k l := by simp [without, hk]
      rw [hk', ih, find, if_neg hx]
    · have hk' : without k (e :: l) = e :: without k l := by simp [without, hk]
      rw [hk', find, find, ih]

@[simp] theorem keys_put (k : K) (v : V) (l : List (K × V)) :
    keys (put k v l) = k :: others k (keys l) := by
  rw [put, keys_cons, keys_without]

@[simp] theorem find_put_self (k : K) (v : V) (l : List (K × V)) : find k (put k v l) = some v := by
  simp [put, find]

theorem find_put_of_ne {k x : K} (h : x ≠ k) (v : V) (l : List (K × V)) :
    find x (put k v l) = find x l := by
  rw [put, find, if_neg (Ne.symm h), find_without_of_ne h]

theorem nodup_put {k : K} {l : List (K × V)} (h : (keys l).Nodup) (v : V) :
    (keys (put k v l)).Nodup := by
  rw [keys_put, List.nodup_cons]
  exact ⟨by simp, nodup_others h⟩

theorem length_without {k : K} {l : List (K × V)} (hl : (keys l).Nodup) (h : k ∈ keys l) :
    (without k l).length + 1 = l.length := by
  induction l with
  | nil => simp at h
  | cons e l ih =>
    rw [keys_cons, List.nodup_cons] at hl
    by_cases hk : e.1 = k
    · have hk' : without k (e :: l) = without k l := by simp [without, hk]
      rw [hk', without_of_notMem (hk ▸ hl.1), List.length_cons]
    · have hk' : without k (e :: l) = e :: without k l := by simp [without, hk]
      have h' : k ∈ keys l := by
        rcases List.mem_cons.mp h with h | h
        · exact absurd h.symm hk
        · exact h
      rw [hk', List.length_cons, List.length_cons, ih hl.2 h']

theorem length_put {k : K} {l : List (K × V)} (hl : (keys l).Nodup) (h : k ∈ keys l) (v : V) :
    (put k v l).length = l.length := by
  rw [put, List.length_cons, length_without hl h]

theorem mem_keys_of_find {k : K} {v : V} {l : List (K × V)} (h : find k l = some v) : k ∈ keys l :=
  mem_keys_of_mem (mem_of_find h)

theorem countP_without {k : K} {v : V} {l : List (K × V)} (p : K × V → Bool)
    (hl : (keys l).Nodup) (h : find k l = some v) :
    (without k l).countP p + (if p (k, v) then 1 else 0) = l.countP p := by
  induction l with
  | nil => simp [find] at h
  | cons e l ih =>
    rw [keys_cons, List.nodup_cons] at hl
    by_cases hk : e.1 = k
    · have hv : e = (k, v) := by
        simp only [find, hk, if_true, Option.some.injEq] at h
        exact Prod.ext hk h
      have hk' : without k (e :: l) = without k l := by simp [without, hk]
      rw [hk', without_of_notMem (hk ▸ hl.1), List.countP_cons, hv]
    · have hk' : without k (e :: l) = e :: without k l := by simp [without, hk]
      have h' : find k l = some v := by simpa [find, hk] using h
      rw [hk', List.countP_cons, List.countP_cons, ← ih hl.2 h']
      omega

theorem push_cases (cap : Nat) (k : K) (v : V) (l : List (K × V)) (hcap : 0 < cap) :
    (∃ old, find k l = some old ∧ push cap k v l = (put k v l, some (k, old))) ∨
    (find k l = none ∧ l.length < cap ∧ push cap k v l = ((k, v) :: l, none)) ∨
    (find k l = none ∧ cap ≤ l.length ∧
      ∃ kept e, l = kept ++ [e] ∧ push cap k v l = ((k, v) :: kept, some e)) := by
  cases h : find k l with
  | some old => exact .inl ⟨old, rfl, by simp [push, h]⟩
  | none =>
    by_cases hlen : l.length < cap
    · exact .inr (.inl ⟨rfl, hlen, by simp [push, h, hlen]⟩)
    · have hne : l ≠ [] := by
        rintro rfl
        exact hlen hcap
      refine .inr (.inr ⟨rfl, by omega, l.dropLast, l.getLast hne, ?_, ?_⟩)
      · exact (List.dropLast_concat_getLast hne).symm
      · simp [push, h, hlen, List.getLast?_eq_getLast_of_ne_nil hne]

theorem nodup_push {cap : Nat} {k : K} {l : List (K × V)} (hcap : 0 < cap) (h : (keys l).Nodup)
    (v : V) : (keys (push cap k v l).1).Nodup := by
  rcases push_cases cap k v l hcap with ⟨_, _, hp⟩ | ⟨hk, _, hp⟩ | ⟨hk, _, kept, e, rfl, hp⟩
  · rw [hp]; exact nodup_put h v
  · rw [hp]
    exact List.nodup_cons.mpr ⟨find_eq_none_iff.mp hk, h⟩
  · rw [hp]
    rw [find_eq_none_iff, keys_append, List.mem_append, not_or] at hk
    rw [keys_append] at h
    exact List.nodup_cons.mpr ⟨hk.1, h.of_append_left⟩

theorem length_push_le {cap : Nat} {k : K} {l : List (K × V)} (hcap : 0 < cap)
    (hl : (keys l).Nodup) (h : l.length ≤ cap) (v : V) : (push cap k v l).1.length ≤ cap := by
  rcases push_cases cap k v l hcap with ⟨_, hk, hp⟩ | ⟨_, hlen, hp⟩ | ⟨_, _, kept, e, rfl, hp⟩
  · rw [hp, length_put hl (mem_keys_of_find hk)]; exact h
  · rw [hp]; exact hlen
  · rw [hp]; simpa using h

/-- The distinct keys of a history (oldest use first), the most recently used one at the head. -/
def recents : List K → List K := List.foldl (fun r x => x :: others x r) []

@[simp] theorem recents_nil : recents ([] : List K) = [] := rfl

theorem recents_concat (h : List K) (x : K) : recents (h ++ [x]) = x :: others x (recents h) := by
  simp [recents, List.foldl_append]

theorem mem_recents {h : List K} {x : K} : x ∈ recents h ↔ x ∈ h := by
  induction h using List.reverseRecOn with
  | nil => simp
  | append_singleton h y ih =>
    rw [recents_concat, List.mem_cons, mem_others, ih, List.mem_append, List.mem_singleton]
    by_cases hxy : x = y <;> simp [hxy]

theorem nodup_recents (h : List K) : (recents h).Nodup := by
  induction h using List.reverseRecOn with
  | nil => exact List.nodup_nil
  | append_singleton h y ih =>
    rw [recents_concat, List.nodup_cons]
    exact ⟨by simp, nodup_others ih⟩

theorem recents_split (pre post : List K) (x : K) (hx : x ∉ post) :
    ∃ behind, recents (pre ++ x :: post) = recents post ++ x :: behind := by
  induction post using List.reverseRecOn with
  | nil => exact ⟨_, recents_concat pre x⟩
  | append_singleton post y ih =>
    have hxy : x ≠ y := fun h => hx (by simp [h])
    obtain ⟨behind, hb⟩ := ih (fun h => hx (by simp [h]))
    refine ⟨others y behind, ?_⟩
    rw [← List.cons_append, ← List.append_assoc, recents_concat, hb, recents_concat,
      others_append, others_cons_of_ne hxy, List.cons_append]

theorem length_recents (h : List K) : (recents h).length = h.toFinset.card := by
  rw [← List.toFinset_card_of_nodup (nodup_recents h)]
  congr 1
  ext x
  simp [mem_recents]

def Later (h : List K) (x y : K) : Prop :=
  ∃ pre post, h = pre ++ x :: post ∧ y ∈ pre ∧ y ∉ post

omit [DecidableEq K] in
theorem Later.concat {h : List K} {x y a : K} (hlater : Later h x y) (hy : y ≠ a) :
    Later (h ++ [a]) x y := by
  obtain ⟨pre, post, rfl, hbefore, hafter⟩ := hlater
  refine ⟨pre, post ++ [a], by simp, hbefore, ?_⟩
  simp [hafter, hy]

theorem pairwise_recents (h : List K) : (recents h).Pairwise (Later h) := by
  induction h using List.reverseRecOn with
  | nil => exact List.Pairwise.nil
  | append_singleton h a ih =>
    rw [recents_concat, List.pairwise_cons]
    refine ⟨?_, ?_⟩
    · intro y hy
      exact ⟨h, [], rfl, mem_recents.1 (mem_others.1 hy).1, List.not_mem_nil⟩
    · refine (ih.filter fun y => y ≠ a).imp_of_mem ?_
      intro x y _ hy hlater
      exact hlater.concat (mem_others.1 hy).2

/-- A list of keys is the front of the recency order of a history, cut at a limit. -/
structure MostRecent (h : List K) (limit : Nat) (l : List K) : Prop where
  nodup : l.Nodup
  sorted : l.Pairwise (Later h)
  used : ∀ x ∈ l, x ∈ h
  length : l.length = min limit h.toFinset.card
  latest : ∀ x ∈ l, ∀ y ∈ h, y ∉ l → Later h x y

theorem mostRecent_take (h : List K) (limit : Nat) :
    MostRecent h limit ((recents h).take limit) where
  nodup := (nodup_recents h).sublist (List.take_sublist _ _)
  sorted := (pairwise_recents h).sublist (List.take_sublist _ _)
  used := by
    intro x hx
    exact mem_recents.1 (List.mem_of_mem_take hx)
  length := by rw [List.length_take, length_recents]
  latest := by
    intro x hx y hy hnot
    have hsplit := pairwise_recents h
    rw [← List.take_append_drop limit (recents h), List.pairwise_append] at hsplit
    have hmem := mem_recents.2 hy
    rw [← List.take_append_drop limit (recents h), List.mem_append] at hmem
    exact hsplit.2.2 x hx y (hmem.resolve_left hnot)

theorem others_take {x : K} {l : List K} (hl : l.Nodup) {n : Nat} (h : x ∈ l.take (n + 1)) :
    others x (l.take (n + 1)) = (others x l).take n := by
  induction l generalizing n with
  | nil => simp
  | cons a l ih =>
    rw [List.nodup_cons] at hl
    rw [List.take_succ_cons] at h ⊢
    by_cases hax : a = x
    · subst hax
      have hn : a ∉ l.take n := fun hm => hl.1 (List.mem_of_mem_take hm)
      rw [others_cons_self, others_cons_self, others_of_notMem hn, others_of_notMem hl.1]
    · have hx : x ∈ l.take n := (List.mem_cons.mp h).resolve_left (Ne.symm hax)
      cases n with
      | zero => simp at hx
      | succ n => rw [others_cons_of_ne hax, others_cons_of_ne hax, List.take_succ_cons, ih hl.2 hx]

theorem take_recents_use {cap : Nat} (h : List K) (x : K) (hcap : 0 < cap) :
    (recents (h ++ [x])).take cap =
      if x ∈ (recents h).take cap then x :: others x ((recents h).take cap)
      else if ((recents h).take cap).length < cap then x :: (recents h).take cap
      else x :: ((recents h).take cap).dropLast := by
  obtain ⟨n, rfl⟩ : ∃ n, cap = n + 1 := ⟨cap - 1, by omega⟩
  rw [recents_concat, List.take_succ_cons]
  split
  · next hx => rw [others_take (nodup_recents h) hx]
  · next hx =>
    split
    · next hlen =>
      have hle : (recents h).length ≤ n := by
        rw [List.length_take] at hlen
        omega
      rw [List.take_of_length_le (by omega)] at hx
      rw [others_of_notMem hx, List.take_of_length_le hle, List.take_of_length_le (by omega)]
    · next hlen =>
      have hle : n + 1 ≤ (recents h).length := by
        rw [List.length_take] at hlen
        omega
      have hx' : x ∉ (recents h).take n := fun hm =>
        hx ((List.take_prefix_take_left (Nat.le_succ n)).subset hm)
      have hsplit : others x (recents h) =
          (recents h).take n ++ others x ((recents h).drop n) := by
        conv_lhs => rw [← List.take_append_drop n (recents h)]
        rw [others_append, others_of_notMem hx']
      have hn : ((recents h).take n).length = n := by
        rw [List.length_take]
        omega
      rw [hsplit, List.take_left' hn, List.dropLast_eq_take, List.length_take,
        List.take_take]
      congr 2
      omega

theorem mem_take_recents_split {cap : Nat} {pre post : List K} {x : K} (hx : x ∉ post) :
    x ∈ (recents (pre ++ x :: post)).take cap ↔ post.toFinset.card < cap := by
  obtain ⟨behind, hb⟩ := recents_split pre post x hx
  have hnot : x ∉ recents post := fun hm => hx (mem_recents.mp hm)
  rw [hb, ← length_recents, List.take_append, List.mem_append]
  constructor
  · rintro (hm | hm)
    · exact absurd (List.mem_of_mem_take hm) hnot
    · by_contra hlen
      rw [show cap - (recents post).length = 0 by omega] at hm
      simp at hm
  · intro hlen
    obtain ⟨m, hm⟩ : ∃ m, cap - (recents post).length = m + 1 :=
      ⟨cap - (recents post).length - 1, by omega⟩
    rw [hm, List.take_succ_cons]
    exact .inr List.mem_cons_self

/-- The stack distance: `x` is among the first `cap` recent keys exactly if it was used and
fewer than `cap` distinct other keys were used since. -/
theorem mem_take_recents_iff {cap : Nat} {h : List K} {x : K} :
    x ∈ (recents h).take cap ↔
      ∃ pre post, h = pre ++ x :: post ∧ x ∉ post ∧ post.toFinset.card < cap := by
  constructor
  · intro hx
    obtain ⟨pre, post, rfl, hpost⟩ := exists_last_use (mem_recents.mp (List.mem_of_mem_take hx))
    exact ⟨pre, post, rfl, hpost, (mem_take_recents_split hpost).mp hx⟩
  · rintro ⟨pre, post, rfl, hpost, hcard⟩
    exact (mem_take_recents_split hpost).mpr hcard

def IsLeastRecent (h kept : List K) (x : K) : Prop :=
  ∃ pre post, h = pre ++ x :: post ∧ x ∉ post ∧ ∀ y ∈ kept, y ≠ x → y ∈ post

theorem isLeastRecent_of_take {h ahead : List K} {n : Nat} {x : K}
    (hkeys : (recents h).take n = ahead ++ [x]) : IsLeastRecent h (ahead ++ [x]) x := by
  have hx : x ∈ recents h := by
    refine List.mem_of_mem_take (i := n) ?_
    rw [hkeys]
    simp
  obtain ⟨pre, post, rfl, hpost⟩ := exists_last_use (mem_recents.1 hx)
  refine ⟨pre, post, rfl, hpost, fun y hy hne => ?_⟩
  obtain ⟨behind, hsplit⟩ := recents_split pre post x hpost
  -- Both splits are at the only `x` of the recent keys.
  have htaken : recents (pre ++ x :: post) =
      ahead ++ x :: (recents (pre ++ x :: post)).drop n := by
    conv_lhs => rw [← List.take_append_drop n (recents (pre ++ x :: post)), hkeys]
    rw [List.append_assoc, List.singleton_append]
  have hnodup := nodup_recents (pre ++ x :: post)
  rw [htaken] at hnodup
  have hleft : x ∉ ahead := fun hm =>
    (List.nodup_append.1 hnodup).2.2 x hm x List.mem_cons_self rfl
  have hright : x ∉ (recents (pre ++ x :: post)).drop n :=
    (List.nodup_cons.1 hnodup.of_append_right).1
  have hahead : ahead = recents post :=
    ((List.append_cons_inj_of_notMem hleft hright).1 (htaken.symm.trans hsplit)).1
  rw [← mem_recents, ← hahead]
  rcases List.mem_append.1 hy with hy | hy
  · exact hy
  · exact absurd (List.mem_singleton.1 hy) hne

theorem keys_push {cap : Nat} (k : K) (v : V) (l : List (K × V)) (hcap : 0 < cap) :
    keys (push cap k v l).1 =
      if k ∈ keys l then k :: others k (keys l)
      else if (keys l).length < cap then k :: keys l
      else k :: (keys l).dropLast := by
  have hlen : (keys l).length = l.length := List.length_map _
  rcases push_cases cap k v l hcap with ⟨_, hf, hp⟩ | ⟨hf, hlt, hp⟩ | ⟨hf, hle, kept, e, rfl, hp⟩
  · rw [if_pos (mem_keys_of_find hf), hp, keys_put]
  · rw [if_neg (find_eq_none_iff.mp hf), if_pos (hlen ▸ hlt), hp, keys_cons]
  · rw [if_neg (find_eq_none_iff.mp hf), if_neg (by omega), hp, keys_cons, keys_append]
    simp

end ControlPlane.Recency
