import Mathlib.Data.PNat.Basic
import ControlPlane.Lib.Recency

/-! The interface of an LRU cache and the laws its documentation promises.  Programs are
written against `LruCache` and proved for every implementation that satisfies
`LawfulLruCache`; `RecencyCache` is the implementation that stores the recency list itself. -/

namespace ControlPlane

open Recency (find touch put keys)

/-- `getMut` returns the value with the write through the reference; the entry is promoted
whether or not anything is written. -/
class LruCache (C : Type → Type → Type) where
  new : {K V : Type} → [DecidableEq K] → ℕ+ → C K V
  cap : {K V : Type} → C K V → Nat
  iter : {K V : Type} → C K V → List (K × V)
  peek : {K V : Type} → [DecidableEq K] → C K V → K → Option V
  get : {K V : Type} → [DecidableEq K] → C K V → K → Option V × C K V
  getMut : {K V : Type} → [DecidableEq K] → C K V → K → Option (V × (V → C K V))
  push : {K V : Type} → [DecidableEq K] → C K V → K → V → C K V × Option (K × V)

class LawfulLruCache (C : Type → Type → Type) [LruCache C] : Prop where
  nodup_keys : ∀ {K V : Type} (c : C K V), (keys (LruCache.iter c)).Nodup
  length_le_cap : ∀ {K V : Type} (c : C K V), (LruCache.iter c).length ≤ LruCache.cap c
  cap_pos : ∀ {K V : Type} (c : C K V), 0 < LruCache.cap c
  iter_new : ∀ {K V : Type} [DecidableEq K] (n : ℕ+), LruCache.iter (LruCache.new n : C K V) = []
  cap_new : ∀ {K V : Type} [DecidableEq K] (n : ℕ+), LruCache.cap (LruCache.new n : C K V) = n
  peek_eq : ∀ {K V : Type} [DecidableEq K] (c : C K V) (k : K),
    LruCache.peek c k = find k (LruCache.iter c)
  get_fst : ∀ {K V : Type} [DecidableEq K] (c : C K V) (k : K),
    (LruCache.get c k).1 = find k (LruCache.iter c)
  iter_get : ∀ {K V : Type} [DecidableEq K] (c : C K V) (k : K),
    LruCache.iter (LruCache.get c k).2 = touch k (LruCache.iter c)
  cap_get : ∀ {K V : Type} [DecidableEq K] (c : C K V) (k : K),
    LruCache.cap (LruCache.get c k).2 = LruCache.cap c
  getMut_fst : ∀ {K V : Type} [DecidableEq K] (c : C K V) (k : K),
    (LruCache.getMut c k).map Prod.fst = find k (LruCache.iter c)
  iter_write : ∀ {K V : Type} [DecidableEq K] (c : C K V) (k : K) {v : V} {write : V → C K V},
    LruCache.getMut c k = some (v, write) → ∀ w, LruCache.iter (write w) = put k w (LruCache.iter c)
  cap_write : ∀ {K V : Type} [DecidableEq K] (c : C K V) (k : K) {v : V} {write : V → C K V},
    LruCache.getMut c k = some (v, write) → ∀ w, LruCache.cap (write w) = LruCache.cap c
  iter_push : ∀ {K V : Type} [DecidableEq K] (c : C K V) (k : K) (v : V),
    LruCache.iter (LruCache.push c k v).1 =
      (Recency.push (LruCache.cap c) k v (LruCache.iter c)).1
  push_snd : ∀ {K V : Type} [DecidableEq K] (c : C K V) (k : K) (v : V),
    (LruCache.push c k v).2 = (Recency.push (LruCache.cap c) k v (LruCache.iter c)).2
  cap_push : ∀ {K V : Type} [DecidableEq K] (c : C K V) (k : K) (v : V),
    LruCache.cap (LruCache.push c k v).1 = LruCache.cap c

namespace LruCache

open LawfulLruCache

variable {C : Type → Type → Type} [LruCache C] {K V : Type}

def len (c : C K V) : Nat := (iter c).length

variable [DecidableEq K]

def modify (c : C K V) (k : K) (f : V → V) : C K V :=
  match getMut c k with
  | some (v, write) => write (f v)
  | none => c

variable [LawfulLruCache C]

theorem peek_eq_some_iff {c : C K V} {k : K} {v : V} : peek c k = some v ↔ (k, v) ∈ iter c := by
  rw [peek_eq, Recency.find_eq_some_iff (nodup_keys c)]

theorem peek_eq_none_iff {c : C K V} {k : K} : peek c k = none ↔ k ∉ keys (iter c) := by
  rw [peek_eq, Recency.find_eq_none_iff]

theorem isSome_peek {c : C K V} {k : K} : (peek c k).isSome ↔ k ∈ keys (iter c) := by
  rw [← not_iff_not, Bool.not_eq_true, Option.isSome_eq_false_iff, Option.isNone_iff_eq_none,
    peek_eq_none_iff]

@[simp] theorem peek_new (n : ℕ+) (k : K) : peek (new n : C K V) k = none := by
  rw [peek_eq_none_iff, iter_new]
  simp

theorem getMut_of_peek_none {c : C K V} {k : K} (h : peek c k = none) : getMut c k = none := by
  rw [peek_eq, ← getMut_fst] at h
  simpa using h

theorem peek_of_getMut_none {c : C K V} {k : K} (h : getMut c k = none) : peek c k = none := by
  rw [peek_eq, ← getMut_fst, h]
  rfl

theorem getMut_of_peek_some {c : C K V} {k : K} {v : V} (h : peek c k = some v) :
    ∃ write, getMut c k = some (v, write) := by
  rw [peek_eq, ← getMut_fst, Option.map_eq_some_iff] at h
  obtain ⟨⟨_, write⟩, hw, rfl⟩ := h
  exact ⟨write, hw⟩

theorem peek_of_getMut {c : C K V} {k : K} {v : V} {write : V → C K V}
    (h : getMut c k = some (v, write)) : peek c k = some v := by
  rw [peek_eq, ← getMut_fst, h]
  rfl

theorem peek_write {c : C K V} {k : K} {v : V} {write : V → C K V}
    (h : getMut c k = some (v, write)) (w : V) (x : K) :
    peek (write w) x = if x = k then some w else peek c x := by
  rw [peek_eq, iter_write c k h]
  by_cases hx : x = k
  · subst hx
    rw [if_pos rfl, Recency.find_put_self]
  · rw [if_neg hx, Recency.find_put_of_ne hx, peek_eq]

theorem modify_of_none {c : C K V} {k : K} (h : peek c k = none) (f : V → V) :
    modify c k f = c := by
  rw [modify, getMut_of_peek_none h]

theorem modify_congr {c : C K V} {k : K} {f g : V → V} (h : ∀ v, peek c k = some v → f v = g v) :
    modify c k f = modify c k g := by
  unfold modify
  split
  · next v write hw => rw [h v (peek_of_getMut hw)]
  · rfl

theorem peek_modify (c : C K V) (k : K) (f : V → V) (x : K) :
    peek (modify c k f) x = if x = k then (peek c x).map f else peek c x := by
  cases h : peek c k with
  | none =>
    rw [modify_of_none h]
    by_cases hx : x = k
    · subst hx
      simp [h]
    · rw [if_neg hx]
  | some v =>
    obtain ⟨write, hw⟩ := getMut_of_peek_some h
    rw [modify, hw]
    simp only [peek_write hw]
    by_cases hx : x = k
    · subst hx
      simp [h]
    · rw [if_neg hx, if_neg hx]

theorem peek_modify_of_ne {k x : K} (h : x ≠ k) (c : C K V) (f : V → V) :
    peek (modify c k f) x = peek c x := by
  rw [peek_modify, if_neg h]

@[simp] theorem cap_modify (c : C K V) (k : K) (f : V → V) : cap (modify c k f) = cap c := by
  unfold modify
  split
  · next v write hw => exact cap_write c k hw _
  · rfl

theorem peek_get (c : C K V) (k x : K) : peek (get c k).2 x = peek c x := by
  rw [peek_eq, iter_get, peek_eq, touch]
  split
  · next v hv =>
    by_cases hx : x = k
    · subst hx
      rw [Recency.find_put_self, hv]
    · rw [Recency.find_put_of_ne hx]
  · rfl

@[simp] theorem peek_push_self (c : C K V) (k : K) (v : V) : peek (push c k v).1 k = some v := by
  rw [peek_eq, iter_push]
  rcases Recency.push_cases (cap c) k v (iter c) (cap_pos c) with
    ⟨_, _, hp⟩ | ⟨_, _, hp⟩ | ⟨_, _, kept, e, _, hp⟩ <;> rw [hp] <;> simp [find, put]

theorem peek_of_peek_push {c : C K V} {k x : K} {v w : V} (hx : x ≠ k)
    (h : peek (push c k v).1 x = some w) : peek c x = some w := by
  rw [peek_eq, iter_push] at h
  rcases Recency.push_cases (cap c) k v (iter c) (cap_pos c) with
    ⟨_, _, hp⟩ | ⟨_, _, hp⟩ | ⟨_, _, kept, e, hl, hp⟩
  · rw [hp, Recency.find_put_of_ne hx] at h
    rw [peek_eq, h]
  · rw [hp, find, if_neg (Ne.symm hx)] at h
    rw [peek_eq, h]
  · rw [hp, find, if_neg (Ne.symm hx)] at h
    rw [peek_eq_some_iff, hl]
    exact List.mem_append_left _ (Recency.mem_of_find h)

theorem push_displaced {c : C K V} {k : K} {v : V} {e : K × V} (hk : peek c k = none)
    (h : (push c k v).2 = some e) :
    e.1 ≠ k ∧ peek c e.1 = some e.2 ∧ peek (push c k v).1 e.1 = none := by
  rw [push_snd] at h
  have hkeys := nodup_keys c
  rcases Recency.push_cases (cap c) k v (iter c) (cap_pos c) with
    ⟨_, hf, _⟩ | ⟨_, _, hp⟩ | ⟨hf, _, kept, e', hl, hp⟩
  · rw [peek_eq, hf] at hk
    simp at hk
  · simp [hp] at h
  · rw [hp, Option.some.injEq] at h
    subst h
    rw [hl, Recency.keys_append] at hkeys
    have hne : e'.1 ≠ k := by
      rintro rfl
      rw [Recency.find_eq_none_iff, hl] at hf
      simp at hf
    have hgone : e'.1 ∉ keys kept := fun hm => by simpa using List.disjoint_of_nodup_append hkeys hm
    refine ⟨hne, ?_, ?_⟩
    · rw [peek_eq_some_iff, hl]
      simp
    · rw [peek_eq_none_iff, iter_push, hp]
      simp [hne, hgone]

theorem peek_push_of_none {c : C K V} {k x : K} {v : V} (hk : peek c k = none) (hx : x ≠ k)
    (h : (push c k v).2 = none) : peek (push c k v).1 x = peek c x := by
  rw [push_snd] at h
  rw [peek_eq, iter_push, peek_eq]
  rcases Recency.push_cases (cap c) k v (iter c) (cap_pos c) with
    ⟨_, hf, _⟩ | ⟨_, _, hp⟩ | ⟨hf, _, kept, e', hl, hp⟩
  · rw [peek_eq, hf] at hk
    simp at hk
  · rw [hp, find, if_neg (Ne.symm hx)]
  · simp [hp] at h

theorem nodup_map_values {A : Type} {c : C K V} {name : V → A} {named : K → A}
    (hnamed : Function.Injective named) (h : ∀ k v, peek c k = some v → name v = named k) :
    (((iter c).map Prod.snd).map name).Nodup := by
  have hkeys : ((iter c).map Prod.snd).map name = (keys (iter c)).map named := by
    rw [keys, List.map_map, List.map_map]
    refine List.map_congr_left fun e he => ?_
    exact h e.1 e.2 (peek_eq_some_iff.2 he)
  rw [hkeys]
  exact (nodup_keys c).map hnamed

theorem len_write {c : C K V} {k : K} {v : V} {write : V → C K V}
    (h : getMut c k = some (v, write)) (w : V) : len (write w) = len c := by
  have hmem : k ∈ keys (iter c) := by
    rw [← isSome_peek, peek_of_getMut h]
    rfl
  rw [len, iter_write c k h, Recency.length_put (nodup_keys c) hmem, len]

@[simp] theorem len_modify (c : C K V) (k : K) (f : V → V) : len (modify c k f) = len c := by
  unfold modify
  split
  · next hw => exact len_write hw _
  · rfl

@[simp] theorem len_get (c : C K V) (k : K) : len (get c k).2 = len c := by
  rw [len, iter_get, touch]
  split
  · next hv => rw [Recency.length_put (nodup_keys c) (Recency.mem_keys_of_find hv), len]
  · rfl

theorem len_push_of_some {c : C K V} {k : K} (h : (peek c k).isSome) (v : V) :
    len (push c k v).1 = len c := by
  rw [len, iter_push]
  rcases Recency.push_cases (cap c) k v (iter c) (cap_pos c) with
    ⟨_, hf, hp⟩ | ⟨hf, _, _⟩ | ⟨hf, _, _⟩
  · rw [hp, Recency.length_put (nodup_keys c) (Recency.mem_keys_of_find hf), len]
  · rw [peek_eq, hf] at h
    cases h
  · rw [peek_eq, hf] at h
    cases h

theorem countP_write {c : C K V} {k : K} {v : V} {write : V → C K V} (p : K × V → Bool)
    (h : getMut c k = some (v, write)) (w : V) :
    (iter (write w)).countP p + (if p (k, v) then 1 else 0) =
      (iter c).countP p + (if p (k, w) then 1 else 0) := by
  have hv : find k (iter c) = some v := by rw [← peek_eq, peek_of_getMut h]
  rw [iter_write c k h, put, List.countP_cons, ← Recency.countP_without p (nodup_keys c) hv]
  omega

theorem countP_push {c : C K V} {k : K} (p : K × V → Bool) (hk : peek c k = none) (v : V) :
    (iter (push c k v).1).countP p + (push c k v).2.toList.countP p =
      (iter c).countP p + (if p (k, v) then 1 else 0) := by
  rw [iter_push, push_snd]
  rcases Recency.push_cases (cap c) k v (iter c) (cap_pos c) with
    ⟨_, hf, _⟩ | ⟨_, _, hp⟩ | ⟨_, _, kept, e, hl, hp⟩
  · rw [peek_eq, hf] at hk
    simp at hk
  · simp [hp, List.countP_cons]
  · rw [hp, hl]
    simp only [List.countP_cons, List.countP_append, Option.toList_some, List.countP_nil]
    omega

theorem len_push_of_none {c : C K V} {k : K} (h : peek c k = none) (v : V) :
    len (push c k v).1 + (push c k v).2.toList.length = len c + 1 := by
  have hcount := countP_push (fun _ => true) h v
  rw [len, len]
  simpa using hcount

/-- The cache holds the most recent keys of a history, in order. -/
def Window (c : C K V) (h : List K) : Prop := keys (iter c) = (Recency.recents h).take (cap c)

namespace Window

variable {c : C K V} {h : List K} {k : K}

theorem start (n : ℕ+) : Window (new n : C K V) [] := by
  rw [Window, iter_new, Recency.recents_nil, List.take_nil]
  rfl

theorem push (w : Window c h) (k : K) (v : V) : Window (push c k v).1 (h ++ [k]) := by
  rw [Window, iter_push, cap_push, Recency.keys_push k v _ (cap_pos c), w]
  exact (Recency.take_recents_use h k (cap_pos c)).symm

theorem get_of_some (w : Window c h) {k : K} {v : V} (hk : peek c k = some v) :
    Window (get c k).2 (h ++ [k]) := by
  have hmem : k ∈ (Recency.recents h).take (cap c) := by
    rw [← w, ← isSome_peek, hk]
    rfl
  rw [peek_eq] at hk
  rw [Window, iter_get, cap_get, touch, hk, Recency.take_recents_use h k (cap_pos c), if_pos hmem,
    ← w]
  exact Recency.keys_put k v _

theorem get_of_none (w : Window c h) {k : K} (hk : peek c k = none) : Window (get c k).2 h := by
  rw [peek_eq] at hk
  rw [Window, iter_get, cap_get, touch, hk]
  exact w

theorem modify_of_some (w : Window c h) {k : K} (hk : (peek c k).isSome) (f : V → V) :
    Window (modify c k f) (h ++ [k]) := by
  obtain ⟨v, hv⟩ := Option.isSome_iff_exists.1 hk
  obtain ⟨write, hw⟩ := getMut_of_peek_some hv
  have hmem : k ∈ (Recency.recents h).take (cap c) := by
    rwa [← w, ← isSome_peek]
  rw [Window, cap_modify, modify, hw]
  dsimp only
  rw [iter_write c k hw, Recency.keys_put, Recency.take_recents_use h k (cap_pos c), if_pos hmem, w]

theorem modify_last (w : Window c (h ++ [k])) (f : V → V) : Window (modify c k f) (h ++ [k]) := by
  have hpresent : (peek c k).isSome :=
    isSome_peek.2 (by
      rw [w, Recency.mem_take_recents_iff]
      exact ⟨h, [], rfl, List.not_mem_nil, cap_pos c⟩)
  have hagain := w.modify_of_some hpresent f
  rw [Window, Recency.recents_concat, Recency.recents_concat, Recency.others_cons_self,
    Recency.others_of_notMem (x := k) (by simp), ← Recency.recents_concat] at hagain
  exact hagain

theorem isLeastRecent_of_displaced (w : Window c h) {c' : C K V} {k x : K}
    (w' : Window c' (h ++ [k])) (hcap : cap c' = cap c) (hx : (peek c x).isSome)
    (hgone : peek c' x = none) : Recency.IsLeastRecent h (keys (iter c)) x := by
  have hmem : x ∈ (Recency.recents h).take (cap c) := by
    rwa [← w, ← isSome_peek]
  have hnot : x ∉ (Recency.recents (h ++ [k])).take (cap c) := by
    rwa [← hcap, ← w', ← peek_eq_none_iff]
  rw [Recency.take_recents_use h k (cap_pos c)] at hnot
  have hlast : (Recency.recents h).take (cap c) = ((Recency.recents h).take (cap c)).dropLast ++ [x] := by
    split at hnot
    · rw [List.mem_cons, not_or, Recency.mem_others, not_and, not_not] at hnot
      exact absurd (hnot.2 hmem) hnot.1
    · split at hnot
      · exact absurd (List.mem_cons_of_mem k hmem) hnot
      · have hne := List.ne_nil_of_mem hmem
        have hsplit := List.dropLast_concat_getLast hne
        rw [← hsplit, List.mem_append, List.mem_singleton] at hmem
        rw [hmem.resolve_left fun hd => hnot (List.mem_cons_of_mem k hd)]
        exact hsplit.symm
  rw [w, hlast]
  exact Recency.isLeastRecent_of_take hlast

theorem isSome_peek_iff (w : Window c h) (x : K) :
    (peek c x).isSome ↔
      ∃ pre post, h = pre ++ x :: post ∧ x ∉ post ∧ post.toFinset.card < cap c := by
  rw [isSome_peek, w, Recency.mem_take_recents_iff]

end Window

end LruCache

/-- The cache that is its own recency list. -/
structure RecencyCache (K V : Type) where
  cap : ℕ+
  entries : List (K × V)
  nodup : (keys entries).Nodup
  bounded : entries.length ≤ cap

namespace RecencyCache

variable {K V : Type} [DecidableEq K]

def put (c : RecencyCache K V) (k : K) (v : V) (h : k ∈ keys c.entries) : RecencyCache K V where
  cap := c.cap
  entries := Recency.put k v c.entries
  nodup := Recency.nodup_put c.nodup v
  bounded := by rw [Recency.length_put c.nodup h]; exact c.bounded

def get (c : RecencyCache K V) (k : K) : Option V × RecencyCache K V :=
  match h : find k c.entries with
  | some v => (some v, c.put k v (Recency.mem_keys_of_find h))
  | none => (none, c)

def getMut (c : RecencyCache K V) (k : K) : Option (V × (V → RecencyCache K V)) :=
  match h : find k c.entries with
  | some v => some (v, fun w => c.put k w (Recency.mem_keys_of_find h))
  | none => none

theorem write_of_getMut {c : RecencyCache K V} {k : K} {v : V} {write : V → RecencyCache K V}
    (h : c.getMut k = some (v, write)) :
    ∃ hk : k ∈ keys c.entries, write = fun w => c.put k w hk := by
  unfold getMut at h
  split at h
  · cases h
    exact ⟨_, rfl⟩
  · cases h

def push (c : RecencyCache K V) (k : K) (v : V) : RecencyCache K V × Option (K × V) :=
  ({ cap := c.cap
     entries := (Recency.push c.cap k v c.entries).1
     nodup := Recency.nodup_push c.cap.pos c.nodup v
     bounded := Recency.length_push_le c.cap.pos c.nodup c.bounded v },
    (Recency.push c.cap k v c.entries).2)

end RecencyCache

instance : LruCache RecencyCache where
  new n := { cap := n, entries := [], nodup := List.nodup_nil, bounded := Nat.zero_le _ }
  cap c := c.cap
  iter c := c.entries
  peek c k := find k c.entries
  get c k := c.get k
  getMut c k := c.getMut k
  push c k v := c.push k v

instance : LawfulLruCache RecencyCache where
  nodup_keys c := c.nodup
  length_le_cap c := c.bounded
  cap_pos c := c.cap.pos
  iter_new _ := rfl
  cap_new _ := rfl
  peek_eq _ _ := rfl
  get_fst c k := by
    change (c.get k).1 = find k c.entries
    unfold RecencyCache.get
    split <;> simp_all
  iter_get c k := by
    change (c.get k).2.entries = touch k c.entries
    unfold RecencyCache.get touch
    split <;> simp_all [RecencyCache.put]
  cap_get c k := by
    change ((c.get k).2.cap : Nat) = c.cap
    unfold RecencyCache.get
    split <;> rfl
  getMut_fst c k := by
    change (c.getMut k).map Prod.fst = find k c.entries
    unfold RecencyCache.getMut
    split <;> simp_all
  iter_write c k v write h w := by
    obtain ⟨hk, rfl⟩ := RecencyCache.write_of_getMut h
    rfl
  cap_write c k v write h w := by
    obtain ⟨hk, rfl⟩ := RecencyCache.write_of_getMut h
    rfl
  iter_push _ _ _ := rfl
  push_snd _ _ _ := rfl
  cap_push _ _ _ := rfl

end ControlPlane
