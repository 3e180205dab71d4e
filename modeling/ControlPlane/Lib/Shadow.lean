import ControlPlane.Lib.LruCache

/-! Two caches of one capacity, the second of which holds just those entries of the first that
belong to somebody.  A push that evicts nothing from the first evicts nothing from the second. -/

namespace ControlPlane

open Recency (keys)

namespace LruCache

open LawfulLruCache

variable {C : Type → Type → Type} [LruCache C] {K V : Type} [DecidableEq K]

def Fits (c : C K V) (k : K) : Prop := (peek c k).isSome ∨ len c < cap c

variable [LawfulLruCache C]

theorem push_snd_eq_none_iff {c : C K V} {k : K} (h : peek c k = none) (v : V) :
    (push c k v).2 = none ↔ len c < cap c := by
  rw [peek_eq] at h
  rw [push_snd, len]
  rcases Recency.push_cases (cap c) k v (iter c) (cap_pos c) with
    ⟨_, hsome, _⟩ | ⟨_, hlen, hp⟩ | ⟨_, hlen, kept, e, _, hp⟩
  · rw [h] at hsome
    cases hsome
  · simp [hp, hlen]
  · simp [hp, hlen]

theorem Fits.peek_push {c : C K V} {k : K} (h : Fits c k) (v : V) (x : K) :
    peek (push c k v).1 x = if x = k then some v else peek c x := by
  by_cases hx : x = k
  · rw [hx, if_pos rfl, peek_push_self]
  · rw [if_neg hx]
    cases hk : peek c k with
    | none =>
      apply peek_push_of_none hk hx
      rw [push_snd_eq_none_iff hk]
      exact h.resolve_left (by simp [hk])
    | some old =>
      rw [peek_eq] at hk
      rw [peek_eq, iter_push, peek_eq]
      rcases Recency.push_cases (cap c) k v (iter c) (cap_pos c) with
        ⟨_, _, hp⟩ | ⟨hnone, _⟩ | ⟨hnone, _⟩
      · rw [hp, Recency.find_put_of_ne hx]
      · rw [hk] at hnone
        cases hnone
      · rw [hk] at hnone
        cases hnone

end LruCache

open LruCache (peek push modify getMut iter cap len Fits)

structure Apart {C : Type → Type → Type} [LruCache C] {K V : Type} [DecidableEq K]
    (own : K → Prop) (before after : C K V) : Prop where
  cap : cap after = cap before
  kept : ∀ k, own k → peek after k = peek before k

namespace Apart

variable {C : Type → Type → Type} [LruCache C] {K V : Type} [DecidableEq K] {own : K → Prop}
  {a b c : C K V}

theorem refl (own : K → Prop) (c : C K V) : Apart own c c := ⟨rfl, fun _ _ => rfl⟩

theorem trans (h : Apart own a b) (h' : Apart own b c) : Apart own a c where
  cap := h'.cap.trans h.cap
  kept k hk := (h'.kept k hk).trans (h.kept k hk)

variable [LawfulLruCache C]

theorem push {k : K} (hk : ¬own k) (hfits : Fits c k) (v : V) :
    Apart own c (push c k v).1 where
  cap := LawfulLruCache.cap_push c k v
  kept x hx := by
    have hne : x ≠ k := by
      rintro rfl
      exact hk hx
    rw [hfits.peek_push, if_neg hne]

theorem modify {k : K} (hk : ¬own k) (f : V → V) : Apart own c (modify c k f) where
  cap := LruCache.cap_modify c k f
  kept x hx := by
    have hne : x ≠ k := by
      rintro rfl
      exact hk hx
    rw [LruCache.peek_modify_of_ne hne]

theorem write {k : K} (hk : ¬own k) {v : V} {write : V → C K V}
    (hw : getMut c k = some (v, write)) (w : V) : Apart own c (write w) where
  cap := LawfulLruCache.cap_write c k hw w
  kept x hx := by
    have hne : x ≠ k := by
      rintro rfl
      exact hk hx
    rw [LruCache.peek_write hw, if_neg hne]

end Apart

/-- The second cache holds the entries of the first under somebody's keys, and no other. -/
structure Shadow {C : Type → Type → Type} [LruCache C] {K V : Type} [DecidableEq K]
    (own : K → Prop) (full solo : C K V) : Prop where
  cap : cap solo = cap full
  kept : ∀ k, own k → peek solo k = peek full k
  foreign : ∀ k, ¬own k → peek solo k = none

namespace Shadow

variable {C : Type → Type → Type} [LruCache C] [LawfulLruCache C] {K V : Type} [DecidableEq K]
  {own : K → Prop} {full solo : C K V}

theorem new (own : K → Prop) (n : ℕ+) :
    Shadow own (LruCache.new n : C K V) (LruCache.new n) where
  cap := rfl
  kept _ _ := rfl
  foreign k _ := LruCache.peek_new n k

omit [LawfulLruCache C] in
theorem apart {full' : C K V} (h : Shadow own full solo) (hfull : Apart own full full') :
    Shadow own full' solo where
  cap := h.cap.trans hfull.cap.symm
  kept k hk := (h.kept k hk).trans (hfull.kept k hk).symm
  foreign := h.foreign

theorem len_le (h : Shadow own full solo) : len solo ≤ len full := by
  have hsubset : keys (iter solo) ⊆ keys (iter full) := by
    intro k hk
    rw [← LruCache.isSome_peek] at hk ⊢
    by_cases hown : own k
    · rwa [← h.kept k hown]
    · rw [h.foreign k hown] at hk
      cases hk
  have hle := (List.subperm_of_subset (LawfulLruCache.nodup_keys solo) hsubset).length_le
  simpa [len, keys] using hle

theorem mem_iter_iff (h : Shadow own full solo) {e : K × V} :
    e ∈ iter solo ↔ own e.1 ∧ e ∈ iter full := by
  rw [← LruCache.peek_eq_some_iff, ← LruCache.peek_eq_some_iff]
  by_cases hown : own e.1
  · rw [h.kept e.1 hown, and_iff_right hown]
  · simp [h.foreign e.1 hown, hown]

theorem countP_eq (h : Shadow own full solo) {p : K × V → Bool}
    (hp : ∀ e ∈ iter full, p e → own e.1) : (iter solo).countP p = (iter full).countP p := by
  rw [List.countP_eq_length_filter, List.countP_eq_length_filter]
  apply List.Perm.length_eq
  rw [List.perm_ext_iff_of_nodup]
  · intro e
    rw [List.mem_filter, List.mem_filter, h.mem_iter_iff]
    constructor
    · exact fun ⟨⟨_, he⟩, hpe⟩ => ⟨he, hpe⟩
    · exact fun ⟨he, hpe⟩ => ⟨⟨hp e he hpe, he⟩, hpe⟩
  · exact (List.Nodup.of_map _ (LawfulLruCache.nodup_keys solo)).filter _
  · exact (List.Nodup.of_map _ (LawfulLruCache.nodup_keys full)).filter _

theorem fits (h : Shadow own full solo) {k : K} (hk : own k) (hfits : Fits full k) :
    Fits solo k := by
  rw [Fits, h.kept k hk, h.cap]
  cases hfits with
  | inl hpresent => exact .inl hpresent
  | inr hroom => exact .inr (h.len_le.trans_lt hroom)

theorem push (h : Shadow own full solo) {k : K} (hk : own k) (hfits : Fits full k) (v : V) :
    Shadow own (push full k v).1 (push solo k v).1 where
  cap := by rw [LawfulLruCache.cap_push, LawfulLruCache.cap_push, h.cap]
  kept x hx := by
    rw [hfits.peek_push, (h.fits hk hfits).peek_push]
    split
    · rfl
    · exact h.kept x hx
  foreign x hx := by
    have hne : x ≠ k := by
      rintro rfl
      exact hx hk
    rw [(h.fits hk hfits).peek_push, if_neg hne]
    exact h.foreign x hx

theorem modify (h : Shadow own full solo) (k : K) (f : V → V) :
    Shadow own (modify full k f) (modify solo k f) where
  cap := by rw [LruCache.cap_modify, LruCache.cap_modify, h.cap]
  kept x hx := by
    rw [LruCache.peek_modify, LruCache.peek_modify, h.kept x hx]
  foreign x hx := by
    rw [LruCache.peek_modify, h.foreign x hx]
    simp

theorem write (h : Shadow own full solo) {k : K} {v v' : V} {write write' : V → C K V}
    (hfull : getMut full k = some (v, write)) (hsolo : getMut solo k = some (v', write')) (w : V) :
    Shadow own (write w) (write' w) where
  cap := by rw [LawfulLruCache.cap_write _ _ hfull, LawfulLruCache.cap_write _ _ hsolo, h.cap]
  kept x hx := by
    rw [LruCache.peek_write hfull, LruCache.peek_write hsolo, h.kept x hx]
  foreign x hx := by
    have hne : x ≠ k := by
      rintro rfl
      have hpeek := LruCache.peek_of_getMut hsolo
      rw [h.foreign x hx] at hpeek
      cases hpeek
    rw [LruCache.peek_write hsolo, if_neg hne]
    exact h.foreign x hx

end Shadow

end ControlPlane
