import ControlPlane.Lib.BTree

/-! Searches that thread a state through a list with a bounded depth of recursion: the loop
invariant, and the number of keys still to be met as the bound. -/

namespace ControlPlane.Traversal

variable {α σ : Type}

/-- A loop that may stop early runs to its end if every step succeeds from the states its
invariant allows; the invariant is about the elements behind the loop. -/
theorem foldlM_invariant {f : σ → α → Option σ} {l : List α} {s : σ} {P : List α → σ → Prop}
    (start : P [] s)
    (step : ∀ pre x post s, l = pre ++ x :: post → P pre s → ∃ s', f s x = some s' ∧ P (pre ++ [x]) s') :
    ∃ s', l.foldlM f s = some s' ∧ P l s' := by
  have run : ∀ post pre s, l = pre ++ post → P pre s →
      ∃ s', post.foldlM f s = some s' ∧ P (pre ++ post) s' := by
    intro post
    induction post with
    | nil => exact fun pre s _ h => ⟨s, rfl, by simpa using h⟩
    | cons x post ih =>
      intro pre s hl h
      obtain ⟨s', hs', hP⟩ := step pre x post s hl h
      obtain ⟨s'', hs'', hP'⟩ := ih (pre ++ [x]) s' (by simpa using hl) hP
      refine ⟨s'', ?_, by simpa using hP'⟩
      rw [List.foldlM_cons, hs']
      exact hs''
  exact run l [] s rfl start

theorem foldlM_some_invariant {f : σ → α → Option σ} {l : List α} {s s' : σ}
    {P : List α → σ → Prop} (h : l.foldlM f s = some s') (start : P [] s)
    (step : ∀ pre x post s s', l = pre ++ x :: post → P pre s → f s x = some s' →
      P (pre ++ [x]) s') : P l s' := by
  have run : ∀ post pre s, l = pre ++ post → P pre s → post.foldlM f s = some s' →
      P (pre ++ post) s' := by
    intro post
    induction post with
    | nil =>
      intro pre s _ hP hrun
      cases hrun
      simpa using hP
    | cons x post ih =>
      intro pre s hl hP hrun
      rw [List.foldlM_cons] at hrun
      obtain ⟨next, hnext, hrest⟩ := Option.bind_eq_some_iff.1 hrun
      simpa using ih (pre ++ [x]) next (by simpa using hl) (step pre x post s next hl hP hnext) hrest
  exact run l [] s rfl start h

section Unseen

variable {K V : Type} [Ord K]

def unseen (all : List K) (seen : BTreeMap K V) : Nat := all.countP fun k => !seen.contains k

variable {all : List K} {seen seen' : BTreeMap K V}

theorem unseen_empty (all : List K) : unseen all (∅ : BTreeMap K V) = all.length := by
  simp [unseen]

theorem unseen_le (h : ∀ k, k ∈ seen → k ∈ seen') : unseen all seen' ≤ unseen all seen := by
  refine List.countP_mono_left fun k _ hk => ?_
  simp only [Bool.not_eq_true', ← Bool.not_eq_true, ← Std.TreeMap.mem_iff_contains] at hk ⊢
  exact fun hm => hk (h k hm)

theorem unseen_lt (h : ∀ k, k ∈ seen → k ∈ seen') {k : K} (hk : k ∈ all) (hnot : k ∉ seen)
    (hin : k ∈ seen') : unseen all seen' < unseen all seen := by
  obtain ⟨pre, post, rfl⟩ := List.append_of_mem hk
  have hpre : unseen pre seen' ≤ unseen pre seen := unseen_le h
  have hpost : unseen post seen' ≤ unseen post seen := unseen_le h
  rw [Std.TreeMap.mem_iff_contains] at hnot hin
  unfold unseen at *
  simp only [List.countP_append, List.countP_cons, hin, hnot]
  simp only [Bool.not_true, Bool.false_eq_true, Bool.not_false, if_true, if_false]
  omega

end Unseen

end ControlPlane.Traversal
