import Mathlib.Data.List.Chain
import Mathlib.Data.List.Perm.Subperm
import Mathlib.Logic.Relation
import Mathlib.Order.Bounds.Basic

/-! The longest chain of a relation from a given element, as a search finds it: one more than the
longest one from an element it is related to. -/

namespace ControlPlane.Chain

open Relation (TransGen)

variable {V : Type} {R : V → V → Prop} {x : V}

def lengths (R : V → V → Prop) (x : V) : Set Nat :=
  {n | ∃ rest, (x :: rest).IsChain R ∧ (x :: rest).length = n}

def Longest (R : V → V → Prop) (x : V) (n : Nat) : Prop := IsGreatest (lengths R x) n

theorem Longest.cons {deepest : Nat}
    (hreached : deepest = 0 ∨ ∃ y, R x y ∧ Longest R y deepest)
    (hbound : ∀ y, R x y → ∃ n, Longest R y n ∧ n ≤ deepest) : Longest R x (deepest + 1) := by
  constructor
  · rcases hreached with rfl | ⟨y, hxy, ⟨rest, hchain, hlength⟩, -⟩
    · exact ⟨[], List.isChain_singleton x, rfl⟩
    · exact ⟨y :: rest, List.isChain_cons_cons.2 ⟨hxy, hchain⟩, congrArg (· + 1) hlength⟩
  · rintro _ ⟨rest, hchain, rfl⟩
    cases rest with
    | nil => exact Nat.le_add_left _ _
    | cons y rest =>
      obtain ⟨hxy, hrest⟩ := List.isChain_cons_cons.1 hchain
      obtain ⟨n, hlongest, hle⟩ := hbound y hxy
      exact Nat.succ_le_succ ((hlongest.2 ⟨rest, hrest, rfl⟩).trans hle)

theorem not_transGen_self (h : Acc (fun b a => R a b) x) : ¬TransGen R x x := by
  intro hself
  have hback : TransGen (fun b a => R a b) x x := Relation.transGen_swap.2 hself
  have hacc : Acc (TransGen fun b a => R a b) x := h.transGen
  clear h hself
  induction hacc with
  | intro x _ ih => exact ih x hback hback

theorem nodup_of_isChain (h : Acc (fun b a => R a b) x) {rest : List V}
    (hchain : (x :: rest).IsChain R) : (x :: rest).Nodup := by
  have hpairs : (x :: rest).Pairwise (TransGen R) :=
    List.isChain_iff_pairwise.1 (hchain.imp fun _ _ => .single)
  induction rest generalizing x with
  | nil => exact List.pairwise_singleton _ x
  | cons y rest ih =>
    obtain ⟨hxy, hrest⟩ := List.isChain_cons_cons.1 hchain
    rw [List.pairwise_cons] at hpairs
    exact List.nodup_cons.2 ⟨fun hmem => not_transGen_self h (hpairs.1 x hmem),
      ih (h.inv hxy) hrest hpairs.2⟩

theorem length_le_of_isChain {all : List V} (h : Acc (fun b a => R a b) x) (hx : x ∈ all)
    (hall : ∀ a b, R a b → b ∈ all) {rest : List V} (hchain : (x :: rest).IsChain R) :
    (x :: rest).length ≤ all.length := by
  refine ((nodup_of_isChain h hchain).subperm fun y hy => ?_).length_le
  induction rest generalizing x with
  | nil => exact List.mem_singleton.1 hy ▸ hx
  | cons z rest ih =>
    obtain ⟨hxz, hrest⟩ := List.isChain_cons_cons.1 hchain
    rcases List.mem_cons.1 hy with rfl | hy
    · exact hx
    · exact ih (h.inv hxz) (hall _ _ hxz) hrest hy

end ControlPlane.Chain
