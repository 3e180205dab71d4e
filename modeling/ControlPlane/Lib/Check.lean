import Mathlib.Data.List.Basic

/-! Checks in sequence: each passes or stops the rest with its error. -/

universe u v

namespace ControlPlane.Check

variable {ε : Type u} {α β : Type v}

theorem bind_eq_ok_iff {x : Except ε α} {f : α → Except ε β} {b : β} :
    (x >>= f) = .ok b ↔ ∃ a, x = .ok a ∧ f a = .ok b := by
  cases x with
  | error e =>
    refine iff_of_false ?_ ?_
    · intro h
      cases h
    · intro h
      obtain ⟨a, ha, -⟩ := h
      cases ha
  | ok a =>
    constructor
    · intro h
      exact ⟨a, rfl, h⟩
    · intro h
      obtain ⟨a', ha, hf⟩ := h
      cases ha
      exact hf

theorem seq_eq_ok_iff {x y : Except ε Unit} :
    (x >>= fun _ => y) = .ok () ↔ x = .ok () ∧ y = .ok () := by
  rw [bind_eq_ok_iff]
  constructor
  · intro h
    obtain ⟨u, hx, hy⟩ := h
    exact ⟨hx, hy⟩
  · intro h
    exact ⟨(), h⟩

theorem guard_eq_ok_iff {p : Prop} [Decidable p] {e : ε} {rest : Unit → Except ε Unit} :
    (if p then throw e >>= rest else rest ()) = .ok () ↔ ¬p ∧ rest () = .ok () := by
  by_cases hp : p
  · rw [if_pos hp]
    refine iff_of_false ?_ ?_
    · intro h
      cases h
    · intro h
      exact h.1 hp
  · rw [if_neg hp]
    exact (and_iff_right hp).symm

theorem last_guard_eq_ok_iff {p : Prop} [Decidable p] {e : ε} :
    (if p then throw e else pure () : Except ε Unit) = .ok () ↔ ¬p := by
  by_cases hp : p
  · rw [if_pos hp]
    refine iff_of_false ?_ (not_not_intro hp)
    intro h
    cases h
  · rw [if_neg hp]
    exact iff_of_true rfl hp

theorem forM_eq_ok_iff {check : α → Except ε Unit} {l : List α} :
    l.forM check = .ok () ↔ ∀ a ∈ l, check a = .ok () := by
  induction l with
  | nil => exact iff_of_true rfl (List.forall_mem_nil _)
  | cons a l ih =>
    rw [List.forM_eq_forM, List.forM_cons, seq_eq_ok_iff, ← List.forM_eq_forM, ih,
      List.forall_mem_cons]

theorem forM_concat_eq_ok_iff {check : α → Except ε Unit} {l : List α} {a : α} :
    (l ++ [a]).forM check = .ok () ↔ l.forM check = .ok () ∧ check a = .ok () := by
  rw [List.forM_eq_forM, List.forM_append, seq_eq_ok_iff, List.forM_cons, seq_eq_ok_iff,
    List.forM_nil]
  exact and_congr_right fun _ => and_iff_left rfl

end ControlPlane.Check
