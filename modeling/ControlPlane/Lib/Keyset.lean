import Mathlib.Data.List.Sort
import Mathlib.Order.Basic

/-! Keyset pagination: the records of a list that descends strictly in a key are handed out in
pages, each one from the first record below the last key of the page before. -/

namespace ControlPlane.Keyset

variable {α κ : Type} [LinearOrder κ] (key : α → κ)

def Descending (records : List α) : Prop := records.Pairwise fun a b => key b < key a

def below (cursor : Option κ) (records : List α) : List α :=
  records.filter fun a => cursor.all fun k => key a < k

def cursorAt (records : List α) (taken : Nat) : Option κ :=
  if taken = 0 then none else (records[taken - 1]?).map key

variable {key} {records : List α}

theorem below_of_descending {front back : List α} {a : α}
    (h : Descending key (front ++ a :: back)) :
    below key (some (key a)) (front ++ a :: back) = back := by
  rw [Descending, List.pairwise_append, List.pairwise_cons] at h
  obtain ⟨-, ⟨hafter, -⟩, hbefore⟩ := h
  rw [below, List.filter_append, List.filter_cons_of_neg (by simp), List.filter_eq_nil_iff.mpr,
    List.filter_eq_self.mpr, List.nil_append]
  · intro b hb
    simpa using hafter b hb
  · intro b hb
    simpa using (hbefore b hb a List.mem_cons_self).le

theorem below_cursorAt (h : Descending key records) {taken : Nat} (hle : taken ≤ records.length) :
    below key (cursorAt key records taken) records = records.drop taken := by
  cases taken with
  | zero => simp [cursorAt, below]
  | succ m =>
    have hlast : cursorAt key records (m + 1) = some (key records[m]) := by
      simp [cursorAt, List.getElem?_eq_getElem (Nat.lt_of_succ_le hle)]
    obtain ⟨front, a, back, hsplit, ha, hback⟩ : ∃ front a back, records = front ++ a :: back ∧
        records[m] = a ∧ records.drop (m + 1) = back :=
      ⟨records.take m, records[m], records.drop (m + 1), by simp, rfl, rfl⟩
    rw [hlast, ha, hback]
    subst hsplit
    exact below_of_descending h

theorem descending_of_nodup (hsorted : records.Pairwise fun a b => key b ≤ key a)
    (hnodup : (records.map key).Nodup) : Descending key records := by
  refine (hsorted.and (List.pairwise_map.mp hnodup)).imp ?_
  rintro a b ⟨hle, hne⟩
  exact lt_of_le_of_ne hle (Ne.symm hne)

end ControlPlane.Keyset
