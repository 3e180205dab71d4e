import Mathlib.Data.List.Infix
import Mathlib.Data.List.Nodup
import Mathlib.Data.List.Lattice

/-! The interface of a bounded broadcast channel and the laws its documentation promises:
a receiver takes the values sent since it subscribed, in the order of the sends, and one that
falls behind by more than the capacity is told how many of them it skipped. -/

namespace ControlPlane

inductive Received (α : Type)
  | message (value : α)
  | lagged (skipped : ℕ)
  | empty
  deriving DecidableEq, Repr

/-- `sent` and `next` are the history of a channel and the position of a receiver in it, which
no program reads. -/
class Broadcast (S : Type → Type) where
  Receiver : Type
  channel : {α : Type} → ℕ → S α
  send : {α : Type} → S α → α → S α
  subscribe : {α : Type} → S α → Receiver
  recv : {α : Type} → S α → Receiver → Received α × Receiver
  sent : {α : Type} → S α → List α
  capacity : {α : Type} → S α → ℕ
  next : Receiver → ℕ

open Broadcast (Receiver channel send subscribe recv sent capacity next)

class LawfulBroadcast (S : Type → Type) [Broadcast S] : Prop where
  sent_channel : ∀ {α : Type} (n : ℕ), sent (channel n : S α) = []
  sent_send : ∀ {α : Type} (c : S α) (a : α), sent (send c a) = sent c ++ [a]
  capacity_pos : ∀ {α : Type} (c : S α), 0 < capacity c
  next_subscribe : ∀ {α : Type} (c : S α), next (subscribe c) = (sent c).length
  recv_empty : ∀ {α : Type} (c : S α) (r : Receiver S), (sent c).length ≤ next r →
    (recv c r).1 = .empty ∧ next (recv c r).2 = next r
  recv_message : ∀ {α : Type} (c : S α) (r : Receiver S) (h : next r < (sent c).length),
    (sent c).length ≤ next r + capacity c →
      (recv c r).1 = .message (sent c)[next r] ∧ next (recv c r).2 = next r + 1
  recv_lagged : ∀ {α : Type} (c : S α) (r : Receiver S),
    next r + capacity c < (sent c).length →
      (recv c r).1 = .lagged ((sent c).length - capacity c - next r) ∧
        next (recv c r).2 = (sent c).length - capacity c

namespace Broadcast

variable {α : Type}

def messages (taken : List (Received α)) : List α :=
  taken.filterMap fun
    | .message value => some value
    | _ => none

/-- The receiver took `taken` on its way from position `i` to position `j` of the history. -/
def Took (history : List α) (i : ℕ) : List (Received α) → ℕ → Prop
  | [], j => i = j
  | .message value :: taken, j => history[i]? = some value ∧ Took history (i + 1) taken j
  | .lagged skipped :: taken, j => Took history (i + skipped) taken j
  | .empty :: taken, j => Took history i taken j

def Hands (i : ℕ) : List (Received α) → ℕ → α → Prop
  | [], _, _ => False
  | .message value :: taken, k, a => (k = i ∧ value = a) ∨ Hands (i + 1) taken k a
  | .lagged skipped :: taken, k, a => Hands (i + skipped) taken k a
  | .empty :: taken, k, a => Hands i taken k a

def Skips (i : ℕ) : List (Received α) → ℕ → Prop
  | [], _ => False
  | .message _ :: taken, k => Skips (i + 1) taken k
  | .lagged skipped :: taken, k => (i ≤ k ∧ k < i + skipped) ∨ Skips (i + skipped) taken k
  | .empty :: taken, k => Skips i taken k

section Took

variable {history : List α} {i j k : ℕ} {taken more : List (Received α)}

theorem Took.append (h : Took history i taken j) (h' : Took history j more k) :
    Took history i (taken ++ more) k := by
  induction taken generalizing i with
  | nil => exact (h : i = j) ▸ h'
  | cons e taken ih =>
    cases e with
    | message value => exact ⟨h.1, ih h.2⟩
    | lagged skipped => exact ih h
    | empty => exact ih h

theorem Took.grow (h : Took history i taken j) (later : List α) :
    Took (history ++ later) i taken j := by
  induction taken generalizing i with
  | nil => exact h
  | cons e taken ih =>
    cases e with
    | message value =>
      refine ⟨?_, ih h.2⟩
      rw [List.getElem?_append_left (List.getElem?_eq_some_iff.mp h.1).1]
      exact h.1
    | lagged skipped => exact ih h
    | empty => exact ih h

theorem Took.le (h : Took history i taken j) : i ≤ j := by
  induction taken generalizing i with
  | nil => exact (h : i = j).le
  | cons e taken ih =>
    cases e with
    | message value => exact (Nat.le_succ i).trans (ih h.2)
    | lagged skipped => exact (Nat.le_add_right i skipped).trans (ih h)
    | empty => exact ih h

theorem Took.reached (h : Took history i taken j) {a : α} (ha : history[k]? = some a) (hi : i ≤ k)
    (hj : k < j) : Hands i taken k a ∨ Skips i taken k := by
  induction taken generalizing i with
  | nil =>
    obtain rfl : i = j := h
    omega
  | cons e taken ih =>
    cases e with
    | message value =>
      rcases hi.eq_or_lt with rfl | hlt
      · exact .inl (.inl ⟨rfl, Option.some.inj (h.1.symm.trans ha)⟩)
      · exact (ih h.2 hlt).imp .inr fun hs => hs
    | lagged skipped =>
      rcases Nat.lt_or_ge k (i + skipped) with hlt | hge
      · exact .inr (.inl ⟨hi, hlt⟩)
      · exact (ih h hge).imp (fun hh => hh) .inr
    | empty => exact ih h hi

theorem Hands.le {a : α} (h : Hands i taken k a) : i ≤ k := by
  induction taken generalizing i with
  | nil => cases h
  | cons e taken ih =>
    cases e with
    | message value =>
      rcases h with ⟨rfl, -⟩ | h
      · exact le_rfl
      · exact (Nat.le_succ i).trans (ih h)
    | lagged skipped => exact (Nat.le_add_right i skipped).trans (ih h)
    | empty => exact ih h

theorem Skips.le (h : Skips i taken k) : i ≤ k := by
  induction taken generalizing i with
  | nil => cases h
  | cons e taken ih =>
    cases e with
    | message value => exact (Nat.le_succ i).trans (ih h)
    | lagged skipped =>
      rcases h with ⟨hi, -⟩ | h
      · exact hi
      · exact (Nat.le_add_right i skipped).trans (ih h)
    | empty => exact ih h

/-- Without a lag, what was taken is the stretch of the history between the positions. -/
theorem Took.messages_eq (h : Took history i taken j) (hlag : ∀ n, .lagged n ∉ taken) :
    messages taken = (history.drop i).take (j - i) := by
  induction taken generalizing i with
  | nil =>
    obtain rfl : i = j := h
    simp [messages]
  | cons e taken ih =>
    have hrest : ∀ n, .lagged n ∉ taken := fun n hn => hlag n (List.mem_cons_of_mem _ hn)
    cases e with
    | message value =>
      obtain ⟨hi, hvalue⟩ := List.getElem?_eq_some_iff.mp h.1
      have hj : j - i = j - (i + 1) + 1 := by
        have := Took.le h.2
        omega
      have hmessages : messages (.message value :: taken) = value :: messages taken := rfl
      rw [hmessages, ih h.2 hrest, List.drop_eq_getElem_cons hi, hj, List.take_succ_cons, hvalue]
    | lagged skipped => exact absurd List.mem_cons_self (hlag skipped)
    | empty => exact ih h hrest

end Took

section Recv

variable {S : Type → Type} [Broadcast S] [LawfulBroadcast S]

open LawfulBroadcast

theorem took_recv (c : S α) (r : Receiver S) :
    Took (sent c) (next r) [(recv c r).1] (next (recv c r).2) ∧
      (next r ≤ (sent c).length → next (recv c r).2 ≤ (sent c).length) := by
  rcases Nat.lt_or_ge (next r) (sent c).length with hr | hr
  · rcases Nat.lt_or_ge (next r + capacity c) (sent c).length with hcap | hcap
    · obtain ⟨htaken, hnext⟩ := recv_lagged c r hcap
      rw [htaken, hnext]
      refine ⟨?_, fun _ => Nat.sub_le _ _⟩
      change next r + _ = _
      omega
    · obtain ⟨htaken, hnext⟩ := recv_message c r hr hcap
      rw [htaken, hnext]
      exact ⟨⟨List.getElem?_eq_getElem hr, rfl⟩, fun _ => hr⟩
  · obtain ⟨htaken, hnext⟩ := recv_empty c r hr
    rw [htaken, hnext]
    exact ⟨rfl, fun h => h⟩

theorem next_lt_recv {c : S α} {r : Receiver S} (h : next r < (sent c).length) :
    next r < next (recv c r).2 := by
  rcases Nat.lt_or_ge (next r + capacity c) (sent c).length with hcap | hcap
  · rw [(recv_lagged c r hcap).2]
    omega
  · rw [(recv_message c r h hcap).2]
    exact Nat.lt_succ_self _

theorem recv_of_behind {c : S α} {r : Receiver S} (h : next r < (sent c).length) :
    (∃ value, (recv c r).1 = .message value) ∨ ∃ skipped, (recv c r).1 = .lagged skipped := by
  rcases Nat.lt_or_ge (next r + capacity c) (sent c).length with hcap | hcap
  · exact .inr ⟨_, (recv_lagged c r hcap).1⟩
  · exact .inl ⟨_, (recv_message c r h hcap).1⟩

end Recv

end Broadcast

structure LogChannel (α : Type) where
  history : List α
  bound : ℕ
  deriving DecidableEq, Repr

namespace LogChannel

variable {α : Type}

def recv (c : LogChannel α) (r : ℕ) : Received α × ℕ :=
  if r + (c.bound + 1) < c.history.length then
    (.lagged (c.history.length - (c.bound + 1) - r), c.history.length - (c.bound + 1))
  else match c.history[r]? with
    | some value => (.message value, r + 1)
    | none => (.empty, r)

theorem recv_of_behind {c : LogChannel α} {r : ℕ} (h : r + (c.bound + 1) < c.history.length) :
    c.recv r =
      (.lagged (c.history.length - (c.bound + 1) - r), c.history.length - (c.bound + 1)) := by
  rw [recv, if_pos h]

theorem recv_of_lt {c : LogChannel α} {r : ℕ} (h : r < c.history.length)
    (hbound : c.history.length ≤ r + (c.bound + 1)) :
    c.recv r = (.message c.history[r], r + 1) := by
  rw [recv, if_neg (Nat.not_lt.mpr hbound), List.getElem?_eq_getElem h]

theorem recv_of_le {c : LogChannel α} {r : ℕ} (h : c.history.length ≤ r) :
    c.recv r = (.empty, r) := by
  have hbound : ¬r + (c.bound + 1) < c.history.length := by omega
  rw [recv, if_neg hbound, List.getElem?_eq_none h]

end LogChannel

instance : Broadcast LogChannel where
  Receiver := ℕ
  channel n := ⟨[], n⟩
  send c a := { c with history := c.history ++ [a] }
  subscribe c := c.history.length
  recv c r := c.recv r
  sent c := c.history
  capacity c := c.bound + 1
  next r := r

instance : LawfulBroadcast LogChannel where
  sent_channel _ := rfl
  sent_send _ _ := rfl
  capacity_pos c := Nat.succ_pos c.bound
  next_subscribe _ := rfl
  recv_empty _ _ h := Prod.ext_iff.mp (LogChannel.recv_of_le h)
  recv_message _ _ h hbound := Prod.ext_iff.mp (LogChannel.recv_of_lt h hbound)
  recv_lagged _ _ h := Prod.ext_iff.mp (LogChannel.recv_of_behind h)

end ControlPlane
