import Mathlib.Data.List.Induction
import Mathlib.Order.Lattice

/-! One value written by a history of stamped writes, oldest arrival first: the write that
arrived last against the one with the greatest stamp. -/

namespace ControlPlane.Register

variable {T V : Type} [LinearOrder T]

def keepNewer (held : Option (T × V)) (write : T × V) : Option (T × V) :=
  match held with
  | some held => if held.1 ≤ write.1 then some write else some held
  | none => some write

/-- The write with the greatest stamp, the latest arrival of those with equal stamps. -/
def newest (history : List (T × V)) : Option (T × V) := history.foldl keepNewer none

variable {history : List (T × V)} {held write : T × V}

@[simp] theorem newest_nil : newest ([] : List (T × V)) = none := rfl

theorem newest_concat (history : List (T × V)) (write : T × V) :
    newest (history ++ [write]) = keepNewer (newest history) write := by
  simp [newest, List.foldl_append]

theorem keepNewer_of_le (h : held.1 ≤ write.1) : keepNewer (some held) write = some write :=
  if_pos h

theorem keepNewer_of_lt (h : write.1 < held.1) : keepNewer (some held) write = some held :=
  if_neg (not_le.2 h)

theorem newest_ne_none (history : List (T × V)) (write : T × V) :
    newest (history ++ [write]) ≠ none := by
  rw [newest_concat]
  cases newest history with
  | none => exact Option.some_ne_none _
  | some held =>
    rcases le_or_gt held.1 write.1 with h | h
    · rw [keepNewer_of_le h]
      exact Option.some_ne_none _
    · rw [keepNewer_of_lt h]
      exact Option.some_ne_none _

theorem newest_eq_none_iff : newest history = none ↔ history = [] := by
  induction history using List.reverseRecOn with
  | nil => simp
  | append_singleton history write ih => simp [newest_ne_none]

theorem newest_eq_some_iff : newest history = some write ↔
    ∃ before after, history = before ++ write :: after ∧ (∀ w ∈ before, w.1 ≤ write.1) ∧
      ∀ w ∈ after, w.1 < write.1 := by
  induction history using List.reverseRecOn generalizing write with
  | nil => simp
  | append_singleton history last ih =>
    rw [newest_concat]
    constructor
    · intro h
      cases hn : newest history with
      | none =>
        rw [newest_eq_none_iff] at hn
        subst hn
        cases h
        exact ⟨[], [], rfl, List.forall_mem_nil _, List.forall_mem_nil _⟩
      | some held =>
        obtain ⟨before, after, rfl, hbefore, hafter⟩ := ih.1 hn
        rw [hn] at h
        rcases le_or_gt held.1 last.1 with hle | hlt
        · rw [keepNewer_of_le hle] at h
          cases h
          refine ⟨before ++ held :: after, [], rfl, ?_, List.forall_mem_nil _⟩
          intro w hw
          rcases List.mem_append.1 hw with hw | hw
          · exact (hbefore w hw).trans hle
          · rcases List.mem_cons.1 hw with rfl | hw
            · exact hle
            · exact (hafter w hw).le.trans hle
        · rw [keepNewer_of_lt hlt] at h
          cases h
          refine ⟨before, after ++ [last], by simp, hbefore, ?_⟩
          intro w hw
          rcases List.mem_append.1 hw with hw | hw
          · exact hafter w hw
          · rwa [List.mem_singleton.1 hw]
    · rintro ⟨before, after, heq, hbefore, hafter⟩
      rcases List.eq_nil_or_concat after with rfl | ⟨after, w, rfl⟩
      · obtain ⟨rfl, hlast⟩ := List.append_inj' heq rfl
        cases hlast
        cases hn : newest history with
        | none => rfl
        | some held =>
          obtain ⟨_, _, rfl, -, -⟩ := ih.1 hn
          exact keepNewer_of_le (hbefore held (by simp))
      · rw [List.concat_eq_append, ← List.cons_append, ← List.append_assoc] at heq
        obtain ⟨rfl, hlast⟩ := List.append_inj' heq rfl
        cases hlast
        rw [ih.2 ⟨before, after, rfl, hbefore, fun w hw => hafter w (by simp [hw])⟩]
        exact keepNewer_of_lt (hafter last (by simp))

/-- Where the last arrival has been the newest write, the next one is too exactly if it is
not older or brings nothing new. -/
theorem overwrite_iff (history : List (T × V)) (write : T × V) :
    (newest (history ++ [write])).map Prod.snd = some write.2 ↔
      ∀ held, newest history = some held → held.1 ≤ write.1 ∨ held.2 = write.2 := by
  rw [newest_concat]
  cases newest history with
  | none => simp [keepNewer]
  | some held =>
    rcases le_or_gt held.1 write.1 with h | h
    · simp [keepNewer_of_le h, h]
    · simp [keepNewer_of_lt h, h.not_ge]

end ControlPlane.Register
