import ControlPlane.Lib.Run

/-! What an observer who is shown only some inputs can tell of a run.  If the inputs withheld
leave a state related to what it was, and the others take related states to related ones and are
answered alike in them, then the run without the withheld inputs ends in a related state and
gives the same answers. -/

namespace ControlPlane.Run

variable {σ μ ν : Type}

def shown (shows : σ → μ → Bool) (step : σ → μ → σ) : σ → List μ → List μ :=
  emitted (fun s m => if shows s m then [m] else []) step

def answered (shows : σ → μ → Bool) (answer : σ → μ → ν) (step : σ → μ → σ) :
    σ → List μ → List ν :=
  emitted (fun s m => if shows s m then [answer s m] else []) step

structure Unwinding (shows : σ → μ → Bool) (step : σ → μ → σ) (R : σ → σ → Prop) : Prop where
  withheld : ∀ {s t m}, R s t → shows s m = false → R (step s m) t
  shown : ∀ {s t m}, R s t → shows s m = true → R (step s m) (step t m)

variable {shows : σ → μ → Bool} {step : σ → μ → σ} {R : σ → σ → Prop} {s t : σ}

@[simp] theorem shown_nil (s : σ) : shown shows step s [] = [] := rfl

theorem shown_cons_of_true {m : μ} (h : shows s m = true) (inputs : List μ) :
    shown shows step s (m :: inputs) = m :: shown shows step (step s m) inputs := by
  simp [shown, emitted, h]

theorem shown_cons_of_false {m : μ} (h : shows s m = false) (inputs : List μ) :
    shown shows step s (m :: inputs) = shown shows step (step s m) inputs := by
  simp [shown, emitted, h]

namespace Unwinding

theorem after (h : Unwinding shows step R) (start : R s t) (inputs : List μ) :
    R (Run.after step s inputs) (Run.after step t (Run.shown shows step s inputs)) := by
  induction inputs generalizing s t with
  | nil => exact start
  | cons m inputs ih =>
    cases hm : shows s m with
    | true =>
      rw [shown_cons_of_true hm]
      exact ih (h.shown start hm)
    | false =>
      rw [shown_cons_of_false hm]
      exact ih (h.withheld start hm)

/-- Nobody who is only shown some inputs learns from their answers that there were others. -/
theorem answers (h : Unwinding shows step R) {answer : σ → μ → ν}
    (alike : ∀ {s t m}, R s t → shows s m = true → shows t m = true ∧ answer s m = answer t m)
    (start : R s t) (inputs : List μ) :
    answered shows answer step s inputs =
      answered shows answer step t (Run.shown shows step s inputs) := by
  induction inputs generalizing s t with
  | nil => rfl
  | cons m inputs ih =>
    cases hm : shows s m with
    | true =>
      obtain ⟨ht, hanswer⟩ := alike start hm
      have hrest := ih (h.shown start hm)
      rw [shown_cons_of_true hm]
      simp only [answered, emitted, hm, ht, hanswer, if_true] at hrest ⊢
      rw [hrest]
    | false =>
      rw [shown_cons_of_false hm, ← ih (h.withheld start hm)]
      simp only [answered, emitted, hm, Bool.false_eq_true, if_false, List.nil_append]

end Unwinding

end ControlPlane.Run
