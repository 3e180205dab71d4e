import Mathlib.Data.List.Basic

/-! Runs of a machine that takes one input at a time.  `Along` says that every step of a run
meets a condition on the state it starts from, `tally` counts the steps that do, `emitted`
collects what the steps put out. -/

namespace ControlPlane.Run

variable {σ μ : Type} {step : σ → μ → σ}

def after (step : σ → μ → σ) (s : σ) (inputs : List μ) : σ := inputs.foldl step s

@[simp] theorem after_nil (s : σ) : after step s [] = s := rfl

@[simp] theorem after_cons (s : σ) (m : μ) (inputs : List μ) :
    after step s (m :: inputs) = after step (step s m) inputs := rfl

@[simp] theorem after_append (s : σ) (first second : List μ) :
    after step s (first ++ second) = after step (after step s first) second := by
  simp [after, List.foldl_append]

def Along (Q : σ → μ → Prop) (step : σ → μ → σ) (s : σ) : List μ → Prop
  | [] => True
  | m :: inputs => Q s m ∧ Along Q step (step s m) inputs

def tally (counted : σ → μ → Bool) (step : σ → μ → σ) (s : σ) : List μ → Nat
  | [] => 0
  | m :: inputs => (counted s m).toNat + tally counted step (step s m) inputs

def emitted {ν : Type} (emit : σ → μ → List ν) (step : σ → μ → σ) (s : σ) : List μ → List ν
  | [] => []
  | m :: inputs => emit s m ++ emitted emit step (step s m) inputs

section Invariant

variable {P : σ → Prop} {Q : σ → μ → Prop} {s : σ}

theorem invariant (keeps : ∀ s m, P s → P (step s m)) (start : P s) (inputs : List μ) :
    P (after step s inputs) := by
  induction inputs generalizing s with
  | nil => exact start
  | cons m inputs ih => exact ih (keeps s m start)

theorem invariant_along (keeps : ∀ s m, P s → Q s m → P (step s m)) (start : P s)
    {inputs : List μ} (along : Along Q step s inputs) : P (after step s inputs) := by
  induction inputs generalizing s with
  | nil => exact start
  | cons m inputs ih => exact ih (keeps s m start along.1) along.2

theorem Along.append {first second : List μ} :
    Along Q step s (first ++ second) ↔
      Along Q step s first ∧ Along Q step (after step s first) second := by
  induction first generalizing s with
  | nil => simp [Along]
  | cons m first ih => simp [Along, ih, and_assoc]

/-- If a step outside the condition leaves a mark that no later step removes, a run that ends
without the mark kept to the condition. -/
theorem along_of_unmarked {M : σ → Prop} (keeps : ∀ s m, P s → P (step s m))
    (marks : ∀ s m, P s → ¬Q s m → M (step s m)) (stays : ∀ s m, P s → M s → M (step s m))
    (start : P s) {inputs : List μ} (unmarked : ¬M (after step s inputs)) :
    Along Q step s inputs := by
  induction inputs generalizing s with
  | nil => trivial
  | cons m inputs ih =>
    have hp : P (step s m) := keeps s m start
    refine ⟨by_contra fun hq => unmarked ?_, ih hp unmarked⟩
    have hmarked : P (step s m) ∧ M (step s m) := ⟨hp, marks s m start hq⟩
    exact (invariant (P := fun s => P s ∧ M s)
      (fun s m h => ⟨keeps s m h.1, stays s m h.1 h.2⟩) hmarked inputs).2

theorem along_of_forall {inputs : List μ} (h : ∀ m ∈ inputs, ∀ s, Q s m) :
    Along Q step s inputs := by
  induction inputs generalizing s with
  | nil => trivial
  | cons m inputs ih =>
    exact ⟨h m List.mem_cons_self s, ih fun m' hm => h m' (List.mem_cons_of_mem m hm)⟩

theorem along_iff {inputs : List μ} :
    Along Q step s inputs ↔
      ∀ before m rest, inputs = before ++ m :: rest → Q (after step s before) m := by
  induction inputs generalizing s with
  | nil => simp [Along]
  | cons first inputs ih =>
    rw [Along, ih]
    constructor
    · rintro ⟨hfirst, hrest⟩ before m rest heq
      cases before with
      | nil =>
        cases heq
        exact hfirst
      | cons _ before =>
        cases heq
        exact hrest before m rest rfl
    · intro h
      refine ⟨h [] first inputs rfl, fun before m rest heq => ?_⟩
      exact h (first :: before) m rest (by rw [heq, List.cons_append])

theorem related {R : σ → σ → Prop} (keeps : ∀ s m, P s → P (step s m))
    (refl : ∀ s, R s s) (trans : ∀ s t u, R s t → R t u → R s u)
    (steps : ∀ s m, P s → R s (step s m)) (start : P s) (inputs : List μ) :
    R s (after step s inputs) := by
  induction inputs generalizing s with
  | nil => exact refl s
  | cons m inputs ih => exact trans _ _ _ (steps s m start) (ih (keeps s m start))

/-- If every good state can be improved by an allowed step, an allowed run improves it to the
end. -/
theorem exists_finishing (measure : σ → ℕ)
    (improves : ∀ s, P s → measure s ≠ 0 → ∃ m, Q s m ∧ P (step s m) ∧
      measure (step s m) < measure s) (start : P s) :
    ∃ inputs, Along Q step s inputs ∧ P (after step s inputs) ∧
      measure (after step s inputs) = 0 := by
  induction hn : measure s using Nat.strongRecOn generalizing s with
  | ind n ih =>
    by_cases hzero : measure s = 0
    · exact ⟨[], trivial, start, hzero⟩
    · obtain ⟨m, hq, hp, hlt⟩ := improves s start hzero
      obtain ⟨inputs, halong, hend, hmeasure⟩ := ih _ (hn ▸ hlt) hp rfl
      exact ⟨m :: inputs, ⟨hq, halong⟩, hend, hmeasure⟩

end Invariant

section Tally

variable {counted : σ → μ → Bool} {s : σ}

@[simp] theorem tally_append (first second : List μ) :
    tally counted step s (first ++ second) =
      tally counted step s first + tally counted step (after step s first) second := by
  induction first generalizing s with
  | nil => simp [tally]
  | cons m first ih => simp [tally, ih, Nat.add_assoc]

variable (counted) in
theorem invariant_tally_along {P : Nat → σ → Prop} {Q : σ → μ → Prop}
    (keeps : ∀ n s m, P n s → Q s m → P (n + (counted s m).toNat) (step s m)) {n : Nat}
    (start : P n s) {inputs : List μ} (along : Along Q step s inputs) :
    P (n + tally counted step s inputs) (after step s inputs) := by
  induction inputs generalizing s n with
  | nil => exact start
  | cons m inputs ih =>
    rw [tally, ← Nat.add_assoc]
    exact ih (keeps n s m start along.1) along.2

theorem invariant_tally {P : Nat → σ → Prop}
    (keeps : ∀ n s m, P n s → P (n + (counted s m).toNat) (step s m)) {n : Nat} (start : P n s)
    (inputs : List μ) : P (n + tally counted step s inputs) (after step s inputs) :=
  invariant_tally_along counted (Q := fun _ _ => True) (fun n s m h _ => keeps n s m h) start
    (along_of_forall fun _ _ _ => trivial)

theorem tally_eq_zero {inputs : List μ} :
    tally counted step s inputs = 0 ↔ Along (fun s m => counted s m = false) step s inputs := by
  induction inputs generalizing s with
  | nil => simp [tally, Along]
  | cons m inputs ih => cases h : counted s m <;> simp [tally, Along, ih, h]

end Tally

section Emitted

variable {ν : Type} {emit : σ → μ → List ν} {s : σ}

@[simp] theorem emitted_append (first second : List μ) :
    emitted emit step s (first ++ second) =
      emitted emit step s first ++ emitted emit step (after step s first) second := by
  induction first generalizing s with
  | nil => rfl
  | cons m first ih => simp [emitted, ih]

theorem invariant_emitted_along {P : List ν → σ → Prop} {Q : σ → μ → Prop}
    (keeps : ∀ out s m, P out s → Q s m → P (out ++ emit s m) (step s m)) {out : List ν}
    (start : P out s) {inputs : List μ} (along : Along Q step s inputs) :
    P (out ++ emitted emit step s inputs) (after step s inputs) := by
  induction inputs generalizing s out with
  | nil =>
    rw [emitted, List.append_nil]
    exact start
  | cons m inputs ih =>
    rw [emitted, ← List.append_assoc]
    exact ih (keeps out s m start along.1) along.2

theorem invariant_emitted {P : List ν → σ → Prop}
    (keeps : ∀ out s m, P out s → P (out ++ emit s m) (step s m)) {out : List ν}
    (start : P out s) (inputs : List μ) :
    P (out ++ emitted emit step s inputs) (after step s inputs) :=
  invariant_emitted_along (Q := fun _ _ => True) (fun out s m h _ => keeps out s m h) start
    (along_of_forall fun _ _ _ => trivial)

end Emitted

end ControlPlane.Run
