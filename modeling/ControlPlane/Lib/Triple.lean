import Mathlib.Tactic.TypeStar

/-! Commands that change a state and may raise, and their pre- and postconditions.  A command
that raises keeps what it has done. -/

namespace ControlPlane

abbrev Command (ε σ : Type) := ExceptT ε (StateM σ)

namespace Command

variable {ε σ α β : Type}

def runs (c : Command ε σ α) (s : σ) : Except ε α × σ := c.run.run s

section Runs

variable (s : σ)

@[simp] theorem runs_pure (a : α) : (pure a : Command ε σ α).runs s = (.ok a, s) := rfl

@[simp] theorem runs_throw (e : ε) : (throw e : Command ε σ α).runs s = (.error e, s) := rfl

@[simp] theorem runs_get : (get : Command ε σ σ).runs s = (.ok s, s) := rfl

@[simp] theorem runs_set (s' : σ) : (set s' : Command ε σ PUnit).runs s = (.ok (), s') := rfl

@[simp] theorem runs_modify (g : σ → σ) :
    (modify g : Command ε σ PUnit).runs s = (.ok (), g s) := rfl

theorem runs_bind (c : Command ε σ α) (f : α → Command ε σ β) :
    (c >>= f).runs s = match c.runs s with
      | (.ok a, s') => (f a).runs s'
      | (.error e, s') => (.error e, s') := by
  simp only [runs, ExceptT.run_bind, StateT.run_bind]
  cases h : (ExceptT.run c).run s with
  | mk result s' => cases result <;> rfl

end Runs

/-- From a state in `P` the command returns into `Q` or raises into `E`. -/
def Triple (P : σ → Prop) (c : Command ε σ α) (Q : α → σ → Prop) (E : ε → σ → Prop) : Prop :=
  ∀ s, P s → match c.runs s with
    | (.ok a, s') => Q a s'
    | (.error e, s') => E e s'

namespace Triple

variable {P P' : σ → Prop} {Q Q' : α → σ → Prop} {R : β → σ → Prop} {E E' : ε → σ → Prop}
  {c d : Command ε σ α} {f : α → Command ε σ β}

theorem seq (first : Triple P c Q E) (rest : ∀ a, Triple (Q a) (f a) R E) :
    Triple P (c >>= f) R E := by
  intro s hs
  have hc := first s hs
  rw [runs_bind]
  cases hrun : c.runs s with
  | mk result s' =>
    rw [hrun] at hc
    cases result with
    | ok a => exact rest a s' hc
    | error e => exact hc

theorem returns {a : α} (h : ∀ s, P s → Q a s) : Triple P (pure a : Command ε σ α) Q E := h

theorem raises {e : ε} (h : ∀ s, P s → E e s) : Triple P (throw e : Command ε σ α) Q E := h

theorem reads {Q : σ → σ → Prop} (h : ∀ s, P s → Q s s) :
    Triple P (get : Command ε σ σ) Q E := h

theorem sets {Q : PUnit → σ → Prop} {s' : σ} (h : ∀ s, P s → Q () s') :
    Triple P (set s' : Command ε σ PUnit) Q E := h

theorem changes {Q : PUnit → σ → Prop} {g : σ → σ} (h : ∀ s, P s → Q () (g s)) :
    Triple P (modify g : Command ε σ PUnit) Q E := h

theorem cond {p : Prop} [Decidable p] (yes : p → Triple P c Q E) (no : ¬p → Triple P d Q E) :
    Triple P (if p then c else d) Q E := by
  split
  · next h => exact yes h
  · next h => exact no h

theorem weaken (h : Triple P c Q E) (pre : ∀ s, P' s → P s) (post : ∀ a s, Q a s → Q' a s)
    (raise : ∀ e s, E e s → E' e s) : Triple P' c Q' E' := by
  intro s hs
  have hc := h s (pre s hs)
  cases hrun : c.runs s with
  | mk result s' =>
    rw [hrun] at hc
    cases result with
    | ok a => exact post a s' hc
    | error e => exact raise e s' hc

end Triple

end Command

end ControlPlane
