import ControlPlane.Fleet.Supervisor

/-! What a step of the runner logs, and where it comes from. -/

namespace ControlPlane.Fleet

def Happening.From (job : Job) (w : World) (move : Move) : Happening → Prop
  | .published k event => ∃ answers resumed, move = .advance answers ∧
    w.running = some (.preparing k resumed) ∧ event ∈ (attempted job w answers resumed).1.2
  | .launched k head alive => w.running = some (.spawning k) ∧
    head = w.workspace.map (fun worktree => worktree.head) ∧ alive = w.groups
  | .refused _ _ | .exited _ _ | .collected _ _ | .saved _ => True

section Log

variable {job : Job} {w : World} {happening : Happening}

theorem mem_log_concat {P : Happening → Prop} {log : List Happening} {new : Happening}
    (hmem : happening ∈ log ++ [new]) (hnew : P new) : happening ∈ log ∨ P happening := by
  obtain hold | hlast := List.mem_append.1 hmem
  · exact .inl hold
  · rw [List.mem_singleton.1 hlast]
    exact .inr hnew

theorem mem_log_advance {point : Point} (here : w.running = some point) {answers : Answers}
    (hmem : happening ∈ (advance job w answers point).log) :
    happening ∈ w.log ∨ happening.From job w (.advance answers) := by
  cases point with
  | entered =>
    simp only [advance, enter] at hmem
    split at hmem
    · exact mem_log_concat hmem trivial
    · exact .inl hmem
  | preparing k resumed =>
    have hlog : happening ∈ w.log ++ (attempted job w answers resumed).1.2.map (.published k) := by
      simp only [advance, prepare] at hmem
      split at hmem <;> exact hmem
    obtain hold | hnew := List.mem_append.1 hlog
    · exact .inl hold
    · obtain ⟨event, hevent, rfl⟩ := List.mem_map.1 hnew
      exact .inr ⟨answers, resumed, rfl, here, hevent⟩
  | refused k raised =>
    have hsaved : ∀ status, happening ∈ w.log ++ [.refused k raised] ++ [.saved status] →
        happening ∈ w.log ∨ happening.From job w (.advance answers) := by
      intro status h
      obtain hold | hnew := mem_log_concat (P := (·.From job w (.advance answers))) h trivial
      · exact mem_log_concat hold trivial
      · exact .inr hnew
    cases raised with
    | discovery _ recoverable => cases recoverable <;> exact hsaved _ hmem
    | configuration => exact hsaved _ hmem
    | unhandled => exact mem_log_concat hmem trivial
  | starting k => exact mem_log_concat hmem trivial
  | spawning k =>
    simp only [advance, spawn] at hmem
    split at hmem
    · exact mem_log_concat hmem ⟨here, rfl, rfl⟩
    · exact .inl hmem
  | spawned k => exact mem_log_concat hmem trivial
  | prompting k => exact .inl hmem
  | waiting k =>
    simp only [advance, wait] at hmem
    split at hmem
    · rw [log_leave] at hmem
      exact mem_log_concat hmem trivial
    · split at hmem <;> exact .inl hmem
    · exact .inl hmem
  | terminating k why =>
    rw [← log_leave w answers k]
    exact .inl hmem
  | interrupted k why => cases why <;> exact mem_log_concat hmem trivial
  | exited k code =>
    simp only [advance, exit] at hmem
    split at hmem
    · split at hmem <;> exact mem_log_concat hmem trivial
    · split at hmem
      · exact mem_log_concat hmem trivial
      · split at hmem <;> exact mem_log_concat hmem trivial
  | judging k evidence observations =>
    simp only [advance, judge] at hmem
    split at hmem
    · exact mem_log_concat hmem trivial
    · split at hmem <;> exact mem_log_concat hmem trivial
  | archiving => exact .inl hmem

theorem mem_log_step {move : Move} (hmem : happening ∈ (step job w move).log) :
    happening ∈ w.log ∨ happening.From job w move := by
  cases move with
  | poll offered =>
    have he : (poll w offered).log = w.log := by
      obtain he | he | ⟨he, -⟩ := poll_cases w offered
      all_goals exact (congrArg World.log he).trans rfl
    exact .inl (he ▸ hmem)
  | advance answers =>
    simp only [step] at hmem
    split at hmem
    · exact .inl hmem
    · next point here =>
      split at hmem
      · exact mem_log_advance here hmem
      · exact .inl hmem
  | restart readable =>
    simp only [step] at hmem
    split at hmem
    · exact .inl hmem
    · obtain he | ⟨-, -, he⟩ := reconcile_cases
        { w with up := true, stopping := false, running := none } readable
      · rw [he] at hmem
        exact .inl hmem
      · rw [he] at hmem
        exact mem_log_concat hmem trivial
  | providerWorks branches =>
    simp only [step] at hmem
    split at hmem <;> exact .inl hmem
  | enqueue | raise | stop | crash | groupExits k => exact .inl hmem

end Log

end ControlPlane.Fleet
