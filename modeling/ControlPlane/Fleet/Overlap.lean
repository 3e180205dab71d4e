import ControlPlane.Fleet.Log

/-! Providers of two attempts in one worktree. -/

namespace ControlPlane.Fleet

/-- No provider was launched while a process group of an earlier attempt was alive. -/
def NeverOverlap (w : World) : Prop :=
  ∀ k head alive, Happening.launched k head alive ∈ w.log → alive = []

/-- A step of one runner process that leaves no process group behind: no exception leaves
`run_one` while the provider is alive, and no member of a group outlives its leader. -/
def LeavesNoGroup (w : World) : Move → Prop
  | .raise => w.groups = []
  | .advance answers =>
    match w.running, answers.wait with
    | some (.waiting k), .exited _ => answers.leftBehind = true → k ∉ w.groups
    | some (.terminating k _), _ => answers.leftBehind = true → k ∉ w.groups
    | _, _ => True
  | .crash | .restart _ => False
  | _ => True

/-- A state directory as a runner process finds it, when no provider is alive. -/
def World.found (queued : Bool) (record : Option RunState) (workspace : Option Worktree) : World :=
  { queued := queued, record := record, workspace := workspace }

def AlivePoint (groups : List Nat) : Option Point → Prop
  | some (.spawned k) | some (.prompting k) | some (.waiting k) | some (.terminating k _) =>
    ∀ group ∈ groups, group = k
  | _ => groups = []

structure Alone (w : World) : Prop where
  point : AlivePoint w.groups w.running
  launched : NeverOverlap w

section Steps

variable {job : Job} {w : World} {k : Nat}

theorem Alone.found (queued : Bool) (record : Option RunState) (workspace : Option Worktree) :
    Alone (World.found queued record workspace) := ⟨rfl, nofun⟩

theorem alivePoint_filter {groups : List Nat} (p : Nat → Bool) {point : Option Point}
    (h : AlivePoint groups point) : AlivePoint (groups.filter p) point := by
  have hall : ∀ k, (∀ group ∈ groups, group = k) → ∀ group ∈ groups.filter p, group = k :=
    fun k hk group hmem => hk group (List.mem_of_mem_filter hmem)
  have hnil : groups = [] → groups.filter p = [] := by
    rintro rfl
    rfl
  match point with
  | some (.spawned k) | some (.prompting k) | some (.waiting k) | some (.terminating k _) =>
    exact hall k h
  | none | some .entered | some (.preparing _ _) | some (.refused _ _) | some (.starting _)
  | some (.spawning _) | some (.interrupted _ _) | some (.exited _ _) | some (.judging _ _ _)
  | some .archiving => exact hnil h

theorem groups_leave {answers : Answers} (alive : ∀ group ∈ w.groups, group = k)
    (gone : answers.leftBehind = true → k ∉ w.groups) : (leave w answers k).groups = [] := by
  simp only [leave]
  split
  · next hleft =>
    rw [List.eq_nil_iff_forall_not_mem]
    intro group hmem
    exact gone hleft (alive group hmem ▸ hmem)
  · simp only [List.filter_eq_nil_iff]
    intro group hmem
    simp [alive group hmem]

variable (h : Alone w)

include h

theorem Alone.point_advance {point : Point} (here : w.running = some point) (answers : Answers)
    (leaves : LeavesNoGroup w (.advance answers)) :
    AlivePoint (advance job w answers point).groups (advance job w answers point).running := by
  have hp := h.point
  rw [here] at hp
  simp only [LeavesNoGroup, here] at leaves
  cases point with
  | entered =>
    simp only [advance, enter]
    split <;> exact hp
  | preparing k resumed =>
    simp only [advance, prepare]
    split <;> exact hp
  | refused k raised =>
    cases raised with
    | discovery _ recoverable => cases recoverable <;> exact hp
    | configuration => exact hp
    | unhandled => exact hp
  | starting k => exact hp
  | spawning k =>
    have hnone : w.groups = [] := hp
    simp only [advance, spawn, hnone]
    split
    · exact fun group hmem => List.mem_singleton.1 hmem
    · exact hnone
  | spawned k => exact hp
  | prompting k => exact hp
  | waiting k =>
    simp only [advance, wait]
    split
    · next code hwait =>
      rw [hwait] at leaves
      exact groups_leave hp leaves
    · split
      · exact hp
      · exact h.point
    · exact hp
  | terminating k why => exact groups_leave hp leaves
  | interrupted k why => cases why <;> exact hp
  | exited k code =>
    simp only [advance, exit]
    split
    · split <;> exact hp
    · split
      · exact hp
      · split <;> exact hp
  | judging k evidence observations =>
    simp only [advance, judge]
    split
    · exact hp
    · split <;> exact hp
  | archiving => exact hp

theorem Alone.point_step (move : Move) (leaves : LeavesNoGroup w move) :
    AlivePoint (step job w move).groups (step job w move).running := by
  cases move with
  | poll offered =>
    change AlivePoint (poll w offered).groups (poll w offered).running
    obtain he | he | ⟨he, hidle, -⟩ := poll_cases w offered
    all_goals rw [he]
    · exact h.point
    · exact h.point
    · have hp := h.point
      rw [hidle] at hp
      exact hp
  | advance answers =>
    cases here : w.running with
    | none => simpa [step, here] using h.point
    | some point =>
      simp only [step, here]
      split
      · exact h.point_advance here answers leaves
      · exact h.point
  | raise => exact leaves
  | crash => exact leaves.elim
  | restart readable => exact leaves.elim
  | groupExits k => exact alivePoint_filter _ h.point
  | providerWorks branches =>
    simp only [step]
    split <;> exact h.point
  | enqueue | stop => exact h.point

theorem Alone.launched_step (move : Move) : NeverOverlap (step job w move) := by
  intro k head alive hmem
  obtain hold | ⟨here, -, rfl⟩ := mem_log_step hmem
  · exact h.launched k head alive hold
  · have hp := h.point
    rw [here] at hp
    exact hp

theorem Alone.step (move : Move) (leaves : LeavesNoGroup w move) : Alone (step job w move) :=
  ⟨h.point_step move leaves, h.launched_step move⟩

end Steps

/-- In a run of one runner process whose steps leave no process group behind, the provider of
an attempt is gone before the next one is launched. -/
theorem never_overlap (job : Job) (queued : Bool) (record : Option RunState)
    (workspace : Option Worktree) (moves : List Move)
    (leaves : Run.Along LeavesNoGroup (step job) (World.found queued record workspace) moves) :
    NeverOverlap (after job (World.found queued record workspace) moves) :=
  (Run.invariant_along (fun _ move h leaves => h.step move leaves)
    (Alone.found queued record workspace) leaves).launched

/-- A launch that is waited for, and the next one. -/
theorem never_overlap_after_timeout : NeverOverlap (after Sample.job (World.found true none none)
    (Sample.launch {} ++ [.advance {}, .advance {}, .advance { wait := .timedOut }, .advance {},
      .advance {}] ++ Sample.launch {})) := by
  refine never_overlap Sample.job true none none _ ?_
  refine ⟨trivial, trivial, trivial, trivial, trivial, trivial, trivial, trivial, nofun, trivial,
    trivial, trivial, trivial, trivial, trivial, trivial⟩

/-- The provider closes its stdin while the prompt is written: `run_one` ends, the next poll
admits the job again, and two providers work in one worktree. -/
theorem overlap_after_broken_pipe : ¬ NeverOverlap (after Sample.job (World.found true none none)
    (Sample.launch {} ++ [.advance {}, .raise] ++ Sample.launch {})) := by
  intro h
  exact absurd (h 2 (some (text "agent/job-1")) [1] (List.mem_of_getElem? (i := 12) rfl)) (by decide)

end ControlPlane.Fleet
