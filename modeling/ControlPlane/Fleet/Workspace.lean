import ControlPlane.Fleet.Job
import ControlPlane.Lib.Triple

/-! Worktree preparation.  Every external command answers for itself: it succeeds, or it
raises, and what it did to the worktree before raising stays done. -/

namespace ControlPlane.Fleet

/-- What a call may raise, by the handler of `run_one` that meets it. -/
inductive Raised
  /-- a `ProviderDiscoveryError` -/
  | discovery (kind : String) (recoverable : Bool)
  /-- an `OSError`, `ValueError`, `SubprocessError` or `ObservationError` -/
  | configuration
  /-- anything else, and the death of the runner itself -/
  | unhandled
  deriving DecidableEq, Repr

/-- A git worktree by what it has checked out, with its local branches. -/
structure Worktree where
  head : Text
  branches : List Text
  deriving DecidableEq, Repr

def Worktree.checkout (branch : Text) (worktree : Worktree) : Worktree where
  head := branch
  branches := worktree.branches.insert branch

structure GitAnswers where
  authSetup : Except Raised Unit := .ok ()
  /-- the branch that a successful clone leaves checked out -/
  clone : Except Raised Text := .ok (text "main")
  /-- what a failed clone leaves behind -/
  cloneLeft : Option Worktree := none
  fetch : Except Raised Unit := .ok ()
  branches : Except Raised Unit := .ok ()
  checkoutBranch : Except Raised Unit := .ok ()
  lsRemote : Except Raised Text := .ok []
  checkoutTrack : Except Raised Unit := .ok ()
  checkoutBase : Except Raised Unit := .ok ()
  checkoutNew : Except Raised Unit := .ok ()

abbrev Action := Command Raised (Option Worktree)

def answer {α : Type} (result : Except Raised α) : Action α := ExceptT.mk (pure result)

def gitClone (git : GitAnswers) : Action Unit :=
  match git.clone with
  | .ok defaultBranch => set (some (⟨defaultBranch, [defaultBranch]⟩ : Worktree))
  | .error raised => do
    set git.cloneLeft
    throw raised

/-- A checkout that fails leaves the worktree where it was. -/
def gitCheckout (result : Except Raised Unit) (branch : Text) : Action Unit := do
  answer result
  modify (Option.map (Worktree.checkout branch))

/-- `git branch` lists the local branches. -/
def gitBranches (result : Except Raised Unit) : Action (List Text) := do
  answer result
  return ((← get).map fun worktree => worktree.branches).getD []

def ensureClone (git : GitAnswers) : Action Unit := do
  if (← get).isNone then gitClone git else pure ()

/-- The part of `prepare_workspace` that only a first run reaches. -/
def checkoutAssigned (job : Job) (git : GitAnswers) : Action Unit := do
  answer git.fetch
  let branches ← gitBranches git.branches
  if job.effectiveBranch ∈ branches then
    gitCheckout git.checkoutBranch job.effectiveBranch
  else do
    let remote ← answer git.lsRemote
    if remote ≠ [] then
      gitCheckout git.checkoutTrack job.effectiveBranch
    else do
      gitCheckout git.checkoutBase job.baseRef
      gitCheckout git.checkoutNew job.effectiveBranch

def prepareWorkspace (job : Job) (resumed : Bool) (git : GitAnswers) : Action Unit := do
  answer git.authSetup
  ensureClone git
  if resumed then pure () else checkoutAssigned job git

def OnBranch (job : Job) (workspace : Option Worktree) : Prop :=
  ∃ worktree, workspace = some worktree ∧ worktree.head = job.effectiveBranch ∧
    job.effectiveBranch ∈ worktree.branches

open Command

section Rules

variable {α : Type} {P : Option Worktree → Prop} {Q : α → Option Worktree → Prop}
  {E : Raised → Option Worktree → Prop} {result : Except Raised α}

theorem triple_answer (returns : ∀ a, result = .ok a → ∀ w, P w → Q a w)
    (raises : ∀ e w, P w → E e w) : Triple P (answer result) Q E := by
  intro w hw
  cases h : result with
  | ok a => exact returns a h w hw
  | error e => exact raises e w hw

end Rules

section Prepare

variable {job : Job} {git : GitAnswers}

theorem onBranch_checkout (worktree : Worktree) :
    OnBranch job (some (worktree.checkout job.effectiveBranch)) :=
  ⟨_, rfl, rfl, List.mem_insert_self⟩

def Present (workspace : Option Worktree) : Prop := ∃ worktree, workspace = some worktree

theorem gitCheckout_reaches (result : Except Raised Unit) :
    Triple Present (gitCheckout result job.effectiveBranch) (fun _ => OnBranch job)
      (fun _ _ => True) := by
  refine .seq (Q := fun _ => Present) (triple_answer (fun _ _ _ h => h) fun _ _ _ => trivial) ?_
  intro _
  refine .changes ?_
  rintro _ ⟨worktree, rfl⟩
  exact onBranch_checkout worktree

theorem gitCheckout_present (result : Except Raised Unit) (branch : Text) :
    Triple Present (gitCheckout result branch) (fun _ => Present) (fun _ _ => True) := by
  refine .seq (Q := fun _ => Present) (triple_answer (fun _ _ _ h => h) fun _ _ _ => trivial) ?_
  intro _
  refine .changes ?_
  rintro _ ⟨worktree, rfl⟩
  exact ⟨_, rfl⟩

theorem gitCheckout_keeps (result : Except Raised Unit) :
    Triple (OnBranch job) (gitCheckout result job.effectiveBranch) (fun _ => OnBranch job)
      (fun _ => OnBranch job) := by
  refine .seq (Q := fun _ => OnBranch job) (triple_answer (fun _ _ _ h => h) fun _ _ h => h) ?_
  intro _
  refine .changes ?_
  rintro _ ⟨worktree, rfl, -, -⟩
  exact onBranch_checkout worktree

theorem ensureClone_present :
    Triple (fun _ => True) (ensureClone git) (fun _ => Present) (fun _ _ => True) := by
  refine .seq (Q := fun found workspace => found = workspace) (.reads fun _ _ => rfl) ?_
  intro found
  refine .cond (fun _ => ?_) (fun hsome => .returns fun workspace hw => ?_)
  · simp only [gitClone]
    split
    · exact .sets fun _ _ => ⟨_, rfl⟩
    · exact .seq (Q := fun _ _ => True) (.sets fun _ _ => trivial) fun _ => .raises fun _ _ => trivial
  · subst hw
    exact Option.ne_none_iff_exists'.1 (by simpa using hsome)

theorem checkoutAssigned_reaches : Triple Present (checkoutAssigned job git)
    (fun _ => OnBranch job) (fun _ _ => True) := by
  refine .seq (Q := fun _ => Present) (triple_answer (fun _ _ _ h => h) fun _ _ _ => trivial) ?_
  intro _
  refine .seq (Q := fun _ => Present) ?_ ?_
  · refine .seq (Q := fun _ => Present) (triple_answer (fun _ _ _ h => h) fun _ _ _ => trivial) ?_
    intro _
    exact .seq (Q := fun _ => Present) (.reads fun _ h => h) fun _ => .returns fun _ h => h
  · intro branches
    refine .cond (fun _ => gitCheckout_reaches _) fun _ => ?_
    refine .seq (Q := fun _ => Present) (triple_answer (fun _ _ _ h => h) fun _ _ _ => trivial) ?_
    intro remote
    refine .cond (fun _ => gitCheckout_reaches _) fun _ => ?_
    exact .seq (gitCheckout_present _ _) fun _ => gitCheckout_reaches _

/-- A first run that returns has checked the branch out. -/
theorem prepareWorkspace_reaches : Triple (fun _ => True) (prepareWorkspace job false git)
    (fun _ => OnBranch job) (fun _ _ => True) := by
  refine .seq (Q := fun _ _ => True) (triple_answer (fun _ _ _ h => h) fun _ _ _ => trivial) ?_
  intro _
  exact .seq ensureClone_present fun _ => checkoutAssigned_reaches

theorem ensureClone_keeps : Triple (OnBranch job) (ensureClone git) (fun _ => OnBranch job)
    (fun _ => OnBranch job) := by
  refine .seq (Q := fun found workspace => found = workspace ∧ OnBranch job workspace)
    (.reads fun _ h => ⟨rfl, h⟩) ?_
  intro found
  refine .cond (fun hnone => ?_) (fun _ => .returns fun _ h => h.2)
  rintro _ ⟨rfl, worktree, rfl, -⟩
  simp at hnone

theorem checkoutAssigned_keeps : Triple (OnBranch job) (checkoutAssigned job git)
    (fun _ => OnBranch job) (fun _ => OnBranch job) := by
  refine .seq (Q := fun _ => OnBranch job) (triple_answer (fun _ _ _ h => h) fun _ _ h => h) ?_
  intro _
  -- the branch is listed, so no other branch is checked out
  refine .seq (Q := fun branches workspace =>
    OnBranch job workspace ∧ job.effectiveBranch ∈ branches) ?_ ?_
  · refine .seq (Q := fun _ => OnBranch job) (triple_answer (fun _ _ _ h => h) fun _ _ h => h) ?_
    intro _
    refine .seq (Q := fun found workspace => found = workspace ∧ OnBranch job workspace)
      (.reads fun _ h => ⟨rfl, h⟩) fun found => .returns ?_
    rintro _ ⟨rfl, worktree, rfl, hhead, hmem⟩
    exact ⟨⟨worktree, rfl, hhead, hmem⟩, hmem⟩
  · intro branches
    refine .cond (fun _ => ?_) (fun hnot => ?_)
    · exact (gitCheckout_keeps _).weaken (fun _ h => h.1) (fun _ _ h => h) fun _ _ h => h
    · exact fun _ h => absurd h.2 hnot

theorem prepareWorkspace_keeps {resumed : Bool} : Triple (OnBranch job)
    (prepareWorkspace job resumed git) (fun _ => OnBranch job) (fun _ => OnBranch job) := by
  refine .seq (Q := fun _ => OnBranch job) (triple_answer (fun _ _ _ h => h) fun _ _ h => h) ?_
  intro _
  refine .seq ensureClone_keeps fun _ => ?_
  exact .cond (fun _ => .returns fun _ h => h) fun _ => checkoutAssigned_keeps

end Prepare

end ControlPlane.Fleet
