import ControlPlane.Fleet.Attempts

/-! The branch a provider is launched on. -/

namespace ControlPlane.Fleet

open Command

def LaunchedOnBranch (job : Job) (w : World) : Prop :=
  ∀ k head alive, Happening.launched k head alive ∈ w.log → head = some job.effectiveBranch

/-- An attempt that an `except` clause records leaves the job's branch checked out: every later
attempt counts as resumed, and takes the worktree as it is. -/
def RefusesOnBranch (job : Job) (w : World) : Move → Prop
  | .advance _ =>
    match w.running with
    | some (.refused _ _) => OnBranch job w.workspace
    | _ => True
  | _ => True

def BranchPoint (job : Job) (workspace : Option Worktree) : Option Point → Prop
  | none | some .entered | some (.preparing _ false) | some (.refused _ _) | some .archiving => True
  | some _ => OnBranch job workspace

structure OnTrack (job : Job) (w : World) : Prop where
  settled : w.record.isSome = true → w.status.isTerminal = false → OnBranch job w.workspace
  point : BranchPoint job w.workspace w.running
  launched : LaunchedOnBranch job w

section Prepare

variable (job : Job) (before : PreLaunch)

theorem preLaunch_keeps (resumed : Bool) : Triple (OnBranch job) (preLaunch job resumed before)
    (fun _ => OnBranch job) (fun _ => OnBranch job) := by
  refine .seq (Q := fun _ => OnBranch job) (triple_answer (fun _ _ _ h => h) fun _ _ h => h) fun _ => ?_
  refine .seq (Q := fun _ => OnBranch job) (triple_answer (fun _ _ _ h => h) fun _ _ h => h) fun _ => ?_
  refine .seq (Q := fun _ => OnBranch job) (triple_answer (fun _ _ _ h => h) fun _ _ h => h) fun _ => ?_
  refine .seq prepareWorkspace_keeps fun _ => ?_
  exact triple_answer (fun _ _ _ h => h) fun _ _ h => h

theorem preLaunch_reaches : Triple (fun _ => True) (preLaunch job false before)
    (fun _ => OnBranch job) (fun _ _ => True) := by
  refine .seq (Q := fun _ _ => True) (triple_answer (fun _ _ _ h => h) fun _ _ h => h) fun _ => ?_
  refine .seq (Q := fun _ _ => True) (triple_answer (fun _ _ _ h => h) fun _ _ h => h) fun _ => ?_
  refine .seq (Q := fun _ _ => True) (triple_answer (fun _ _ _ h => h) fun _ _ h => h) fun _ => ?_
  refine .seq prepareWorkspace_reaches fun _ => ?_
  exact triple_answer (fun _ _ _ h => h) fun _ _ _ => trivial

variable {job} {w : World} {answers : Answers}

theorem attempted_keeps {resumed : Bool} (h : OnBranch job w.workspace) :
    OnBranch job (attempted job w answers resumed).2 := by
  have hk := preLaunch_keeps job answers.before resumed w.workspace h
  simp only [attempted]
  cases hrun : (preLaunch job resumed answers.before).runs w.workspace with
  | mk result workspace =>
    rw [hrun] at hk
    cases result <;> exact hk

theorem attempted_reaches (ok : (attempted job w answers false).1.1 = .ok ()) :
    OnBranch job (attempted job w answers false).2 := by
  have hr := preLaunch_reaches job answers.before w.workspace trivial
  simp only [attempted] at ok ⊢
  cases hrun : (preLaunch job false answers.before).runs w.workspace with
  | mk result workspace =>
    rw [hrun] at hr ok
    cases result with
    | ok _ => exact hr
    | error e => simp at ok

end Prepare

section Track

variable {job : Job} {w : World}

theorem OnTrack.initial (queued : Bool) (workspace : Option Worktree) :
    OnTrack job (World.initial queued workspace) where
  settled := nofun
  point := trivial
  launched := nofun

theorem LaunchedOnBranch.append (h : LaunchedOnBranch job w) {w' : World} {more : List Happening}
    (log : w'.log = w.log ++ more) (none : more.countP Happening.isLaunch = 0) :
    LaunchedOnBranch job w' := by
  intro k head alive hmem
  rw [log] at hmem
  obtain hmem | hmem := List.mem_append.1 hmem
  · exact h k head alive hmem
  · exact absurd rfl (List.countP_eq_zero.1 none _ hmem)

theorem OnTrack.saves {changes : RunState → RunState} {next : Option Point}
    (h : LaunchedOnBranch job w)
    (onBranch : (changes w.recorded).status.isTerminal = false → OnBranch job w.workspace)
    (point : BranchPoint job w.workspace next) :
    OnTrack job { w.saveState changes with running := next } :=
  ⟨fun _ => onBranch, point, h.append rfl rfl⟩

theorem OnTrack.quiet (h : OnTrack job w) {w' : World} (record : w'.record = w.record)
    (workspace : w'.workspace = w.workspace) (log : w.Quietly w')
    (point : BranchPoint job w.workspace w'.running) : OnTrack job w' := by
  obtain ⟨more, hlog, hnone⟩ := log
  refine ⟨?_, workspace ▸ point, h.launched.append hlog hnone⟩
  have hrecorded : w'.recorded = w.recorded := by simp only [World.recorded, record]
  have hstatus : w'.status = w.status := congrArg RunState.status hrecorded
  rw [record, hstatus, workspace]
  exact h.settled

theorem record_of_resumed (h : (w.status = .paused || 1 < w.attempt + 1 : Bool) = true) :
    w.record.isSome = true := by
  cases hrecord : w.record with
  | some state => rfl
  | none => simp [World.status, World.attempt, World.recorded, hrecord] at h

theorem onBranch_works {workspace : Option Worktree} (onBranch : OnBranch job workspace)
    (branches : List Text) :
    OnBranch job (workspace.map fun worktree =>
      { worktree with branches := branches.insert worktree.head }) := by
  obtain ⟨worktree, rfl, hhead, -⟩ := onBranch
  refine ⟨_, rfl, hhead, ?_⟩
  rw [← hhead]
  exact List.mem_insert_self

theorem branchPoint_mono {old new : Option Worktree} (keeps : OnBranch job old → OnBranch job new)
    {point : Option Point} (h : BranchPoint job old point) : BranchPoint job new point := by
  match point with
  | none | some .entered | some (.preparing _ false) | some (.refused _ _) | some .archiving =>
    exact trivial
  | some (.preparing _ true) | some (.starting _) | some (.spawning _) | some (.spawned _)
  | some (.prompting _) | some (.waiting _) | some (.terminating _ _) | some (.interrupted _ _)
  | some (.exited _ _) | some (.judging _ _ _) => exact keeps h

section Steps

variable {n k : Nat} (h : OnTrack job w) (account : Accounted job n w)

include h

theorem OnTrack.enter (live : w.status.isTerminal = false) : OnTrack job (enter job w) := by
  simp only [Fleet.enter]
  split
  · refine .saves h.launched (fun hlive => ?_) trivial
    cases hlive
  · refine h.quiet rfl rfl (.of_eq rfl) ?_
    cases hresumed : (w.status = .paused || 1 < w.attempt + 1 : Bool) with
    | false => exact trivial
    | true => exact h.settled (record_of_resumed hresumed) live

theorem OnTrack.prepare {resumed : Bool} (here : w.running = some (.preparing k resumed))
    (answers : Answers) : OnTrack job (prepare job w answers k resumed) := by
  have hp := h.point
  rw [here] at hp
  have hsettled : w.record.isSome = true → w.status.isTerminal = false →
      OnBranch job (attempted job w answers resumed).2 :=
    fun hrecord hlive => attempted_keeps (h.settled hrecord hlive)
  have hlog : ∀ w' : World, w'.log = w.log ++ (attempted job w answers resumed).1.2.map
      (Happening.published k) → LaunchedOnBranch job w' := by
    intro w' log
    obtain ⟨more, hmore, hnone⟩ := quietly_published w k (attempted job w answers resumed).1.2
    exact h.launched.append (log.trans hmore) hnone
  simp only [Fleet.prepare]
  split
  · next hok =>
    refine ⟨hsettled, ?_, hlog _ rfl⟩
    cases resumed with
    | true => exact attempted_keeps hp
    | false => exact attempted_reaches hok
  · exact ⟨hsettled, trivial, hlog _ rfl⟩
  · exact ⟨hsettled, trivial, hlog _ rfl⟩

theorem OnTrack.refuse {raised : Raised} (onBranch : OnBranch job w.workspace) :
    OnTrack job (refuse w k raised) := by
  have hlog : LaunchedOnBranch job { w with log := w.log ++ [.refused k raised] } :=
    h.launched.append rfl rfl
  match raised with
  | .discovery _ true => exact .saves hlog (fun _ => onBranch) trivial
  | .discovery _ false => exact .saves hlog nofun trivial
  | .configuration => exact .saves hlog (fun _ => onBranch) trivial
  | .unhandled => exact ⟨h.settled, trivial, hlog⟩

theorem OnTrack.spawn (here : w.running = some (.spawning k)) (answers : Answers) :
    OnTrack job (spawn w answers k) := by
  have hp := h.point
  rw [here] at hp
  have onBranch : OnBranch job w.workspace := hp
  simp only [Fleet.spawn]
  split
  · refine ⟨h.settled, onBranch, ?_⟩
    intro j head alive hmem
    obtain hmem | hmem := List.mem_append.1 hmem
    · exact h.launched j head alive hmem
    · obtain ⟨worktree, hworktree, hhead, -⟩ := onBranch
      cases List.mem_singleton.1 hmem
      rw [hworktree, Option.map_some, hhead]
  · exact h.quiet rfl rfl (.of_eq rfl) trivial

theorem OnTrack.advance {point : Point} (here : w.running = some point) (answers : Answers)
    (refuses : RefusesOnBranch job w (.advance answers)) (live : point ≠ .archiving → w.status.isTerminal = false) :
    OnTrack job (advance job w answers point) := by
  have hp := h.point
  rw [here] at hp
  cases point with
  | entered => exact h.enter (live nofun)
  | preparing k resumed => exact h.prepare here answers
  | refused k raised =>
    simp only [RefusesOnBranch, here] at refuses
    exact h.refuse refuses
  | starting k => exact .saves h.launched (fun _ => hp) hp
  | spawning k => exact h.spawn here answers
  | spawned k => exact .saves h.launched (fun _ => hp) hp
  | prompting k => exact h.quiet rfl rfl (.of_eq rfl) hp
  | waiting k =>
    simp only [Fleet.advance, Fleet.wait]
    split
    · next code _ =>
      exact h.quiet (record_leave w answers k) (workspace_leave w answers k)
        ⟨[.exited k code], by simp, rfl⟩ hp
    · split
      · exact h.quiet rfl rfl (.of_eq rfl) hp
      · exact h
    · exact h.quiet rfl rfl (.of_eq rfl) hp
  | terminating k why =>
    exact h.quiet (record_leave w answers k) (workspace_leave w answers k)
      (.of_eq (log_leave w answers k)) hp
  | interrupted k why =>
    cases why with
    | shutdown => exact .saves h.launched (fun _ => hp) trivial
    | timeout => exact .saves h.launched (fun _ => hp) trivial
  | exited k code =>
    simp only [Fleet.advance, Fleet.exit]
    split
    · split
      · exact h.quiet rfl rfl ⟨_, rfl, rfl⟩ hp
      · exact h.quiet rfl rfl ⟨_, rfl, rfl⟩ trivial
      · exact h.quiet rfl rfl ⟨_, rfl, rfl⟩ hp
    · split
      · exact .saves h.launched (fun _ => hp) trivial
      · split
        · exact .saves h.launched (fun _ => hp) trivial
        · exact .saves h.launched (fun _ => hp) trivial
  | judging k evidence observations =>
    simp only [Fleet.advance, Fleet.judge]
    split
    · exact .saves h.launched (fun _ => hp) trivial
    · split
      · exact .saves h.launched (fun _ => hp) trivial
      · exact .saves h.launched (fun _ => hp) trivial
  | archiving => exact h.quiet rfl rfl (.of_eq rfl) trivial

theorem OnTrack.step (account : Accounted job n w) (move : Move)
    (refuses : RefusesOnBranch job w move) : OnTrack job (step job w move) := by
  cases move with
  | enqueue => exact h.quiet rfl rfl (.of_eq rfl) h.point
  | poll offered =>
    change OnTrack job (poll w offered)
    obtain he | he | ⟨he, -⟩ := poll_cases w offered
    all_goals rw [he]
    · exact h
    · exact h.quiet rfl rfl (.of_eq rfl) h.point
    · exact h.quiet rfl rfl (.of_eq rfl) trivial
  | advance answers =>
    cases here : w.running with
    | none => simpa [Fleet.step, here] using h
    | some point =>
      have hup := account.supervised (by simp [here])
      simpa [Fleet.step, here, hup] using h.advance here answers refuses (account.live here)
  | raise => exact h.quiet rfl rfl (.of_eq rfl) trivial
  | stop => exact h.quiet rfl rfl (.of_eq rfl) h.point
  | crash => exact h.quiet rfl rfl (.of_eq rfl) trivial
  | restart readable =>
    have base : OnTrack job { w with up := true, stopping := false, running := none } :=
      h.quiet rfl rfl (.of_eq rfl) trivial
    simp only [Fleet.step]
    split
    · exact h
    · obtain he | ⟨hlive, hrecord, he⟩ := reconcile_cases
        { w with up := true, stopping := false, running := none } readable
      · rw [he]
        exact base
      · rw [he]
        exact ⟨fun _ _ => h.settled hrecord hlive, trivial, h.launched.append rfl rfl⟩
  | groupExits k => exact h.quiet rfl rfl (.of_eq rfl) h.point
  | providerWorks branches =>
    simp only [Fleet.step]
    split
    · exact h
    · exact ⟨fun hrecord hlive => onBranch_works (h.settled hrecord hlive) branches,
        branchPoint_mono (fun onBranch => onBranch_works onBranch branches) h.point, h.launched⟩

end Steps

end Track

/-- In a run whose recorded refusals leave the job's branch checked out, every provider is
launched on that branch. -/
theorem launched_on_branch (job : Job) (queued : Bool) (workspace : Option Worktree)
    (moves : List Move)
    (refusals : Run.Along (RefusesOnBranch job) (step job) (World.initial queued workspace) moves) :
    LaunchedOnBranch job (after job (World.initial queued workspace) moves) := by
  have track : (∃ n, Accounted job n (after job (World.initial queued workspace) moves)) ∧
      OnTrack job (after job (World.initial queued workspace) moves) := by
    refine Run.invariant_along (P := fun w => (∃ n, Accounted job n w) ∧ OnTrack job w) ?_
      ⟨⟨0, .initial queued workspace⟩, .initial queued workspace⟩ refusals
    rintro w move ⟨⟨n, account⟩, h⟩ refuses
    exact ⟨⟨_, account.step move⟩, h.step account move refuses⟩
  exact track.2.launched

/-- An attempt whose last event is refused has checked the branch out, and so the next one is
launched on it. -/
theorem launched_on_branch_after_refused_event :
    LaunchedOnBranch Sample.job (after Sample.job Sample.queued
      (Sample.refusal { started := ⟨false, .error .configuration⟩ } ++ Sample.launch {})) := by
  refine launched_on_branch Sample.job true none _ ?_
  refine ⟨trivial, trivial, trivial, ⟨_, rfl, rfl, ?_⟩, trivial, trivial, trivial, trivial, trivial,
    trivial⟩
  decide

/-- A first attempt whose fetch fails counts as resumed from then on, and the provider works on
the default branch. -/
theorem launched_off_branch : ¬ LaunchedOnBranch Sample.job (after Sample.job Sample.queued
    (Sample.refusal { git := { fetch := .error .configuration } } ++ Sample.launch {})) := by
  intro h
  have hmain := h 2 (some (text "main")) [] (List.mem_of_getElem? (i := 7) rfl)
  revert hmain
  decide

end ControlPlane.Fleet
