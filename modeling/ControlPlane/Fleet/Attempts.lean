import ControlPlane.Fleet.Supervisor

/-! How the recorded attempt and the launches of a provider keep up with each other. -/

namespace ControlPlane.Fleet

def Happening.isLaunch : Happening → Bool
  | .launched _ _ _ => true
  | _ => false

namespace World

def launches (w : World) : Nat := w.log.countP Happening.isLaunch

def Exhausted (w : World) : Prop :=
  w.status = .partially ∧ w.recorded.errorClass = some "attempts_exhausted"

def RefusedForGood (w : World) : Prop :=
  ∃ k kind, Happening.refused k (.discovery kind false) ∈ w.log

section Simp

variable (w : World) (changes : RunState → RunState) (point : Point)

@[simp] theorem launches_saveState : (w.saveState changes).launches = w.launches := by
  simp [launches, Happening.isLaunch]

@[simp] theorem launches_proceed : (w.proceed point).launches = w.launches := rfl

@[simp] theorem launches_finish : w.finish.launches = w.launches := rfl

end Simp

end World

/-- A step that uses an attempt up before its provider is launched: an `except` clause records
the attempt, or `run_one` ends between saving `starting` and the spawn. -/
def losesAttempt (w : World) : Move → Bool
  | .advance answers =>
    match w.running with
    | some (.refused _ .unhandled) => false
    | some (.refused _ _) => true
    | some (.spawning _) => !answers.spawns
    | _ => false
  | .raise | .crash =>
    match w.running with
    | some (.spawning _) => true
    | _ => false
  | _ => false

/-- What `run_one` knows where it stands: `n` attempts were lost, `launches` were launched, and
the run state is terminal or not. -/
def AtPoint (job : Job) (n launches attempt : Nat) (ended : Bool) : Option Point → Prop
  | none | some .archiving => n + launches = attempt
  | some .entered => n + launches = attempt ∧ ended = false
  | some (.preparing k _) | some (.refused k _) | some (.starting k) =>
    n + launches = attempt ∧ ended = false ∧ k = attempt + 1 ∧ k ≤ job.maxAttempts
  | some (.spawning k) => n + launches + 1 = attempt ∧ ended = false ∧ k = attempt
  | some (.spawned k) | some (.prompting k) | some (.waiting k) | some (.terminating k _)
  | some (.interrupted k _) | some (.exited k _) | some (.judging k _ _) =>
    n + launches = attempt ∧ ended = false ∧ k = attempt ∧ 1 ≤ launches

/-- The account of a run that has lost `n` attempts. -/
structure Accounted (job : Job) (n : Nat) (w : World) : Prop where
  bounded : w.attempt ≤ job.maxAttempts
  supervised : w.running.isSome → w.up = true
  point : AtPoint job n w.launches w.attempt w.status.isTerminal w.running
  exhausted : w.Exhausted → w.attempt = job.maxAttempts
  ending : w.status.isTerminal = true → w.Exhausted ∨ 1 ≤ w.launches ∨ w.RefusedForGood

def World.Quietly (w w' : World) : Prop :=
  ∃ more, w'.log = w.log ++ more ∧ more.countP Happening.isLaunch = 0

theorem World.Quietly.of_eq {w w' : World} (log : w'.log = w.log) : w.Quietly w' :=
  ⟨[], by rw [log, List.append_nil], rfl⟩

theorem World.Quietly.launches {w w' : World} (h : w.Quietly w') : w'.launches = w.launches := by
  obtain ⟨more, hlog, hmore⟩ := h
  rw [World.launches, hlog, List.countP_append, hmore]
  rfl

theorem World.Quietly.refusedForGood {w w' : World} (h : w.Quietly w') (hr : w.RefusedForGood) :
    w'.RefusedForGood := by
  obtain ⟨more, hlog, -⟩ := h
  obtain ⟨k, kind, hmem⟩ := hr
  exact ⟨k, kind, hlog ▸ List.mem_append_left _ hmem⟩

theorem World.quietly_saveState (w : World) (changes : RunState → RunState) :
    w.Quietly (w.saveState changes) := ⟨_, rfl, rfl⟩

section Accounting

variable {job : Job} {n : Nat} {w : World}

theorem Accounted.initial (queued : Bool) (workspace : Option Worktree) :
    Accounted job 0 (World.initial queued workspace) where
  bounded := Nat.zero_le _
  supervised := by simp [World.initial]
  point := rfl
  exhausted := by simp [World.Exhausted, World.initial, World.status, World.recorded]
  ending := by simp [World.initial, World.status, World.recorded, Status.isTerminal]

theorem quietly_published (w : World) (k : Nat) (events : List AgentEvent) :
    ∃ more, w.log ++ events.map (Happening.published k) = w.log ++ more ∧
      more.countP Happening.isLaunch = 0 := by
  refine ⟨_, rfl, ?_⟩
  rw [List.countP_eq_zero]
  intro h hh
  obtain ⟨event, -, rfl⟩ := List.mem_map.1 hh
  simp [Happening.isLaunch]

theorem Accounted.saves {changes : RunState → RunState} {next : Option Point}
    (up : w.up = true) (bounded : (changes w.recorded).attempt ≤ job.maxAttempts)
    (point : AtPoint job n w.launches (changes w.recorded).attempt
      (changes w.recorded).status.isTerminal next)
    (exhausted : (changes w.recorded).status = .partially →
      (changes w.recorded).errorClass = some "attempts_exhausted" →
      (changes w.recorded).attempt = job.maxAttempts)
    (ending : (changes w.recorded).status.isTerminal = true →
      ((changes w.recorded).status = .partially ∧
        (changes w.recorded).errorClass = some "attempts_exhausted") ∨
      1 ≤ w.launches ∨ w.RefusedForGood) :
    Accounted job n { w.saveState changes with running := next } := by
  have hq : w.Quietly { w.saveState changes with running := next } := w.quietly_saveState changes
  refine ⟨bounded, fun _ => up, ?_, fun hex => exhausted hex.1 hex.2, fun hover => ?_⟩
  · rw [hq.launches]
    exact point
  · rw [hq.launches]
    exact (ending hover).imp_right (Or.imp_right hq.refusedForGood)

section Steps

variable {k : Nat} (h : Accounted job n w)

include h

theorem Accounted.quiet {w' : World} (record : w'.record = w.record) (log : w.Quietly w')
    (up : w'.running.isSome → w'.up = true)
    (point : AtPoint job n w.launches w.attempt w.status.isTerminal w'.running) :
    Accounted job n w' := by
  have hrecorded : w'.recorded = w.recorded := by simp only [World.recorded, record]
  have hattempt : w'.attempt = w.attempt := congrArg RunState.attempt hrecorded
  have hstatus : w'.status = w.status := congrArg RunState.status hrecorded
  refine ⟨hattempt ▸ h.bounded, up, ?_, ?_, ?_⟩
  · rw [log.launches, hattempt, hstatus]
    exact point
  · rw [World.Exhausted, hstatus, hrecorded, hattempt]
    exact h.exhausted
  · rw [World.Exhausted, hstatus, hrecorded, log.launches]
    exact fun hover => (h.ending hover).imp_right (Or.imp_right log.refusedForGood)

theorem Accounted.enter (here : w.running = some .entered) : Accounted job n (enter job w) := by
  have hp := h.point
  rw [here] at hp
  obtain ⟨hcount, hlive⟩ := hp
  have hup := h.supervised (by simp [here])
  have hbound := h.bounded
  simp only [Fleet.enter]
  split
  · refine .saves hup hbound hcount (fun _ _ => ?_) fun _ => .inl ⟨rfl, rfl⟩
    simp only [World.recorded_attempt]
    omega
  · refine h.quiet rfl (.of_eq rfl) (fun _ => hup) ⟨hcount, hlive, rfl, ?_⟩
    omega

theorem Accounted.prepare {resumed : Bool} (here : w.running = some (.preparing k resumed))
    (answers : Answers) : Accounted job n (prepare job w answers k resumed) := by
  have hp := h.point
  rw [here] at hp
  have hup := h.supervised (by simp [here])
  simp only [Fleet.prepare]
  split
  · exact h.quiet rfl (quietly_published w k _) (fun _ => hup) hp
  · exact h.quiet rfl (quietly_published w k _) nofun hp.1
  · exact h.quiet rfl (quietly_published w k _) (fun _ => hup) hp

theorem Accounted.refuse {raised : Raised} (here : w.running = some (.refused k raised))
    (answers : Answers) :
    Accounted job (n + (losesAttempt w (.advance answers)).toNat) (refuse w k raised) := by
  have hp := h.point
  rw [here] at hp
  obtain ⟨hcount, hlive, rfl, hmax⟩ := hp
  have hup := h.supervised (by simp [here])
  have hq : w.Quietly { w with log := w.log ++ [.refused (w.attempt + 1) raised] } := ⟨_, rfl, rfl⟩
  have hlost : n + 1 + ({ w with log := w.log ++ [.refused (w.attempt + 1) raised] } : World).launches
      = w.attempt + 1 := by
    rw [hq.launches]
    omega
  simp only [losesAttempt, here]
  cases raised with
  | discovery kind recoverable =>
    cases recoverable with
    | true => exact .saves hup hmax hlost nofun nofun
    | false =>
      refine .saves hup hmax hlost nofun fun _ => .inr (.inr ⟨w.attempt + 1, kind, ?_⟩)
      exact List.mem_append_right _ (List.mem_singleton_self _)
  | configuration => exact .saves hup hmax hlost nofun nofun
  | unhandled => exact h.quiet rfl hq nofun hcount

theorem Accounted.start (here : w.running = some (.starting k)) : Accounted job n (start w k) := by
  have hp := h.point
  rw [here] at hp
  obtain ⟨hcount, hlive, rfl, hmax⟩ := hp
  exact .saves (h.supervised (by simp [here])) hmax ⟨congrArg (· + 1) hcount, rfl, rfl⟩ nofun nofun

theorem Accounted.spawn (here : w.running = some (.spawning k)) (answers : Answers) :
    Accounted job (n + (losesAttempt w (.advance answers)).toNat) (spawn w answers k) := by
  have hp := h.point
  rw [here] at hp
  obtain ⟨hcount, hlive, rfl⟩ := hp
  simp only [losesAttempt, here]
  cases hspawns : answers.spawns with
  | true =>
    simp only [Fleet.spawn, hspawns, if_true]
    have hlaunches : (w.log ++ [Happening.launched w.attempt
        (w.workspace.map fun worktree => worktree.head) w.groups]).countP Happening.isLaunch =
        w.launches + 1 := by
      rw [List.countP_append]
      rfl
    refine ⟨h.bounded, fun _ => h.supervised (by simp [here]), ⟨?_, hlive, rfl, ?_⟩, h.exhausted,
      fun _ => .inr (.inl ?_)⟩
    · rw [World.launches, hlaunches]
      exact hcount
    · rw [World.launches, hlaunches]
      exact Nat.le_add_left 1 _
    · rw [World.launches, hlaunches]
      exact Nat.le_add_left 1 _
  | false =>
    simp only [Fleet.spawn, hspawns]
    have hlost : n + 1 + w.launches = w.attempt := by omega
    exact ⟨h.bounded, nofun, hlost, h.exhausted, h.ending⟩

theorem Accounted.markRunning (here : w.running = some (.spawned k)) :
    Accounted job n (markRunning w k) := by
  have hp := h.point
  rw [here] at hp
  obtain ⟨hcount, hlive, rfl, hone⟩ := hp
  exact .saves (h.supervised (by simp [here])) h.bounded ⟨hcount, rfl, rfl, hone⟩ nofun nofun

theorem Accounted.wait (here : w.running = some (.waiting k)) (answers : Answers) :
    Accounted job n (wait w answers k) := by
  have hp := h.point
  rw [here] at hp
  have hup := h.supervised (by simp [here])
  simp only [Fleet.wait]
  split
  · next code _ =>
    refine h.quiet (record_leave w answers k) ⟨[.exited k code], ?_, rfl⟩ (fun _ => ?_) hp
    · simp
    · simpa using hup
  · split
    · exact h.quiet rfl (.of_eq rfl) (fun _ => hup) hp
    · exact h
  · exact h.quiet rfl (.of_eq rfl) (fun _ => hup) hp

theorem Accounted.terminate {why : Interruption} (here : w.running = some (.terminating k why))
    (answers : Answers) : Accounted job n (terminate w answers k why) := by
  have hp := h.point
  rw [here] at hp
  have hup := h.supervised (by simp [here])
  refine h.quiet (record_leave w answers k) (.of_eq (log_leave w answers k)) (fun _ => ?_) hp
  simpa [Fleet.terminate] using hup

theorem Accounted.interrupt {why : Interruption} (here : w.running = some (.interrupted k why)) :
    Accounted job n (interrupt w why) := by
  have hp := h.point
  rw [here] at hp
  have hup := h.supervised (by simp [here])
  cases why with
  | shutdown => exact .saves hup h.bounded hp.1 nofun nofun
  | timeout => exact .saves hup h.bounded hp.1 nofun nofun

theorem Accounted.exit {code : Int} (here : w.running = some (.exited k code)) (answers : Answers) :
    Accounted job n (exit job w answers k code) := by
  have hp := h.point
  rw [here] at hp
  have hup := h.supervised (by simp [here])
  simp only [Fleet.exit]
  split
  · split
    · exact h.quiet rfl ⟨_, rfl, rfl⟩ (fun _ => hup) hp
    · exact h.quiet rfl ⟨_, rfl, rfl⟩ nofun hp.1
    · exact h.quiet rfl ⟨_, rfl, rfl⟩ (fun _ => hup) hp
  · split
    · exact .saves hup h.bounded hp.1 nofun nofun
    · split
      · exact .saves hup h.bounded hp.1 nofun nofun
      · exact .saves hup h.bounded hp.1 nofun fun _ => .inr (.inl hp.2.2.2)

theorem Accounted.judge {evidence : DeliveryEvidence} {observations : ObservationSummary}
    (here : w.running = some (.judging k evidence observations)) :
    Accounted job n (judge job w k evidence observations) := by
  have hp := h.point
  rw [here] at hp
  have hup := h.supervised (by simp [here])
  simp only [Fleet.judge]
  split
  · exact .saves hup h.bounded hp.1 nofun fun _ => .inr (.inl hp.2.2.2)
  · split
    · exact .saves hup h.bounded hp.1 nofun nofun
    · exact .saves hup h.bounded hp.1 (by simp) fun _ => .inr (.inl hp.2.2.2)

theorem Accounted.prompt (here : w.running = some (.prompting k)) :
    Accounted job n (w.proceed (.waiting k)) := by
  have hp := h.point
  rw [here] at hp
  have hup := h.supervised (by simp [here])
  exact h.quiet rfl (.of_eq rfl) (fun _ => hup) hp

theorem Accounted.archive (here : w.running = some .archiving) :
    Accounted job n w.archiveJob.finish := by
  have hp := h.point
  rw [here] at hp
  exact h.quiet rfl (.of_eq rfl) nofun hp

theorem Accounted.advance {point : Point} (here : w.running = some point) (answers : Answers) :
    Accounted job (n + (losesAttempt w (.advance answers)).toNat) (advance job w answers point) := by
  cases point with
  | refused k raised => exact h.refuse here answers
  | spawning k => exact h.spawn here answers
  | entered => simpa [losesAttempt, here, Fleet.advance] using h.enter here
  | preparing k resumed => simpa [losesAttempt, here, Fleet.advance] using h.prepare here answers
  | starting k => simpa [losesAttempt, here, Fleet.advance] using h.start here
  | spawned k => simpa [losesAttempt, here, Fleet.advance] using h.markRunning here
  | prompting k => simpa [losesAttempt, here, Fleet.advance] using h.prompt here
  | waiting k => simpa [losesAttempt, here, Fleet.advance] using h.wait here answers
  | terminating k why => simpa [losesAttempt, here, Fleet.advance] using h.terminate here answers
  | interrupted k why => simpa [losesAttempt, here, Fleet.advance] using h.interrupt here
  | exited k code => simpa [losesAttempt, here, Fleet.advance] using h.exit here answers
  | judging k evidence observations =>
    simpa [losesAttempt, here, Fleet.advance] using h.judge here
  | archiving => simpa [losesAttempt, here, Fleet.advance] using h.archive here

theorem Accounted.dropped {w' : World} (record : w'.record = w.record) (log : w'.log = w.log)
    (ended : w'.running = none) : Accounted job (n + (losesAttempt w .raise).toNat) w' := by
  have hp := h.point
  have hcount : n + (losesAttempt w .raise).toNat + w.launches = w.attempt := by
    cases here : w.running with
    | none =>
      rw [here] at hp
      simpa [losesAttempt, here, AtPoint] using hp
    | some point =>
      rw [here] at hp
      cases point with
      | spawning k =>
        have hcount := hp.1
        simp only [losesAttempt, here, Bool.toNat_true]
        omega
      | archiving => simpa [losesAttempt, here, AtPoint] using hp
      | _ => simpa [losesAttempt, here] using hp.1
  have base : Accounted job (n + (losesAttempt w .raise).toNat) { w with running := none } :=
    ⟨h.bounded, nofun, hcount, h.exhausted, h.ending⟩
  refine base.quiet record (.of_eq log) ?_ ?_
  · simp [ended]
  · rw [ended]
    exact hcount

theorem Accounted.poll (offered : Poll) : Accounted job n (poll w offered) := by
  obtain he | he | ⟨he, hidle, hup, -, hlive⟩ := poll_cases w offered
  · rw [he]
    exact h
  · rw [he]
    exact h.quiet rfl (.of_eq rfl) h.supervised h.point
  · have hp := h.point
    rw [hidle] at hp
    rw [he]
    exact h.quiet rfl (.of_eq rfl) (fun _ => hup) ⟨hp, hlive⟩

theorem Accounted.restart (down : w.up = false) (readable : Bool) :
    Accounted job n (reconcile { w with up := true, stopping := false, running := none } readable) := by
  have hidle : w.running = none := by
    cases here : w.running with
    | none => rfl
    | some point => simpa [down] using h.supervised (by simp [here])
  have hp := h.point
  rw [hidle] at hp
  have base : Accounted job n { w with up := true, stopping := false, running := none } :=
    h.quiet rfl (.of_eq rfl) nofun hp
  obtain he | ⟨-, -, he⟩ := reconcile_cases { w with up := true, stopping := false, running := none } readable
  · rw [he]
    exact base
  · rw [he]
    refine ⟨h.bounded, nofun, ?_, nofun, nofun⟩
    rw [World.launches_saveState]
    exact hp

theorem Accounted.step (move : Move) :
    Accounted job (n + (losesAttempt w move).toNat) (step job w move) := by
  cases move with
  | enqueue => exact h.quiet rfl (.of_eq rfl) h.supervised h.point
  | poll offered => exact h.poll offered
  | advance answers =>
    cases here : w.running with
    | none => simpa [Fleet.step, losesAttempt, here] using h
    | some point =>
      have hup := h.supervised (by simp [here])
      simpa [Fleet.step, here, hup] using h.advance here answers
  | raise => exact h.dropped rfl rfl rfl
  | stop => exact h.quiet rfl (.of_eq rfl) h.supervised h.point
  | crash => exact h.dropped rfl rfl rfl
  | restart readable =>
    simp only [Fleet.step]
    cases hup : w.up with
    | true => exact h
    | false => exact h.restart hup readable
  | groupExits k => exact h.quiet rfl (.of_eq rfl) h.supervised h.point
  | providerWorks branches =>
    simp only [Fleet.step]
    split
    · exact h
    · exact h.quiet rfl (.of_eq rfl) h.supervised h.point

end Steps

theorem Accounted.settled (h : Accounted job n w) (ended : w.status.isTerminal = true) :
    n + w.launches = w.attempt := by
  have hp := h.point
  rw [ended] at hp
  cases here : w.running with
  | none =>
    rw [here] at hp
    exact hp
  | some point =>
    rw [here] at hp
    cases point with
    | archiving => exact hp
    | spawning k => exact absurd hp.2.1 (by simp)
    | _ => exact hp.1

theorem Accounted.launches_le (h : Accounted job n w) : w.launches ≤ w.attempt := by
  have hp := h.point
  cases here : w.running with
  | none =>
    rw [here] at hp
    have : n + w.launches = w.attempt := hp
    omega
  | some point =>
    rw [here] at hp
    cases point with
    | archiving =>
      have : n + w.launches = w.attempt := hp
      omega
    | _ =>
      have := hp.1
      omega

theorem Accounted.run {n : Nat} (h : Accounted job n w) (moves : List Move) :
    Accounted job (n + Run.tally losesAttempt (Fleet.step job) w moves) (after job w moves) :=
  Run.invariant_tally (fun _ _ m h => h.step m) h moves

theorem Accounted.attempt_le_advance (h : Accounted job n w) {point : Point}
    (here : w.running = some point) (answers : Answers) :
    w.attempt ≤ (Fleet.advance job w answers point).attempt := by
  have hp := h.point
  rw [here] at hp
  cases point with
  | entered =>
    simp only [Fleet.advance, Fleet.enter]
    split <;> simp
  | preparing k resumed =>
    simp only [Fleet.advance, Fleet.prepare]
    split <;> exact Nat.le_refl w.attempt
  | refused k raised =>
    obtain ⟨-, -, rfl, -⟩ := hp
    match raised with
    | .discovery _ true | .discovery _ false | .configuration => exact Nat.le_succ w.attempt
    | .unhandled => exact Nat.le_refl w.attempt
  | starting k =>
    obtain ⟨-, -, rfl, -⟩ := hp
    exact Nat.le_succ w.attempt
  | spawning k =>
    simp only [Fleet.advance, Fleet.spawn]
    split <;> exact Nat.le_refl w.attempt
  | spawned k => exact le_of_eq hp.2.2.1.symm
  | waiting k =>
    simp only [Fleet.advance, Fleet.wait]
    split
    · simp [World.attempt, World.recorded]
    · split <;> simp
    · simp
  | terminating k why => simp [Fleet.advance, Fleet.terminate, World.attempt, World.recorded]
  | interrupted k why => cases why <;> simp [Fleet.advance, Fleet.interrupt]
  | exited k code =>
    simp only [Fleet.advance, Fleet.exit]
    split
    · split <;> exact Nat.le_refl w.attempt
    · split
      · simp
      · split <;> simp
  | judging k evidence observations =>
    simp only [Fleet.advance, Fleet.judge]
    split
    · simp
    · split <;> simp
  | _ => exact Nat.le_refl w.attempt

theorem Accounted.attempt_le (h : Accounted job n w) (move : Move) :
    w.attempt ≤ (Fleet.step job w move).attempt := by
  cases move with
  | poll offered =>
    obtain he | he | ⟨he, -⟩ := poll_cases w offered
    all_goals
      simp only [Fleet.step, he]
      exact Nat.le_refl w.attempt
  | advance answers =>
    cases here : w.running with
    | none => simp [Fleet.step, here]
    | some point =>
      simp only [Fleet.step, here]
      split
      · exact h.attempt_le_advance here answers
      · exact Nat.le_refl w.attempt
  | restart readable =>
    simp only [Fleet.step]
    split
    · exact Nat.le_refl w.attempt
    · obtain he | ⟨-, -, he⟩ := reconcile_cases
        { w with up := true, stopping := false, running := none } readable
      all_goals
        rw [he]
        exact Nat.le_refl w.attempt
  | providerWorks branches =>
    simp only [Fleet.step]
    split <;> exact Nat.le_refl w.attempt
  | _ => exact Nat.le_refl w.attempt

theorem Accounted.live (h : Accounted job n w) {point : Point} (here : w.running = some point)
    (inside : point ≠ .archiving) : w.status.isTerminal = false := by
  have hp := h.point
  rw [here] at hp
  cases point with
  | archiving => exact absurd rfl inside
  | entered => exact hp.2
  | _ => exact hp.2.1

theorem Accounted.frozen (h : Accounted job n w) (ended : w.status.isTerminal = true)
    (move : Move) :
    (Fleet.step job w move).record = w.record ∧ (Fleet.step job w move).launches = w.launches := by
  have hidle : w.running = none ∨ w.running = some .archiving := by
    cases here : w.running with
    | none => exact .inl rfl
    | some point =>
      by_cases harchive : point = .archiving
      · exact .inr (congrArg some harchive)
      · simp [h.live here harchive] at ended
  cases move with
  | poll offered =>
    obtain he | he | ⟨-, -, -, -, hlive⟩ := poll_cases w offered
    · simp [Fleet.step, he]
    · simp only [Fleet.step, he]
      exact ⟨rfl, rfl⟩
    · simp [hlive] at ended
  | advance answers =>
    obtain here | here := hidle
    · simp [Fleet.step, here]
    · have hup := h.supervised (by simp [here])
      simp only [Fleet.step, here, hup, if_true]
      exact ⟨rfl, rfl⟩
  | restart readable =>
    simp only [Fleet.step]
    split
    · exact ⟨rfl, rfl⟩
    · obtain he | ⟨hlive, -⟩ := reconcile_cases
        { w with up := true, stopping := false, running := none } readable
      · rw [he]
        exact ⟨rfl, rfl⟩
      · simp [World.status, World.recorded] at hlive ended
        simp [hlive] at ended
  | providerWorks branches =>
    simp only [Fleet.step]
    split <;> exact ⟨rfl, rfl⟩
  | _ => exact ⟨rfl, rfl⟩

end Accounting

section Runs

variable (job : Job) (queued : Bool) (workspace : Option Worktree) (moves later : List Move)

theorem accounted : Accounted job
    (Run.tally losesAttempt (step job) (World.initial queued workspace) moves)
    (after job (World.initial queued workspace) moves) := by
  simpa using (Accounted.initial queued workspace).run moves

/-- The provider is launched at most `max_attempts` times, the recorded attempt only grows and
stays below that bound, and a job that is over is never launched again nor given another
status. -/
theorem attempts_bounded_and_final (job : Job) (queued : Bool) (workspace : Option Worktree)
    (moves later : List Move) :
    let w := after job (World.initial queued workspace) moves
    let w' := after job w later
    w.launches ≤ job.maxAttempts ∧ w.attempt ≤ job.maxAttempts ∧ w.attempt ≤ w'.attempt ∧
      (w.status.isTerminal = true → w'.status = w.status ∧ w'.launches = w.launches) := by
  intro w w'
  have h := accounted job queued workspace moves
  refine ⟨h.launches_le.trans h.bounded, h.bounded, ?_, fun ended => ?_⟩
  · refine Run.related (P := fun v => ∃ n, Accounted job n v) (R := fun v v' => v.attempt ≤ v'.attempt)
      ?_ (fun v => Nat.le_refl v.attempt) (fun _ _ _ => Nat.le_trans) ?_ ⟨_, h⟩ later
    · rintro v m ⟨n, hv⟩
      exact ⟨_, hv.step m⟩
    · rintro v m ⟨n, hv⟩
      exact hv.attempt_le m
  · have kept : (∃ n, Accounted job n w') ∧ w'.record = w.record ∧ w'.launches = w.launches := by
      refine Run.invariant (P := fun v => (∃ n, Accounted job n v) ∧ v.record = w.record ∧
        v.launches = w.launches) (fun v m hv => ?_) ⟨⟨_, h⟩, rfl, rfl⟩ later
      obtain ⟨⟨n, hv⟩, hrecord, hlaunches⟩ := hv
      have hended : v.status.isTerminal = true := by
        simpa only [World.status, World.recorded, hrecord] using ended
      obtain ⟨hr, hl⟩ := hv.frozen hended m
      exact ⟨⟨_, hv.step m⟩, hr.trans hrecord, hl.trans hlaunches⟩
    refine ⟨?_, kept.2.2⟩
    simp only [World.status, World.recorded, kept.2.1]

/-- Only launches use a job up: its attempts are not exhausted before it has been launched
`max_attempts` times, and it is not over before it was launched or refused for good. -/
def UsedUpByLaunches (job : Job) (w : World) : Prop :=
  (w.Exhausted → w.launches = job.maxAttempts) ∧
    (w.status.isTerminal = true → 1 ≤ w.launches ∨ w.RefusedForGood)

theorem used_up_by_launches_iff (positive : 1 ≤ job.maxAttempts) :
    let w := after job (World.initial queued workspace) moves
    UsedUpByLaunches job w ↔ (w.Exhausted → Run.Along (fun v m => losesAttempt v m = false)
      (step job) (World.initial queued workspace) moves) := by
  intro w
  have h := accounted job queued workspace moves
  have hcount : w.Exhausted →
      Run.tally losesAttempt (step job) (World.initial queued workspace) moves + w.launches =
        job.maxAttempts := by
    intro hex
    rw [← h.exhausted hex]
    have ended : w.status.isTerminal = true := by
      rw [hex.1]
      rfl
    exact h.settled ended
  simp only [← Run.tally_eq_zero]
  constructor
  · rintro ⟨hlaunched, -⟩ hex
    have := hcount hex
    have := hlaunched hex
    omega
  · intro hkept
    have hlaunched : w.Exhausted → w.launches = job.maxAttempts := by
      intro hex
      have := hcount hex
      have := hkept hex
      omega
    refine ⟨hlaunched, fun ended => ?_⟩
    obtain hex | hend := h.ending ended
    · have := hlaunched hex
      exact .inl (by omega)
    · exact hend

end Runs

def Sample.timeouts : List Move :=
  let timeout := Sample.launch {} ++
    [.advance {}, .advance {}, .advance { wait := .timedOut }, .advance {}, .advance {}]
  timeout ++ timeout ++ [.poll {}, .advance {}]

theorem used_up_by_timeouts : (after Sample.job Sample.queued Sample.timeouts).Exhausted ∧
    UsedUpByLaunches Sample.job (after Sample.job Sample.queued Sample.timeouts) := by
  refine ⟨⟨rfl, rfl⟩, (used_up_by_launches_iff Sample.job true none Sample.timeouts (by decide)).2 ?_⟩
  intro _
  rw [← Run.tally_eq_zero]
  rfl

/-- Two outages of the provider use up a job that was never launched. -/
theorem used_up_by_outages :
    let outage := Sample.refusal { provider := .error (.discovery "unavailable" true) }
    ¬ UsedUpByLaunches Sample.job
      (after Sample.job Sample.queued (outage ++ outage ++ [.poll {}, .advance {}])) := by
  intro outage h
  have hnone := h.1 ⟨rfl, rfl⟩
  revert hnone
  decide

end ControlPlane.Fleet
