import ControlPlane.Fleet.Supervisor

/-! What a job that is recorded as succeeded has delivered. -/

namespace ControlPlane.Fleet

/-- What `run_one` reads out of a ledger; a ledger it cannot read counts for nothing. -/
def observed (ledger : Ledger) : ObservationSummary :=
  match readObservationSummary ledger with
  | .ok observations => observations
  | .error _ => .empty

/-- The provider exits with code 0, evidence is collected after that, and the state saved next
is `succeeded`. -/
def SucceededOn (w : World) (evidence : DeliveryEvidence) (ledger : Ledger) : Prop :=
  ∃ earlier k later, w.log = earlier ++
    [.exited k 0, .collected evidence ledger, .saved .succeeded] ++ later

def Verified (job : Job) (w : World) : Prop :=
  ∃ evidence ledger, SucceededOn w evidence ledger ∧ Delivered job evidence
    (ledger.count "progress_updated") (ledger.count "reflection_recorded") ledger.tests

def ExitPoint (log : List Happening) : Option Point → Prop
  | some (.exited k code) => ∃ earlier, log = earlier ++ [.exited k code]
  | some (.judging k evidence observations) => ∃ earlier ledger,
    log = earlier ++ [.exited k 0, .collected evidence ledger] ∧ observations = observed ledger
  | _ => True

structure Audited (job : Job) (w : World) : Prop where
  point : ExitPoint w.log w.running
  succeeded : w.status = .succeeded → Verified job w

section Contract

variable {job : Job} {evidence : DeliveryEvidence} {ledger : Ledger}

theorem delivered_observed (h : Delivered job evidence (observed ledger).progressCount
      (observed ledger).reflectionCount (observed ledger).testEvidenceCount) :
    Delivered job evidence (ledger.count "progress_updated") (ledger.count "reflection_recorded")
      ledger.tests := by
  simp only [observed] at h
  cases hread : readObservationSummary ledger with
  | ok observations =>
    rw [hread] at h
    obtain ⟨hcounts, htests⟩ := readObservationSummary_ok hread
    rw [← hcounts, ← hcounts, ← htests]
    exact h
  | error raised =>
    rw [hread] at h
    have hnone : ∀ kind, ObservationSummary.empty.counts.getD kind 0 = 0 := by
      simp [ObservationSummary.empty]
    refine ⟨h.clean, h.ahead, h.pushed, h.pullRequest, fun hj => ?_, fun hj => ?_⟩
    · have hprogress : 2 ≤ ObservationSummary.empty.progressCount := (h.observed hj).1
      rw [ObservationSummary.progressCount, hnone] at hprogress
      omega
    · have htests : 1 ≤ ObservationSummary.empty.testEvidenceCount := h.tested hj
      simp [ObservationSummary.empty] at htests

end Contract

section Steps

variable {job : Job} {w : World}

theorem Verified.append (h : Verified job w) {w' : World} {more : List Happening}
    (log : w'.log = w.log ++ more) : Verified job w' := by
  obtain ⟨evidence, ledger, ⟨earlier, k, later, hlog⟩, hdelivered⟩ := h
  refine ⟨evidence, ledger, ⟨earlier, k, later ++ more, ?_⟩, hdelivered⟩
  rw [log, hlog, List.append_assoc]

variable (h : Audited job w)

include h

theorem Audited.quiet {w' : World} {more : List Happening} (record : w'.record = w.record)
    (log : w'.log = w.log ++ more) (point : ExitPoint w'.log w'.running) : Audited job w' := by
  refine ⟨point, fun hsucceeded => (h.succeeded ?_).append log⟩
  rw [← hsucceeded, World.status, World.status, World.recorded, World.recorded, record]

theorem Audited.still {w' : World} (record : w'.record = w.record) (log : w'.log = w.log)
    (point : ExitPoint w.log w'.running) : Audited job w' :=
  h.quiet record (log.trans (List.append_nil _).symm) (log ▸ point)

omit h in
theorem Audited.saves {changes : RunState → RunState} {next : Option Point}
    (other : (changes w.recorded).status ≠ .succeeded)
    (point : ∀ log, ExitPoint log next) :
    Audited job { w.saveState changes with running := next } :=
  ⟨point _, fun hsucceeded => absurd hsucceeded other⟩

theorem Audited.judge {k : Nat} {evidence : DeliveryEvidence} {observations : ObservationSummary}
    (here : w.running = some (.judging k evidence observations)) :
    Audited job (judge job w k evidence observations) := by
  have hp := h.point
  rw [here] at hp
  obtain ⟨earlier, ledger, hlog, rfl⟩ := hp
  simp only [Fleet.judge]
  split
  · next hmissing =>
    refine ⟨trivial, fun _ => ⟨evidence, ledger, ⟨earlier, k, [], ?_⟩, ?_⟩⟩
    · simp [hlog]
    · exact delivered_observed (missingDeliveryRequirements_eq_nil.1 hmissing)
  · split
    · exact .saves nofun fun _ => trivial
    · exact .saves nofun fun _ => trivial

theorem Audited.advance {point : Point} (here : w.running = some point) (answers : Answers) :
    Audited job (advance job w answers point) := by
  cases point with
  | judging k evidence observations => exact h.judge here
  | exited k code =>
    have hp := h.point
    rw [here] at hp
    obtain ⟨earlier, hlog⟩ := hp
    simp only [Fleet.advance, exit]
    split
    · next hcode =>
      subst hcode
      have hcollected : w.log ++ [.collected answers.evidence answers.ledger] =
          earlier ++ [.exited k 0, .collected answers.evidence answers.ledger] := by simp [hlog]
      split
      · next observations hread =>
        exact h.quiet rfl rfl ⟨earlier, answers.ledger, hcollected, by simp [observed, hread]⟩
      · exact h.quiet rfl rfl trivial
      · next raised _ hread =>
        exact h.quiet rfl rfl ⟨earlier, answers.ledger, hcollected, by simp [observed, hread]⟩
    · split
      · exact .saves nofun fun _ => trivial
      · split
        · exact .saves nofun fun _ => trivial
        · exact .saves nofun fun _ => trivial
  | waiting k =>
    simp only [Fleet.advance, wait]
    split
    · next code _ =>
      have hlog : (leave w answers k).log ++ [.exited k code] = w.log ++ [.exited k code] := by simp
      exact h.quiet (record_leave w answers k) hlog ⟨w.log, hlog⟩
    · split
      · exact h.still rfl rfl trivial
      · exact h
    · exact h.still rfl rfl trivial
  | entered =>
    simp only [Fleet.advance, enter]
    split
    · exact .saves nofun fun _ => trivial
    · exact h.still rfl rfl trivial
  | preparing k resumed =>
    simp only [Fleet.advance, prepare]
    split <;> exact h.quiet rfl rfl trivial
  | refused k raised =>
    match raised with
    | .discovery _ true | .discovery _ false | .configuration => exact .saves nofun fun _ => trivial
    | .unhandled => exact h.quiet rfl rfl trivial
  | starting k => exact .saves nofun fun _ => trivial
  | spawning k =>
    simp only [Fleet.advance, spawn]
    split
    · exact h.quiet rfl rfl trivial
    · exact h.still rfl rfl trivial
  | spawned k => exact .saves nofun fun _ => trivial
  | prompting k => exact h.still rfl rfl trivial
  | terminating k why => exact h.still (record_leave w answers k) (log_leave w answers k) trivial
  | interrupted k why => cases why <;> exact .saves nofun fun _ => trivial
  | archiving => exact h.still rfl rfl trivial

theorem Audited.step (move : Move) : Audited job (step job w move) := by
  cases move with
  | enqueue => exact h.still rfl rfl h.point
  | poll offered =>
    change Audited job (poll w offered)
    obtain he | he | ⟨he, -⟩ := poll_cases w offered
    all_goals rw [he]
    · exact h
    · exact h.still rfl rfl h.point
    · exact h.still rfl rfl trivial
  | advance answers =>
    cases here : w.running with
    | none => simpa [Fleet.step, here] using h
    | some point =>
      simp only [Fleet.step, here]
      split
      · exact h.advance here answers
      · exact h
  | raise => exact h.still rfl rfl trivial
  | stop => exact h.still rfl rfl h.point
  | crash => exact h.still rfl rfl trivial
  | restart readable =>
    have base : Audited job { w with up := true, stopping := false, running := none } :=
      h.still rfl rfl trivial
    simp only [Fleet.step]
    split
    · exact h
    · obtain he | ⟨-, -, he⟩ := reconcile_cases
        { w with up := true, stopping := false, running := none } readable
      · rw [he]
        exact base
      · rw [he]
        exact ⟨trivial, nofun⟩
  | groupExits k => exact h.still rfl rfl h.point
  | providerWorks branches =>
    simp only [Fleet.step]
    split
    · exact h
    · exact h.still rfl rfl h.point

end Steps

theorem Audited.initial (job : Job) (queued : Bool) (workspace : Option Worktree) :
    Audited job (World.initial queued workspace) :=
  ⟨trivial, nofun⟩

/-- A job is recorded as succeeded only on the evidence collected after its provider exited with
code 0, and that evidence keeps the whole contract; nothing is missing from evidence exactly
when it does, and what could not be verified is missing. -/
theorem succeeded_is_verified (job : Job) :
    (∀ queued workspace moves,
      let w := after job (World.initial queued workspace) moves
      w.status = .succeeded → Verified job w) ∧
    ∀ evidence observations,
      missingDeliveryRequirements job evidence observations = [] ↔
        Delivered job evidence observations.progressCount observations.reflectionCount
          observations.testEvidenceCount := by
  refine ⟨fun queued workspace moves => ?_, fun _ _ => missingDeliveryRequirements_eq_nil⟩
  exact (Run.invariant (P := Audited job) (fun _ move h => h.step move)
    (.initial job queued workspace) moves).succeeded

end ControlPlane.Fleet
