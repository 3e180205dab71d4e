import Mathlib.Data.NNRat.Defs
import Mathlib.Data.Rat.Floor
import ControlPlane.Fleet.Supervisor

/-! The circuit of a provider, which the runs of all its jobs share: a run that meets a limit
blocks it, a run that delivers clears it, and the admission loop asks it before every job. -/

namespace ControlPlane.Fleet

def wholeSeconds (time : ℚ) : Int := if 0 ≤ time then ⌊time⌋ else ⌈time⌉

theorem wholeSeconds_mono {time later : ℚ} (h : time ≤ later) :
    wholeSeconds time ≤ wholeSeconds later := by
  unfold wholeSeconds
  by_cases htime : 0 ≤ time
  · rw [if_pos htime, if_pos (htime.trans h)]
    exact Int.floor_mono h
  · rw [if_neg htime]
    split
    · next hlater =>
      have hceil : ⌈time⌉ ≤ 0 := Int.ceil_le.2 (by simpa using (not_le.1 htime).le)
      exact hceil.trans (Int.floor_nonneg.2 hlater)
    · exact Int.ceil_mono h

structure ProviderEntry where
  status : String
  reason : Option String
  blockedUntilEpoch : Option Int
  updatedAt : ℚ
  deriving DecidableEq, Repr

/-- The contents of `providers.json`. -/
def ProviderCircuit : Type := Text → Option ProviderEntry

namespace ProviderCircuit

def empty : ProviderCircuit := fun _ => none

def write (circuit : ProviderCircuit) (provider : Text) (entry : ProviderEntry) :
    ProviderCircuit := fun other => if other = provider then some entry else circuit other

def blockedUntil (circuit : ProviderCircuit) (provider : Text) : Int :=
  ((circuit provider).bind ProviderEntry.blockedUntilEpoch).getD 0

def isBlocked (circuit : ProviderCircuit) (provider : Text) (time : ℚ) : Bool :=
  decide (time < circuit.blockedUntil provider)

def block (circuit : ProviderCircuit) (provider : Text) (reason : String) (seconds : Nat)
    (time : ℚ) : ProviderCircuit :=
  circuit.write provider ⟨"unavailable", some reason, some (wholeSeconds time + seconds), time⟩

def clear (circuit : ProviderCircuit) (provider : Text) (time : ℚ) : ProviderCircuit :=
  circuit.write provider ⟨"available", none, none, time⟩

variable {circuit : ProviderCircuit} {provider other : Text}

theorem blockedUntil_write_of_ne (h : other ≠ provider) (entry : ProviderEntry) :
    (circuit.write provider entry).blockedUntil other = circuit.blockedUntil other := by
  unfold blockedUntil write
  rw [if_neg h]

@[simp] theorem blockedUntil_block (reason : String) (seconds : Nat) (time : ℚ) :
    (circuit.block provider reason seconds time).blockedUntil provider =
      wholeSeconds time + seconds := by
  simp [blockedUntil, block, write]

end ProviderCircuit

def envInt (value : Option Int) (default minimum maximum : Int) : Int :=
  min maximum (max minimum (value.getD default))

def retrySeconds (environment : Text → Option Int) (provider : Text) : Nat :=
  (envInt (environment provider) (if provider = text "anthropic" then 6 * 3600 else 1800) 60
    (7 * 24 * 3600)).toNat

def IsLimit (errorClass : Option String) : Prop :=
  errorClass = some "quota_exhausted" ∨ errorClass = some "rate_limited"

instance (errorClass : Option String) : Decidable (IsLimit errorClass) :=
  inferInstanceAs (Decidable (_ ∨ _))

inductive Ending
  /-- the provider exits, and what is verified of its delivery -/
  | exited (output : String) (returnCode : Int) (evidence : DeliveryEvidence)
      (observations : ObservationSummary)
  /-- no provider was launched, it was terminated, or its delivery could not be read -/
  | returned

/-- What the admission loop and the runs do to the circuit, with the time. -/
inductive Notice
  | admitted (provider : Text) (time : ℚ)
  | blocked (provider : Text) (time : ℚ) (seconds : Nat)
  | cleared (provider : Text) (time : ℚ)
  deriving DecidableEq, Repr

structure Runner where
  time : ℚ
  circuit : ProviderCircuit
  running : List Job
  stopping : Bool
  notices : List Notice

inductive Runner.Move
  /-- time goes on -/
  | pass (duration : ℚ≥0)
  /-- the admission loop comes to a job of the queue -/
  | consider (job : Job)
  /-- a run ends -/
  | finish (jobId : Text) (ending : Ending)
  /-- the stop event is set -/
  | stop
  /-- the runner is started again -/
  | restart

namespace Runner

def start (time : ℚ) (circuit : ProviderCircuit) : Runner := ⟨time, circuit, [], false, []⟩

section Step

variable (environment : Text → Option Int) (maxConcurrency : Nat)

def consider (runner : Runner) (job : Job) : Runner :=
  if runner.stopping || decide (maxConcurrency ≤ runner.running.length) then runner
  else if (runner.running.any fun other => other.jobId = job.jobId) ||
      runner.circuit.isBlocked job.provider runner.time then runner
  else
    { runner with
      running := job :: runner.running
      notices := runner.notices ++ [.admitted job.provider runner.time] }

def settle (runner : Runner) (job : Job) (output : String) (returnCode : Int)
    (evidence : DeliveryEvidence) (observations : ObservationSummary) : Runner :=
  let errorClass := classifyProviderError output returnCode
  if returnCode = 0 then
    if missingDeliveryRequirements job evidence observations = [] then
      { runner with
        circuit := runner.circuit.clear job.provider runner.time
        notices := runner.notices ++ [.cleared job.provider runner.time] }
    else runner
  else if IsLimit errorClass then
    let seconds := retrySeconds environment job.provider
    { runner with
      circuit := runner.circuit.block job.provider (errorClass.getD "") seconds runner.time
      notices := runner.notices ++ [.blocked job.provider runner.time seconds] }
  else runner

def finish (runner : Runner) (jobId : Text) (ending : Ending) : Runner :=
  match runner.running.find? fun job => job.jobId = jobId with
  | none => runner
  | some job =>
    let runner := { runner with running := runner.running.filter fun job => job.jobId ≠ jobId }
    match ending with
    | .exited output returnCode evidence observations =>
      runner.settle environment job output returnCode evidence observations
    | .returned => runner

def step (runner : Runner) : Move → Runner
  | .pass duration => { runner with time := runner.time + duration }
  | .consider job => runner.consider maxConcurrency job
  | .finish jobId ending => runner.finish environment jobId ending
  | .stop => { runner with stopping := true }
  | .restart => { runner with running := [], stopping := false }

/-- The move puts nothing in the way of a block: no run delivers for a provider that is blocked,
and the loop comes to no job of a provider in the part of a second that a block was cut by. -/
def Orderly (runner : Runner) : Move → Prop
  | .consider job => ∀ (time : ℚ) (seconds : Nat),
    .blocked job.provider time seconds ∈ runner.notices →
    wholeSeconds time + (seconds : ℚ) ≤ runner.time → time + (seconds : ℚ) ≤ runner.time
  | .finish jobId (.exited _ returnCode evidence observations) =>
    ∀ job, (runner.running.find? fun job => job.jobId = jobId) = some job → returnCode = 0 →
      missingDeliveryRequirements job evidence observations = [] →
      runner.circuit.isBlocked job.provider runner.time = false
  | _ => True

end Step

/-- No admission of a provider comes within the time for which it was blocked before. -/
def Honours : Notice → Notice → Prop
  | .blocked provider time seconds, .admitted admitted later =>
    provider = admitted → time + seconds ≤ later
  | _, _ => True

/-- Every block that is still to last is held by the circuit. -/
structure Guarded (environment : Text → Option Int) (runner : Runner) : Prop where
  honoured : runner.notices.Pairwise Honours
  past : ∀ (provider : Text) (time : ℚ) (seconds : Nat),
    .blocked provider time seconds ∈ runner.notices →
    time ≤ runner.time ∧ seconds = retrySeconds environment provider
  held : ∀ (provider : Text) (time : ℚ) (seconds : Nat),
    .blocked provider time seconds ∈ runner.notices →
    runner.time < wholeSeconds time + (seconds : ℚ) →
    wholeSeconds time + (seconds : ℚ) ≤ runner.circuit.blockedUntil provider

namespace Guarded

variable {environment : Text → Option Int} {runner : Runner}

theorem start (environment : Text → Option Int) (time : ℚ) (circuit : ProviderCircuit) :
    Guarded environment (.start time circuit) where
  honoured := List.Pairwise.nil
  past _ _ _ h := by cases h
  held _ _ _ h := by cases h

theorem congr (h : Guarded environment runner) {after : Runner} (htime : runner.time ≤ after.time)
    (hcircuit : after.circuit = runner.circuit) (hnotices : after.notices = runner.notices) :
    Guarded environment after where
  honoured := hnotices ▸ h.honoured
  past provider time seconds hmem := by
    rw [hnotices] at hmem
    exact ⟨(h.past provider time seconds hmem).1.trans htime,
      (h.past provider time seconds hmem).2⟩
  held provider time seconds hmem hlt := by
    rw [hnotices] at hmem
    rw [hcircuit]
    exact h.held provider time seconds hmem (htime.trans_lt hlt)

theorem honoured_concat (h : Guarded environment runner) {last : Notice}
    (hlast : ∀ notice ∈ runner.notices, Honours notice last) :
    (runner.notices ++ [last]).Pairwise Honours := by
  rw [List.pairwise_append]
  refine ⟨h.honoured, List.pairwise_singleton _ _, fun notice hmem other hother => ?_⟩
  rw [List.mem_singleton.1 hother]
  exact hlast notice hmem

theorem admitted (h : Guarded environment runner) {job : Job}
    (horderly : runner.Orderly (.consider job))
    (hopen : runner.circuit.isBlocked job.provider runner.time = false) :
    Guarded environment { runner with
      running := job :: runner.running
      notices := runner.notices ++ [.admitted job.provider runner.time] } where
  honoured := by
    refine h.honoured_concat fun notice hmem => ?_
    cases notice with
    | blocked provider time seconds =>
      rintro rfl
      refine horderly time seconds hmem ?_
      by_contra hlt
      have hheld := h.held job.provider time seconds hmem (not_le.1 hlt)
      rw [ProviderCircuit.isBlocked, decide_eq_false_iff_not] at hopen
      exact hopen ((not_le.1 hlt).trans_le hheld)
    | _ => trivial
  past provider time seconds hmem :=
    h.past provider time seconds (by simpa using hmem)
  held provider time seconds hmem hlt :=
    h.held provider time seconds (by simpa using hmem) hlt

theorem clear (h : Guarded environment runner) (provider : Text)
    (hopen : runner.circuit.isBlocked provider runner.time = false) :
    Guarded environment { runner with
      circuit := runner.circuit.clear provider runner.time
      notices := runner.notices ++ [.cleared provider runner.time] } where
  honoured := by
    refine h.honoured_concat fun notice _ => ?_
    cases notice <;> trivial
  past other time seconds hmem := h.past other time seconds (by simpa using hmem)
  held other time seconds hmem hlt := by
    have hheld := h.held other time seconds (by simpa using hmem) hlt
    by_cases hother : other = provider
    · -- The provider would still be blocked.
      subst hother
      rw [ProviderCircuit.isBlocked, decide_eq_false_iff_not] at hopen
      exact absurd (hlt.trans_le hheld) hopen
    · dsimp only
      rw [ProviderCircuit.clear, ProviderCircuit.blockedUntil_write_of_ne hother]
      exact hheld

theorem block (h : Guarded environment runner) (provider : Text) (reason : String) :
    Guarded environment { runner with
      circuit := runner.circuit.block provider reason (retrySeconds environment provider)
        runner.time
      notices := runner.notices ++
        [.blocked provider runner.time (retrySeconds environment provider)] } where
  honoured := by
    refine h.honoured_concat fun notice _ => ?_
    cases notice <;> trivial
  past other time seconds hmem := by
    rcases List.mem_append.1 hmem with hold | hnew
    · exact h.past other time seconds hold
    · cases List.mem_singleton.1 hnew
      exact ⟨le_rfl, rfl⟩
  held other time seconds hmem hlt := by
    by_cases hother : other = provider
    · subst hother
      have hpast : time ≤ runner.time ∧ seconds = retrySeconds environment other := by
        rcases List.mem_append.1 hmem with hold | hnew
        · exact h.past other time seconds hold
        · cases List.mem_singleton.1 hnew
          exact ⟨le_rfl, rfl⟩
      dsimp only
      rw [ProviderCircuit.blockedUntil_block, hpast.2, Int.cast_add, Int.cast_natCast]
      exact add_le_add_left (Int.cast_le.2 (wholeSeconds_mono hpast.1)) _
    · dsimp only
      rw [ProviderCircuit.block, ProviderCircuit.blockedUntil_write_of_ne hother]
      refine h.held other time seconds ?_ hlt
      rcases List.mem_append.1 hmem with hold | hnew
      · exact hold
      · cases List.mem_singleton.1 hnew
        exact absurd rfl hother

theorem step (h : Guarded environment runner) {maxConcurrency : Nat} {move : Move}
    (horderly : runner.Orderly move) :
    Guarded environment (runner.step environment maxConcurrency move) := by
  cases move with
  | pass duration => exact h.congr (le_add_of_nonneg_right duration.2) rfl rfl
  | stop => exact h.congr le_rfl rfl rfl
  | restart => exact h.congr le_rfl rfl rfl
  | consider job =>
    dsimp only [Runner.step, Runner.consider]
    split
    · exact h
    · split
      · exact h
      · next hopen =>
        rw [Bool.not_eq_true, Bool.or_eq_false_iff] at hopen
        exact h.admitted horderly hopen.2
  | finish jobId ending =>
    dsimp only [Runner.step, Runner.finish]
    split
    · exact h
    · next job hfound =>
      have hremoved : Guarded environment { runner with
          running := runner.running.filter fun job => job.jobId ≠ jobId } := h.congr le_rfl rfl rfl
      cases ending with
      | returned => exact hremoved
      | exited output returnCode evidence observations =>
        dsimp only [Runner.settle]
        split
        · next hcode =>
          split
          · next hmissing => exact hremoved.clear job.provider (horderly job hfound hcode hmissing)
          · exact hremoved
        · split
          · exact hremoved.block job.provider _
          · exact hremoved

end Guarded

/-- In a run in which no provider delivers while it is blocked, and the loop comes to no job in the
part of a second that a block was cut by, no job of a provider is admitted before the time for
which it was blocked has passed. -/
theorem blocks_honoured (environment : Text → Option Int) (maxConcurrency : Nat) (time : ℚ)
    (circuit : ProviderCircuit) (moves : List Move)
    (horderly : Run.Along Orderly (step environment maxConcurrency) (start time circuit) moves) :
    ∀ (earlier : List Notice) (provider : Text) (blockedAt : ℚ) (seconds : Nat)
      (later : List Notice) (admittedAt : ℚ),
      (Run.after (step environment maxConcurrency) (start time circuit) moves).notices =
        earlier ++ .blocked provider blockedAt seconds :: later →
      .admitted provider admittedAt ∈ later → blockedAt + (seconds : ℚ) ≤ admittedAt := by
  have hguarded : Guarded environment (Run.after (step environment maxConcurrency)
      (start time circuit) moves) :=
    Run.invariant_along (fun _ _ h horderly => h.step horderly) (.start environment time circuit)
      horderly
  intro earlier provider blockedAt seconds later admittedAt heq hmem
  have hpairs := hguarded.honoured
  rw [heq, List.pairwise_append, List.pairwise_cons] at hpairs
  exact hpairs.2.1.1 _ hmem rfl

namespace Sample

def job (jobId : String) : Job where
  jobId := text jobId
  provider := text "openai"
  repository := []
  task := []
  requirePullRequest := false
  requireObservation := false
  allowNoChange := true

def limited (jobId : String) : Move :=
  .finish (text jobId) (.exited "HTTP 429" 1 {} .empty)

def delivered (jobId : String) : Move :=
  .finish (text jobId) (.exited "" 0
    { headCommit := some "c", remoteBranchCommit := some "c", dirtyEntries := some 0 } .empty)

def overtaken : List Move :=
  [.consider (job "a"), .consider (job "b"), limited "a", .pass 1, delivered "b",
    .consider (job "c")]

def truncated : List Move :=
  [.consider (job "a"), limited "a", .pass (3599 / 2), .consider (job "c")]

def waited : List Move := [.consider (job "a"), limited "a", .pass 1800]

def reopened : List Move := waited ++ [.consider (job "c")]

def after (time : ℚ) (moves : List Move) : Runner :=
  Run.after (step (fun _ => none) 2) (start time .empty) moves

theorem notices_overtaken : (after 0 overtaken).notices =
    [.admitted (text "openai") 0, .admitted (text "openai") 0, .blocked (text "openai") 0 1800,
      .cleared (text "openai") 1, .admitted (text "openai") 1] := by
  decide +kernel

theorem notices_truncated : (after (1 / 2) truncated).notices =
    [.admitted (text "openai") (1 / 2), .blocked (text "openai") (1 / 2) 1800,
      .admitted (text "openai") 1800] := by
  decide +kernel

theorem notices_reopened : (after (1 / 2) reopened).notices =
    [.admitted (text "openai") (1 / 2), .blocked (text "openai") (1 / 2) 1800,
      .admitted (text "openai") (3601 / 2)] := by
  decide +kernel

theorem notices_waited : (after (1 / 2) waited).notices =
    [.admitted (text "openai") (1 / 2), .blocked (text "openai") (1 / 2) 1800] := by
  decide +kernel

theorem time_waited : (after (1 / 2) waited).time = 1 / 2 + 1800 := by
  decide +kernel

theorem orderly_reopened :
    Run.Along Orderly (step (fun _ => none) 2) (start (1 / 2) .empty) reopened := by
  refine Run.Along.append.2 ⟨⟨?_, ?_, trivial, trivial⟩, ?_, trivial⟩
  · intro _ _ hmem
    cases hmem
  · intro _ _ hcode
    exact absurd hcode (by decide)
  · intro time seconds hmem _
    change _ ∈ (after (1 / 2) waited).notices at hmem
    change _ ≤ (after (1 / 2) waited).time
    rw [notices_waited] at hmem
    rw [time_waited]
    simp only [List.mem_cons, Notice.blocked.injEq, reduceCtorEq, List.not_mem_nil, or_false,
      false_or] at hmem
    rw [hmem.2.1, hmem.2.2]
    norm_num

end Sample

theorem blocks_honoured_reopened : ∃ admittedAt : ℚ,
    .admitted (text "openai") admittedAt ∈ (Sample.after (1 / 2) Sample.reopened).notices ∧
      1 / 2 + 1800 ≤ admittedAt :=
  ⟨3601 / 2, by rw [Sample.notices_reopened]; simp,
    blocks_honoured _ _ _ _ _ Sample.orderly_reopened [.admitted (text "openai") (1 / 2)]
      (text "openai") (1 / 2) 1800 [.admitted (text "openai") (3601 / 2)] (3601 / 2)
      Sample.notices_reopened (List.mem_singleton.2 rfl)⟩

/-- A run that delivers takes the block of another one away, and a block ends with the second in
which it would. -/
theorem blocks_cut_short :
    ((Sample.after 0 Sample.overtaken).notices =
        [.admitted (text "openai") 0, .admitted (text "openai") 0] ++
          .blocked (text "openai") 0 1800 ::
          [.cleared (text "openai") 1, .admitted (text "openai") 1] ∧ (1 : ℚ) < 0 + 1800) ∧
      (Sample.after (1 / 2) Sample.truncated).notices =
        [.admitted (text "openai") (1 / 2)] ++ .blocked (text "openai") (1 / 2) 1800 ::
          [.admitted (text "openai") 1800] ∧ (1800 : ℚ) < 1 / 2 + 1800 :=
  ⟨⟨Sample.notices_overtaken, by norm_num⟩, Sample.notices_truncated, by norm_num⟩

end Runner

end ControlPlane.Fleet
