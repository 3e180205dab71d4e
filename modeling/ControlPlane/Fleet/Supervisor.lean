import ControlPlane.Fleet.Delivery
import ControlPlane.Lib.Run
import ControlPlane.Protocol.Event

/-! One job under its `FleetRunner`: the run state on disk, the queue file, the worktree, the
job's entry in `running`, and the provider process groups that are alive.  A step is one
action of `run_one`, one poll of the queue, or something that happens to the runner. -/

namespace ControlPlane.Fleet

inductive Status
  | queued
  | starting
  | running
  | stopping
  | paused
  | succeeded
  | failed
  | canceled
  | partially
  deriving DecidableEq, Repr

/-- `TERMINAL_STATES`. -/
def Status.isTerminal : Status → Bool
  | .succeeded | .failed | .canceled | .partially => true
  | .queued | .starting | .running | .stopping | .paused => false

/-- The part of `state.json` that is read again, and what says how the job ended. -/
structure RunState where
  attempt : Nat := 0
  status : Status := .queued
  errorClass : Option String := none
  pauseReason : Option String := none
  exitCode : Option Int := none
  missingRequirements : List String := []
  delivery : Option DeliveryEvidence := none
  testEvidenceCount : Option Nat := none
  deriving DecidableEq, Repr

def QUOTA_PATTERNS : List String :=
  ["insufficient_quota", "insufficient quota", "out of credits", "credit balance",
    "usage limit", "quota exceeded", "billing hard limit"]

def RATE_LIMIT_PATTERNS : List String :=
  ["rate limit", "too many requests", "http 429", "status 429"]

def AUTHENTICATION_PATTERNS : List String :=
  ["authentication", "invalid api key", "unauthorized", "forbidden"]

def mentions (patterns : List String) (normalized : List Char) : Bool :=
  patterns.any fun pattern => decide (pattern.toList <:+: normalized)

def classifyProviderError (output : String) (returnCode : Int) : Option String :=
  let normalized := lower output
  if returnCode = 0 then none
  else if mentions QUOTA_PATTERNS normalized then some "quota_exhausted"
  else if mentions RATE_LIMIT_PATTERNS normalized then some "rate_limited"
  else if mentions AUTHENTICATION_PATTERNS normalized then some "authentication_failed"
  else some "provider_process_failed"

structure Emission where
  recorded : Bool := true
  result : Except Raised Unit := .ok ()

structure PreLaunch where
  credentials : Except Raised Unit := .ok ()
  provider : Except Raised Unit := .ok ()
  mcp : Except Raised Unit := .ok ()
  git : GitAnswers := {}
  environment : Except Raised Unit := .ok ()
  capabilities : List String := []
  metadata : BTreeMap String String := ∅
  registered : Emission := {}
  declared : Emission := {}
  created : Emission := {}
  started : Emission := {}

def emitAll : List (AgentEvent × Emission) → Except Raised Unit × List AgentEvent
  | [] => (.ok (), [])
  | (event, emission) :: rest =>
    let recorded := if emission.recorded then [event] else []
    match emission.result with
    | .error raised => (.error raised, recorded)
    | .ok () => ((emitAll rest).1, recorded ++ (emitAll rest).2)

def publicList (values : List Text) : List String := values.map fun value => value.strip.asString

/-- `EventClient.bootstrap`. -/
def bootstrapEvents (job : Job) (before : PreLaunch) : List (AgentEvent × Emission) :=
  let goalId := "goal-" ++ job.jobId.asString
  let criteria :=
    if job.successCriteria = [] then [text "Deliver independently verified repository artifacts."]
    else job.successCriteria
  [(.agentRegistered ⟨job.provider.asString ++ " real-task worker", before.capabilities,
      before.metadata, .planning⟩, before.registered),
    (.goalDeclared ⟨goalId, job.displayTitle.strip.asString, publicList criteria,
      publicList job.constraints, none⟩, before.declared),
    (.taskCreated ⟨job.jobId.asString, job.displayTitle.strip.asString, some goalId, [],
      ["real-repository-task", job.provider.asString],
      some "A clean pushed branch, independently verified pull request, public progress, reflection, and evidence."⟩,
      before.created),
    (.taskStarted ⟨job.jobId.asString, 1,
      some "Inspect the live repository, implement the requested change, validate it, and publish independently verifiable artifacts."⟩,
      before.started)]

inductive Interruption
  | shutdown
  | timeout
  deriving DecidableEq, Repr

/-- What `run_one` does next. -/
inductive Point
  /-- read the run state -/
  | entered
  /-- the `try` block -/
  | preparing (attempt : Nat) (resumed : Bool)
  /-- an `except` clause -/
  | refused (attempt : Nat) (raised : Raised)
  /-- save `starting` -/
  | starting (attempt : Nat)
  /-- spawn the provider -/
  | spawning (attempt : Nat)
  /-- save `running` -/
  | spawned (attempt : Nat)
  /-- write the prompt to the provider's stdin -/
  | prompting (attempt : Nat)
  /-- wait for the provider, the stop event or the timeout -/
  | waiting (attempt : Nat)
  /-- `terminate_process_group` -/
  | terminating (attempt : Nat) (why : Interruption)
  /-- save what an interruption leads to -/
  | interrupted (attempt : Nat) (why : Interruption)
  /-- classify the exit and collect the evidence -/
  | exited (attempt : Nat) (code : Int)
  /-- judge the evidence of an exit with code 0 -/
  | judging (attempt : Nat) (evidence : DeliveryEvidence) (observations : ObservationSummary)
  /-- move the queue file to the archive -/
  | archiving

/-- What an observer of the runner sees, in order. -/
inductive Happening
  /-- the control plane records an event of an attempt -/
  | published (attempt : Nat) (event : AgentEvent)
  /-- an attempt ends in an `except` clause -/
  | refused (attempt : Nat) (raised : Raised)
  /-- a provider is launched on a branch, with the groups alive at that moment -/
  | launched (attempt : Nat) (head : Option Text) (alive : List Nat)
  | exited (attempt : Nat) (code : Int)
  /-- the evidence after an exit, and the ledger that was read -/
  | collected (evidence : DeliveryEvidence) (ledger : Ledger)
  | saved (status : Status)

structure World where
  queued : Bool := false
  record : Option RunState := none
  workspace : Option Worktree := none
  /-- the runner process is up -/
  up : Bool := true
  /-- its stop event is set -/
  stopping : Bool := false
  /-- the job's entry in `running` -/
  running : Option Point := none
  /-- the attempts whose process group has members alive -/
  groups : List Nat := []
  log : List Happening := []

namespace World

def recorded (w : World) : RunState := w.record.getD {}

def attempt (w : World) : Nat := w.recorded.attempt

def status (w : World) : Status := w.recorded.status

def proceed (w : World) (point : Point) : World := { w with running := some point }

/-- However `run_one` ends, the done-callback takes the job out of `running`. -/
def finish (w : World) : World := { w with running := none }

def saveState (w : World) (changes : RunState → RunState) : World :=
  { w with
    record := some (changes w.recorded)
    log := w.log ++ [.saved (changes w.recorded).status] }

def archiveJob (w : World) : World := { w with queued := false }

section Simp

variable (w : World) (changes : RunState → RunState) (point : Point)

@[simp] theorem recorded_attempt : w.recorded.attempt = w.attempt := rfl

@[simp] theorem recorded_status : w.recorded.status = w.status := rfl

@[simp] theorem recorded_saveState : (w.saveState changes).recorded = changes w.recorded := rfl

@[simp] theorem attempt_saveState : (w.saveState changes).attempt = (changes w.recorded).attempt :=
  rfl

@[simp] theorem status_saveState : (w.saveState changes).status = (changes w.recorded).status := rfl

@[simp] theorem log_saveState :
    (w.saveState changes).log = w.log ++ [.saved (changes w.recorded).status] := rfl

@[simp] theorem workspace_saveState : (w.saveState changes).workspace = w.workspace := rfl

@[simp] theorem up_saveState : (w.saveState changes).up = w.up := rfl

@[simp] theorem running_saveState : (w.saveState changes).running = w.running := rfl

@[simp] theorem groups_saveState : (w.saveState changes).groups = w.groups := rfl

@[simp] theorem record_proceed : (w.proceed point).record = w.record := rfl

@[simp] theorem recorded_proceed : (w.proceed point).recorded = w.recorded := rfl

@[simp] theorem attempt_proceed : (w.proceed point).attempt = w.attempt := rfl

@[simp] theorem status_proceed : (w.proceed point).status = w.status := rfl

@[simp] theorem log_proceed : (w.proceed point).log = w.log := rfl

@[simp] theorem workspace_proceed : (w.proceed point).workspace = w.workspace := rfl

@[simp] theorem up_proceed : (w.proceed point).up = w.up := rfl

@[simp] theorem running_proceed : (w.proceed point).running = some point := rfl

@[simp] theorem groups_proceed : (w.proceed point).groups = w.groups := rfl

@[simp] theorem record_finish : w.finish.record = w.record := rfl

@[simp] theorem recorded_finish : w.finish.recorded = w.recorded := rfl

@[simp] theorem attempt_finish : w.finish.attempt = w.attempt := rfl

@[simp] theorem status_finish : w.finish.status = w.status := rfl

@[simp] theorem log_finish : w.finish.log = w.log := rfl

@[simp] theorem workspace_finish : w.finish.workspace = w.workspace := rfl

@[simp] theorem up_finish : w.finish.up = w.up := rfl

@[simp] theorem running_finish : w.finish.running = none := rfl

@[simp] theorem groups_finish : w.finish.groups = w.groups := rfl

end Simp

end World

inductive Wait
  | exited (code : Int)
  | stopped
  | timedOut
  deriving DecidableEq, Repr

structure Answers where
  before : PreLaunch := {}
  /-- the provider could be started -/
  spawns : Bool := true
  wait : Wait := .exited 0
  /-- members of the group outlive its leader -/
  leftBehind : Bool := false
  output : String := ""
  evidence : DeliveryEvidence := {}
  ledger : Ledger := .missing

/-- The calls of the `try` block that come before the events. -/
def preLaunch (job : Job) (resumed : Bool) (before : PreLaunch) : Action Unit := do
  answer before.credentials
  answer before.provider
  answer before.mcp
  prepareWorkspace job resumed before.git
  answer before.environment

section RunOne

variable (job : Job) (w : World) (answers : Answers)

def enter : World :=
  let attempt := w.attempt + 1
  if job.maxAttempts < attempt then
    (w.saveState fun state =>
      { state with status := .partially, errorClass := some "attempts_exhausted" }).proceed .archiving
  else w.proceed (.preparing attempt (w.status = .paused || 1 < attempt))

def attempted (resumed : Bool) : (Except Raised Unit × List AgentEvent) × Option Worktree :=
  let (result, workspace) := (preLaunch job resumed answers.before).runs w.workspace
  match result with
  | .ok () => (emitAll (bootstrapEvents job answers.before), workspace)
  | .error raised => ((.error raised, []), workspace)

def prepare (attempt : Nat) (resumed : Bool) : World :=
  let ((result, events), workspace) := attempted job w answers resumed
  let w := { w with
    workspace := workspace
    log := w.log ++ events.map (Happening.published attempt) }
  match result with
  | .ok () => w.proceed (.starting attempt)
  | .error .unhandled => w.finish
  | .error raised => w.proceed (.refused attempt raised)

def refuse (attempt : Nat) (raised : Raised) : World :=
  let w : World := { w with log := w.log ++ [.refused attempt raised] }
  match raised with
  | .discovery kind true =>
    (w.saveState fun state =>
      { state with status := .paused, attempt := attempt, errorClass := some kind }).finish
  | .discovery kind false =>
    (w.saveState fun state =>
      { state with status := .failed, attempt := attempt, errorClass := some kind }).proceed .archiving
  | .configuration =>
    (w.saveState fun state =>
      { state with
        status := .paused, attempt := attempt, pauseReason := some "configuration_error" }).finish
  | .unhandled => w.finish

def start (attempt : Nat) : World :=
  (w.saveState fun state => { state with status := .starting, attempt := attempt }).proceed
    (.spawning attempt)

def spawn (attempt : Nat) : World :=
  if answers.spawns then
    { w with
      running := some (.spawned attempt)
      groups := attempt :: w.groups
      log := w.log ++ [.launched attempt (w.workspace.map fun worktree => worktree.head) w.groups] }
  else w.finish

def markRunning (attempt : Nat) : World :=
  (w.saveState fun state => { state with status := .running, attempt := attempt }).proceed
    (.prompting attempt)

/-- The group of an attempt is gone, unless some of its members stay. -/
def leave (attempt : Nat) : World :=
  if answers.leftBehind then w else { w with groups := w.groups.filter (· ≠ attempt) }

def wait (attempt : Nat) : World :=
  match answers.wait with
  | .exited code =>
    let w := leave w answers attempt
    { w with running := some (.exited attempt code), log := w.log ++ [.exited attempt code] }
  | .stopped => if w.stopping then w.proceed (.terminating attempt .shutdown) else w
  | .timedOut => w.proceed (.terminating attempt .timeout)

def terminate (attempt : Nat) (why : Interruption) : World :=
  (leave w answers attempt).proceed (.interrupted attempt why)

def interrupt : Interruption → World
  | .shutdown =>
    (w.saveState fun state =>
      { state with status := .paused, pauseReason := some "runner_shutdown" }).finish
  | .timeout =>
    (w.saveState fun state =>
      { state with status := .queued, errorClass := some "timeout" }).finish

def exit (attempt : Nat) (code : Int) : World :=
  if code = 0 then
    let w : World := { w with log := w.log ++ [.collected answers.evidence answers.ledger] }
    match readObservationSummary answers.ledger with
    | .ok observations => w.proceed (.judging attempt answers.evidence observations)
    | .error .unhandled => w.finish
    | .error _ => w.proceed (.judging attempt answers.evidence .empty)
  else
    let errorClass := classifyProviderError answers.output code
    if errorClass = some "quota_exhausted" ∨ errorClass = some "rate_limited" then
      (w.saveState fun state =>
        { state with status := .paused, pauseReason := errorClass, exitCode := some code }).finish
    else if attempt < job.maxAttempts ∧ errorClass ≠ some "authentication_failed" then
      (w.saveState fun state =>
        { state with status := .queued, exitCode := some code, errorClass := errorClass }).finish
    else
      (w.saveState fun state =>
        { state with status := .failed, exitCode := some code, errorClass := errorClass }).proceed
        .archiving

def judge (attempt : Nat) (evidence : DeliveryEvidence) (observations : ObservationSummary) : World :=
  let missing := missingDeliveryRequirements job evidence observations
  if missing = [] then
    (w.saveState fun state =>
      { state with
        status := .succeeded, exitCode := some 0, errorClass := none, delivery := some evidence
        testEvidenceCount := some observations.testEvidenceCount }).proceed .archiving
  else
    let incomplete (status : Status) (state : RunState) : RunState :=
      { state with
        status := status, exitCode := some 0, errorClass := some "delivery_contract_incomplete"
        missingRequirements := missing, delivery := some evidence
        testEvidenceCount := some observations.testEvidenceCount }
    if attempt < job.maxAttempts then (w.saveState (incomplete .queued)).finish
    else (w.saveState (incomplete .partially)).proceed .archiving

def advance : Point → World
  | .entered => enter job w
  | .preparing attempt resumed => prepare job w answers attempt resumed
  | .refused attempt raised => refuse w attempt raised
  | .starting attempt => start w attempt
  | .spawning attempt => spawn w answers attempt
  | .spawned attempt => markRunning w attempt
  | .prompting attempt => w.proceed (.waiting attempt)
  | .waiting attempt => wait w answers attempt
  | .terminating attempt why => terminate w answers attempt why
  | .interrupted _ why => interrupt w why
  | .exited attempt code => exit job w answers attempt code
  | .judging attempt evidence observations => judge job w attempt evidence observations
  | .archiving => w.archiveJob.finish

end RunOne

structure Poll where
  /-- the queue file is read back and its provider is admitted -/
  reads : Bool := true
  resumePaused : Bool := true
  /-- below the concurrency limit, and the provider's circuit is closed -/
  vacant : Bool := true

/-- The part of `load_jobs` and of the loop body of `run` that is about the job. -/
def poll (w : World) (offered : Poll) : World :=
  if !w.up || w.stopping || !w.queued then w
  else if !offered.reads then w.archiveJob
  else if w.status.isTerminal then w.archiveJob
  else if w.status = .paused && !offered.resumePaused then w
  else if w.running.isSome || !offered.vacant then w
  else w.proceed .entered

/-- `reconcile_interrupted_states`, of a state file that may be unreadable. -/
def reconcile (w : World) (readable : Bool) : World :=
  match w.record with
  | none => w
  | some state =>
    if readable ∧ state.status ∈ [.running, .starting, .stopping] then
      w.saveState fun state =>
        { state with status := .paused, pauseReason := some "runner_restart_reconciliation" }
    else w

inductive Move
  | enqueue
  | poll (offered : Poll)
  | advance (answers : Answers)
  /-- an exception leaves `run_one` -/
  | raise
  /-- SIGTERM sets the stop event -/
  | stop
  /-- the runner process ends, or is killed -/
  | crash
  | restart (readable : Bool)
  /-- the last members of a process group exit by themselves -/
  | groupExits (attempt : Nat)
  /-- a provider creates and deletes branches, and leaves the one it is on -/
  | providerWorks (branches : List Text)

section Simp

variable (w : World) (answers : Answers) (k : Nat)

@[simp] theorem record_leave : (leave w answers k).record = w.record := by
  simp only [leave]
  split <;> rfl

@[simp] theorem log_leave : (leave w answers k).log = w.log := by
  simp only [leave]
  split <;> rfl

@[simp] theorem workspace_leave : (leave w answers k).workspace = w.workspace := by
  simp only [leave]
  split <;> rfl

@[simp] theorem up_leave : (leave w answers k).up = w.up := by
  simp only [leave]
  split <;> rfl

end Simp

/-- What a poll can do: nothing, archive the queue file, or enter `run_one`. -/
theorem poll_cases (w : World) (offered : Poll) :
    poll w offered = w ∨ poll w offered = w.archiveJob ∨
      (poll w offered = w.proceed .entered ∧ w.running = none ∧ w.up = true ∧
        w.stopping = false ∧ w.status.isTerminal = false) := by
  simp only [poll]
  split
  · exact .inl rfl
  split
  · exact .inr (.inl rfl)
  split
  · exact .inr (.inl rfl)
  split
  · exact .inl rfl
  split
  · exact .inl rfl
  · simp_all

theorem reconcile_cases (w : World) (readable : Bool) :
    reconcile w readable = w ∨
      (w.status.isTerminal = false ∧ w.record.isSome = true ∧
        reconcile w readable = w.saveState fun state =>
          { state with
            status := .paused, pauseReason := some "runner_restart_reconciliation" }) := by
  simp only [reconcile]
  split
  · exact .inl rfl
  · next state hstate =>
    split
    · next h =>
      refine .inr ⟨?_, by simp [hstate], rfl⟩
      simp only [World.status, World.recorded, hstate, Option.getD_some]
      have hs := h.2
      revert hs
      cases state.status <;> simp [Status.isTerminal]
    · exact .inl rfl

def step (job : Job) (w : World) : Move → World
  | .enqueue => { w with queued := true }
  | .poll offered => poll w offered
  | .advance answers =>
    match w.running with
    | none => w
    | some point => if w.up then advance job w answers point else w
  | .raise => w.finish
  | .stop => { w with stopping := true }
  | .crash => { w with up := false, stopping := false, running := none }
  | .restart readable =>
    if w.up then w else reconcile { w with up := true, stopping := false, running := none } readable
  | .groupExits attempt => { w with groups := w.groups.filter (· ≠ attempt) }
  | .providerWorks branches =>
    if w.groups = [] then w
    else { w with workspace := w.workspace.map fun worktree =>
      { worktree with branches := branches.insert worktree.head } }

def World.initial (queued : Bool) (workspace : Option Worktree) : World :=
  { queued := queued, workspace := workspace }

def after (job : Job) (w : World) (moves : List Move) : World := Run.after (step job) w moves

namespace Sample

def job : Job where
  jobId := text "job-1"
  provider := text "openai"
  repository := text "https://github.com/org/repo.git"
  task := text "Fix the parser."
  maxAttempts := 2

def queued : World := World.initial true none

def refusal (before : PreLaunch) : List Move :=
  [.poll {}, .advance {}, .advance { before := before }, .advance {}]

def launch (before : PreLaunch) : List Move :=
  [.poll {}, .advance {}, .advance { before := before }, .advance {}, .advance {}]

end Sample

end ControlPlane.Fleet
