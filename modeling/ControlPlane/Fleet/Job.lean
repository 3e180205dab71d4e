import ControlPlane.Fleet.Text

namespace ControlPlane.Fleet

structure Job where
  jobId : Text
  provider : Text
  repository : Text
  task : Text
  baseRef : Text := text "main"
  branch : Option Text := none
  timeoutSeconds : Nat := 3600
  maxAttempts : Nat := 3
  priority : Nat := 100
  model : Option Text := none
  publicTitle : Option Text := none
  successCriteria : List Text := []
  constraints : List Text := []
  requirePullRequest : Bool := true
  requireObservation : Bool := true
  requireTestEvidence : Bool := false
  allowNoChange : Bool := false
  deriving DecidableEq, Repr

/-- Python's `value or default`: an empty text counts as none. -/
def orElse (value : Option Text) (default : Text) : Text :=
  match value with
  | some value => if value = [] then default else value
  | none => default

def Job.effectiveBranch (job : Job) : Text := orElse job.branch (text "agent/" ++ job.jobId)

def Job.displayTitle (job : Job) : Text :=
  orElse job.publicTitle (text "Real repository task " ++ job.jobId)

end ControlPlane.Fleet
