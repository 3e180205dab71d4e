import ControlPlane.Fleet.Log
import ControlPlane.Metacognition.Analysis
import ControlPlane.Store.Tasks

/-! The attempt that the control plane is told, and what it makes of it. -/

namespace ControlPlane.Fleet

open LruCache (peek)
open Metacognition (AnalysisPolicy retryLoop)

def Bootstrapped (job : Job) (w : World) : Prop :=
  ∀ k event, Happening.published k event ∈ w.log →
    ∃ before, event ∈ (bootstrapEvents job before).map Prod.fst

section Published

variable {job : Job} {w : World}

theorem emitAll_subset (emissions : List (AgentEvent × Emission)) :
    (emitAll emissions).2 ⊆ emissions.map Prod.fst := by
  induction emissions with
  | nil => simp [emitAll]
  | cons emission rest ih =>
    obtain ⟨event, emission⟩ := emission
    have hfirst : (if emission.recorded then [event] else []) ⊆
        ((event, emission) :: rest).map Prod.fst := by
      split <;> simp
    simp only [emitAll]
    split
    · exact hfirst
    · exact List.append_subset.2 ⟨hfirst, fun e he => List.mem_cons_of_mem _ (ih he)⟩

theorem attempted_subset (answers : Answers) (resumed : Bool) :
    (attempted job w answers resumed).1.2 ⊆ (bootstrapEvents job answers.before).map Prod.fst := by
  simp only [attempted]
  cases (preLaunch job resumed answers.before).runs w.workspace with
  | mk result workspace =>
    cases result with
    | ok _ => exact emitAll_subset _
    | error raised => simp

theorem Bootstrapped.step (h : Bootstrapped job w) (move : Move) :
    Bootstrapped job (step job w move) := by
  intro k event hmem
  obtain hold | ⟨answers, resumed, -, -, hevent⟩ := mem_log_step hmem
  · exact h k event hold
  · exact ⟨answers.before, attempted_subset answers resumed hevent⟩

end Published

def taskKey (job : Job) : ScopedId :=
  ⟨"fleet-" ++ job.provider.asString ++ "-" ++ job.jobId.asString, job.jobId.asString⟩

section Store

variable {C : Type → Type → Type} [LruCache C] [LawfulLruCache C] [CounterArith]

end Store

namespace Sample

def events (w : World) : List AgentEvent :=
  w.log.filterMap fun
    | .published _ event => some event
    | _ => none

def deliver (w : World) : List StoreOp :=
  (events w).mapIdx fun i event => .ingest
    { protocolVersion := PROTOCOL_VERSION
      eventId := BitVec.ofNat 128 (i + 1)
      occurredAt := ⟨i, 0⟩
      agent := ⟨"fleet-openai-job-1", "openai", "provider-default", some "job-1"⟩
      sessionId := some "job-1"
      correlationId := some "job-1"
      sequence := some (i + 1)
      event := event } .http ⟨i, 0⟩

end Sample

end ControlPlane.Fleet
