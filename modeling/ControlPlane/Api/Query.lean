import ControlPlane.Coordination.Plan
import ControlPlane.Explorer.Build
import ControlPlane.Lib.Decimal
import ControlPlane.Lib.Query

/-! The query strings of the HTTP reads: how the planner, the explorer and the timeline turn one
into a policy. -/

namespace ControlPlane.Api

open Coordination (PlanningPolicy)
open Query (Item Lists splitOnce)

inductive ApiError
  | badRequest (message : String)
  deriving DecidableEq, Repr

section Parser

variable {Q : Type}

/-- The loop over the parameters, with the names already seen; the body after the check for a
repeated name is `assign`. -/
def parseParameters (noun : String) (assign : List Char → List Char → Q → Except ApiError Q) :
    List (List Char) → List (List Char) → Q → Except ApiError Q
  | _, [], query => .ok query
  | seen, parameter :: rest, query =>
    match splitOnce '=' parameter with
    | none => .error (.badRequest (noun ++ " parameters must use name=value syntax"))
    | some (name, rawValue) =>
      if name ∈ seen then
        .error (.badRequest
          (noun ++ " parameter " ++ String.ofList name ++ " may be provided only once"))
      else
        match assign name rawValue query with
        | .error error => .error error
        | .ok query => parseParameters noun assign (name :: seen) rest query

def parseQuery (noun : String) (assign : List Char → List Char → Q → Except ApiError Q)
    (default : Q) : Option (List Char) → Except ApiError Q
  | none => .ok default
  | some rawQuery =>
    if rawQuery = [] then .ok default
    else parseParameters noun assign [] (rawQuery.splitOn '&') default

def bounded (noun : String) (name : List Char) (value maximum : Nat) : Except ApiError Nat :=
  if value = 0 ∨ value > maximum then
    .error (.badRequest (noun ++ " parameter " ++ String.ofList name ++ " must be between 1 and " ++
      toString maximum))
  else .ok value

structure Field (Q : Type) where
  name : String
  maximum : Nat
  get : Q → Option Nat
  set : Nat → Q → Q

/-- The loop body of a parser all of whose parameters are integers: the value is read before the
name is looked up. -/
def assignInteger (noun : String) (fields : List (Field Q)) (name rawValue : List Char)
    (query : Q) : Except ApiError Q :=
  match Decimal.fromStr 64 rawValue with
  | none =>
    .error (.badRequest
      (noun ++ " parameter " ++ String.ofList name ++ " must be a positive base-10 integer"))
  | some value =>
    match fields.find? fun field => field.name.toList = name with
    | none => .error (.badRequest ("unknown " ++ noun ++ " parameter " ++ String.ofList name))
    | some field => (bounded noun name value field.maximum).map fun value => field.set value query

end Parser

def MAX_ASSIGNMENTS_LIMIT : Nat := 256
def MAX_ASSIGNMENTS_PER_AGENT_LIMIT : Nat := 32
def MAX_INTERVENTIONS_LIMIT : Nat := 512
def MAX_HOLDS_LIMIT : Nat := 1024

structure PlanningQuery where
  maxAssignments : Option Nat := none
  maxAssignmentsPerAgent : Option Nat := none
  maxInterventions : Option Nat := none
  maxHolds : Option Nat := none
  deriving DecidableEq, Repr

namespace PlanningQuery

def fields : List (Field PlanningQuery) :=
  [⟨"max_assignments", MAX_ASSIGNMENTS_LIMIT, maxAssignments,
      fun value query => { query with maxAssignments := some value }⟩,
    ⟨"max_assignments_per_agent", MAX_ASSIGNMENTS_PER_AGENT_LIMIT, maxAssignmentsPerAgent,
      fun value query => { query with maxAssignmentsPerAgent := some value }⟩,
    ⟨"max_interventions", MAX_INTERVENTIONS_LIMIT, maxInterventions,
      fun value query => { query with maxInterventions := some value }⟩,
    ⟨"max_holds", MAX_HOLDS_LIMIT, maxHolds,
      fun value query => { query with maxHolds := some value }⟩]

def parse (rawQuery : Option (List Char)) : Except ApiError PlanningQuery :=
  parseQuery "planning" (assignInteger "planning" fields) {} rawQuery

def policy (query : PlanningQuery) : PlanningPolicy :=
  let defaults := PlanningPolicy.default
  { maxAssignments := query.maxAssignments.getD defaults.maxAssignments
    maxAssignmentsPerAgent := query.maxAssignmentsPerAgent.getD defaults.maxAssignmentsPerAgent
    maxInterventions := query.maxInterventions.getD defaults.maxInterventions
    maxHolds := query.maxHolds.getD defaults.maxHolds }

end PlanningQuery

structure ExplorerQuery where
  timelineLimit : Option Nat := none
  sessionLimit : Option Nat := none
  lessonLimit : Option Nat := none
  deriving DecidableEq, Repr

namespace ExplorerQuery

def fields : List (Field ExplorerQuery) :=
  [⟨"timeline_limit", MAX_TIMELINE_LIMIT, timelineLimit,
      fun value query => { query with timelineLimit := some value }⟩,
    ⟨"session_limit", MAX_SESSION_LIMIT, sessionLimit,
      fun value query => { query with sessionLimit := some value }⟩,
    ⟨"lesson_limit", MAX_LESSON_LIMIT, lessonLimit,
      fun value query => { query with lessonLimit := some value }⟩]

def parse (rawQuery : Option (List Char)) : Except ApiError ExplorerQuery :=
  parseQuery "explorer" (assignInteger "explorer" fields) {} rawQuery

def policy (query : ExplorerQuery) : ExplorerPolicy :=
  let defaults : ExplorerPolicy := {}
  { timelineLimit := query.timelineLimit.getD defaults.timelineLimit
    sessionLimit := query.sessionLimit.getD defaults.sessionLimit
    lessonLimit := query.lessonLimit.getD defaults.lessonLimit }

end ExplorerQuery

@[ext] structure TimelineQuery where
  limit : Option Nat := none
  cursor : Option TimelineCursor := none
  deriving DecidableEq, Repr

namespace TimelineQuery

def policy (query : TimelineQuery) : TimelinePolicy :=
  { limit := query.limit.getD ({} : TimelinePolicy).limit }

section Parse

variable [UuidText] [Chrono]

/-- The loop body: here the name is looked up first. -/
def assign (name rawValue : List Char) (query : TimelineQuery) : Except ApiError TimelineQuery :=
  if name = "limit".toList then
    match Decimal.fromStr 64 rawValue with
    | none => .error (.badRequest "timeline parameter limit must be a positive base-10 integer")
    | some value =>
      if value = 0 ∨ value > MAX_TIMELINE_PAGE_LIMIT then
        .error (.badRequest ("timeline parameter limit must be between 1 and " ++
          toString MAX_TIMELINE_PAGE_LIMIT))
      else .ok { query with limit := some value }
  else if name = "cursor".toList then
    match TimelineCursor.parse rawValue with
    | .error _ => .error (.badRequest "timeline cursor is invalid")
    | .ok cursor => .ok { query with cursor := some cursor }
  else .error (.badRequest ("unknown timeline parameter " ++ String.ofList name))

def parse (rawQuery : Option (List Char)) : Except ApiError TimelineQuery :=
  parseQuery "timeline" assign {} rawQuery

end Parse

end TimelineQuery

end ControlPlane.Api
