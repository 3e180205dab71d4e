import ControlPlane.Lib.BTree
import ControlPlane.Metacognition.Types

/-! The helpers of the engine and the cycle search of the dependency graph.  The search takes
fuel; `none` means that it ran out. -/

namespace ControlPlane.Metacognition

def diagnosticId (rule : DiagnosticRule) (agentId taskId : String) : String :=
  rule.asStr ++ ":" ++ agentId ++ ":" ++ taskId

def ageSeconds (now instant : DateTime) : Int := max (now.secondsSince instant) 0

def isActive (status : TaskStatus) : Bool :=
  match status with
  | .pending | .running | .blocked => true
  | _ => false

def isTerminal (status : TaskStatus) : Bool :=
  match status with
  | .succeeded | .failed | .canceled | .partially => true
  | _ => false

def ratio (numerator denominator : Nat) : F32 :=
  if denominator = 0 then F32.zero
  else (F32.ofNat numerator).div (F32.ofNat denominator)

def mean (values : List F32) : F32 :=
  let total := values.foldl
    (fun total value => (F32.add total.1 value, U64.saturatingAdd total.2 1)) (F32.zero, 0)
  if total.2 = 0 then F32.zero else total.1.div (F32.ofNat total.2)

def recordOrder (left right : EventRecord) : Ordering :=
  (compare left.event.occurredAt right.event.occurredAt).then
    (compare left.event.eventId.toNat right.event.eventId.toNat)

def indexTaskEvents (events : List EventRecord) : TaskEventIndex :=
  let indexed : TaskEventIndex := events.foldl
    (fun indexed record =>
      match record.event.taskId with
      | some taskId => indexed.alter (record.event.agent.agentId, taskId)
          fun records => some (records.getD [] ++ [record])
      | none => indexed)
    ∅
  indexed.map fun _ records => sortBy recordOrder records

def sourceEventIds (records : Option (List EventRecord)) : List Uuid :=
  ((records.getD []).reverse.take MAX_SOURCE_EVENT_IDS).map fun record => record.event.eventId

def taskKey (task : TaskState) : TaskKey := (task.agentId, task.task.taskId)

def lookupTasks (tasks : List TaskState) : TaskLookup :=
  .ofList (tasks.map fun task => (taskKey task, task))

def dependencyState (task : TaskState) (taskLookup : TaskLookup) : List String × List String :=
  let unresolved := task.task.dependsOn.filter fun dependencyId =>
    match taskLookup[(task.agentId, dependencyId)]? with
    | some dependency => dependency.status ≠ .succeeded
    | none => false
  let missing := task.task.dependsOn.filter fun dependencyId =>
    !taskLookup.contains (task.agentId, dependencyId)
  (sortBy compare unresolved, sortBy compare missing)

abbrev DependencyGraph := BTreeMap String (List String)

def retainedDependencies (taskLookup : TaskLookup) (agentId : String) (task : TaskState) :
    List String :=
  task.task.dependsOn.filter fun dependencyId => taskLookup.contains (agentId, dependencyId)

def graphsByAgent (taskLookup : TaskLookup) : BTreeMap String DependencyGraph :=
  taskLookup.toList.foldl
    (fun byAgent entry =>
      byAgent.alter entry.1.1 fun graph =>
        some ((graph.getD ∅).insert entry.1.2
          (retainedDependencies taskLookup entry.1.1 entry.2)))
    ∅

inductive VisitState
  | visiting
  | done
  deriving DecidableEq, Repr

structure CycleSearch where
  states : BTreeMap String VisitState
  stack : List String
  members : BTreeSet TaskKey

def CycleSearch.start (members : BTreeSet TaskKey) : CycleSearch := ⟨∅, [], members⟩

def markCycle (agentId : String) (segment : List String) (members : BTreeSet TaskKey) :
    BTreeSet TaskKey :=
  segment.foldl (fun members taskId => members.insert (agentId, taskId)) members

def visitCycle (graph : DependencyGraph) (agentId : String) :
    Nat → String → CycleSearch → Option CycleSearch
  | 0, _, _ => none
  | fuel + 1, taskId, search =>
    match search.states[taskId]? with
    | some .done => some search
    | some .visiting =>
      match search.stack.findIdx? (· == taskId) with
      | some position => some { search with
          members := markCycle agentId (search.stack.drop position) search.members }
      | none => some search
    | none => do
      let entered : CycleSearch := { search with
        states := search.states.insert taskId .visiting
        stack := search.stack ++ [taskId] }
      let left ← (graph.getD taskId []).foldlM
        (fun search dependencyId => visitCycle graph agentId fuel dependencyId search) entered
      return { left with
        stack := left.stack.dropLast
        states := left.states.insert taskId .done }

def visitAgent (agentId : String) (graph : DependencyGraph) (members : BTreeSet TaskKey) :
    Option (BTreeSet TaskKey) := do
  let search ← graph.keys.foldlM
    (fun search taskId => visitCycle graph agentId (graph.size + 1) taskId search)
    (CycleSearch.start members)
  return search.members

def searchCycles (taskLookup : TaskLookup) : Option (BTreeSet TaskKey) :=
  (graphsByAgent taskLookup).toList.foldlM
    (fun members entry => visitAgent entry.1 entry.2 members) ∅

end ControlPlane.Metacognition
