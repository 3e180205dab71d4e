import ControlPlane.Lib.BTree
import ControlPlane.Timeline.Page

/-! The explorer: the agents, sessions, lessons and latest events of a snapshot, each in an order
of its own and cut to a limit. -/

namespace ControlPlane

def MAX_TIMELINE_LIMIT : Nat := 250
def MAX_SESSION_LIMIT : Nat := 250
def MAX_LESSON_LIMIT : Nat := 1000

structure ExplorerPolicy where
  timelineLimit : Nat := 100
  sessionLimit : Nat := 100
  lessonLimit : Nat := 250
  deriving DecidableEq, Repr

inductive ExplorerError
  | invalidLimit (name : String) (maximum : Nat)
  deriving DecidableEq, Repr

def ExplorerError.message : ExplorerError → String
  | invalidLimit name maximum => name ++ " must be between 1 and " ++ toString maximum

def validateLimit (name : String) (value maximum : Nat) : Except ExplorerError Unit :=
  if value = 0 ∨ value > maximum then .error (.invalidLimit name maximum) else .ok ()

def ExplorerPolicy.validate (policy : ExplorerPolicy) : Except ExplorerError ExplorerPolicy := do
  validateLimit "timeline_limit" policy.timelineLimit MAX_TIMELINE_LIMIT
  validateLimit "session_limit" policy.sessionLimit MAX_SESSION_LIMIT
  validateLimit "lesson_limit" policy.lessonLimit MAX_LESSON_LIMIT
  return policy

structure SessionSummary where
  sessionId : String
  agentIds : List String
  taskIds : List String
  eventKinds : BTreeMap String Nat
  transports : BTreeMap String Nat
  eventCount : Nat
  firstOccurredAt : DateTime
  lastOccurredAt : DateTime
  latestEventId : String
  latestEventKind : String
  latestTaskId : Option String

structure SystemSummary where
  uptimeSeconds : Nat
  agents : Nat
  goals : Nat
  tasks : Nat
  lessons : Nat
  retainedEvents : Nat
  retainedSessions : Nat
  caches : CacheSnapshot
  counters : Counters

structure RetentionSummary where
  totalTimelineEvents : Nat
  returnedTimelineEvents : Nat
  omittedTimelineEvents : Nat
  totalSessions : Nat
  returnedSessions : Nat
  omittedSessions : Nat
  totalLessons : Nat
  returnedLessons : Nat
  omittedLessons : Nat
  deriving DecidableEq, Repr

structure ExplorerSnapshot where
  generatedAt : DateTime
  startedAt : DateTime
  revision : Nat
  agents : List AgentState
  sessions : List SessionSummary
  lessons : List LessonState
  timeline : List EventRecord
  system : SystemSummary
  retention : RetentionSummary
  policy : ExplorerPolicy

class UuidDisplay where
  display : Uuid → String

structure SessionAccumulator where
  agentIds : BTreeSet String
  taskIds : BTreeSet String
  eventKinds : BTreeMap String Nat
  transports : BTreeMap String Nat
  eventCount : Nat
  firstOccurredAt : DateTime
  lastOccurredAt : DateTime
  latestEventId : String
  latestEventKind : String
  latestTaskId : Option String

namespace SessionAccumulator

variable [UuidDisplay]

def new (record : EventRecord) : SessionAccumulator :=
  let event := record.event
  { agentIds := (∅ : BTreeSet String).insert event.agent.agentId
    taskIds := event.taskId.elim ∅ (∅ : BTreeSet String).insert
    eventKinds := (∅ : BTreeMap String Nat).insert event.kind 1
    transports := (∅ : BTreeMap String Nat).insert record.transport.asStr 1
    eventCount := 1
    firstOccurredAt := event.occurredAt
    lastOccurredAt := event.occurredAt
    latestEventId := UuidDisplay.display event.eventId
    latestEventKind := event.kind
    latestTaskId := event.taskId }

def tally (counts : BTreeMap String Nat) (name : String) : BTreeMap String Nat :=
  counts.alter name fun count => some (U64.wrappingAdd (count.getD 0) 1)

def observe (accumulator : SessionAccumulator) (record : EventRecord) : SessionAccumulator :=
  let event := record.event
  let eventId := UuidDisplay.display event.eventId
  let counted : SessionAccumulator := { accumulator with
    agentIds := accumulator.agentIds.insert event.agent.agentId
    taskIds := event.taskId.elim accumulator.taskIds accumulator.taskIds.insert
    eventKinds := tally accumulator.eventKinds event.kind
    transports := tally accumulator.transports record.transport.asStr
    eventCount := U64.saturatingAdd accumulator.eventCount 1
    firstOccurredAt := min accumulator.firstOccurredAt event.occurredAt }
  if event.occurredAt > accumulator.lastOccurredAt ∨
      event.occurredAt = accumulator.lastOccurredAt ∧ eventId > accumulator.latestEventId then
    { counted with
      lastOccurredAt := event.occurredAt
      latestEventId := eventId
      latestEventKind := event.kind
      latestTaskId := event.taskId }
  else counted

def finish (accumulator : SessionAccumulator) (sessionId : String) : SessionSummary where
  sessionId := sessionId
  agentIds := accumulator.agentIds.toList
  taskIds := accumulator.taskIds.toList
  eventKinds := accumulator.eventKinds
  transports := accumulator.transports
  eventCount := accumulator.eventCount
  firstOccurredAt := accumulator.firstOccurredAt
  lastOccurredAt := accumulator.lastOccurredAt
  latestEventId := accumulator.latestEventId
  latestEventKind := accumulator.latestEventKind
  latestTaskId := accumulator.latestTaskId

end SessionAccumulator

def agentOrder (left right : AgentState) : Ordering := compare left.agent.agentId right.agent.agentId

def lessonOrder (left right : LessonState) : Ordering :=
  (compare right.learnedAt left.learnedAt).then <| (compare left.agentId right.agentId).then
    (compare left.lesson.lessonId right.lesson.lessonId)

def sessionOrder (left right : SessionSummary) : Ordering :=
  (compare right.lastOccurredAt left.lastOccurredAt).then (compare left.sessionId right.sessionId)

section Build

variable [UuidDisplay]

def collectSessions (timeline : List EventRecord) : BTreeMap String SessionAccumulator :=
  timeline.foldl
    (fun sessions record =>
      match record.event.sessionId with
      | none => sessions
      | some sessionId =>
        match sessions[sessionId]? with
        | some accumulator => sessions.insert sessionId (accumulator.observe record)
        | none => sessions.insert sessionId (.new record))
    ∅

def summarizeSessions (timeline : List EventRecord) : List SessionSummary :=
  sortBy sessionOrder
    ((collectSessions timeline).toList.map fun entry => entry.2.finish entry.1)

def buildExplorer (snapshot : Snapshot) (policy : ExplorerPolicy) :
    Except ExplorerError ExplorerSnapshot := do
  let policy ← policy.validate
  let agents := sortBy agentOrder snapshot.agents
  let allLessons := sortBy lessonOrder snapshot.lessons
  let lessons := allLessons.take policy.lessonLimit
  let allEvents := sortBy timelineOrder snapshot.recentEvents
  let allSessions := summarizeSessions allEvents
  let timeline := allEvents.take policy.timelineLimit
  let sessions := allSessions.take policy.sessionLimit
  return {
    generatedAt := snapshot.generatedAt
    startedAt := snapshot.startedAt
    revision := snapshot.revision
    agents := agents
    sessions := sessions
    lessons := lessons
    timeline := timeline
    system :=
      { uptimeSeconds := (max (snapshot.generatedAt.secondsSince snapshot.startedAt) 0).toNat
        agents := snapshot.agents.length
        goals := snapshot.goals.length
        tasks := snapshot.tasks.length
        lessons := snapshot.lessons.length
        retainedEvents := allEvents.length
        retainedSessions := allSessions.length
        caches := snapshot.caches
        counters := snapshot.counters }
    retention :=
      { totalTimelineEvents := allEvents.length
        returnedTimelineEvents := timeline.length
        omittedTimelineEvents := allEvents.length - timeline.length
        totalSessions := allSessions.length
        returnedSessions := sessions.length
        omittedSessions := allSessions.length - sessions.length
        totalLessons := allLessons.length
        returnedLessons := lessons.length
        omittedLessons := allLessons.length - lessons.length }
    policy := policy }

end Build

end ControlPlane
