import ControlPlane.Coordination.Plan
import ControlPlane.Explorer.Build
import ControlPlane.Metacognition.CacheOrder
import ControlPlane.Timeline.Walk

/-! Neither the diagnostics nor the plan, the explorer or a page of the timeline show the order
in which the caches list their entries. -/

namespace ControlPlane

open Metacognition (AnalysisPolicy MetacognitionSnapshot analyzeWithPolicy analyzeWithPolicy_perm
  lookupTasks_perm)
open Coordination (PlanningPolicy buildPlanWithPolicy)

namespace Coordination

variable {snapshot shuffled : Snapshot} (keyed : snapshot.Keyed) (h : snapshot.Shuffled shuffled)
include keyed h

theorem agentStatuses_perm :
    (agentStatuses snapshot.agents).Equiv (agentStatuses shuffled.agents) := by
  apply BTreeMap.ofList_equiv_of_perm
  · rw [List.map_map]
    exact keyed.agents
  · exact h.agents.map _

theorem place_perm (analysis : MetacognitionSnapshot) :
    place (lookups snapshot analysis) = place (lookups shuffled analysis) := by
  have htasks := lookupTasks_perm keyed.tasks h.tasks
  have hagents := agentStatuses_perm keyed h
  funext task
  rw [place, place, lookups, lookups]
  dsimp only
  rw [htasks.getElem?_eq, hagents.getElem?_eq]

theorem buildPlanWithPolicy_perm (analysisPolicy : AnalysisPolicy)
    (planningPolicy : PlanningPolicy) :
    buildPlanWithPolicy snapshot analysisPolicy planningPolicy =
      buildPlanWithPolicy shuffled analysisPolicy planningPolicy := by
  simp only [buildPlanWithPolicy, planFromAnalysis, draftPlan, place_perm keyed h,
    analyzeWithPolicy_perm keyed h]

end Coordination

instance : Std.TransCmp agentOrder :=
  inferInstanceAs (Std.TransCmp (compareOn fun agent : AgentState => agent.agent.agentId))

instance : Std.TransCmp lessonOrder :=
  have := transCmp_descending fun lesson : LessonState => lesson.learnedAt
  inferInstanceAs (Std.TransCmp (compareLex
    (fun left right : LessonState => compare right.learnedAt left.learnedAt)
    (compareLex (compareOn fun lesson : LessonState => lesson.agentId)
      (compareOn fun lesson : LessonState => lesson.lesson.lessonId))))

instance : Std.TransCmp timelineOrder :=
  have := transCmp_descending fun record : EventRecord => record.event.occurredAt
  have := transCmp_descending fun record : EventRecord => record.event.eventId.toNat
  inferInstanceAs (Std.TransCmp (compareLex
    (fun left right : EventRecord => compare right.event.occurredAt left.event.occurredAt)
    (fun left right : EventRecord => compare right.event.eventId.toNat left.event.eventId.toNat)))

theorem sortedAgents_perm {agents agents' : List AgentState}
    (hkeys : (agents.map fun agent => agent.agent.agentId).Nodup) (h : agents.Perm agents') :
    sortBy agentOrder agents = sortBy agentOrder agents' := by
  apply sortBy_eq_of_perm (fun agent : AgentState => agent.agent.agentId) _ hkeys h
  exact fun _ _ => Std.LawfulEqOrd.eq_of_compare

theorem sortedLessons_perm {lessons lessons' : List LessonState}
    (hkeys : (lessons.map fun lesson => (lesson.agentId, lesson.lesson.lessonId)).Nodup)
    (h : lessons.Perm lessons') : sortBy lessonOrder lessons = sortBy lessonOrder lessons' := by
  apply sortBy_eq_of_perm (fun lesson : LessonState => (lesson.agentId, lesson.lesson.lessonId)) _
    hkeys h
  intro a b hab
  rw [lessonOrder, Ordering.then_eq_eq, Ordering.then_eq_eq] at hab
  exact Prod.ext (Std.LawfulEqOrd.eq_of_compare hab.2.1) (Std.LawfulEqOrd.eq_of_compare hab.2.2)

theorem sortedEvents_perm {events events' : List EventRecord}
    (hids : (events.map fun record => record.event.eventId).Nodup) (h : events.Perm events') :
    sortBy timelineOrder events = sortBy timelineOrder events' := by
  apply sortBy_eq_of_perm (fun record : EventRecord => record.event.eventId) _ hids h
  intro a b hab
  rw [timelineOrder, Ordering.then_eq_eq, Nat.compare_eq_eq] at hab
  exact BitVec.eq_of_toNat_eq hab.2.symm

section Snapshot

variable {snapshot shuffled : Snapshot} (keyed : snapshot.Keyed) (h : snapshot.Shuffled shuffled)
include keyed h

theorem buildExplorer_perm [UuidDisplay] (policy : ExplorerPolicy) :
    buildExplorer snapshot policy = buildExplorer shuffled policy := by
  simp only [buildExplorer, sortedAgents_perm keyed.agents h.agents,
    sortedLessons_perm keyed.lessons h.lessons, sortedEvents_perm keyed.recentEvents h.recentEvents,
    h.generatedAt, h.startedAt, h.revision, h.caches, h.counters, h.agents.length_eq,
    h.goals.length_eq, h.tasks.length_eq, h.lessons.length_eq]

theorem buildTimelinePage_perm [UuidText] (policy : TimelinePolicy)
    (cursor : Option TimelineCursor) :
    buildTimelinePage snapshot policy cursor = buildTimelinePage shuffled policy cursor := by
  have hretained : retained snapshot = retained shuffled :=
    sortedEvents_perm keyed.recentEvents h.recentEvents
  have hrevision : checkRevision snapshot = checkRevision shuffled := by
    funext cursor
    cases cursor with
    | none => rfl
    | some cursor => rw [checkRevision, checkRevision, h.revision]
  simp only [buildTimelinePage, cutPage, hretained, hrevision, h.generatedAt, h.startedAt,
    h.revision, h.caches]

end Snapshot

/-- The order in which the caches list what they hold leaks into none of the presentations. -/
theorem cache_order_hidden [UuidDisplay] [UuidText] {snapshot shuffled : Snapshot}
    (keyed : snapshot.Keyed) (h : snapshot.Shuffled shuffled) :
    (∀ policy, analyzeWithPolicy snapshot policy = analyzeWithPolicy shuffled policy) ∧
    (∀ analysisPolicy planningPolicy, buildPlanWithPolicy snapshot analysisPolicy planningPolicy =
      buildPlanWithPolicy shuffled analysisPolicy planningPolicy) ∧
    (∀ policy, buildExplorer snapshot policy = buildExplorer shuffled policy) ∧
    ∀ policy cursor,
      buildTimelinePage snapshot policy cursor = buildTimelinePage shuffled policy cursor :=
  ⟨analyzeWithPolicy_perm keyed h, Coordination.buildPlanWithPolicy_perm keyed h,
    buildExplorer_perm keyed h, buildTimelinePage_perm keyed h⟩

namespace Sample

instance : UuidDisplay where
  display id :=
    let digits := Hex.padded 32 id.toNat
    String.ofList (['-'].intercalate [digits.take 8, (digits.drop 8).take 4,
      (digits.drop 12).take 4, (digits.drop 16).take 4, digits.drop 20])

def listed : Snapshot :=
  snapshot (run cache (instant 0)
    [ingestAt 1 1 (created "a"), ingestAt 2 2 (created "b")] : StoreInner RecencyCache) (instant 3)

def relisted : Snapshot :=
  { listed with tasks := listed.tasks.reverse, recentEvents := listed.recentEvents.reverse }

theorem keyed_listed : listed.Keyed where
  agents := by decide
  goals := by decide
  tasks := by decide
  lessons := by decide
  recentEvents := by decide

theorem shuffled_listed : listed.Shuffled relisted where
  generatedAt := rfl
  startedAt := rfl
  revision := rfl
  agents := .refl _
  goals := .refl _
  tasks := (List.reverse_perm _).symm
  lessons := .refl _
  recentEvents := (List.reverse_perm _).symm
  caches := rfl
  counters := rfl

end Sample

theorem cache_order_hidden_reversed :
    Sample.listed.recentEvents.map (fun record => record.event.eventId) = [2, 1] ∧
      Sample.relisted.recentEvents.map (fun record => record.event.eventId) = [1, 2] ∧
      analyzeWithPolicy Sample.listed .default = analyzeWithPolicy Sample.relisted .default ∧
      buildPlanWithPolicy Sample.listed .default .default =
        buildPlanWithPolicy Sample.relisted .default .default ∧
      buildExplorer Sample.listed {} = buildExplorer Sample.relisted {} ∧
      buildTimelinePage Sample.listed {} none = buildTimelinePage Sample.relisted {} none := by
  obtain ⟨hanalysis, hplan, hexplorer, hpage⟩ :=
    cache_order_hidden Sample.keyed_listed Sample.shuffled_listed
  exact ⟨by decide, by decide, hanalysis _, hplan _ _, hexplorer _, hpage _ _⟩

end ControlPlane
