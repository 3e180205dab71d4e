import ControlPlane.Lib.Register
import ControlPlane.Store.Fields

/-! Event time against arrival.  Goals, lessons and the fields of agents hold what was written
last, so they hold the newest value exactly while no late event brings another one. -/

namespace ControlPlane

open LruCache (peek)
open Register (newest)

inductive Projection
  | goal (key : ScopedId)
  | lesson (key : ScopedId)
  | agent (agentId : String) (field : AgentField)
  deriving DecidableEq, Repr

def Projection.Value : Projection → Type
  | goal _ => Goal
  | lesson _ => Lesson
  | agent _ field => field.Value

def EventEnvelope.declares (envelope : EventEnvelope) (key : ScopedId) : Option Goal :=
  match envelope.event with
  | .goalDeclared goal => if key = ⟨envelope.agent.agentId, goal.goalId⟩ then some goal else none
  | _ => none

def EventEnvelope.teaches (envelope : EventEnvelope) (key : ScopedId) : Option Lesson :=
  match envelope.event with
  | .lessonLearned lesson =>
    if key = ⟨envelope.agent.agentId, lesson.lessonId⟩ then some lesson else none
  | _ => none

section Projection

variable {C : Type → Type → Type} [LruCache C]

def StoreInner.held (inner : StoreInner C) : (projection : Projection) → Option projection.Value
  | .goal key => (peek inner.goals key).map GoalState.goal
  | .lesson key => (peek inner.lessons key).map LessonState.lesson
  | .agent agentId field => inner.field agentId field

def StoreInner.sets (inner : StoreInner C) (envelope : EventEnvelope) :
    (projection : Projection) → Option projection.Value
  | .goal key => envelope.declares key
  | .lesson key => envelope.teaches key
  | .agent agentId field =>
    if agentId = envelope.agent.agentId then
      envelope.writesField (inner.foundStatus agentId) (inner.applies envelope) field
    else none

variable [CounterArith]

def StoreInner.stamped (projection : Projection) (inner : StoreInner C) (op : StoreOp) :
    Option (DateTime × projection.Value) :=
  (inner.acceptedEvent op).bind fun event =>
    (inner.sets event projection).map fun value => (event.occurredAt, value)

def settings (projection : Projection) (inner : StoreInner C) (ops : List StoreOp) :
    List (DateTime × projection.Value) :=
  Run.emitted (fun inner op => (inner.stamped projection op).toList) StoreInner.step inner ops

/-- The value is the one set with the greatest time. -/
def InEventTime (projection : Projection) (history : List (DateTime × projection.Value))
    (inner : StoreInner C) : Prop :=
  ∀ setting, newest history = some setting → inner.held projection = some setting.2

def RecordKept (projection : Projection) (inner : StoreInner C) (ops : List StoreOp) : Prop :=
  Run.Along (fun inner op => (StoreInner.held (inner.step op) projection).isSome) StoreInner.step
    inner ops

variable [LawfulLruCache C] {inner : StoreInner C} {projection : Projection}

theorem goal_of_declares {envelope : EventEnvelope} {key : ScopedId} {goal : Goal}
    (h : envelope.declares key = some goal) :
    (peek (applyEvent inner envelope).goals key).map GoalState.goal = some goal := by
  unfold EventEnvelope.declares at h
  split at h
  · next declared he =>
    obtain ⟨hkey, hgoal⟩ := Option.ite_none_right_eq_some.1 h
    cases hgoal
    rw [goals_of_declared inner he, hkey, LruCache.peek_push_self, Option.map_some]
  · cases h

theorem goal_of_not_declares {envelope : EventEnvelope} {key : ScopedId} {state : GoalState}
    (h : envelope.declares key = none)
    (hp : peek (applyEvent inner envelope).goals key = some state) :
    peek inner.goals key = some state := by
  by_cases hdeclared : ∃ goal, envelope.event = .goalDeclared goal
  · obtain ⟨goal, he⟩ := hdeclared
    have hkey : key ≠ ⟨envelope.agent.agentId, goal.goalId⟩ := by
      rintro rfl
      simp [EventEnvelope.declares, he] at h
    rw [goals_of_declared inner he] at hp
    exact LruCache.peek_of_peek_push hkey hp
  · by_cases hlearned : ∃ lesson, envelope.event = .lessonLearned lesson
    · obtain ⟨lesson, he⟩ := hlearned
      have hgoals : (applyEvent inner envelope).goals = inner.goals := by
        unfold applyEvent
        simp only [he, applyLessonLearned, StoreInner.modifyAgent, ensureAgent_goals]
      rwa [hgoals] at hp
    · have hkeeps := KeepsDeclarations.applyEvent inner
        (fun goal he => hdeclared ⟨goal, he⟩) fun lesson he => hlearned ⟨lesson, he⟩
      rwa [hkeeps.goals] at hp

theorem lesson_of_teaches {envelope : EventEnvelope} {key : ScopedId} {lesson : Lesson}
    (h : envelope.teaches key = some lesson) :
    (peek (applyEvent inner envelope).lessons key).map LessonState.lesson = some lesson := by
  unfold EventEnvelope.teaches at h
  split at h
  · next learned he =>
    obtain ⟨hkey, hlesson⟩ := Option.ite_none_right_eq_some.1 h
    cases hlesson
    obtain ⟨observations, hlessons⟩ := lessons_of_learned inner he
    rw [hlessons, hkey, LruCache.peek_push_self, Option.map_some]
  · cases h

theorem lesson_of_not_teaches {envelope : EventEnvelope} {key : ScopedId} {state : LessonState}
    (h : envelope.teaches key = none)
    (hp : peek (applyEvent inner envelope).lessons key = some state) :
    peek inner.lessons key = some state := by
  by_cases hlearned : ∃ lesson, envelope.event = .lessonLearned lesson
  · obtain ⟨lesson, he⟩ := hlearned
    have hkey : key ≠ ⟨envelope.agent.agentId, lesson.lessonId⟩ := by
      rintro rfl
      simp [EventEnvelope.teaches, he] at h
    obtain ⟨observations, hlessons⟩ := lessons_of_learned inner he
    rw [hlessons] at hp
    exact LruCache.peek_of_peek_push hkey hp
  · by_cases hdeclared : ∃ goal, envelope.event = .goalDeclared goal
    · obtain ⟨goal, he⟩ := hdeclared
      have hlessons : (applyEvent inner envelope).lessons = inner.lessons := by
        unfold applyEvent
        simp only [he, applyGoalDeclared, StoreInner.modifyAgent, ensureAgent_lessons]
      rwa [hlessons] at hp
    · have hkeeps := KeepsDeclarations.applyEvent inner
        (fun goal he => hdeclared ⟨goal, he⟩) fun lesson he => hlearned ⟨lesson, he⟩
      rwa [hkeeps.lessons] at hp

theorem held_applyEvent_of_sets {envelope : EventEnvelope} {value : projection.Value}
    (h : inner.sets envelope projection = some value) :
    (applyEvent inner envelope).held projection = some value := by
  cases projection with
  | goal key => exact goal_of_declares h
  | lesson key => exact lesson_of_teaches h
  | agent agentId field =>
    by_cases hid : agentId = envelope.agent.agentId
    · cases hid
      have hwrites : envelope.writesField (inner.foundStatus envelope.agent.agentId)
          (inner.applies envelope) field = some value := (if_pos rfl).symm.trans h
      have hself := field_applyEvent_self inner envelope field
      rw [hwrites] at hself
      exact hself
    · exact absurd ((if_neg hid).symm.trans h) (Option.some_ne_none value).symm

theorem held_applyEvent_of_not_sets {envelope : EventEnvelope} {old : projection.Value}
    (h : inner.sets envelope projection = none) (hold : inner.held projection = some old)
    (hkept : ((applyEvent inner envelope).held projection).isSome) :
    (applyEvent inner envelope).held projection = some old := by
  cases projection with
  | goal key =>
    obtain ⟨goal, hgoal⟩ := Option.isSome_iff_exists.1 hkept
    obtain ⟨state, hstate, -⟩ := Option.map_eq_some_iff.1 hgoal
    have hbefore := goal_of_not_declares h hstate
    exact (congrArg (Option.map GoalState.goal) (hstate.trans hbefore.symm)).trans hold
  | lesson key =>
    obtain ⟨lesson, hlesson⟩ := Option.isSome_iff_exists.1 hkept
    obtain ⟨state, hstate, -⟩ := Option.map_eq_some_iff.1 hlesson
    have hbefore := lesson_of_not_teaches h hstate
    exact (congrArg (Option.map LessonState.lesson) (hstate.trans hbefore.symm)).trans hold
  | agent agentId field =>
    by_cases hid : agentId = envelope.agent.agentId
    · cases hid
      have hwrites : envelope.writesField (inner.foundStatus envelope.agent.agentId)
          (inner.applies envelope) field = none := (if_pos rfl).symm.trans h
      have hself := field_applyEvent_self inner envelope field
      have hfield : inner.field envelope.agent.agentId field = some old := hold
      rw [hwrites, hfield] at hself
      exact hself
    · exact (field_applyEvent_of_ne inner envelope hid field hkept).trans hold

omit [CounterArith] [LawfulLruCache C] in
theorem SameProjections.held_eq {before after : StoreInner C} (same : SameProjections before after)
    (projection : Projection) : after.held projection = before.held projection := by
  cases projection with
  | goal key => exact congrArg (fun goals => (peek goals key).map GoalState.goal) same.goals
  | lesson key =>
    exact congrArg (fun lessons => (peek lessons key).map LessonState.lesson) same.lessons
  | agent agentId field =>
    exact congrArg (fun agents => (peek agents agentId).map field.get) same.agents

theorem held_step_of_stamped {op : StoreOp} {setting : DateTime × projection.Value}
    (h : inner.stamped projection op = some setting) :
    (inner.step op).held projection = some setting.2 := by
  obtain ⟨event, haccepted, hset⟩ := Option.bind_eq_some_iff.1 h
  obtain ⟨value, hvalue, hsetting⟩ := Option.map_eq_some_iff.1 hset
  obtain ⟨seen, same⟩ := step_of_accepted haccepted
  have hvalue' : StoreInner.sets { inner with seenEventIds := seen } event projection = some value :=
    hvalue
  rw [same.held_eq, ← hsetting]
  exact held_applyEvent_of_sets hvalue'

theorem held_step_of_not_stamped {op : StoreOp} {old : projection.Value}
    (h : inner.stamped projection op = none) (hold : inner.held projection = some old)
    (hkept : ((inner.step op).held projection).isSome) :
    (inner.step op).held projection = some old := by
  cases haccepted : inner.acceptedEvent op with
  | none => rw [(step_of_unaccepted haccepted).held_eq, hold]
  | some event =>
    obtain ⟨seen, same⟩ := step_of_accepted haccepted
    have hsets : StoreInner.sets { inner with seenEventIds := seen } event projection = none := by
      unfold StoreInner.stamped at h
      rwa [haccepted, Option.bind_some, Option.map_eq_none_iff] at h
    rw [same.held_eq] at hkept ⊢
    exact held_applyEvent_of_not_sets hsets hold hkept

/-- The operation sets a value that is older than the newest one so far, and another one. -/
def SetsLate (projection : Projection) (history : List (DateTime × projection.Value))
    (inner : StoreInner C) (op : StoreOp) : Prop :=
  ∃ setting held, inner.stamped projection op = some setting ∧ newest history = some held ∧
    setting.1 < held.1 ∧ setting.2 ≠ held.2

omit [LawfulLruCache C] in
theorem settings_concat (projection : Projection) (inner : StoreInner C) (ops : List StoreOp)
    (op : StoreOp) :
    settings projection inner (ops ++ [op]) = settings projection inner ops ++
      (StoreInner.stamped projection (Run.after StoreInner.step inner ops) op).toList := by
  simp [settings, Run.emitted]

/-- From event time to event time, exactly if the operation sets nothing late. -/
theorem inEventTime_step_iff {history : List (DateTime × projection.Value)} {op : StoreOp}
    (h : InEventTime projection history inner) (hkept : ((inner.step op).held projection).isSome) :
    InEventTime projection (history ++ (inner.stamped projection op).toList) (inner.step op) ↔
      ¬SetsLate projection history inner op := by
  cases hs : inner.stamped projection op with
  | none =>
    rw [Option.toList_none, List.append_nil]
    refine iff_of_true (fun setting hn => ?_) ?_
    · exact held_step_of_not_stamped hs (h setting hn) hkept
    · rintro ⟨setting, held, hsetting, -⟩
      rw [hs] at hsetting
      cases hsetting
  | some setting =>
    have hheld := held_step_of_stamped hs
    have hnewest := Register.overwrite_iff history setting
    rw [Option.toList_some]
    constructor
    · rintro hafter ⟨late, held, hlate, hn, hlt, hne⟩
      rw [hs, Option.some.injEq] at hlate
      subst hlate
      have hkeep : newest (history ++ [setting]) = some held := by
        rw [Register.newest_concat, hn, Register.keepNewer_of_lt hlt]
      have hvalue := hafter held hkeep
      rw [hheld, Option.some.injEq] at hvalue
      exact hne hvalue
    · intro hlate last hlast
      have hcurrent : ∀ held, newest history = some held →
          held.1 ≤ setting.1 ∨ held.2 = setting.2 := by
        intro held hn
        by_contra hnot
        obtain ⟨hlt, hne⟩ := not_or.1 hnot
        exact hlate ⟨setting, held, hs, hn, not_le.1 hlt, Ne.symm hne⟩
      have hvalue := hnewest.2 hcurrent
      rw [hlast, Option.map_some, Option.some.injEq] at hvalue
      rw [hheld, hvalue]

/-- While its record stays retained, a value is the one set with the greatest time after every
operation, exactly if no operation sets it late. -/
theorem event_time_iff (projection : Projection) (cache : CacheConfig) (startedAt : DateTime)
    (before since : List StoreOp)
    (hkept : RecordKept projection (run cache startedAt before : StoreInner C) since) :
    (∀ done rest, since = done ++ rest →
      InEventTime projection (settings projection (run cache startedAt before : StoreInner C) done)
        (run cache startedAt (before ++ done) : StoreInner C)) ↔
    ∀ done op rest, since = done ++ op :: rest →
      ¬SetsLate projection (settings projection (run cache startedAt before : StoreInner C) done)
        (run cache startedAt (before ++ done) : StoreInner C) op := by
  have hstep : ∀ done op rest, since = done ++ op :: rest →
      InEventTime projection (settings projection (run cache startedAt before : StoreInner C) done)
        (run cache startedAt (before ++ done) : StoreInner C) →
      (InEventTime projection (settings projection (run cache startedAt before : StoreInner C)
          (done ++ [op])) (run cache startedAt (before ++ (done ++ [op])) : StoreInner C) ↔
        ¬SetsLate projection (settings projection (run cache startedAt before : StoreInner C) done)
          (run cache startedAt (before ++ done) : StoreInner C) op) := by
    intro done op rest heq h
    have hretained := (Run.along_iff.1 hkept) done op rest heq
    rw [← run_append] at hretained
    rw [settings_concat, ← List.append_assoc, run_concat, ← run_append]
    exact inEventTime_step_iff h hretained
  constructor
  · intro h done op rest heq
    exact (hstep done op rest heq (h done (op :: rest) heq)).1
      (h (done ++ [op]) rest (by rw [heq, List.append_assoc]; rfl))
  · intro h done
    induction done using List.reverseRecOn with
    | nil =>
      intro rest _ setting hn
      cases hn
    | append_singleton done op ih =>
      intro rest heq
      have heq' : since = done ++ op :: rest := by
        rw [heq, List.append_assoc]
        rfl
      exact (hstep done op rest heq' (ih (op :: rest) heq')).2 (h done op rest heq')

end Projection

namespace Sample

def goalTitled (title : String) : Goal := ⟨"g", title, [], [], none⟩

def lessonStating (statement : String) : Lesson := ⟨"l", statement, F32.one, none, [], [], none⟩

def beat (status : AgentStatus) : AgentEvent := .heartbeat ⟨some status, none, none⟩

def declared (eventId : Uuid) (secs : Int) (title : String) : StoreOp :=
  ingestAt eventId secs (.goalDeclared (goalTitled title))

def goalKey : ScopedId := ⟨"worker", "g"⟩

def late : List StoreOp :=
  [declared 1 5 "new", ingestAt 2 5 (beat .waiting),
    ingestAt 3 5 (.lessonLearned (lessonStating "new")), declared 4 1 "old",
    ingestAt 5 1 (beat .offline), ingestAt 6 1 (.lessonLearned (lessonStating "old"))]

end Sample

open Sample in
/-- A goal declared at 1 and again at 5, in this order of arrival. -/
theorem event_time_in_order :
    InEventTime (.goal goalKey) (settings (.goal goalKey)
        (run cache (instant 0) [] : StoreInner RecencyCache) [declared 1 1 "old", declared 2 5 "new"])
      (run cache (instant 0) [declared 1 1 "old", declared 2 5 "new"] :
        StoreInner RecencyCache) := by
  refine (event_time_iff (.goal goalKey) cache (instant 0) []
    [declared 1 1 "old", declared 2 5 "new"] ⟨rfl, rfl, trivial⟩).2 (fun done op rest heq => ?_)
    [declared 1 1 "old", declared 2 5 "new"] [] rfl
  rintro ⟨setting, held, hs, hn, hlt, -⟩
  cases done with
  | nil => cases hn
  | cons first done =>
    cases done with
    | nil =>
      cases heq
      cases hs
      cases hn
      revert hlt
      decide
    | cons second done => simp at heq

open Sample in
/-- The older event wins in all three. -/
theorem late_values_held :
    (run cache (instant 0) late : StoreInner RecencyCache).held (.goal goalKey) =
        some (goalTitled "old") ∧
      (run cache (instant 0) late : StoreInner RecencyCache).held (.agent "worker" .status) =
        some AgentStatus.offline ∧
      (run cache (instant 0) late : StoreInner RecencyCache).held (.lesson ⟨"worker", "l"⟩) =
        some (lessonStating "old") ∧
      ∀ projection ∈ [.goal goalKey, .agent "worker" .status, .lesson ⟨"worker", "l"⟩],
        ¬InEventTime projection (settings projection
          (run cache (instant 0) [] : StoreInner RecencyCache) late)
          (run cache (instant 0) late : StoreInner RecencyCache) := by
  refine ⟨rfl, rfl, rfl, fun projection hmem h => ?_⟩
  simp only [List.mem_cons, List.not_mem_nil, or_false] at hmem
  rcases hmem with rfl | rfl | rfl
  · have hvalue : some (goalTitled "old") = some (goalTitled "new") :=
      h (instant 5, goalTitled "new") rfl
    exact absurd hvalue (by decide)
  · have hvalue := h (instant 5, AgentStatus.waiting) rfl
    cases hvalue
  · have hvalue : some (lessonStating "old") = some (lessonStating "new") :=
      h (instant 5, lessonStating "new") rfl
    exact absurd hvalue (by decide)

end ControlPlane
