import ControlPlane.Api.Policies
import ControlPlane.Runtime.Snapshot
import ControlPlane.Transport.Config

/-! What the daemon answers over HTTP to whoever asks for a page or a projection. -/

namespace ControlPlane.Api

open Coordination (CoordinationPlan PlanningPolicy buildPlanWithPolicy)
open Metacognition (AnalysisPolicy MetacognitionSnapshot analyzeWithPolicy)
open ControlPlane.Runtime (RuntimeMonitor RuntimeSnapshot)

structure ReadError where
  status : Nat
  error : String
  message : String
  revisions : Option (Nat × Nat) := none
  deriving DecidableEq, Repr

def ReadError.unauthorized : ReadError := ⟨401, "unauthorized", "Authentication failed", none⟩

structure ProjectionCounts where
  agents : Nat
  goals : Nat
  tasks : Nat
  lessons : Nat
  deriving DecidableEq, Repr

structure MetricsSnapshot where
  revision : Nat
  caches : CacheSnapshot
  counters : Counters
  projection : ProjectionCounts

def metricsSnapshot {C : Type → Type → Type} [LruCache C] (inner : StoreInner C) :
    MetricsSnapshot where
  revision := inner.revision
  caches := cacheSnapshot inner
  counters := inner.counters
  projection :=
    ⟨LruCache.len inner.agents, LruCache.len inner.goals, LruCache.len inner.tasks,
      LruCache.len inner.lessons⟩

namespace MetricsSnapshot

def cacheLines (snapshot : MetricsSnapshot) : List String :=
  [("agents", snapshot.caches.agents), ("goals", snapshot.caches.goals),
    ("tasks", snapshot.caches.tasks), ("lessons", snapshot.caches.lessons),
    ("events", snapshot.caches.events), ("idempotency", snapshot.caches.idempotency)].flatMap
    fun (name, cache) =>
      let label := "\x7bcache=\"" ++ name ++ "\"\x7d "
      ["meta_agent_cache_items" ++ label ++ toString cache.length,
        "meta_agent_cache_capacity" ++ label ++ toString cache.capacity,
        "meta_agent_cache_evictions_total" ++ label ++ toString cache.evictions]

def transportLines (metric : String) (counts : BTreeMap String Nat) : List String :=
  ("# TYPE " ++ metric ++ " counter") :: counts.toList.map fun (transport, count) =>
    metric ++ "\x7btransport=\"" ++ transport ++ "\"\x7d " ++ toString count

def projectionLines (projection : ProjectionCounts) : List String :=
  [("agents", projection.agents), ("goals", projection.goals), ("tasks", projection.tasks),
    ("lessons", projection.lessons)].map fun (kind, count) =>
      "meta_agent_projection_items\x7bkind=\"" ++ kind ++ "\"\x7d " ++ toString count

def lines (snapshot : MetricsSnapshot) : List String :=
  ["# TYPE meta_agent_state_revision gauge",
    "meta_agent_state_revision " ++ toString snapshot.revision,
    "# TYPE meta_agent_events_accepted_total counter",
    "meta_agent_events_accepted_total " ++ toString snapshot.counters.accepted,
    "# TYPE meta_agent_events_duplicate_total counter",
    "meta_agent_events_duplicate_total " ++ toString snapshot.counters.duplicate,
    "# TYPE meta_agent_events_rejected_total counter",
    "meta_agent_events_rejected_total " ++ toString snapshot.counters.rejected,
    "# TYPE meta_agent_cache_items gauge",
    "# TYPE meta_agent_cache_capacity gauge",
    "# TYPE meta_agent_cache_evictions_total counter"] ++
  snapshot.cacheLines ++
  transportLines "meta_agent_events_accepted_by_transport_total"
    snapshot.counters.acceptedByTransport ++
  transportLines "meta_agent_events_rejected_by_transport_total"
    snapshot.counters.rejectedByTransport ++
  ("# TYPE meta_agent_projection_items gauge" :: projectionLines snapshot.projection)

end MetricsSnapshot

inductive Page
  | metacognition
  | coordination
  | explorer
  | runtime
  deriving DecidableEq, Repr

inductive Route
  | index
  | health
  | openapi
  | page (page : Page)
  | metrics
  | snapshot
  | metacognition
  | coordination
  | explorer
  | timeline
  | runtimeSnapshot
  deriving DecidableEq, Repr

def Route.guarded : Route → Bool
  | index | health | openapi | page _ => false
  | metrics | snapshot | metacognition | coordination | explorer | timeline | runtimeSnapshot =>
    true

inductive Body
  | index (addresses : BoundAddresses) (readsProtected : Bool)
  | health (status : String) (revision : Nat)
  | openapi (addresses : BoundAddresses) (ingestionProtected readsProtected : Bool)
  | page (page : Page) (readsProtected : Bool)
  | metrics (lines : List String)
  | snapshot (snapshot : Snapshot)
  | metacognition (snapshot : MetacognitionSnapshot)
  | coordination (plan : CoordinationPlan)
  | explorer (snapshot : ExplorerSnapshot)
  | timeline (page : TimelinePage)
  | runtimeSnapshot (snapshot : RuntimeSnapshot)

/-- What a read finds behind the daemon, and in which order the monitor's hash maps iterate. -/
structure World (C : Type → Type → Type) where
  inner : StoreInner C
  monitor : RuntimeMonitor
  hookAgents : monitor.state.hookAgents.Iteration
  processes : monitor.state.processes.Iteration
  now : DateTime

def ApiError.text : ApiError → String
  | badRequest message => message

def orBadRequest {α : Type} (code : String) (parsed : Except ApiError α) : Except ReadError α :=
  match parsed with
  | .ok query => .ok query
  | .error error => .error ⟨400, code, error.text, none⟩

def timelineFailure : TimelineError → ReadError
  | .revisionChanged requested current =>
    ⟨409, "timeline_revision_changed",
      "The retained timeline changed; restart pagination from the first page",
      some (requested, current)⟩
  | error => ⟨400, "invalid_timeline_query", error.message, none⟩

section Respond

variable {C : Type → Type → Type} [LruCache C] [UuidText] [UuidDisplay] [Chrono]

def project (daemon : Daemon) (world : World C) (rawQuery : Option (List Char)) :
    Route → Except ReadError Body
  | .index => .ok (.index daemon.addresses daemon.auth.protectReads)
  | .health => .ok (.health "ok" world.inner.revision)
  | .openapi =>
    .ok (.openapi daemon.addresses daemon.auth.token.isSome daemon.auth.protectReads)
  | .page page => .ok (.page page daemon.auth.protectReads)
  | .metrics => .ok (.metrics (metricsSnapshot world.inner).lines)
  | .snapshot => .ok (.snapshot (ControlPlane.snapshot world.inner world.now))
  | .metacognition =>
    .ok (.metacognition (analyzeWithPolicy (ControlPlane.snapshot world.inner world.now) .default))
  | .coordination => do
    let query ← orBadRequest "invalid_planning_policy" (PlanningQuery.parse rawQuery)
    match buildPlanWithPolicy (ControlPlane.snapshot world.inner world.now) .default query.policy with
    | .ok plan => return .coordination plan
    | .error error => throw ⟨500, "planning_failed", error.message, none⟩
  | .explorer => do
    let query ← orBadRequest "invalid_explorer_policy" (ExplorerQuery.parse rawQuery)
    match buildExplorer (ControlPlane.snapshot world.inner world.now) query.policy with
    | .ok snapshot => return .explorer snapshot
    | .error error => throw ⟨500, "explorer_projection_failed", error.message, none⟩
  | .timeline => do
    let query ← orBadRequest "invalid_timeline_query" (TimelineQuery.parse rawQuery)
    match buildTimelinePage (ControlPlane.snapshot world.inner world.now) query.policy
        query.cursor with
    | .ok page => return .timeline page
    | .error error => throw (timelineFailure error)
  | .runtimeSnapshot =>
    .ok (.runtimeSnapshot (world.monitor.snapshot world.hookAgents world.processes world.now))

def respond (daemon : Daemon) (world : World C) (route : Route) (headers : Headers)
    (rawQuery : Option (List Char)) : Except ReadError Body :=
  if route.guarded then
    match daemon.auth.authorizeRead (bearerToken headers) with
    | .error _ => .error .unauthorized
    | .ok () => project daemon world rawQuery route
  else project daemon world rawQuery route

end Respond

section Range

variable {P : Type} {parameters : List (Parameter P)} {other : List Char → List Char → Prop}
  {parse : Option (List Char) → Except ApiError P} {raw : Option (List Char)}

structure Bounded (parameters : List (Parameter P)) (other : List Char → List Char → Prop) :
    Prop where
  nodup : (parameters.map Parameter.name).Nodup
  others : ∀ p ∈ parameters, ∀ value, ¬other p.name.toList value
  defaults : ∀ p ∈ parameters, 1 ≤ p.default ∧ p.default ≤ p.maximum

theorem Exact.within (h : Exact Signed parameters other parse raw)
    (hbounded : Bounded parameters other) {policy : P} (hok : parse raw = .ok policy)
    {p : Parameter P} (hp : p ∈ parameters) :
    1 ≤ p.value policy ∧ p.value policy ≤ p.maximum := by
  obtain ⟨items, -, hlisted, hholds⟩ := h.holds policy hok
  by_cases hgiven : ∃ value, (p.name.toList, value) ∈ items
  · obtain ⟨value, hmem⟩ := hgiven
    have hvalue : Signed value (p.value policy) := (hholds p hp).1 value hmem
    rcases hlisted.known _ hmem with ⟨p', hp', hname, n, hn, hpos, hle⟩ | hother
    · obtain rfl := List.inj_on_of_nodup_map hbounded.nodup hp hp' (String.toList_inj.1 hname)
      rw [Decimal.Digits.unique hvalue hn]
      exact ⟨hpos, hle⟩
    · exact absurd hother (hbounded.others p hp value)
  · rw [(hholds p hp).2 fun value hmem => hgiven ⟨value, hmem⟩]
    exact hbounded.defaults p hp

end Range

theorem bounded_planning : Bounded planningParameters nothing where
  nodup := by decide
  others _ _ _ h := h
  defaults := by decide

theorem bounded_explorer : Bounded explorerParameters nothing where
  nodup := by decide
  others _ _ _ h := h
  defaults := by decide

theorem bounded_timeline [UuidText] [Chrono] : Bounded timelineParameters cursors where
  nodup := by decide
  others p hp value h := by
    obtain rfl := List.mem_singleton.1 hp
    exact absurd h.1 (by decide)
  defaults := by decide

section Policies

variable {raw : Option (List Char)}

theorem planning_valid {query : PlanningQuery} (hok : PlanningQuery.parse raw = .ok query) :
    query.policy.validate = .ok query.policy := by
  have hpolicy : planningPolicy raw = .ok query.policy := by rw [planningPolicy, hok]; rfl
  have hwithin := fun p hp => ((exact_planning raw).within bounded_planning hpolicy (p := p) hp).1
  simp only [planningParameters, List.forall_mem_cons, List.not_mem_nil, false_imp_iff,
    implies_true, and_true] at hwithin
  obtain ⟨hassignments, hperAgent, hinterventions, hholds⟩ := hwithin
  have hnone : query.policy.bounds.find? (fun bound => bound.2 = 0) = none := by
    simp [PlanningPolicy.bounds]
    omega
  rw [PlanningPolicy.validate, hnone]

theorem explorer_valid {query : ExplorerQuery} (hok : ExplorerQuery.parse raw = .ok query) :
    query.policy.validate = .ok query.policy := by
  have hpolicy : explorerPolicy raw = .ok query.policy := by rw [explorerPolicy, hok]; rfl
  have hwithin := fun p hp => (exact_explorer raw).within bounded_explorer hpolicy (p := p) hp
  simp only [explorerParameters, List.forall_mem_cons, List.not_mem_nil, false_imp_iff,
    implies_true, and_true] at hwithin
  obtain ⟨htimeline, hsession, hlesson⟩ := hwithin
  have hlimit : ∀ {name : String} {value maximum : Nat}, 1 ≤ value → value ≤ maximum →
      validateLimit name value maximum = .ok () := by
    intro name value maximum hpos hle
    exact if_neg (by omega)
  have htimelines : validateLimit "timeline_limit" query.policy.timelineLimit
      MAX_TIMELINE_LIMIT = .ok () := hlimit htimeline.1 htimeline.2
  have hsessions : validateLimit "session_limit" query.policy.sessionLimit
      MAX_SESSION_LIMIT = .ok () := hlimit hsession.1 hsession.2
  have hlessons : validateLimit "lesson_limit" query.policy.lessonLimit
      MAX_LESSON_LIMIT = .ok () := hlimit hlesson.1 hlesson.2
  rw [ExplorerPolicy.validate, htimelines, hsessions, hlessons]
  rfl

theorem timeline_valid [UuidText] [Chrono] {query : TimelineQuery}
    (hok : TimelineQuery.parse raw = .ok query) :
    query.policy.validate = .ok query.policy := by
  have hpolicy : timelinePolicy raw = .ok query.policy := by rw [timelinePolicy, hok]; rfl
  have hwithin := (exact_timeline raw).within bounded_timeline hpolicy List.mem_cons_self
  exact TimelinePolicy.validate_eq hwithin.1 hwithin.2

end Policies

namespace Route

def Permitted (route : Route) (daemon : Daemon) (headers : Headers) : Prop :=
  route.guarded = true → daemon.config.protectReadApi = true →
    bearerToken headers = daemon.config.authToken

variable [UuidText] [Chrono]

/-- The parameters are those the documentation lists, with plain digits for integers. -/
def Documented (raw : Option (List Char)) : Route → Prop
  | coordination =>
    ∃ items, Written raw items ∧ Listed Decimal.Digits planningParameters nothing items
  | explorer => ∃ items, Written raw items ∧ Listed Decimal.Digits explorerParameters nothing items
  | timeline => ∃ items, Written raw items ∧ Listed Decimal.Digits timelineParameters cursors items
  | index | health | openapi | page _ | metrics | snapshot | metacognition | runtimeSnapshot => True

/-- The parameters would be as documented but for a plus sign before an integer. -/
def Plussed (raw : Option (List Char)) : Route → Prop
  | coordination => Api.Plussed planningParameters nothing raw
  | explorer => Api.Plussed explorerParameters nothing raw
  | timeline => Api.Plussed timelineParameters cursors raw
  | index | health | openapi | page _ | metrics | snapshot | metacognition | runtimeSnapshot =>
    False

def Readable (raw : Option (List Char)) (route : Route) : Prop :=
  route.Documented raw ∨ route.Plussed raw

def Stale (revision : Nat) (raw : Option (List Char)) : Route → Prop
  | timeline => ∃ query cursor, TimelineQuery.parse raw = .ok query ∧ query.cursor = some cursor ∧
      cursor.revision ≠ revision
  | index | health | openapi | page _ | metrics | snapshot | metacognition | coordination
  | explorer | runtimeSnapshot => False

end Route

inductive Outcome (readable stale : Prop) : Except ReadError Body → Prop
  | answered (body : Body) (hreadable : readable) (hcurrent : ¬stale) :
    Outcome readable stale (.ok body)
  | refused (error : ReadError) (hstatus : error.status = 400) (hquery : ¬readable) :
    Outcome readable stale (.error error)
  | conflict (error : ReadError) (hstatus : error.status = 409) (hreadable : readable)
    (hstale : stale) : Outcome readable stale (.error error)

section Outcome

variable {C : Type → Type → Type} [LruCache C] [UuidText] [UuidDisplay] [Chrono]
  (daemon : Daemon) (world : World C) (raw : Option (List Char))

omit [UuidText] [UuidDisplay] [Chrono] in
theorem not_readable {P Q : Type} {parameters : List (Parameter P)}
    {other : List Char → List Char → Prop} {parse : Option (List Char) → Except ApiError Q}
    {policy : Q → P}
    (hexact : Exact Signed parameters other (fun raw => (parse raw).map policy) raw)
    {error : ApiError} (herror : parse raw = .error error) :
    ¬((∃ items, Written raw items ∧ Listed Decimal.Digits parameters other items) ∨
      Plussed parameters other raw) := by
  intro hlisted
  obtain ⟨p, hp⟩ := hexact.accepts.2 (listed_signed_iff.2 hlisted)
  rw [herror] at hp
  cases hp

omit [UuidText] [UuidDisplay] [Chrono] in
theorem readable {P Q : Type} {parameters : List (Parameter P)}
    {other : List Char → List Char → Prop} {parse : Option (List Char) → Except ApiError Q}
    {policy : Q → P}
    (hexact : Exact Signed parameters other (fun raw => (parse raw).map policy) raw) {query : Q}
    (hok : parse raw = .ok query) :
    (∃ items, Written raw items ∧ Listed Decimal.Digits parameters other items) ∨
      Plussed parameters other raw := by
  refine listed_signed_iff.1 (hexact.accepts.1 ⟨policy query, ?_⟩)
  rw [hok]
  rfl

theorem outcome (route : Route) :
    Outcome (route.Readable raw) (route.Stale world.inner.revision raw)
      (project daemon world raw route) := by
  cases route with
  | coordination =>
    simp only [project]
    cases hparse : PlanningQuery.parse raw with
    | error error => exact .refused _ rfl (not_readable raw (exact_planning raw) hparse)
    | ok query =>
      have hvalid := planning_valid hparse
      simp only [orBadRequest, bind, Except.bind, buildPlanWithPolicy, hvalid]
      exact .answered _ (readable raw (exact_planning raw) hparse) id
  | explorer =>
    simp only [project]
    cases hparse : ExplorerQuery.parse raw with
    | error error => exact .refused _ rfl (not_readable raw (exact_explorer raw) hparse)
    | ok query =>
      have hvalid := explorer_valid hparse
      simp only [orBadRequest, bind, Except.bind, buildExplorer, hvalid]
      exact .answered _ (readable raw (exact_explorer raw) hparse) id
  | timeline =>
    simp only [project]
    cases hparse : TimelineQuery.parse raw with
    | error error => exact .refused _ rfl (not_readable raw (exact_timeline raw) hparse)
    | ok query =>
      have hreadable := readable raw (exact_timeline raw) hparse
      have hvalid := timeline_valid hparse
      simp only [orBadRequest, bind, Except.bind, buildTimelinePage, hvalid]
      cases hcursor : query.cursor with
      | none =>
        refine .answered _ hreadable ?_
        rintro ⟨query', cursor, hparse', hsome, -⟩
        rw [hparse] at hparse'
        cases hparse'
        rw [hcursor] at hsome
        cases hsome
      | some cursor =>
        by_cases hrevision : cursor.revision = world.inner.revision
        · have hsame : checkRevision (snapshot world.inner world.now) (some cursor) = .ok () :=
            if_neg (not_not_intro hrevision)
          rw [hsame]
          refine .answered _ hreadable ?_
          rintro ⟨query', cursor', hparse', hsome, hother⟩
          rw [hparse] at hparse'
          cases hparse'
          rw [hcursor] at hsome
          cases hsome
          exact hother hrevision
        · have hchanged : checkRevision (snapshot world.inner world.now) (some cursor) =
              .error (.revisionChanged cursor.revision world.inner.revision) := if_pos hrevision
          rw [hchanged]
          exact .conflict _ rfl hreadable ⟨query, cursor, hparse, hcursor, hrevision⟩
  | _ => exact .answered _ (.inl trivial) id

omit [UuidText] [UuidDisplay] [Chrono] [LruCache C] in
theorem authorizeRead_eq_ok_iff {provided : Option String} :
    daemon.auth.authorizeRead provided = .ok () ↔
      (daemon.config.protectReadApi = true → provided = daemon.config.authToken) := by
  unfold AuthPolicy.authorizeRead
  cases hprotect : daemon.auth.protectReads with
  | false =>
    have hopen : daemon.config.protectReadApi = false := hprotect
    simp [hopen]
  | true =>
    have hclosed : daemon.config.protectReadApi = true := hprotect
    have htoken : daemon.auth.token ≠ none := daemon.sound.protectedReads hclosed
    rw [if_pos rfl, AuthPolicy.authorize_eq_ok_iff, or_iff_right htoken]
    exact ⟨fun h _ => h, fun h => h hclosed⟩

theorem respond_of_permitted {route : Route} {headers : Headers}
    (hpermitted : route.Permitted daemon headers) :
    respond daemon world route headers raw = project daemon world raw route := by
  unfold respond
  cases hguarded : route.guarded with
  | false => rfl
  | true => rw [if_pos rfl, (authorizeRead_eq_ok_iff daemon).2 (hpermitted hguarded)]

theorem respond_of_not_permitted {route : Route} {headers : Headers}
    (hpermitted : ¬route.Permitted daemon headers) :
    respond daemon world route headers raw = .error .unauthorized := by
  rw [Route.Permitted, Classical.not_imp] at hpermitted
  unfold respond
  rw [if_pos hpermitted.1]
  cases hread : daemon.auth.authorizeRead (bearerToken headers) with
  | error error => rfl
  | ok _ => exact absurd ((authorizeRead_eq_ok_iff daemon).1 hread) hpermitted.2

/-- A read is answered exactly when its bearer may make it, the documentation has its query but for
a plus sign, and its cursor is of the revision it finds.  Every failure is the caller's, and has the
status for what was wrong: no query makes a projection fail. -/
theorem reads_answered_iff (route : Route) (headers : Headers) :
    ((∃ body, respond daemon world route headers raw = .ok body) ↔
      route.Permitted daemon headers ∧ route.Readable raw ∧
        ¬route.Stale world.inner.revision raw) ∧
    ∀ error, respond daemon world route headers raw = .error error →
      (error.status = 401 ∧ ¬route.Permitted daemon headers) ∨
      (error.status = 400 ∧ route.Permitted daemon headers ∧ ¬route.Readable raw) ∨
      (error.status = 409 ∧ route.Permitted daemon headers ∧
        route.Stale world.inner.revision raw) := by
  by_cases hpermitted : route.Permitted daemon headers
  · have houtcome := outcome daemon world raw route
    rw [respond_of_permitted daemon world raw hpermitted]
    generalize project daemon world raw route = result at houtcome
    cases houtcome with
    | answered body hreadable hcurrent =>
      refine ⟨iff_of_true ⟨body, rfl⟩ ⟨hpermitted, hreadable, hcurrent⟩, ?_⟩
      intro error herror
      cases herror
    | refused error hstatus hquery =>
      refine ⟨iff_of_false ?_ fun h => hquery h.2.1, ?_⟩
      · rintro ⟨body, hbody⟩
        cases hbody
      · intro error' herror
        cases herror
        exact .inr (.inl ⟨hstatus, hpermitted, hquery⟩)
    | conflict error hstatus hreadable hstale =>
      refine ⟨iff_of_false ?_ fun h => h.2.2 hstale, ?_⟩
      · rintro ⟨body, hbody⟩
        cases hbody
      · intro error' herror
        cases herror
        exact .inr (.inr ⟨hstatus, hpermitted, hstale⟩)
  · rw [respond_of_not_permitted daemon world raw hpermitted]
    refine ⟨iff_of_false ?_ fun h => hpermitted h.1, ?_⟩
    · rintro ⟨body, hbody⟩
      cases hbody
    · intro error herror
      cases herror
      exact .inl ⟨rfl, hpermitted⟩

end Outcome

end ControlPlane.Api
