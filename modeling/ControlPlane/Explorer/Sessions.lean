import ControlPlane.Explorer.CacheOrder

/-! The sessions of the explorer sum up every retained event, whatever the limits cut off. -/

namespace ControlPlane

open BTreeMap (Counts accumulate observed)

/-- The uuid library displays an id in hyphenated lower-case hexadecimal digits. -/
class LawfulUuidDisplay [UuidDisplay] : Prop where
  display_eq : ∀ id, UuidDisplay.display id =
    String.ofList (Hex.grouped '-' [8, 4, 4, 4] (Hex.padded 32 id.toNat))

theorem display_lt_display_iff [UuidDisplay] [LawfulUuidDisplay] {a b : Uuid} :
    UuidDisplay.display a < UuidDisplay.display b ↔ a.toNat < b.toNat := by
  have mono : ∀ {a b : Uuid}, a.toNat < b.toNat →
      UuidDisplay.display a < UuidDisplay.display b := by
    intro a b h
    rw [LawfulUuidDisplay.display_eq, LawfulUuidDisplay.display_eq, String.lt_iff_toList_lt,
      String.toList_ofList, String.toList_ofList]
    apply Hex.grouped_lt_grouped
    · exact Hex.padded_lt_padded h (lt_of_lt_of_eq b.isLt (by norm_num))
    · rw [Hex.length_padded, Hex.length_padded]
  constructor
  · intro h
    apply lt_of_not_ge
    intro hle
    rcases hle.lt_or_eq with hlt | heq
    · exact lt_asymm h (mono hlt)
    · rw [BitVec.eq_of_toNat_eq heq] at h
      exact lt_irrefl _ h
  · exact mono

/-- The summary says of the records of a session what they say together. -/
structure SessionSummary.Exact [UuidDisplay] (records : List EventRecord)
    (summary : SessionSummary) : Prop where
  agentIds : summary.agentIds.Pairwise (· < ·) ∧
    ∀ id, id ∈ summary.agentIds ↔ ∃ record ∈ records, record.event.agent.agentId = id
  taskIds : summary.taskIds.Pairwise (· < ·) ∧
    ∀ id, id ∈ summary.taskIds ↔ ∃ record ∈ records, record.event.taskId = some id
  eventCount : summary.eventCount = records.length
  eventKinds : Counts (fun record => record.event.kind) records summary.eventKinds
  transports : Counts (fun record => record.transport.asStr) records summary.transports
  first : IsLeast {t | ∃ record ∈ records, record.event.occurredAt = t} summary.firstOccurredAt
  last : IsGreatest {t | ∃ record ∈ records, record.event.occurredAt = t} summary.lastOccurredAt
  latest : ∃ latest ∈ records, (∀ record ∈ records, record.key ≤ latest.key) ∧
    summary.latestEventId = UuidDisplay.display latest.event.eventId ∧
    summary.latestEventKind = latest.event.kind ∧ summary.latestTaskId = latest.event.taskId

namespace SessionAccumulator

variable [UuidDisplay]

structure Reports (accumulator : SessionAccumulator) (latest : EventRecord) : Prop where
  occurredAt : accumulator.lastOccurredAt = latest.event.occurredAt
  eventId : accumulator.latestEventId = UuidDisplay.display latest.event.eventId
  kind : accumulator.latestEventKind = latest.event.kind
  taskId : accumulator.latestTaskId = latest.event.taskId

structure Observed (records : List EventRecord) (accumulator : SessionAccumulator) : Prop where
  agentIds : ∀ id, id ∈ accumulator.agentIds ↔ ∃ record ∈ records, record.event.agent.agentId = id
  taskIds : ∀ id, id ∈ accumulator.taskIds ↔ ∃ record ∈ records, record.event.taskId = some id
  eventKinds : Counts (fun record => record.event.kind) records accumulator.eventKinds
  transports : Counts (fun record => record.transport.asStr) records accumulator.transports
  eventCount : accumulator.eventCount = records.length
  first : IsLeast {t | ∃ record ∈ records, record.event.occurredAt = t} accumulator.firstOccurredAt
  latest : ∃ latest ∈ records, (∀ record ∈ records, record.key ≤ latest.key) ∧
    accumulator.Reports latest

theorem observed_new (record : EventRecord) : Observed [record] (new record) where
  agentIds id := by simp [new]
  taskIds id := by
    cases h : record.event.taskId <;> simp [new, h]
  eventKinds := Counts.single (fun record : EventRecord => record.event.kind) record
  transports := Counts.single (fun record : EventRecord => record.transport.asStr) record
  eventCount := rfl
  first := by simp [new]
  latest := ⟨record, List.mem_singleton_self _, by simp, ⟨rfl, rfl, rfl, rfl⟩⟩

section Observe

variable (accumulator : SessionAccumulator) (record : EventRecord)

@[simp] theorem agentIds_observe : (accumulator.observe record).agentIds =
    accumulator.agentIds.insert record.event.agent.agentId := by
  rw [observe]
  split <;> rfl

@[simp] theorem taskIds_observe : (accumulator.observe record).taskIds =
    record.event.taskId.elim accumulator.taskIds accumulator.taskIds.insert := by
  rw [observe]
  split <;> rfl

@[simp] theorem eventKinds_observe : (accumulator.observe record).eventKinds =
    tally accumulator.eventKinds record.event.kind := by
  rw [observe]
  split <;> rfl

@[simp] theorem transports_observe : (accumulator.observe record).transports =
    tally accumulator.transports record.transport.asStr := by
  rw [observe]
  split <;> rfl

@[simp] theorem eventCount_observe : (accumulator.observe record).eventCount =
    U64.saturatingAdd accumulator.eventCount 1 := by
  rw [observe]
  split <;> rfl

@[simp] theorem firstOccurredAt_observe : (accumulator.observe record).firstOccurredAt =
    min accumulator.firstOccurredAt record.event.occurredAt := by
  rw [observe]
  split <;> rfl

end Observe

variable {records : List EventRecord} {accumulator : SessionAccumulator} {latest : EventRecord}

/-- The displayed ids compare like the ids themselves, so a later record replaces the latest. -/
theorem Reports.observe [LawfulUuidDisplay] (h : accumulator.Reports latest)
    (record : EventRecord) :
    (accumulator.observe record).Reports (if latest.key < record.key then record else latest) := by
  have hlater : (record.event.occurredAt > accumulator.lastOccurredAt ∨
      record.event.occurredAt = accumulator.lastOccurredAt ∧
        UuidDisplay.display record.event.eventId > accumulator.latestEventId) ↔
      latest.key < record.key := by
    rw [h.occurredAt, h.eventId, gt_iff_lt, gt_iff_lt, display_lt_display_iff, EventRecord.key,
      EventRecord.key, Prod.Lex.toLex_lt_toLex, eq_comm]
  rw [SessionAccumulator.observe]
  split
  · next hc =>
    rw [if_pos (hlater.1 hc)]
    exact ⟨rfl, rfl, rfl, rfl⟩
  · next hc =>
    rw [if_neg (mt hlater.2 hc)]
    exact ⟨h.occurredAt, h.eventId, h.kind, h.taskId⟩

omit [UuidDisplay] in
theorem counts_tally {name : EventRecord → String} {counts : BTreeMap String Nat}
    (h : Counts name records counts) (hfit : records.length < U64.MAX) (record : EventRecord) :
    Counts name (records ++ [record]) (tally counts (name record)) := by
  apply h.alter
  have hle : counts[name record]?.getD 0 ≤ records.length := by
    rw [← Std.TreeMap.getD_eq_getD_getElem?, h.count]
    exact List.countP_le_length
  exact Nat.mod_eq_of_lt (by rw [U64.MAX] at hfit; omega)

theorem Observed.observe [LawfulUuidDisplay] (h : accumulator.Observed records)
    (hfit : records.length < U64.MAX) (record : EventRecord) :
    (accumulator.observe record).Observed (records ++ [record]) where
  agentIds id := by
    rw [agentIds_observe, Std.TreeSet.mem_insert, h.agentIds]
    simp [or_comm]
  taskIds id := by
    rw [taskIds_observe]
    cases htask : record.event.taskId with
    | none => simp [h.taskIds, htask]
    | some taskId =>
      rw [Option.elim_some, Std.TreeSet.mem_insert, h.taskIds]
      simp [htask, or_comm]
  eventKinds := by
    rw [eventKinds_observe]
    exact counts_tally h.eventKinds hfit record
  transports := by
    rw [transports_observe]
    exact counts_tally h.transports hfit record
  eventCount := by
    rw [eventCount_observe, h.eventCount, List.length_append, List.length_singleton]
    exact min_eq_left hfit
  first := by
    have hset : {t | ∃ r ∈ records ++ [record], r.event.occurredAt = t} =
        {t | ∃ r ∈ records, r.event.occurredAt = t} ∪ {record.event.occurredAt} := by
      ext t
      simp [or_comm, eq_comm]
    rw [firstOccurredAt_observe, hset]
    exact h.first.union isLeast_singleton
  latest := by
    obtain ⟨latest, hmem, hmax, hreports⟩ := h.latest
    refine ⟨_, ?_, ?_, hreports.observe record⟩
    · split
      · simp
      · exact List.mem_append_left _ hmem
    · intro r hr
      have hle : r.key ≤ max latest.key record.key := by
        rcases List.mem_append.1 hr with hr | hr
        · exact le_max_of_le_left (hmax r hr)
        · rw [List.mem_singleton.1 hr]
          exact le_max_right _ _
      split
      · next hlt => exact hle.trans (max_eq_right hlt.le).le
      · next hge => exact hle.trans (max_eq_left (not_lt.1 hge)).le

theorem observed_exact [LawfulUuidDisplay] (hfit : records.length ≤ U64.MAX)
    (h : observed new observe records = some accumulator) : accumulator.Observed records := by
  induction records using List.reverseRecOn generalizing accumulator with
  | nil => cases h
  | append_singleton records record ih =>
    rw [List.length_append, List.length_singleton] at hfit
    rw [BTreeMap.observed_concat, Option.some.injEq] at h
    cases hbefore : observed new observe records with
    | none =>
      cases records with
      | nil => exact h ▸ observed_new record
      | cons first rest => cases hbefore
    | some before =>
      rw [hbefore] at h
      exact h ▸ (ih (Nat.le_of_succ_le hfit) hbefore).observe hfit record

theorem Observed.finish (h : accumulator.Observed records) (sessionId : String) :
    (accumulator.finish sessionId).Exact records where
  agentIds := by
    refine ⟨?_, ?_⟩
    · exact Std.TreeSet.ordered_toList.imp compare_lt_iff_lt.1
    · intro id
      rw [SessionAccumulator.finish, Std.TreeSet.mem_toList, h.agentIds]
  taskIds := by
    refine ⟨?_, ?_⟩
    · exact Std.TreeSet.ordered_toList.imp compare_lt_iff_lt.1
    · intro id
      rw [SessionAccumulator.finish, Std.TreeSet.mem_toList, h.taskIds]
  eventCount := h.eventCount
  eventKinds := h.eventKinds
  transports := h.transports
  first := h.first
  last := by
    obtain ⟨latest, hmem, hmax, hreports⟩ := h.latest
    refine ⟨⟨latest, hmem, hreports.occurredAt.symm⟩, ?_⟩
    intro t ht
    obtain ⟨record, hrecord, rfl⟩ := ht
    exact (Prod.Lex.monotone_fst _ _ (hmax record hrecord)).trans hreports.occurredAt.ge
  latest := by
    obtain ⟨latest, hmem, hmax, hreports⟩ := h.latest
    exact ⟨latest, hmem, hmax, hreports.eventId, hreports.kind, hreports.taskId⟩

end SessionAccumulator

theorem SessionSummary.Exact.of_perm [UuidDisplay] {records records' : List EventRecord}
    {summary : SessionSummary} (h : summary.Exact records) (hp : records.Perm records') :
    summary.Exact records' where
  agentIds := by simpa only [hp.mem_iff] using h.agentIds
  taskIds := by simpa only [hp.mem_iff] using h.taskIds
  eventCount := h.eventCount.trans hp.length_eq
  eventKinds := h.eventKinds.of_perm hp
  transports := h.transports.of_perm hp
  first := by simpa only [hp.mem_iff] using h.first
  last := by simpa only [hp.mem_iff] using h.last
  latest := by simpa only [hp.mem_iff] using h.latest

section Sessions

variable [UuidDisplay] {timeline : List EventRecord}

def EventRecord.inSession (sessionId : String) (record : EventRecord) : Bool :=
  record.event.sessionId = some sessionId

theorem collectSessions_eq (timeline : List EventRecord) :
    collectSessions timeline =
      accumulate (fun record => record.event.sessionId) SessionAccumulator.new
        SessionAccumulator.observe timeline := by
  rw [collectSessions, accumulate]
  congr 1
  funext sessions record
  cases record.event.sessionId with
  | none => rfl
  | some sessionId =>
    cases h : sessions[sessionId]? with
    | none => simp only [h]
    | some accumulator => simp only [h]

theorem getElem?_collectSessions (timeline : List EventRecord) (sessionId : String) :
    (collectSessions timeline)[sessionId]? =
      observed SessionAccumulator.new SessionAccumulator.observe
        (timeline.filter (EventRecord.inSession sessionId)) := by
  rw [collectSessions_eq, BTreeMap.getElem?_accumulate]
  rfl

theorem sessionIds_perm (timeline : List EventRecord) :
    ((summarizeSessions timeline).map SessionSummary.sessionId).Perm
      (collectSessions timeline).keys := by
  rw [← Std.TreeMap.map_fst_toList_eq_keys]
  have hperm := (sortBy_perm sessionOrder
    ((collectSessions timeline).toList.map fun entry => entry.2.finish entry.1)).map
      SessionSummary.sessionId
  rw [List.map_map] at hperm
  exact hperm

theorem nodup_sessionIds (timeline : List EventRecord) :
    ((summarizeSessions timeline).map SessionSummary.sessionId).Nodup :=
  (sessionIds_perm timeline).nodup_iff.2 Std.TreeMap.nodup_keys

theorem mem_sessionIds {sessionId : String} :
    sessionId ∈ (summarizeSessions timeline).map SessionSummary.sessionId ↔
      ∃ record ∈ timeline, record.event.sessionId = some sessionId := by
  rw [(sessionIds_perm timeline).mem_iff, Std.TreeMap.mem_keys,
    Std.TreeMap.mem_iff_isSome_getElem?, getElem?_collectSessions]
  cases hrecords : timeline.filter (EventRecord.inSession sessionId) with
  | nil =>
    rw [List.filter_eq_nil_iff] at hrecords
    simpa [observed, EventRecord.inSession] using hrecords
  | cons record records =>
    have hmem : record ∈ timeline.filter (EventRecord.inSession sessionId) :=
      hrecords ▸ List.mem_cons_self
    rw [List.mem_filter, EventRecord.inSession, decide_eq_true_eq] at hmem
    exact iff_of_true rfl ⟨record, hmem⟩

theorem exact_of_mem_summarizeSessions [LawfulUuidDisplay] (hfit : timeline.length ≤ U64.MAX)
    {summary : SessionSummary} (h : summary ∈ summarizeSessions timeline) :
    summary.Exact (timeline.filter (EventRecord.inSession summary.sessionId)) := by
  rw [summarizeSessions, mem_sortBy, List.mem_map] at h
  obtain ⟨entry, hentry, rfl⟩ := h
  rw [Std.TreeMap.mem_toList_iff_getElem?_eq_some, getElem?_collectSessions] at hentry
  have hlength := (List.length_filter_le (EventRecord.inSession entry.1) timeline).trans hfit
  exact (SessionAccumulator.observed_exact hlength hentry).finish entry.1

theorem sum_eventCounts [LawfulUuidDisplay] (hfit : timeline.length ≤ U64.MAX) :
    ((summarizeSessions timeline).map SessionSummary.eventCount).sum +
      timeline.countP (fun record => record.event.sessionId = none) = timeline.length := by
  have hcount : (summarizeSessions timeline).map SessionSummary.eventCount =
      ((summarizeSessions timeline).map SessionSummary.sessionId).map
        fun sessionId => (timeline.filterMap fun record => record.event.sessionId).count
          sessionId := by
    rw [List.map_map]
    apply List.map_congr_left
    intro summary hsummary
    rw [(exact_of_mem_summarizeSessions hfit hsummary).eventCount, Function.comp_apply,
      List.count_filterMap, ← List.countP_eq_length_filter]
    congr 1
    funext record
    exact (beq_eq_decide _ _).symm
  have hids : ((summarizeSessions timeline).map SessionSummary.sessionId).Perm
      (timeline.filterMap fun record => record.event.sessionId).dedup := by
    apply (List.perm_ext_iff_of_nodup (nodup_sessionIds timeline) (List.nodup_dedup _)).2
    intro sessionId
    rw [mem_sessionIds, List.mem_dedup, List.mem_filterMap]
  have hnone : timeline.countP (fun record => record.event.sessionId = none) =
      timeline.countP fun record => ¬record.event.sessionId.isSome := by
    congr 1
    funext record
    cases record.event.sessionId <;> rfl
  rw [hcount, (hids.map _).sum_eq, List.sum_map_count_dedup_eq_length,
    List.length_filterMap_eq_countP, hnone]
  exact (List.length_eq_countP_add_countP _).symm

end Sessions

structure ExplorerSnapshot.Exact [UuidDisplay] (snapshot : Snapshot) (policy : ExplorerPolicy)
    (sessions : List SessionSummary) (explorer : ExplorerSnapshot) : Prop where
  shown : explorer.sessions = sessions.take policy.sessionLimit
  distinct : (sessions.map SessionSummary.sessionId).Nodup
  complete : ∀ sessionId, sessionId ∈ sessions.map SessionSummary.sessionId ↔
    ∃ record ∈ snapshot.recentEvents, record.event.sessionId = some sessionId
  exact : ∀ summary ∈ sessions,
    summary.Exact (snapshot.recentEvents.filter (EventRecord.inSession summary.sessionId))
  counted : (sessions.map SessionSummary.eventCount).sum +
    snapshot.recentEvents.countP (fun record => record.event.sessionId = none) =
      explorer.system.retainedEvents
  retained : explorer.system.retainedEvents = snapshot.recentEvents.length
  sessions : explorer.retention.totalSessions = sessions.length ∧
    explorer.retention.returnedSessions = explorer.sessions.length ∧
    explorer.retention.omittedSessions + explorer.retention.returnedSessions =
      explorer.retention.totalSessions
  timeline : explorer.retention.totalTimelineEvents = snapshot.recentEvents.length ∧
    explorer.retention.returnedTimelineEvents = explorer.timeline.length ∧
    explorer.retention.omittedTimelineEvents + explorer.retention.returnedTimelineEvents =
      explorer.retention.totalTimelineEvents
  lessons : explorer.retention.totalLessons = snapshot.lessons.length ∧
    explorer.retention.returnedLessons = explorer.lessons.length ∧
    explorer.retention.omittedLessons + explorer.retention.returnedLessons =
      explorer.retention.totalLessons

theorem length_take_add_rest {α : Type} (l : List α) (n : Nat) :
    l.length - (l.take n).length + (l.take n).length = l.length :=
  Nat.sub_add_cancel (List.length_take_le' n l)

/-- Under every valid policy the sessions sum up all retained events, with one summary for each,
and what is left out and what is returned make up the whole.  A vector holds no more than a word
counts. -/
theorem sessions_exact [UuidDisplay] [LawfulUuidDisplay] (snapshot : Snapshot)
    (policy : ExplorerPolicy) (hvalid : policy.validate = .ok policy)
    (hlength : snapshot.recentEvents.length ≤ U64.MAX) :
    ∃ explorer, buildExplorer snapshot policy = .ok explorer ∧
      explorer.Exact snapshot policy (summarizeSessions (retained snapshot)) := by
  have hperm := retained_perm snapshot
  have hfit : (retained snapshot).length ≤ U64.MAX := hperm.length_eq.trans_le hlength
  have hbuild : ∃ explorer, buildExplorer snapshot policy = .ok explorer := by
    rw [buildExplorer, hvalid]
    exact ⟨_, rfl⟩
  obtain ⟨explorer, hexplorer⟩ := hbuild
  refine ⟨explorer, hexplorer, ?_⟩
  rw [buildExplorer, hvalid] at hexplorer
  cases hexplorer
  exact
    { shown := rfl
      distinct := nodup_sessionIds _
      complete := by
        intro sessionId
        simp only [mem_sessionIds, hperm.mem_iff]
      exact := by
        intro summary hsummary
        exact (exact_of_mem_summarizeSessions hfit hsummary).of_perm (hperm.filter _)
      counted := by
        rw [← hperm.countP_eq]
        exact sum_eventCounts hfit
      retained := hperm.length_eq
      sessions := ⟨rfl, rfl, length_take_add_rest _ _⟩
      timeline := ⟨hperm.length_eq, rfl, length_take_add_rest _ _⟩
      lessons := ⟨(sortBy_perm _ _).length_eq, rfl, length_take_add_rest _ _⟩ }

namespace Sample

instance lawfulDisplay : LawfulUuidDisplay where
  display_eq id := by
    apply congrArg String.ofList
    simp [List.intercalate, Hex.grouped]

def visited : Snapshot :=
  { listed with recentEvents :=
      [⟨{ envelope 1 1 (created "a") with sessionId := some "s" }, .http, instant 1⟩,
        ⟨{ envelope 2 2 (started "a") with sessionId := some "s" }, .tcp, instant 2⟩,
        ⟨envelope 3 3 (created "b"), .http, instant 3⟩] }

end Sample

theorem sessions_exact_cut :
    ∃ explorer, buildExplorer Sample.visited ⟨1, 1, 1⟩ = .ok explorer ∧
      explorer.Exact Sample.visited ⟨1, 1, 1⟩ (summarizeSessions (retained Sample.visited)) :=
  sessions_exact Sample.visited ⟨1, 1, 1⟩ rfl (by decide)

end ControlPlane
