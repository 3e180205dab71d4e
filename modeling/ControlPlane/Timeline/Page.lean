import ControlPlane.Lib.Keyset
import ControlPlane.Metacognition.Types
import ControlPlane.Store.State
import ControlPlane.Timeline.Cursor

/-! One page of the timeline, cut from a snapshot below a cursor. -/

namespace ControlPlane

namespace U64

def checkedAdd (a b : Nat) : Option Nat := if a + b ≤ MAX then some (a + b) else none

theorem checkedAdd_of_le {a b : Nat} (h : a + b ≤ MAX) : checkedAdd a b = some (a + b) := if_pos h

end U64

structure TimelinePolicy where
  limit : Nat := 50
  deriving DecidableEq, Repr

def TimelinePolicy.validate (policy : TimelinePolicy) : Except TimelineError TimelinePolicy :=
  if policy.limit = 0 ∨ policy.limit > MAX_TIMELINE_PAGE_LIMIT then .error .invalidLimit
  else .ok policy

theorem TimelinePolicy.validate_eq {policy : TimelinePolicy} (hpos : 1 ≤ policy.limit)
    (hmax : policy.limit ≤ MAX_TIMELINE_PAGE_LIMIT) : policy.validate = .ok policy := by
  rw [TimelinePolicy.validate, if_neg (by omega)]

structure TimelinePage where
  generatedAt : DateTime
  startedAt : DateTime
  revision : Nat
  events : List EventRecord
  nextCursor : Option (List Char)
  retainedTotal : Nat
  returned : Nat
  remainingOlder : Nat
  newerRetainedEventsSkipped : Nat
  eventCacheEvictions : Nat
  policy : TimelinePolicy

def timelineOrder (left right : EventRecord) : Ordering :=
  (compare right.event.occurredAt left.event.occurredAt).then
    (compare right.event.eventId.toNat left.event.eventId.toNat)

def retained (snapshot : Snapshot) : List EventRecord := sortBy timelineOrder snapshot.recentEvents

def TimelineCursor.admits (cursor : TimelineCursor) (record : EventRecord) : Bool :=
  record.event.occurredAt < cursor.occurredAt ||
    (record.event.occurredAt == cursor.occurredAt &&
      record.event.eventId.toNat < cursor.eventId.toNat)

def cursorOf (revision : Nat) (record : EventRecord) : TimelineCursor :=
  ⟨revision, record.event.occurredAt, record.event.eventId⟩

def checkRevision (snapshot : Snapshot) : Option TimelineCursor → Except TimelineError Unit
  | some cursor =>
    if cursor.revision ≠ snapshot.revision then
      .error (.revisionChanged cursor.revision snapshot.revision)
    else .ok ()
  | none => .ok ()

section Page

variable [UuidText]

def cutPage (snapshot : Snapshot) (policy : TimelinePolicy) (cursor : Option TimelineCursor) :
    TimelinePage :=
  let retained := retained snapshot
  let retainedTotal := retained.length
  let eligible := retained.filter fun record => cursor.all fun cursor => cursor.admits record
  let newerRetainedEventsSkipped := retainedTotal - eligible.length
  let hasMore : Bool := policy.limit < eligible.length
  let events := eligible.take policy.limit
  { generatedAt := snapshot.generatedAt
    startedAt := snapshot.startedAt
    revision := snapshot.revision
    returned := events.length
    events := events
    -- `last()` cannot fail here: the limit is positive
    nextCursor :=
      if hasMore then events.getLast?.map fun last => (cursorOf snapshot.revision last).encode
      else none
    retainedTotal := retainedTotal
    remainingOlder :=
      if hasMore then
        ((U64.checkedAdd newerRetainedEventsSkipped events.length).map fun consumed =>
          retainedTotal - consumed).getD 0
      else 0
    newerRetainedEventsSkipped := newerRetainedEventsSkipped
    eventCacheEvictions := snapshot.caches.events.evictions
    policy := policy }

def buildTimelinePage (snapshot : Snapshot) (policy : TimelinePolicy)
    (cursor : Option TimelineCursor) : Except TimelineError TimelinePage := do
  let policy ← policy.validate
  checkRevision snapshot cursor
  return cutPage snapshot policy cursor

end Page

def EventRecord.key (record : EventRecord) : DateTime ×ₗ Nat :=
  toLex (record.event.occurredAt, record.event.eventId.toNat)

def TimelineCursor.key (cursor : TimelineCursor) : DateTime ×ₗ Nat :=
  toLex (cursor.occurredAt, cursor.eventId.toNat)

theorem isLE_timelineOrder (left right : EventRecord) :
    (timelineOrder left right).isLE = true ↔ right.key ≤ left.key := by
  simp only [timelineOrder, EventRecord.key, Prod.Lex.toLex_le_toLex]
  rcases lt_trichotomy right.event.occurredAt left.event.occurredAt with h | h | h
  · simp [compare_lt_iff_lt.mpr h, h]
  · simp [h, Ordering.isLE_iff_ne_gt, compare_le_iff_le]
  · simp [compare_gt_iff_gt.mpr h, h.not_gt, h.ne']

theorem admits_iff (cursor : TimelineCursor) (record : EventRecord) :
    cursor.admits record = true ↔ record.key < cursor.key := by
  simp only [TimelineCursor.admits, EventRecord.key, TimelineCursor.key, Prod.Lex.toLex_lt_toLex,
    Bool.or_eq_true, Bool.and_eq_true, decide_eq_true_eq, beq_iff_eq]

theorem retained_perm (snapshot : Snapshot) : (retained snapshot).Perm snapshot.recentEvents :=
  sortBy_perm _ _

theorem descending_retained {snapshot : Snapshot}
    (h : (snapshot.recentEvents.map fun record => record.event.eventId).Nodup) :
    Keyset.Descending EventRecord.key (retained snapshot) := by
  refine Keyset.descending_of_nodup ?_ ?_
  · refine (sortBy_pairwise snapshot.recentEvents ?_ ?_).imp fun hle =>
      (isLE_timelineOrder _ _).mp hle
    · intro a b
      simp only [isLE_timelineOrder]
      exact le_total _ _
    · intro a b c
      simp only [isLE_timelineOrder]
      exact fun h h' => h'.trans h
  · have hperm : ((retained snapshot).map fun record => record.event.eventId).Nodup :=
      ((retained_perm snapshot).map _).nodup_iff.mpr h
    have hid : (fun record => record.event.eventId) =
        (fun key : DateTime ×ₗ Nat => BitVec.ofNat 128 (ofLex key).2) ∘ EventRecord.key := by
      funext record
      simp [EventRecord.key]
    rw [hid, ← List.map_map] at hperm
    exact hperm.of_map _

def cursorAfter (snapshot : Snapshot) (taken : Nat) : Option TimelineCursor :=
  if taken = 0 then none else (retained snapshot)[taken - 1]?.map (cursorOf snapshot.revision)

theorem cursorAfter_eq_some (snapshot : Snapshot) {taken : Nat} (hpos : 0 < taken)
    (hle : taken ≤ (retained snapshot).length) :
    ∃ record ∈ retained snapshot, (retained snapshot)[taken - 1]? = some record ∧
      cursorAfter snapshot taken = some (cursorOf snapshot.revision record) := by
  have hlt : taken - 1 < (retained snapshot).length := by omega
  have hget := List.getElem?_eq_getElem hlt
  refine ⟨_, List.getElem_mem hlt, hget, ?_⟩
  rw [cursorAfter, if_neg hpos.ne', hget, Option.map_some]

theorem map_key_cursorAfter (snapshot : Snapshot) (taken : Nat) :
    (cursorAfter snapshot taken).map TimelineCursor.key =
      Keyset.cursorAt EventRecord.key (retained snapshot) taken := by
  by_cases h : taken = 0
  · simp [cursorAfter, Keyset.cursorAt, h]
  · simp only [cursorAfter, Keyset.cursorAt, if_neg h, Option.map_map]
    rfl

theorem filter_admits (cursor : Option TimelineCursor) (records : List EventRecord) :
    (records.filter fun record => cursor.all fun cursor => cursor.admits record) =
      Keyset.below EventRecord.key (cursor.map TimelineCursor.key) records := by
  refine List.filter_congr fun record _ => ?_
  cases cursor with
  | none => rfl
  | some cursor =>
    simp only [Option.all_some, Option.map_some]
    rw [Bool.eq_iff_iff, admits_iff, decide_eq_true_eq]

section Cut

variable [UuidText]

theorem buildTimelinePage_cases {policy : TimelinePolicy} (hvalid : policy.validate = .ok policy)
    (snapshot : Snapshot) (cursor : Option TimelineCursor) :
    (∃ stale, cursor = some stale ∧ stale.revision ≠ snapshot.revision ∧
      buildTimelinePage snapshot policy cursor =
        .error (.revisionChanged stale.revision snapshot.revision)) ∨
    ((∀ current, cursor = some current → current.revision = snapshot.revision) ∧
      buildTimelinePage snapshot policy cursor = .ok (cutPage snapshot policy cursor)) := by
  cases cursor with
  | none =>
    refine .inr ⟨nofun, ?_⟩
    simp [buildTimelinePage, hvalid, checkRevision, bind, Except.bind, pure, Except.pure]
  | some cursor =>
    by_cases h : cursor.revision = snapshot.revision
    · refine .inr ⟨fun current hc => Option.some.inj hc ▸ h, ?_⟩
      simp [buildTimelinePage, hvalid, checkRevision, bind, Except.bind, pure, Except.pure, h]
    · refine .inl ⟨cursor, rfl, h, ?_⟩
      simp [buildTimelinePage, hvalid, checkRevision, bind, Except.bind, h]

/-- On every page the events before, on and after it add up, and the cursor is there exactly if
there are events after it. -/
structure TimelinePage.Balanced (page : TimelinePage) : Prop where
  total : page.newerRetainedEventsSkipped + page.returned + page.remainingOlder =
    page.retainedTotal
  nextCursor : page.nextCursor = none ↔ page.remainingOlder = 0

omit [UuidText] in
theorem length_retained (snapshot : Snapshot) :
    (retained snapshot).length = snapshot.recentEvents.length :=
  (retained_perm snapshot).length_eq

theorem balanced_cutPage {snapshot : Snapshot} {policy : TimelinePolicy}
    (hlimit : 0 < policy.limit) (hlength : snapshot.recentEvents.length ≤ U64.MAX)
    (cursor : Option TimelineCursor) : (cutPage snapshot policy cursor).Balanced := by
  rw [← length_retained] at hlength
  have heligible := List.length_filter_le
    (fun record => cursor.all fun cursor => cursor.admits record) (retained snapshot)
  by_cases hmore : policy.limit < ((retained snapshot).filter fun record =>
      cursor.all fun cursor => cursor.admits record).length
  · have hsum : (retained snapshot).length - ((retained snapshot).filter fun record =>
        cursor.all fun cursor => cursor.admits record).length + policy.limit ≤ U64.MAX := by
      omega
    constructor
    · simp only [cutPage, hmore, decide_true, if_true, List.length_take, min_eq_left hmore.le,
        U64.checkedAdd_of_le hsum, Option.map_some, Option.getD_some]
      omega
    · simp only [cutPage, hmore, decide_true, if_true, List.length_take, min_eq_left hmore.le,
        U64.checkedAdd_of_le hsum, Option.map_some, Option.getD_some, Option.map_eq_none_iff,
        List.getLast?_eq_none_iff, List.take_eq_nil_iff]
      constructor
      · rintro (h | h)
        · omega
        · rw [h] at hmore
          exact absurd hmore (Nat.not_lt_zero _)
      · omega
  · constructor
    · simp only [cutPage, hmore, decide_false, Bool.false_eq_true, if_false, List.length_take,
        min_eq_right (Nat.not_lt.mp hmore)]
      omega
    · simp only [cutPage, hmore, decide_false, Bool.false_eq_true, if_false]

theorem cutPage_cursorAfter {snapshot : Snapshot} {policy : TimelinePolicy} {taken : Nat}
    (h : Keyset.Descending EventRecord.key (retained snapshot)) (hlimit : 0 < policy.limit)
    (hle : taken ≤ (retained snapshot).length) :
    let page := cutPage snapshot policy (cursorAfter snapshot taken)
    page.events = ((retained snapshot).drop taken).take policy.limit ∧
      page.nextCursor =
        if taken + policy.limit < (retained snapshot).length then
          (cursorAfter snapshot (taken + policy.limit)).map TimelineCursor.encode
        else none := by
  have heligible : ((retained snapshot).filter fun record =>
      (cursorAfter snapshot taken).all fun cursor => cursor.admits record) =
        (retained snapshot).drop taken := by
    rw [filter_admits, map_key_cursorAfter, Keyset.below_cursorAt h hle]
  constructor
  · simp only [cutPage, heligible]
  · have hmore : policy.limit < ((retained snapshot).drop taken).length ↔
        taken + policy.limit < (retained snapshot).length := by
      rw [List.length_drop]
      omega
    simp only [cutPage, heligible, hmore, decide_eq_true_eq]
    by_cases hlt : taken + policy.limit < (retained snapshot).length
    · have hlast : (((retained snapshot).drop taken).take policy.limit).getLast? =
          (retained snapshot)[taken + policy.limit - 1]? := by
        have hlt' : taken + (policy.limit - 1) < (retained snapshot).length := by omega
        rw [List.getLast?_take, if_neg hlimit.ne', List.getElem?_drop,
          List.getElem?_eq_getElem hlt', Option.some_or, ← List.getElem?_eq_getElem hlt',
          Nat.add_sub_assoc hlimit]
      rw [if_pos hlt, if_pos hlt, hlast, cursorAfter, if_neg (by omega), Option.map_map]
      rfl
    · rw [if_neg hlt, if_neg hlt]

end Cut

end ControlPlane
