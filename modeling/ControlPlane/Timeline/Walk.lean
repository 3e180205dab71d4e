import ControlPlane.Lib.Run
import ControlPlane.Store.Revision
import ControlPlane.Timeline.Page

/-! A client that walks through the timeline page by page while events keep coming in. -/

namespace ControlPlane

open LruCache (peek)

theorem length_recentEvents_le {C : Type → Type → Type} [LruCache C] (inner : StoreInner C)
    (generatedAt : DateTime) :
    (snapshot inner generatedAt).recentEvents.length ≤ SNAPSHOT_EVENT_LIMIT := by
  rw [snapshot, List.length_map, List.length_take]
  exact min_le_left _ _

section Retained

variable [Chrono]

def EventEnvelope.Timely (event : EventEnvelope) : Prop :=
  Chrono.IsInstant event.occurredAt ∧ event.occurredAt.nanos < 10 ^ 9

def StoreOp.Timely : StoreOp → Prop
  | .ingest event _ _ => event.Timely
  | .recordRejection _ => True

variable {C : Type → Type → Type} [LruCache C]

def FiledById (inner : StoreInner C) : Prop :=
  ∀ id record, peek inner.events id = some record →
    record.event.eventId = id ∧ record.event.Timely

theorem filedById_new (cache : CacheConfig) (startedAt : DateTime) [LawfulLruCache C] :
    FiledById (StoreInner.new cache startedAt : StoreInner C) := by
  intro id record h
  simp [StoreInner.new, newCache] at h

variable [LawfulLruCache C]

theorem FiledById.step [CounterArith] {inner : StoreInner C} (h : FiledById inner) {op : StoreOp}
    (hop : op.Timely) : FiledById (inner.step op) := by
  intro id record hrecord
  rcases step_cases inner op with ⟨-, -, he⟩ | ⟨event, transport, receivedAt, rfl, -, -, -, he⟩
  · rw [he] at hrecord
    exact h id record hrecord
  · rw [he] at hrecord
    by_cases hid : id = event.eventId
    · subst hid
      rw [LruCache.peek_push_self] at hrecord
      obtain rfl := Option.some.inj hrecord
      exact ⟨rfl, hop⟩
    · exact h id record (LruCache.peek_of_peek_push hid hrecord)

theorem FiledById.of_mem {inner : StoreInner C} (h : FiledById inner) {generatedAt : DateTime}
    {record : EventRecord} (hmem : record ∈ (snapshot inner generatedAt).recentEvents) :
    record.event.Timely := by
  obtain ⟨⟨id, record⟩, he, rfl⟩ := List.mem_map.mp hmem
  exact (h id record (LruCache.peek_eq_some_iff.mpr (List.mem_of_mem_take he))).2

theorem FiledById.nodup_ids {inner : StoreInner C} (h : FiledById inner) (generatedAt : DateTime) :
    ((snapshot inner generatedAt).recentEvents.map fun record => record.event.eventId).Nodup := by
  rw [map_eventId_recentEvents fun id record hrecord => (h id record hrecord).1]
  exact (LawfulLruCache.nodup_keys inner.events).sublist ((List.take_sublist _ _).map _)

end Retained

inductive Walk.Status
  | asking (cursor : Option TimelineCursor)
  | ended
  | refused (error : TimelineError)
  deriving DecidableEq

/-- `first` is the snapshot from which the first page was cut. -/
structure Walk (C : Type → Type → Type) where
  inner : StoreInner C
  first : Option Snapshot
  pages : List TimelinePage
  status : Walk.Status

namespace Walk

inductive Move
  | store (op : StoreOp)
  | page (generatedAt : DateTime)

def Move.Timely [Chrono] : Move → Prop
  | .store op => op.Timely
  | .page _ => True

def Move.isPage : Move → Bool
  | .store _ => false
  | .page _ => true

section Walk

variable {C : Type → Type → Type} [LruCache C]

def start (cache : CacheConfig) (startedAt : DateTime) : Walk C where
  inner := .new cache startedAt
  first := none
  pages := []
  status := .asking none

def events (walk : Walk C) : List EventRecord := walk.pages.flatMap TimelinePage.events

variable [UuidText] [Chrono]

def next (page : TimelinePage) : Status :=
  match page.nextCursor with
  | none => .ended
  | some text =>
    match TimelineCursor.parse text with
    | .ok cursor => .asking (some cursor)
    | .error error => .refused error

def ask (policy : TimelinePolicy) (walk : Walk C) (generatedAt : DateTime)
    (cursor : Option TimelineCursor) : Walk C :=
  let snapshot := snapshot walk.inner generatedAt
  let walk := { walk with first := walk.first <|> some snapshot }
  match buildTimelinePage snapshot policy cursor with
  | .ok page => { walk with pages := walk.pages ++ [page], status := next page }
  | .error error => { walk with status := .refused error }

variable [CounterArith]

def step (policy : TimelinePolicy) (walk : Walk C) : Move → Walk C
  | .store op => { walk with inner := walk.inner.step op }
  | .page generatedAt =>
    match walk.status with
    | .asking cursor => walk.ask policy generatedAt cursor
    | _ => walk

def accepts (walk : Walk C) : Move → Bool
  | .store op => (walk.inner.updateOf op).isSome
  | .page _ => false

structure Pageable (snapshot : Snapshot) : Prop where
  descending : Keyset.Descending EventRecord.key (retained snapshot)
  timely : ∀ record ∈ retained snapshot, record.event.Timely
  length_le : snapshot.recentEvents.length ≤ U64.MAX
  revision : snapshot.revision < 2 ^ 64

section Pageable

variable [LawfulUuidText] [LawfulChrono] {snapshot : Snapshot} {policy : TimelinePolicy}
  {taken : Nat}

omit [CounterArith] in
theorem next_cutPage (h : Pageable snapshot) (hlimit : 0 < policy.limit)
    (hle : taken ≤ (retained snapshot).length) :
    next (cutPage snapshot policy (cursorAfter snapshot taken)) =
      if taken + policy.limit < (retained snapshot).length then
        .asking (cursorAfter snapshot (taken + policy.limit))
      else .ended := by
  rw [next, (cutPage_cursorAfter h.descending hlimit hle).2]
  by_cases hlt : taken + policy.limit < (retained snapshot).length
  · obtain ⟨record, hmem, -, hcursor⟩ := cursorAfter_eq_some snapshot
      (Nat.add_pos_right taken hlimit) hlt.le
    obtain ⟨hinstant, hnanos⟩ := h.timely record hmem
    have hsound : (cursorOf snapshot.revision record).Sound := ⟨h.revision, hinstant, hnanos⟩
    rw [if_pos hlt, if_pos hlt, hcursor]
    simp only [Option.map_some, TimelineCursor.parse_encode hsound]
  · rw [if_neg hlt, if_neg hlt]

end Pageable

/-- A walk whose first page was cut from `first`, after `calls` requests. -/
structure Follows (policy : TimelinePolicy) (first : Snapshot) (calls : Nat) (walk : Walk C) :
    Prop where
  pageable : Pageable first
  revision_le : first.revision ≤ walk.inner.revision
  unchanged : walk.inner.revision = first.revision →
    ∀ generatedAt, (snapshot walk.inner generatedAt).recentEvents = first.recentEvents
  events : walk.events = (retained first).take (walk.pages.length * policy.limit)
  asking : ∀ cursor, walk.status = .asking cursor →
    cursor = cursorAfter first (walk.pages.length * policy.limit) ∧ 0 < walk.pages.length ∧
      walk.pages.length * policy.limit < (retained first).length ∧ calls = walk.pages.length
  ended : walk.status = .ended →
    (retained first).length ≤ walk.pages.length * policy.limit
  refused : ∀ error, walk.status = .refused error →
    ∃ current, error = .revisionChanged first.revision current ∧ current ≠ first.revision

structure Coherent (policy : TimelinePolicy) (calls : Nat) (walk : Walk C) : Prop where
  filed : FiledById walk.inner
  bounded : walk.inner.revision ≤ U64.MAX
  balanced : ∀ page ∈ walk.pages, page.Balanced
  unasked : walk.first = none → walk.pages = [] ∧ walk.status = .asking none ∧ calls = 0
  follows : ∀ first, walk.first = some first → walk.inner.revision < U64.MAX →
    Follows policy first calls walk

omit [UuidText] [CounterArith] in
theorem Coherent.start [LawfulLruCache C] (policy : TimelinePolicy) (cache : CacheConfig)
    (startedAt : DateTime) : Coherent policy 0 (start cache startedAt : Walk C) where
  filed := filedById_new cache startedAt
  bounded := Nat.zero_le _
  balanced := nofun
  unasked _ := ⟨rfl, rfl, rfl⟩
  follows := nofun

variable [LawfulLruCache C]

omit [UuidText] [CounterArith] in
theorem pageable_snapshot {inner : StoreInner C} (hfiled : FiledById inner)
    (hbounded : inner.revision ≤ U64.MAX) (generatedAt : DateTime) :
    Pageable (snapshot inner generatedAt) where
  descending := descending_retained (hfiled.nodup_ids generatedAt)
  timely record h := hfiled.of_mem ((retained_perm _).mem_iff.mp h)
  length_le := (length_recentEvents_le inner generatedAt).trans (by decide)
  revision := by
    have : inner.revision ≤ 2 ^ 64 - 1 := hbounded
    change inner.revision < 2 ^ 64
    omega

omit [UuidText] in
theorem Coherent.store {policy : TimelinePolicy} {calls : Nat} {walk : Walk C}
    (h : Coherent policy calls walk) {op : StoreOp} (hop : op.Timely) :
    Coherent policy calls { walk with inner := walk.inner.step op } := by
  obtain ⟨hle, hbounded⟩ := revision_le_step walk.inner op h.bounded
  refine ⟨h.filed.step hop, hbounded, h.balanced, h.unasked, fun first hfirst hlt => ?_⟩
  have hf := h.follows first hfirst (hle.trans_lt hlt)
  refine ⟨hf.pageable, hf.revision_le.trans hle, ?_, hf.events, hf.asking, hf.ended, hf.refused⟩
  intro hsame generatedAt
  change (walk.inner.step op).revision = first.revision at hsame
  rcases step_cases walk.inner op with ⟨-, hr, he⟩ | ⟨event, _, _, -, -, hr, -, -⟩
  · rw [← hf.unchanged (hr ▸ hsame) generatedAt]
    simp only [snapshot, he]
  · -- a new event moves the revision past that of the first snapshot
    have hrevision := hf.revision_le
    change (walk.inner.step op).revision < U64.MAX at hlt
    rw [hr] at hsame hlt
    simp only [U64.saturatingAdd] at hsame hlt
    omega

omit [CounterArith] [LawfulLruCache C] in
theorem Follows.extend [LawfulUuidText] [LawfulChrono] {policy : TimelinePolicy}
    {first snapshot : Snapshot} (walk : Walk C) (hpageable : Pageable snapshot)
    (hretained : retained snapshot = retained first)
    (hrevision : snapshot.revision = first.revision) (hfirst : Pageable first)
    (hcurrent : walk.inner.revision = first.revision)
    (hunchanged : ∀ generatedAt,
      (ControlPlane.snapshot walk.inner generatedAt).recentEvents = first.recentEvents)
    (hlimit : 0 < policy.limit)
    (hle : walk.pages.length * policy.limit ≤ (retained first).length)
    (hevents : walk.events = (retained first).take (walk.pages.length * policy.limit)) :
    let page := cutPage snapshot policy
      (cursorAfter snapshot (walk.pages.length * policy.limit))
    Follows policy first (walk.pages.length + 1)
      { walk with first := some first, pages := walk.pages ++ [page], status := next page } := by
  intro page
  have hcursor : ∀ taken, cursorAfter snapshot taken = cursorAfter first taken := by
    intro taken
    rw [cursorAfter, cursorAfter, hretained, hrevision]
  have htaken : (walk.pages ++ [page]).length * policy.limit =
      walk.pages.length * policy.limit + policy.limit := by
    rw [List.length_append, List.length_singleton, Nat.succ_mul]
  have hnext : next page =
      if (walk.pages ++ [page]).length * policy.limit < (retained first).length then
        .asking (cursorAfter first ((walk.pages ++ [page]).length * policy.limit))
      else .ended := by
    rw [next_cutPage hpageable hlimit (hretained ▸ hle), hcursor, htaken, hretained]
  refine ⟨hfirst, hcurrent.ge, fun _ => hunchanged, ?_, ?_, ?_, ?_⟩
  · have hpage := (cutPage_cursorAfter hpageable.descending hlimit (hretained ▸ hle)).1
    rw [hretained] at hpage
    simp only [Walk.events, List.flatMap_append, List.flatMap_singleton] at hevents ⊢
    rw [hevents, hpage, htaken, ← List.take_add]
  · intro cursor hstatus
    change next page = _ at hstatus
    rw [hnext] at hstatus
    split at hstatus
    · next hlt =>
      refine ⟨(Status.asking.inj hstatus).symm, ?_, hlt, ?_⟩ <;> simp
    · cases hstatus
  · intro hstatus
    change next page = _ at hstatus
    rw [hnext] at hstatus
    split at hstatus
    · cases hstatus
    · next hge => exact Nat.not_lt.mp hge
  · intro error hstatus
    change next page = _ at hstatus
    rw [hnext] at hstatus
    split at hstatus <;> cases hstatus

section Ask

variable [LawfulUuidText] [LawfulChrono] {policy : TimelinePolicy} {first : Snapshot}
  {calls : Nat} {walk : Walk C}

omit [UuidText] [CounterArith] [LawfulUuidText] [LawfulChrono] [LawfulLruCache C] in
theorem Follows.refuse (h : Follows policy first calls walk) (hpos : 1 ≤ policy.limit)
    {stale : TimelineCursor} (hasking : walk.status = .asking (some stale))
    (hstale : stale.revision ≠ walk.inner.revision) :
    Follows policy first (calls + 1)
      { walk with
        status := .refused (.revisionChanged stale.revision walk.inner.revision) } := by
  obtain ⟨hcursor, hpages, hle, -⟩ := h.asking _ hasking
  obtain ⟨record, -, -, hrecord⟩ := cursorAfter_eq_some first (Nat.mul_pos hpages hpos) hle.le
  obtain rfl := Option.some.inj (hcursor.trans hrecord)
  refine ⟨h.pageable, h.revision_le, h.unchanged, h.events, nofun, nofun, fun error he => ?_⟩
  exact ⟨walk.inner.revision, (Status.refused.inj he).symm, Ne.symm hstale⟩

omit [CounterArith] [LawfulLruCache C] in
theorem Follows.cut (h : Follows policy first calls walk) (hpos : 1 ≤ policy.limit)
    {cursor : Option TimelineCursor} (hasking : walk.status = .asking cursor)
    (hcurrent : ∀ c, cursor = some c → c.revision = walk.inner.revision) {generatedAt : DateTime}
    (hpageable : Pageable (snapshot walk.inner generatedAt)) :
    let page := cutPage (snapshot walk.inner generatedAt) policy cursor
    Follows policy first (calls + 1)
      { walk with first := some first, pages := walk.pages ++ [page], status := next page } := by
  obtain ⟨hcursor, hpages, hle, hcalls⟩ := h.asking _ hasking
  obtain ⟨record, -, -, hrecord⟩ := cursorAfter_eq_some first (Nat.mul_pos hpages hpos) hle.le
  have hrevision : walk.inner.revision = first.revision :=
    (hcurrent _ (hcursor.trans hrecord)).symm
  have hrecent := h.unchanged hrevision
  have hretained : retained (snapshot walk.inner generatedAt) = retained first := by
    rw [retained, retained, hrecent]
  have hcursor' : cursorAfter (snapshot walk.inner generatedAt)
      (walk.pages.length * policy.limit) = cursor := by
    rw [hcursor, cursorAfter, cursorAfter, hretained]
    simp only [snapshot, hrevision]
  have hextend := Follows.extend walk hpageable hretained hrevision h.pageable hrevision
    hrecent hpos hle.le h.events
  rw [hcursor'] at hextend
  rw [hcalls]
  exact hextend

omit [CounterArith] in
theorem Coherent.page (h : Coherent policy calls walk) (hpos : 1 ≤ policy.limit)
    (hmax : policy.limit ≤ MAX_TIMELINE_PAGE_LIMIT) {cursor : Option TimelineCursor}
    (hasking : walk.status = .asking cursor) (generatedAt : DateTime) :
    Coherent policy (calls + 1) (walk.ask policy generatedAt cursor) := by
  have hvalid := TimelinePolicy.validate_eq hpos hmax
  have hpageable := pageable_snapshot h.filed h.bounded generatedAt
  simp only [ask]
  rcases buildTimelinePage_cases hvalid (snapshot walk.inner generatedAt) cursor with
    ⟨stale, rfl, hstale, hbuild⟩ | ⟨hcurrent, hbuild⟩ <;> rw [hbuild]
  · cases hfirst : walk.first with
    | none =>
      rw [(h.unasked hfirst).2.1] at hasking
      cases hasking
    | some first =>
      refine ⟨h.filed, h.bounded, h.balanced, nofun, fun first' hf hlt => ?_⟩
      obtain rfl := Option.some.inj hf
      have hfollows := (h.follows first hfirst hlt).refuse hpos hasking hstale
      rwa [hfirst] at hfollows
  · refine ⟨h.filed, h.bounded, ?_, ?_, fun first hf hlt => ?_⟩
    · intro page hpage
      rcases List.mem_append.mp hpage with hpage | hpage
      · exact h.balanced page hpage
      · obtain rfl := List.mem_singleton.mp hpage
        exact balanced_cutPage hpos hpageable.length_le cursor
    · intro hnone
      cases hfirst : walk.first <;> simp [hfirst] at hnone
    · cases hfirst : walk.first with
      | none =>
        obtain ⟨hpages, hstatus, rfl⟩ := h.unasked hfirst
        obtain rfl : none = cursor := Status.asking.inj (hstatus.symm.trans hasking)
        obtain rfl : snapshot walk.inner generatedAt = first := by simpa [hfirst] using hf
        have hextend := Follows.extend walk hpageable rfl rfl hpageable rfl
          (fun _ => rfl) hpos (by simp [hpages]) (by simp [Walk.events, hpages])
        simpa [hpages, cursorAfter, hfirst] using hextend
      | some first' =>
        obtain rfl : first' = first := by simpa [hfirst] using hf
        exact (h.follows first' hfirst hlt).cut hpos hasking hcurrent hpageable

end Ask

omit [CounterArith] [LawfulLruCache C] in
theorem inner_ask (policy : TimelinePolicy) (walk : Walk C) (generatedAt : DateTime)
    (cursor : Option TimelineCursor) : (walk.ask policy generatedAt cursor).inner = walk.inner := by
  simp only [ask]
  split <;> rfl

theorem Coherent.step [LawfulUuidText] [LawfulChrono] {policy : TimelinePolicy} {calls : Nat}
    {walk : Walk C} (h : Coherent policy calls walk) (hpos : 1 ≤ policy.limit)
    (hmax : policy.limit ≤ MAX_TIMELINE_PAGE_LIMIT) {m : Move} (hm : m.Timely) :
    Coherent policy (calls + m.isPage.toNat) (walk.step policy m) := by
  cases m with
  | store op => exact h.store hm
  | page generatedAt =>
    simp only [Walk.step]
    cases hstatus : walk.status with
    | asking cursor => exact h.page hpos hmax hstatus generatedAt
    | ended | refused =>
      refine ⟨h.filed, h.bounded, h.balanced, fun hnone => ?_, fun first hfirst hlt => ?_⟩
      · rw [(h.unasked hnone).2.1] at hstatus
        cases hstatus
      · have hf := h.follows first hfirst hlt
        refine { hf with asking := fun cursor hasking => ?_ }
        rw [hstatus] at hasking
        cases hasking

theorem revision_le_accepted (policy : TimelinePolicy) (cache : CacheConfig)
    (startedAt : DateTime) (moves : List Move) :
    (Run.after (step policy) (start cache startedAt : Walk C) moves).inner.revision ≤
      Run.tally accepts (step policy) (start cache startedAt : Walk C) moves := by
  rw [← Nat.zero_add (Run.tally _ _ _ _)]
  refine Run.invariant_tally (P := fun n (walk : Walk C) => walk.inner.revision ≤ n)
    (fun n walk m h => ?_) le_rfl moves
  cases m with
  | store op =>
    rcases step_cases walk.inner op with ⟨hnone, hr, -⟩ | ⟨event, _, _, -, -, hr, hsome, -⟩
    · change (walk.inner.step op).revision ≤ _
      rw [hr]
      exact h.trans (Nat.le_add_right _ _)
    · change (walk.inner.step op).revision ≤ n + (walk.inner.updateOf op).isSome.toNat
      rw [hsome, hr]
      exact (min_le_left _ _).trans (Nat.succ_le_succ h)
  | page generatedAt =>
    simp only [step, accepts, Bool.toNat_false, Nat.add_zero]
    split
    · rw [inner_ask]
      exact h
    · exact h

/-- Either the store moves on and the walk is refused, or it ends after the pages it takes to
show the timeline of the first snapshot: each of its events once, latest first. -/
theorem timeline_walk [LawfulUuidText] [LawfulChrono] (cache : CacheConfig) (startedAt : DateTime)
    (policy : TimelinePolicy) (moves : List Move) (hpos : 1 ≤ policy.limit)
    (hmax : policy.limit ≤ MAX_TIMELINE_PAGE_LIMIT) (htimely : ∀ m ∈ moves, m.Timely)
    (haccepted : Run.tally accepts (step policy) (start cache startedAt : Walk C) moves < U64.MAX) :
    let walk := Run.after (step policy) (start cache startedAt : Walk C) moves
    let calls := Run.tally (fun _ m => m.isPage) (step policy) (start cache startedAt : Walk C) moves
    (∀ error, walk.status = .refused error →
      ∃ requested current, error = .revisionChanged requested current ∧ requested ≠ current) ∧
    (∀ first, walk.first = some first → ∃ events : List EventRecord,
      events.Perm first.recentEvents ∧ events.Pairwise (fun a b => b.key < a.key) ∧
        walk.events <+: events ∧ (walk.status = .ended → walk.events = events) ∧
        ∀ cursor, walk.status = .asking cursor → calls * policy.limit < events.length) ∧
    (walk.first = none → calls = 0) ∧
    ∀ page ∈ walk.pages,
      page.newerRetainedEventsSkipped + page.returned + page.remainingOlder = page.retainedTotal ∧
        (page.nextCursor = none ↔ page.remainingOlder = 0) := by
  intro walk calls
  have hcoherent : Coherent policy (0 + calls) walk :=
    Run.invariant_tally_along _ (Q := fun _ m => m.Timely)
      (fun _ _ _ h hm => h.step hpos hmax hm) (.start policy cache startedAt)
      (Run.along_of_forall fun m hm _ => htimely m hm)
  rw [Nat.zero_add] at hcoherent
  have hlt : walk.inner.revision < U64.MAX :=
    (revision_le_accepted policy cache startedAt moves).trans_lt haccepted
  refine ⟨fun error he => ?_, fun first hfirst => ?_, ?_, ?_⟩
  · cases hfirst : walk.first with
    | none =>
      rw [(hcoherent.unasked hfirst).2.1] at he
      cases he
    | some first =>
      obtain ⟨current, rfl, hne⟩ := (hcoherent.follows first hfirst hlt).refused error he
      exact ⟨first.revision, current, rfl, hne.symm⟩
  · have hfollows := hcoherent.follows first hfirst hlt
    refine ⟨retained first, retained_perm first, hfollows.pageable.descending, ?_, fun hended => ?_,
      fun cursor hasking => ?_⟩
    · rw [hfollows.events]
      exact List.take_prefix _ _
    · rw [hfollows.events, List.take_of_length_le (hfollows.ended hended)]
    · obtain ⟨-, -, hle, hcalls⟩ := hfollows.asking cursor hasking
      rw [hcalls]
      exact hle
  · exact fun hfirst => (hcoherent.unasked hfirst).2.2
  · exact fun page hpage => ⟨(hcoherent.balanced page hpage).total,
      (hcoherent.balanced page hpage).nextCursor⟩

end Walk

end Walk

namespace Sample

instance : UuidText where
  simple id := Hex.padded 32 id.toNat
  parseStr text :=
    if text.length = 32 then (Hex.read text).map (BitVec.ofNat 128) else none

instance : LawfulUuidText where
  length_simple id := Hex.length_padded 32 id.toNat
  digit_of_mem := Hex.mem_padded
  parseStr_simple id := by
    have hlt : id.toNat % 16 ^ 32 = id.toNat := Nat.mod_eq_of_lt id.isLt
    simp only [UuidText.parseStr, UuidText.simple, Hex.length_padded, if_true, Hex.read_padded,
      hlt, Option.map_some, BitVec.ofNat_toNat, BitVec.setWidth_eq]

instance : Chrono where
  IsInstant t := -8334601228800 ≤ t.secs ∧ t.secs ≤ 8210266876799
  timestampOpt secs nanos :=
    if -8334601228800 ≤ secs ∧ secs ≤ 8210266876799 then some ⟨secs, nanos⟩ else none

instance : LawfulChrono where
  secs_fit := by
    rintro t ⟨hmin, hmax⟩
    omega
  timestampOpt_eq h _ := if_pos h

def twoPages : List Walk.Move :=
  [.store (ingestAt 1 1 (created "a")), .store (ingestAt 2 1 (started "a")),
    .page (instant 2), .store (ingestAt 2 1 (started "a")), .page (instant 3)]

def walk : Walk RecencyCache := Run.after (Walk.step ⟨1⟩) (.start cache (instant 0)) twoPages

end Sample

theorem Walk.timeline_walk_two_pages :
    ∃ events : List EventRecord,
      events.map (fun record => record.event.eventId) = [2, 1] ∧ Sample.walk.events = events := by
  have htimely : ∀ m ∈ Sample.twoPages, m.Timely := by
    simp only [Sample.twoPages, List.forall_mem_cons]
    refine ⟨?_, ?_, trivial, ?_, trivial, List.forall_mem_nil _⟩ <;>
      exact ⟨⟨by decide, by decide⟩, by decide⟩
  have haccepted : Run.tally Walk.accepts (Walk.step ⟨1⟩)
      (.start Sample.cache (Sample.instant 0) : Walk RecencyCache) Sample.twoPages < U64.MAX := by
    decide
  have hstatus : Sample.walk.status = .ended := by decide
  have hids : Sample.walk.events.map (fun record => record.event.eventId) = [2, 1] := by
    decide
  obtain ⟨first, hfirst⟩ := Option.isSome_iff_exists.mp
    (show Sample.walk.first.isSome by decide)
  obtain ⟨events, -, -, -, hended, -⟩ := (timeline_walk (C := RecencyCache) Sample.cache
    (Sample.instant 0) ⟨1⟩ Sample.twoPages (by decide) (by decide) htimely haccepted).2.1 first hfirst
  exact ⟨events, hended hstatus ▸ hids, hended hstatus⟩

end ControlPlane
