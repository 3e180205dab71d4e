import ControlPlane.Store.Ingest

/-! The idempotency window and the timeline of recent events: two caches over the same ids,
one refreshed by every ingest and one by the new events only. -/

namespace ControlPlane

open LruCache (peek Window cap)

structure Inert {C : Type → Type → Type} (before after : StoreInner C) : Prop where
  revision : after.revision = before.revision
  agents : after.agents = before.agents
  goals : after.goals = before.goals
  tasks : after.tasks = before.tasks
  lessons : after.lessons = before.lessons
  events : after.events = before.events
  evictions : after.evictions = before.evictions
  accepted : after.counters.accepted = before.counters.accepted
  acceptedByTransport : after.counters.acceptedByTransport = before.counters.acceptedByTransport

def StoreOp.ingestedId : StoreOp → Option Uuid
  | .ingest event _ _ => if event.isValid then some event.eventId else none
  | .recordRejection _ => none

def ingestedIds (ops : List StoreOp) : List Uuid := ops.filterMap StoreOp.ingestedId

theorem EventEnvelope.isValid_iff {event : EventEnvelope} :
    event.isValid = true ↔ event.validate = .ok () := by
  unfold EventEnvelope.isValid
  split
  · next h => simp [h]
  · next h => simp [h]

structure KeepsEvents {C : Type → Type → Type} (before after : StoreInner C) : Prop where
  events : after.events = before.events
  seen : after.seenEventIds = before.seenEventIds

theorem KeepsEvents.applyEvent {C : Type → Type → Type} [LruCache C] [CounterArith]
    (inner : StoreInner C) (envelope : EventEnvelope) :
    KeepsEvents inner (applyEvent inner envelope) := by
  have hframe : Frame (KeepsEvents : StoreInner C → StoreInner C → Prop) := {
    refl := fun _ => ⟨rfl, rfl⟩
    trans := fun h h' => ⟨h'.events.trans h.events, h'.seen.trans h.seen⟩
    modifyAgent := fun _ _ _ => ⟨rfl, rfl⟩
    project := fun _ _ _ _ _ => ⟨rfl, rfl⟩ }
  exact hframe.event (fun _ _ _ => ⟨rfl, rfl⟩) inner envelope

def newIds (history : List (Uuid × Bool)) : List Uuid :=
  (history.filter fun e => !e.2).map Prod.fst

def replayedIds (history : List (Uuid × Bool)) : List Uuid :=
  (history.filter fun e => e.2).map Prod.fst

theorem newIds_append (h h' : List (Uuid × Bool)) : newIds (h ++ h') = newIds h ++ newIds h' := by
  simp [newIds]

theorem newIds_subset {history : List (Uuid × Bool)} {id : Uuid} (h : id ∈ newIds history) :
    id ∈ history.map Prod.fst := by
  obtain ⟨e, he, rfl⟩ := List.mem_map.mp h
  exact List.mem_map_of_mem (List.mem_of_mem_filter he)

theorem card_ids_le (history : List (Uuid × Bool)) :
    (history.map Prod.fst).toFinset.card ≤
      (newIds history).toFinset.card + (replayedIds history).toFinset.card := by
  refine (Finset.card_le_card fun id hid => ?_).trans (Finset.card_union_le _ _)
  obtain ⟨⟨id, duplicate⟩, he, rfl⟩ := List.mem_map.mp (List.mem_toFinset.mp hid)
  simp only [Finset.mem_union, List.mem_toFinset, newIds, replayedIds, List.mem_map,
    List.mem_filter]
  cases duplicate with
  | false => exact .inl ⟨_, ⟨he, rfl⟩, rfl⟩
  | true => exact .inr ⟨_, ⟨he, rfl⟩, rfl⟩

theorem subset_of_last_use {before since front back : List Uuid} {x : Uuid}
    (h : before ++ x :: since = front ++ back) (hb : x ∉ back) : back ⊆ since := by
  rw [List.append_eq_append_iff] at h
  rcases h with ⟨as, rfl, hs⟩ | ⟨bs, rfl, rfl⟩
  · cases as with
    | nil =>
      rw [List.nil_append] at hs
      exact absurd (hs ▸ List.mem_cons_self) hb
    | cons a as =>
      obtain ⟨-, rfl⟩ := List.cons.inj hs
      exact List.subset_append_right as back
  · exact absurd (by simp) hb

def sinceLast (id : Uuid) (history : List (Uuid × Bool)) : List (Uuid × Bool) :=
  (history.reverse.takeWhile fun e => e.1 ≠ id).reverse

theorem sinceLast_split {before since : List (Uuid × Bool)} {id : Uuid} {duplicate : Bool}
    (h : id ∉ since.map Prod.fst) : sinceLast id (before ++ (id, duplicate) :: since) = since := by
  have hall : ∀ e ∈ since.reverse, decide (e.1 ≠ id) = true := by
    intro e he
    rw [decide_eq_true_eq]
    rintro rfl
    exact h (List.mem_map_of_mem (List.mem_reverse.mp he))
  rw [sinceLast, List.reverse_append, List.reverse_cons, List.append_assoc,
    List.takeWhile_append_of_pos hall]
  simp

/-- Since the last ingest of an id still among the recent new ones, the other ids are those
accepted after it and those replayed. -/
theorem history_of_retained {history : List (Uuid × Bool)} {id : Uuid} {capacity : Nat}
    (h : ∃ pre post, newIds history = pre ++ id :: post ∧ id ∉ post ∧
      post.toFinset.card < capacity) :
    ∃ before duplicate, history = before ++ (id, duplicate) :: sinceLast id history ∧
      id ∉ (sinceLast id history).map Prod.fst ∧
      ((sinceLast id history).map Prod.fst).toFinset.card <
        capacity + (replayedIds (sinceLast id history)).toFinset.card := by
  obtain ⟨newBefore, newSince, hnew, -, hcard⟩ := h
  have hid : id ∈ history.map Prod.fst := newIds_subset (by rw [hnew]; simp)
  obtain ⟨idsBefore, idsSince, hids, hlast⟩ := Recency.exists_last_use hid
  obtain ⟨before, rest, rfl, rfl, hrest⟩ := List.map_eq_append_iff.mp hids
  obtain ⟨⟨seenId, duplicate⟩, since, rfl, hseen, rfl⟩ := List.map_eq_cons_iff.mp hrest
  obtain rfl : seenId = id := hseen
  rw [sinceLast_split hlast]
  refine ⟨before, duplicate, rfl, hlast, ?_⟩
  have hsub : newIds since ⊆ newSince := by
    have hsplit : newBefore ++ seenId :: newSince =
        newIds (before ++ [(seenId, duplicate)]) ++ newIds since := by
      rw [← hnew, ← newIds_append, List.append_assoc]
      rfl
    exact subset_of_last_use hsplit fun hm => hlast (newIds_subset hm)
  have hle : (newIds since).toFinset.card ≤ newSince.toFinset.card :=
    Finset.card_le_card fun x hx => List.mem_toFinset.mpr (hsub (List.mem_toFinset.mp hx))
  have := card_ids_le since
  omega

section Ingest

variable {C : Type → Type → Type} [LruCache C] [CounterArith]

def AnsweredDuplicate (inner : StoreInner C) (event : EventEnvelope) (transport : Transport)
    (receivedAt : DateTime) : Prop :=
  ∃ ingested, (ingest inner event transport receivedAt).2 = .ok ingested ∧
    ingested.ack.duplicate = true

theorem ingest_of_invalid {event : EventEnvelope} (h : ¬event.isValid) (inner : StoreInner C)
    (transport : Transport) (receivedAt : DateTime) :
    ∃ error, ingest inner event transport receivedAt =
      (recordRejection inner transport, .error error) := by
  rw [EventEnvelope.isValid_iff] at h
  unfold ingest
  split
  · next error he => exact ⟨error, rfl⟩
  · next he => exact absurd he h

variable [LawfulLruCache C]

theorem ingest_of_replayed {inner : StoreInner C} {event : EventEnvelope}
    (h : Replayed inner event) (transport : Transport) (receivedAt : DateTime) :
    ingest inner event transport receivedAt =
      ({ inner with
          seenEventIds := (LruCache.get inner.seenEventIds event.eventId).2
          counters.duplicate := U64.saturatingAdd inner.counters.duplicate 1 },
        .ok ⟨⟨true, true, event.eventId, inner.revision, transport, receivedAt⟩, none⟩) := by
  obtain ⟨hv, hseen⟩ := h
  obtain ⟨revision, hr⟩ := Option.isSome_iff_exists.mp hseen
  have hget : (LruCache.get inner.seenEventIds event.eventId).1 = some revision := by
    rw [LawfulLruCache.get_fst, ← LawfulLruCache.peek_eq, hr]
  simp only [ingest, hv, hget]

theorem ingest_of_fresh {inner : StoreInner C} {event : EventEnvelope}
    (h : Fresh inner event) (transport : Transport) (receivedAt : DateTime) :
    ∃ ingested, ingested.ack.duplicate = false ∧
      ingest inner event transport receivedAt =
        (accept { inner with seenEventIds := (LruCache.get inner.seenEventIds event.eventId).2 }
          event transport receivedAt, .ok ingested) := by
  obtain ⟨hv, hseen⟩ := h
  have hget : (LruCache.get inner.seenEventIds event.eventId).1 = none := by
    rw [LawfulLruCache.get_fst, ← LawfulLruCache.peek_eq, hseen]
  exact ⟨⟨⟨true, false, _, _, _, _⟩, some _⟩, rfl, by simp only [ingest, hv, hget]; rfl⟩

omit [CounterArith] in
theorem map_eventId_recentEvents {inner : StoreInner C}
    (hfiled : ∀ id record, peek inner.events id = some record → record.event.eventId = id)
    (generatedAt : DateTime) :
    (snapshot inner generatedAt).recentEvents.map (fun record => record.event.eventId) =
      Recency.keys ((LruCache.iter inner.events).take SNAPSHOT_EVENT_LIMIT) := by
  rw [snapshot, List.map_map]
  apply List.map_congr_left
  intro e he
  exact hfiled e.1 e.2 (LruCache.peek_eq_some_iff.2 (List.mem_of_mem_take he))

/-- An ingest that is not of a fresh event keeps everything but the order of the window and the
counters, and leaves no update. -/
structure Unaccepted (inner : StoreInner C)
    (result : StoreInner C × Except ValidationError Ingested) : Prop where
  state : ∃ window counters,
    result.1 = { inner with seenEventIds := window, counters := counters } ∧
      ∀ id, peek window id = peek inner.seenEventIds id
  answer : ∀ ingested, result.2 = .ok ingested →
    ingested.ack.duplicate = true ∧ ingested.update = none

theorem ingest_of_not_fresh {inner : StoreInner C} {event : EventEnvelope}
    (h : ¬Fresh inner event) (transport : Transport) (receivedAt : DateTime) :
    Unaccepted inner (ingest inner event transport receivedAt) := by
  by_cases hv : event.isValid
  · rw [EventEnvelope.isValid_iff] at hv
    have hseen : peek inner.seenEventIds event.eventId ≠ none := fun hp => h ⟨hv, hp⟩
    rw [ingest_of_replayed ⟨hv, Option.isSome_iff_ne_none.2 hseen⟩]
    refine ⟨⟨_, _, rfl, LruCache.peek_get _ _⟩, ?_⟩
    intro ingested hok
    cases hok
    exact ⟨rfl, rfl⟩
  · obtain ⟨error, he⟩ := ingest_of_invalid hv inner transport receivedAt
    rw [he]
    refine ⟨⟨_, _, rfl, fun _ => rfl⟩, ?_⟩
    intro ingested hok
    cases hok

theorem answeredDuplicate_iff (inner : StoreInner C) {event : EventEnvelope}
    (hv : event.validate = .ok ()) (transport : Transport) (receivedAt : DateTime) :
    AnsweredDuplicate inner event transport receivedAt ↔ Replayed inner event := by
  cases hp : peek inner.seenEventIds event.eventId with
  | some revision =>
    have hr : Replayed inner event := ⟨hv, by rw [hp]; rfl⟩
    refine ⟨fun _ => hr, fun _ => ?_⟩
    rw [AnsweredDuplicate, ingest_of_replayed hr]
    exact ⟨_, rfl, rfl⟩
  | none =>
    obtain ⟨ingested, hd, he⟩ := ingest_of_fresh ⟨hv, hp⟩ transport receivedAt
    constructor
    · rintro ⟨other, ho, hdup⟩
      rw [he] at ho
      obtain rfl := Except.ok.inj ho
      rw [hd] at hdup
      cases hdup
    · intro hr
      have := hr.2
      rw [hp] at this
      cases this

theorem inert_of_replayed {inner : StoreInner C} {event : EventEnvelope}
    (h : Replayed inner event) (transport : Transport) (receivedAt : DateTime) :
    Inert inner (ingest inner event transport receivedAt).1 := by
  rw [ingest_of_replayed h]
  exact ⟨rfl, rfl, rfl, rfl, rfl, rfl, rfl, rfl, rfl⟩

theorem windows_accept (inner : StoreInner C) {seen events : List Uuid}
    (hs : Window inner.seenEventIds seen) (he : Window inner.events events)
    (event : EventEnvelope) (transport : Transport) (receivedAt : DateTime) :
    let after := accept inner event transport receivedAt
    Window after.seenEventIds (seen ++ [event.eventId]) ∧
      Window after.events (events ++ [event.eventId]) ∧
      cap after.seenEventIds = cap inner.seenEventIds ∧ cap after.events = cap inner.events := by
  have hkeep := KeepsEvents.applyEvent inner event
  simp only [accept, pushWithEviction_fst, LawfulLruCache.cap_push, hkeep.events, hkeep.seen]
  exact ⟨hs.push _ _, he.push _ _, trivial, trivial⟩

def StoreInner.answer (inner : StoreInner C) : StoreOp → Option (Uuid × Bool)
  | .ingest event transport receivedAt =>
    match (ingest inner event transport receivedAt).2 with
    | .ok ingested => some (event.eventId, ingested.ack.duplicate)
    | .error _ => none
  | .recordRejection _ => none

def answersFrom (inner : StoreInner C) : List StoreOp → List (Uuid × Bool)
  | [] => []
  | op :: ops => (inner.answer op).toList ++ answersFrom (inner.step op) ops

variable (C) in
def answers (cache : CacheConfig) (startedAt : DateTime) (ops : List StoreOp) :
    List (Uuid × Bool) :=
  answersFrom (StoreInner.new cache startedAt : StoreInner C) ops

omit [LawfulLruCache C] in
theorem answersFrom_concat (inner : StoreInner C) (ops : List StoreOp) (op : StoreOp) :
    answersFrom inner (ops ++ [op]) =
      answersFrom inner ops ++ ((ops.foldl StoreInner.step inner).answer op).toList := by
  induction ops generalizing inner with
  | nil => simp [answersFrom]
  | cons o ops ih => simp [answersFrom, ih]

omit [LawfulLruCache C] in
theorem answers_concat (cache : CacheConfig) (startedAt : DateTime) (ops : List StoreOp)
    (op : StoreOp) :
    answers C cache startedAt (ops ++ [op]) =
      answers C cache startedAt ops ++
        ((run cache startedAt ops : StoreInner C).answer op).toList :=
  answersFrom_concat _ ops op

/-- Both caches hold the most recent ids of their history: every id for the window, the
newly accepted ones for the timeline. -/
structure Windows (cache : CacheConfig) (inner : StoreInner C) (history : List (Uuid × Bool)) :
    Prop where
  seen : Window inner.seenEventIds (history.map Prod.fst)
  events : Window inner.events (newIds history)
  seenCap : cap inner.seenEventIds = cache.idempotency.value
  eventsCap : cap inner.events = cache.events.value

omit [LawfulLruCache C] [CounterArith] in
theorem Windows.congr {cache : CacheConfig} {inner inner' : StoreInner C}
    {history : List (Uuid × Bool)} (h : Windows cache inner history)
    (hs : inner'.seenEventIds = inner.seenEventIds) (he : inner'.events = inner.events) :
    Windows cache inner' history where
  seen := hs ▸ h.seen
  events := he ▸ h.events
  seenCap := hs ▸ h.seenCap
  eventsCap := he ▸ h.eventsCap

theorem Windows.step {cache : CacheConfig} {inner : StoreInner C} {history : List (Uuid × Bool)}
    (h : Windows cache inner history) (op : StoreOp) :
    Windows cache (inner.step op) (history ++ (inner.answer op).toList) ∧
      (inner.answer op).map Prod.fst = op.ingestedId := by
  cases op with
  | recordRejection transport =>
    refine ⟨?_, rfl⟩
    rw [StoreInner.answer, Option.toList_none, List.append_nil]
    exact h.congr rfl rfl
  | ingest event transport receivedAt =>
    simp only [StoreInner.step, StoreInner.answer, StoreOp.ingestedId]
    by_cases hv : event.isValid
    · rw [if_pos hv]
      rw [EventEnvelope.isValid_iff] at hv
      cases hp : peek inner.seenEventIds event.eventId with
      | some revision =>
        rw [ingest_of_replayed ⟨hv, by rw [hp]; rfl⟩]
        refine ⟨⟨?_, ?_, ?_, h.eventsCap⟩, rfl⟩
        · simpa using h.seen.get_of_some hp
        · simpa [newIds] using h.events
        · exact (LawfulLruCache.cap_get _ _).trans h.seenCap
      | none =>
        obtain ⟨ingested, hd, he⟩ := ingest_of_fresh ⟨hv, hp⟩ transport receivedAt
        obtain ⟨hseen, hevents, hseenCap, heventsCap⟩ := windows_accept
          { inner with seenEventIds := (LruCache.get inner.seenEventIds event.eventId).2 }
          (h.seen.get_of_none hp) h.events event transport receivedAt
        rw [he]
        refine ⟨⟨?_, ?_, ?_, ?_⟩, rfl⟩
        · simpa using hseen
        · simpa [newIds, hd] using hevents
        · exact hseenCap.trans ((LawfulLruCache.cap_get _ _).trans h.seenCap)
        · exact heventsCap.trans h.eventsCap
    · obtain ⟨error, he⟩ := ingest_of_invalid hv inner transport receivedAt
      rw [if_neg hv, he]
      refine ⟨?_, rfl⟩
      simp only [Option.toList_none, List.append_nil]
      exact h.congr rfl rfl

theorem windows_run (cache : CacheConfig) (startedAt : DateTime) (ops : List StoreOp) :
    Windows cache (run cache startedAt ops : StoreInner C) (answers C cache startedAt ops) := by
  induction ops using List.reverseRecOn with
  | nil =>
    exact ⟨Window.start _, Window.start _, LawfulLruCache.cap_new _, LawfulLruCache.cap_new _⟩
  | append_singleton ops op ih =>
    rw [run_concat, answers_concat]
    exact (ih.step op).1

theorem ids_answers (cache : CacheConfig) (startedAt : DateTime) (ops : List StoreOp) :
    (answers C cache startedAt ops).map Prod.fst = ingestedIds ops := by
  induction ops using List.reverseRecOn with
  | nil => rfl
  | append_singleton ops op ih =>
    have hid := ((windows_run (C := C) cache startedAt ops).step op).2
    rw [answers_concat, List.map_append, ih, ingestedIds, ingestedIds, List.filterMap_append,
      ← Option.toList_map, hid]
    cases ho : op.ingestedId <;> simp [ho]

theorem fresh_of_new (cache : CacheConfig) (startedAt : DateTime) {ops : List StoreOp}
    {event : EventEnvelope} (hv : event.validate = .ok ()) (hnew : event.eventId ∉ ingestedIds ops) :
    Fresh (run cache startedAt ops : StoreInner C) event := by
  refine ⟨hv, ?_⟩
  cases hpeek : peek (run cache startedAt ops : StoreInner C).seenEventIds event.eventId with
  | none => rfl
  | some revision =>
    have hwindow := (windows_run (C := C) cache startedAt ops).seen
    rw [ids_answers] at hwindow
    obtain ⟨_, _, hsplit, -⟩ := (hwindow.isSome_peek_iff event.eventId).mp (by simp [hpeek])
    exact absurd (by simp [hsplit]) hnew

/-- An id is answered as a duplicate exactly if fewer other ids than the window holds were
ingested since its last ingest, and such an answer changes nothing but the window's order. -/
theorem duplicate_iff_recent (cache : CacheConfig) (startedAt : DateTime) (ops : List StoreOp)
    (event : EventEnvelope) (transport : Transport) (receivedAt : DateTime)
    (hv : event.validate = .ok ()) :
    (AnsweredDuplicate (run cache startedAt ops : StoreInner C) event transport receivedAt ↔
      ∃ before since, ingestedIds ops = before ++ event.eventId :: since ∧
        event.eventId ∉ since ∧ since.toFinset.card < cache.idempotency.value) ∧
    (AnsweredDuplicate (run cache startedAt ops : StoreInner C) event transport receivedAt →
      Inert (run cache startedAt ops : StoreInner C)
        (ingest (run cache startedAt ops) event transport receivedAt).1) := by
  have hw := windows_run (C := C) cache startedAt ops
  rw [answeredDuplicate_iff _ hv]
  constructor
  · rw [Replayed, and_iff_right hv, hw.seen.isSome_peek_iff, hw.seenCap, ids_answers]
  · exact fun hr => inert_of_replayed hr transport receivedAt

end Ingest

/-- A window of two ids: the third id pushes out the second, since the first was replayed. -/
theorem duplicate_iff_recent_replayed :
    AnsweredDuplicate (run Sample.cache (Sample.instant 0)
        [Sample.ingestAt 1 1 (Sample.created "a"), Sample.ingestAt 2 2 (Sample.started "a"),
          Sample.ingestAt 1 1 (Sample.created "a"), Sample.ingestAt 3 3 (Sample.created "b")] :
        StoreInner RecencyCache) (Sample.envelope 1 1 (Sample.created "a")) .http
        (Sample.instant 4) ∧
      ¬AnsweredDuplicate (run Sample.cache (Sample.instant 0)
        [Sample.ingestAt 1 1 (Sample.created "a"), Sample.ingestAt 2 2 (Sample.started "a"),
          Sample.ingestAt 1 1 (Sample.created "a"), Sample.ingestAt 3 3 (Sample.created "b")] :
        StoreInner RecencyCache) (Sample.envelope 2 2 (Sample.started "a")) .http
        (Sample.instant 4) := by
  constructor
  · refine (duplicate_iff_recent _ _ _ _ _ _ (by decide)).1.mpr ⟨[1, 2], [3], ?_⟩
    decide
  · rw [answeredDuplicate_iff _ (by decide)]
    rintro ⟨-, hseen⟩
    revert hseen
    decide

section Timeline

variable {C : Type → Type → Type} [LruCache C] [CounterArith] [LawfulLruCache C]

/-- An event still on the timeline is in the window if the window has room for the timeline and
for the distinct ids replayed since the event's last ingest; replaying it is then inert. -/
theorem retained_event_in_window (cache : CacheConfig) (startedAt : DateTime) (ops : List StoreOp)
    (id : Uuid) (hretained : (peek (run cache startedAt ops : StoreInner C).events id).isSome)
    (hroom : cache.events.value +
      (replayedIds (sinceLast id (answers C cache startedAt ops))).toFinset.card ≤
        cache.idempotency.value) :
    (peek (run cache startedAt ops : StoreInner C).seenEventIds id).isSome ∧
      ∀ event transport receivedAt, event.validate = .ok () → event.eventId = id →
        AnsweredDuplicate (run cache startedAt ops : StoreInner C) event transport receivedAt ∧
        Inert (run cache startedAt ops : StoreInner C)
          (ingest (run cache startedAt ops) event transport receivedAt).1 := by
  have hw := windows_run (C := C) cache startedAt ops
  have hnew := (hw.events.isSome_peek_iff id).mp hretained
  rw [hw.eventsCap] at hnew
  obtain ⟨before, duplicate, hsplit, hlast, hcard⟩ := history_of_retained hnew
  have hids := (congrArg (List.map Prod.fst) hsplit).trans List.map_append
  have hwindow : (peek (run cache startedAt ops : StoreInner C).seenEventIds id).isSome := by
    refine (hw.seen.isSome_peek_iff id).mpr ⟨_, _, hids, hlast, ?_⟩
    rw [hw.seenCap]
    exact hcard.trans_le hroom
  refine ⟨hwindow, fun event transport receivedAt hv he => ?_⟩
  have hr : Replayed (run cache startedAt ops : StoreInner C) event := ⟨hv, he ▸ hwindow⟩
  exact ⟨(answeredDuplicate_iff _ hv _ _).mpr hr, inert_of_replayed hr _ _⟩

end Timeline

theorem retained_event_in_window_fresh :
    (peek (run Sample.cache (Sample.instant 0)
      [Sample.ingestAt 1 1 (Sample.created "a"), Sample.ingestAt 2 2 (Sample.started "a"),
        Sample.ingestAt 3 3 (Sample.created "b")] : StoreInner RecencyCache).seenEventIds 2).isSome :=
  (retained_event_in_window Sample.cache (Sample.instant 0) _ 2 (by decide) (by decide)).1

/-- With the same capacity for both caches, a replay of the first id lets the third push the
second out of the window but not off the timeline. -/
theorem timeline_outlives_window :
    Sample.cache.events.value ≤ Sample.cache.idempotency.value ∧
      (peek (run Sample.cache (Sample.instant 0)
        [Sample.ingestAt 1 1 (Sample.created "a"), Sample.ingestAt 2 2 (Sample.started "a"),
          Sample.ingestAt 1 1 (Sample.created "a"), Sample.ingestAt 3 3 (Sample.created "b")] :
        StoreInner RecencyCache).events 2).isSome ∧
      peek (run Sample.cache (Sample.instant 0)
        [Sample.ingestAt 1 1 (Sample.created "a"), Sample.ingestAt 2 2 (Sample.started "a"),
          Sample.ingestAt 1 1 (Sample.created "a"), Sample.ingestAt 3 3 (Sample.created "b")] :
        StoreInner RecencyCache).seenEventIds 2 = none := by
  decide

end ControlPlane
