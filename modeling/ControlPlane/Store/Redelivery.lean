import ControlPlane.Lib.Shadow
import ControlPlane.Store.Ledger
import ControlPlane.Transport.Accounting

/-! Agents that are not sure of an answer send their events again.  While the window still has the
id, the store is the one that got each event once. -/

namespace ControlPlane

open LruCache (peek len cap Window)

/-- The ids that come again do so before as many others came as the window holds. -/
def WithinWindow (capacity : Nat) (ids : List Uuid) : Prop :=
  ∀ before id since rest, ids = before ++ id :: since ++ id :: rest → id ∉ since →
    since.toFinset.card < capacity

def StoreOp.IsFirst (earlier : List StoreOp) (op : StoreOp) : Bool :=
  op.ingestedId.any fun id => !(ingestedIds earlier).contains id

def firstDeliveriesAfter (earlier : List StoreOp) : List StoreOp → List StoreOp
  | [] => []
  | op :: ops =>
    (if op.IsFirst earlier then [op] else []) ++ firstDeliveriesAfter (earlier ++ [op]) ops

def firstDeliveries (ops : List StoreOp) : List StoreOp := firstDeliveriesAfter [] ops

theorem firstDeliveriesAfter_append (earlier first second : List StoreOp) :
    firstDeliveriesAfter earlier (first ++ second) =
      firstDeliveriesAfter earlier first ++ firstDeliveriesAfter (earlier ++ first) second := by
  induction first generalizing earlier with
  | nil => simp [firstDeliveriesAfter]
  | cons op first ih => simp [firstDeliveriesAfter, ih]

theorem firstDeliveries_concat (ops : List StoreOp) (op : StoreOp) :
    firstDeliveries (ops ++ [op]) =
      firstDeliveries ops ++ if op.IsFirst ops then [op] else [] := by
  rw [firstDeliveries, firstDeliveriesAfter_append, firstDeliveries]
  simp [firstDeliveriesAfter]

theorem sublist_firstDeliveries (ops : List StoreOp) : (firstDeliveries ops).Sublist ops := by
  induction ops using List.reverseRecOn with
  | nil => exact List.Sublist.refl []
  | append_singleton ops op ih =>
    rw [firstDeliveries_concat]
    by_cases hfirst : op.IsFirst ops
    · rw [if_pos hfirst]
      exact ih.append (List.Sublist.refl [op])
    · rw [if_neg hfirst]
      exact ih.append (List.nil_sublist [op])

theorem ingestedIds_concat (ops : List StoreOp) (op : StoreOp) :
    ingestedIds (ops ++ [op]) = ingestedIds ops ++ op.ingestedId.toList := by
  rw [ingestedIds, List.filterMap_append]
  cases hid : op.ingestedId <;> simp [ingestedIds, hid]

theorem mem_ingestedIds_firstDeliveries {ops : List StoreOp} {id : Uuid} :
    id ∈ ingestedIds (firstDeliveries ops) ↔ id ∈ ingestedIds ops := by
  induction ops using List.reverseRecOn with
  | nil => exact Iff.rfl
  | append_singleton ops op ih =>
    rw [firstDeliveries_concat, ingestedIds_concat]
    by_cases hfirst : op.IsFirst ops
    · rw [if_pos hfirst, ingestedIds_concat, List.mem_append, List.mem_append, ih]
    · rw [if_neg hfirst, List.append_nil, ih, List.mem_append]
      refine ⟨.inl, ?_⟩
      rintro (hold | hnew)
      · exact hold
      · rw [Option.mem_toList] at hnew
        simpa [StoreOp.IsFirst, Option.mem_def.1 hnew] using hfirst

theorem nodup_firstDeliveries (ops : List StoreOp) :
    (ingestedIds (firstDeliveries ops)).Nodup := by
  induction ops using List.reverseRecOn with
  | nil => exact List.nodup_nil
  | append_singleton ops op ih =>
    rw [firstDeliveries_concat]
    by_cases hfirst : op.IsFirst ops
    · rw [if_pos hfirst, ingestedIds_concat]
      obtain ⟨id, hid⟩ : ∃ id, op.ingestedId = some id := by
        cases hid : op.ingestedId with
        | none => simp [StoreOp.IsFirst, hid] at hfirst
        | some id => exact ⟨id, rfl⟩
      have hnew : id ∉ ingestedIds (firstDeliveries ops) := by
        rw [mem_ingestedIds_firstDeliveries]
        simpa [StoreOp.IsFirst, hid] using hfirst
      rw [hid, Option.toList_some]
      exact List.Nodup.append ih (List.nodup_singleton id) (by simpa using hnew)
    · rw [if_neg hfirst, List.append_nil]
      exact ih

section Store

variable {C : Type → Type → Type} [LruCache C]

/-- The second store is the first one but for which ids its window holds and for what it counted
as duplicate or rejected. -/
structure SameButWindow (a b : StoreInner C) : Prop where
  ledger : ∃ ledger : Ledger C, b = a.withLedger ledger ∧
    len ledger.seenEventIds = len a.seenEventIds ∧ cap ledger.seenEventIds = cap a.seenEventIds ∧
    ledger.counters.accepted = a.counters.accepted ∧
    ledger.counters.acceptedByTransport = a.counters.acceptedByTransport

namespace SameButWindow

variable {a b : StoreInner C}

theorem refl (a : StoreInner C) : SameButWindow a a := ⟨⟨a.ledger, rfl, rfl, rfl, rfl, rfl⟩⟩

theorem recordRejection (h : SameButWindow a b) (transport : Transport) :
    SameButWindow (recordRejection a transport) b := by
  obtain ⟨ledger, hb, hlen, hcap, haccepted, hbyTransport⟩ := h.ledger
  exact ⟨⟨ledger, hb, hlen, hcap, haccepted, hbyTransport⟩⟩

theorem snapshot_eq (h : SameButWindow a b) (now : DateTime) :
    snapshot b now = { snapshot a now with counters := b.counters } := by
  obtain ⟨ledger, rfl, hlen, hcap, -⟩ := h.ledger
  simp only [snapshot, cacheSnapshot, cacheStats, StoreInner.withLedger, hlen, hcap]

variable [CounterArith] [LawfulLruCache C]

theorem replayed (h : SameButWindow a b) {event : EventEnvelope} (hreplayed : Replayed a event)
    (transport : Transport) (receivedAt : DateTime) :
    SameButWindow (ingest a event transport receivedAt).1 b := by
  obtain ⟨ledger, hb, hlen, hcap, haccepted, hbyTransport⟩ := h.ledger
  rw [ingest_of_replayed hreplayed]
  refine ⟨⟨ledger, hb, ?_, ?_, haccepted, hbyTransport⟩⟩
  · rw [hlen, LruCache.len_get]
  · rw [hcap, LawfulLruCache.cap_get]

omit [CounterArith] in
theorem file_alike (ledger ledger' : Ledger C)
    (hlen : len ledger'.seenEventIds = len ledger.seenEventIds)
    (hcap : cap ledger'.seenEventIds = cap ledger.seenEventIds) {id : Uuid}
    (hnew : peek ledger.seenEventIds id = none) (hnew' : peek ledger'.seenEventIds id = none)
    (revision : Nat) :
    ledger'.evictions id revision = ledger.evictions id revision ∧
      len (ledger'.file id revision).1 = len (ledger.file id revision).1 := by
  have hcount := LruCache.len_push_of_none hnew revision
  have hcount' := LruCache.len_push_of_none hnew' revision
  have hfull := LruCache.push_snd_eq_none_iff hnew revision
  have hfull' := LruCache.push_snd_eq_none_iff hnew' revision
  rw [hlen, hcap] at hfull'
  have htogether : (ledger'.file id revision).2.isSome = (ledger.file id revision).2.isSome ∧
      len (ledger'.file id revision).1 = len (ledger.file id revision).1 := by
    rw [Ledger.file, Ledger.file, pushWithEviction_of_none hnew, pushWithEviction_of_none hnew']
    cases hdisplaced : (LruCache.push ledger.seenEventIds id revision).2 <;>
      cases hdisplaced' : (LruCache.push ledger'.seenEventIds id revision).2 <;> grind
  refine ⟨?_, htogether.2⟩
  funext count
  simp only [Ledger.evictions, htogether.1]

omit [CounterArith] in
theorem lookup (h : SameButWindow a b) (id : Uuid) :
    SameButWindow { a with seenEventIds := (LruCache.get a.seenEventIds id).2 }
      { b with seenEventIds := (LruCache.get b.seenEventIds id).2 } := by
  obtain ⟨ledger, rfl, hlen, hcap, haccepted, hbyTransport⟩ := h.ledger
  refine ⟨⟨⟨(LruCache.get ledger.seenEventIds id).2, ledger.counters⟩, rfl, ?_, ?_, haccepted,
    hbyTransport⟩⟩
  · exact (LruCache.len_get _ _).trans (hlen.trans (LruCache.len_get _ _).symm)
  · exact (LawfulLruCache.cap_get _ _).trans (hcap.trans (LawfulLruCache.cap_get _ _).symm)

theorem accept (h : SameButWindow a b) {event : EventEnvelope}
    (hnew : peek a.seenEventIds event.eventId = none)
    (hnew' : peek b.seenEventIds event.eventId = none) (transport : Transport)
    (receivedAt : DateTime) :
    SameButWindow (accept a event transport receivedAt) (accept b event transport receivedAt) := by
  obtain ⟨ledger, rfl, hlen, hcap, haccepted, hbyTransport⟩ := h.ledger
  have hself : a.withLedger a.ledger = a := rfl
  have hplain := accept_withLedger a a.ledger event transport receivedAt
  have hother := accept_withLedger a ledger event transport receivedAt
  have hcounters := counters_accept a event transport receivedAt
  obtain ⟨hevictions, hlength⟩ := file_alike a.ledger ledger hlen hcap hnew hnew'
    (ControlPlane.accept a event transport receivedAt).revision
  rw [hself] at hplain
  have hseen := congrArg StoreInner.seenEventIds hplain
  have hkept := congrArg StoreInner.evictions hplain
  dsimp only at hseen hkept
  rw [hother, hevictions, ← hkept]
  refine ⟨⟨⟨_, _⟩, rfl, ?_, ?_, ?_, ?_⟩⟩
  · rw [hseen]
    exact hlength
  · rw [hseen]
    exact (LawfulLruCache.cap_push _ _ _).trans (hcap.trans (LawfulLruCache.cap_push _ _ _).symm)
  · rw [hcounters, haccepted]
  · rw [hcounters, hbyTransport]

theorem fresh (h : SameButWindow a b) {event : EventEnvelope} (hfresh : Fresh a event)
    (hfresh' : Fresh b event) (transport : Transport) (receivedAt : DateTime) :
    SameButWindow (ingest a event transport receivedAt).1
      (ingest b event transport receivedAt).1 := by
  obtain ⟨_, _, he⟩ := ingest_of_fresh hfresh transport receivedAt
  obtain ⟨_, _, he'⟩ := ingest_of_fresh hfresh' transport receivedAt
  rw [he, he']
  apply (h.lookup event.eventId).accept
  · exact (LruCache.peek_get _ _ _).trans hfresh.2
  · exact (LruCache.peek_get _ _ _).trans hfresh'.2

end SameButWindow

end Store

theorem withinWindow_concat {capacity : Nat} {ids : List Uuid} {id : Uuid} :
    WithinWindow capacity (ids ++ [id]) ↔
      WithinWindow capacity ids ∧
        ∀ before since, ids = before ++ id :: since → id ∉ since →
          since.toFinset.card < capacity := by
  constructor
  · intro h
    refine ⟨?_, ?_⟩
    · rintro before other since rest rfl hother
      exact h before other since (rest ++ [id]) (by simp) hother
    · rintro before since rfl hnew
      exact h before id since [] (by simp) hnew
  · rintro ⟨hinit, hlast⟩ before other since rest heq hother
    rcases List.eq_nil_or_concat rest with rfl | ⟨rest, last, rfl⟩
    · obtain ⟨hinit', hlast'⟩ := List.append_inj' heq rfl
      obtain rfl : id = other := by simpa using hlast'
      exact hlast before since hinit' hother
    · have hinit' : ids ++ [id] = (before ++ other :: since ++ other :: rest) ++ [last] := by
        simpa using heq
      exact hinit before other since rest (List.append_inj' hinit' rfl).1 hother

section Runs

variable {C : Type → Type → Type} [LruCache C] [CounterArith] [LawfulLruCache C]
  (cache : CacheConfig) (startedAt : DateTime)

omit [LawfulLruCache C] [CounterArith] [LruCache C] in
theorem StoreOp.ingest_of_ingestedId {op : StoreOp} {id : Uuid} (h : op.ingestedId = some id) :
    ∃ event transport receivedAt, op = .ingest event transport receivedAt ∧
      event.validate = .ok () ∧ event.eventId = id := by
  cases op with
  | recordRejection transport => cases h
  | ingest event transport receivedAt =>
    rw [StoreOp.ingestedId, Option.ite_none_right_eq_some] at h
    exact ⟨event, transport, receivedAt, rfl, EventEnvelope.isValid_iff.1 h.1, Option.some.inj h.2⟩

omit [LawfulLruCache C] in
theorem StoreOp.rejects_of_ingestedId {op : StoreOp} (h : op.ingestedId = none)
    (inner : StoreInner C) : ∃ transport, inner.step op = ControlPlane.recordRejection inner transport := by
  cases op with
  | recordRejection transport => exact ⟨transport, rfl⟩
  | ingest event transport receivedAt =>
    have hinvalid : ¬event.isValid := by
      intro hvalid
      rw [StoreOp.ingestedId, if_pos hvalid] at h
      cases h
    obtain ⟨error, he⟩ := ingest_of_invalid hinvalid inner transport receivedAt
    exact ⟨transport, by rw [StoreInner.step, he]⟩

inductive Delivered (ops : List StoreOp) (op : StoreOp) : Prop
  | rejected (transport : Transport) (hnone : op.ingestedId = none)
    (hstep : (run cache startedAt (ops ++ [op]) : StoreInner C) =
      recordRejection (run cache startedAt ops) transport)
    (hfirst : firstDeliveries (ops ++ [op]) = firstDeliveries ops)
  | first (event : EventEnvelope) (transport : Transport) (receivedAt : DateTime)
    (hop : op = .ingest event transport receivedAt) (hid : op.ingestedId = some event.eventId)
    (hnew : event.eventId ∉ ingestedIds ops)
    (hfresh : Fresh (run cache startedAt ops : StoreInner C) event)
    (hfresh' : Fresh (run cache startedAt (firstDeliveries ops) : StoreInner C) event)
    (hfirst : firstDeliveries (ops ++ [op]) = firstDeliveries ops ++ [op])
  | again (event : EventEnvelope) (transport : Transport) (receivedAt : DateTime)
    (hop : op = .ingest event transport receivedAt) (hid : op.ingestedId = some event.eventId)
    (hvalid : event.validate = .ok ()) (hold : event.eventId ∈ ingestedIds ops)
    (hfirst : firstDeliveries (ops ++ [op]) = firstDeliveries ops)

theorem delivered (ops : List StoreOp) (op : StoreOp) :
    Delivered (C := C) cache startedAt ops op := by
  have hconcat := firstDeliveries_concat ops op
  cases hid : op.ingestedId with
  | none =>
    have hnot : op.IsFirst ops = false := by rw [StoreOp.IsFirst, hid, Option.any_none]
    obtain ⟨transport, hstep⟩ := op.rejects_of_ingestedId hid (run cache startedAt ops : StoreInner C)
    refine .rejected transport hid ?_ ?_
    · rw [run_concat, hstep]
    · simpa [hnot] using hconcat
  | some id =>
    obtain ⟨event, transport, receivedAt, hop, hvalid, rfl⟩ := op.ingest_of_ingestedId hid
    by_cases hold : event.eventId ∈ ingestedIds ops
    · have hnot : op.IsFirst ops = false := by simp [StoreOp.IsFirst, hid, hold]
      exact .again event transport receivedAt hop hid hvalid hold (by simpa [hnot] using hconcat)
    · have hfirst : op.IsFirst ops = true := by simp [StoreOp.IsFirst, hid, hold]
      refine .first event transport receivedAt hop hid hold ?_ ?_ (by simpa [hfirst] using hconcat)
      · exact fresh_of_new cache startedAt hvalid hold
      · exact fresh_of_new cache startedAt hvalid (by rwa [mem_ingestedIds_firstDeliveries])

theorem replayed_run_iff {ops : List StoreOp} {event : EventEnvelope}
    (hvalid : event.validate = .ok ()) :
    Replayed (run cache startedAt ops : StoreInner C) event ↔
      ∃ before since, ingestedIds ops = before ++ event.eventId :: since ∧
        event.eventId ∉ since ∧ since.toFinset.card < cache.idempotency.value := by
  have hw := windows_run (C := C) cache startedAt ops
  rw [Replayed, and_iff_right hvalid, hw.seen.isSome_peek_iff, hw.seenCap, ids_answers]

theorem replayed_iff_withinWindow {ops : List StoreOp} {event : EventEnvelope}
    (hvalid : event.validate = .ok ()) (hold : event.eventId ∈ ingestedIds ops) :
    Replayed (run cache startedAt ops : StoreInner C) event ↔
      ∀ before since, ingestedIds ops = before ++ event.eventId :: since → event.eventId ∉ since →
        since.toFinset.card < cache.idempotency.value := by
  rw [replayed_run_iff cache startedAt hvalid]
  constructor
  · rintro ⟨before, since, hids, hlast, hcard⟩ before' since' hids' hlast'
    have hsplit : before ++ event.eventId :: since = (before' ++ [event.eventId]) ++ since' := by
      rw [← hids, hids', List.append_assoc, List.singleton_append]
    have hsub := subset_of_last_use hsplit hlast'
    refine (Finset.card_le_card fun id hid => ?_).trans_lt hcard
    exact List.mem_toFinset.2 (hsub (List.mem_toFinset.1 hid))
  · intro h
    obtain ⟨before, since, hids, hlast⟩ := Recency.exists_last_use hold
    exact ⟨before, since, hids, hlast, h before since hids hlast⟩

theorem revision_run_le (ops : List StoreOp) :
    (run cache startedAt ops : StoreInner C).revision ≤ ops.length := by
  induction ops using List.reverseRecOn with
  | nil => exact le_rfl
  | append_singleton ops op ih =>
    rw [run_concat, List.length_append, List.length_singleton]
    rcases step_cases (run cache startedAt ops : StoreInner C) op with
      ⟨-, hrevision, -⟩ | ⟨_, _, _, -, -, hrevision, -⟩
    · omega
    · rw [hrevision, U64.saturatingAdd]
      omega

theorem revision_step_fresh {inner : StoreInner C} {event : EventEnvelope}
    (hfresh : Fresh inner event) (hroom : inner.revision + 1 < 2 ^ 64) (transport : Transport)
    (receivedAt : DateTime) :
    (inner.step (.ingest event transport receivedAt)).revision = inner.revision + 1 := by
  rw [StoreInner.step, ingest_fresh_eq hfresh, revision_accept]
  exact U64.saturatingAdd_of_lt hroom

/-- While ids come again within the window, the store is that of the first deliveries; once one
does not, the store has counted an event twice and stays ahead. -/
theorem once_cases {ops : List StoreOp} (hlen : ops.length < 2 ^ 64) :
    (WithinWindow cache.idempotency.value (ingestedIds ops) ∧
      SameButWindow (run cache startedAt ops : StoreInner C)
        (run cache startedAt (firstDeliveries ops))) ∨
    (¬WithinWindow cache.idempotency.value (ingestedIds ops) ∧
      (run cache startedAt (firstDeliveries ops) : StoreInner C).revision <
        (run cache startedAt ops : StoreInner C).revision) := by
  induction ops using List.reverseRecOn with
  | nil =>
    refine .inl ⟨?_, .refl _⟩
    intro before id since rest heq
    simp [ingestedIds] at heq
  | append_singleton ops op ih =>
    rw [List.length_append, List.length_singleton] at hlen
    have hrevision := revision_run_le (C := C) cache startedAt ops
    have hrevision' := revision_run_le (C := C) cache startedAt (firstDeliveries ops)
    have ih := ih (by omega)
    have hids := ingestedIds_concat ops op
    cases delivered (C := C) cache startedAt ops op with
    | rejected transport hnone hstep hfirst =>
      rw [hnone, Option.toList_none, List.append_nil] at hids
      rw [hids, hfirst, hstep]
      rcases ih with ⟨hwithin, hsame⟩ | ⟨hwithin, hahead⟩
      · exact .inl ⟨hwithin, hsame.recordRejection transport⟩
      · exact .inr ⟨hwithin, hahead⟩
    | first event transport receivedAt hop hid hnew hfresh hfresh' hfirst =>
      rw [hid, Option.toList_some] at hids
      have hsplit : WithinWindow cache.idempotency.value (ingestedIds (ops ++ [op])) ↔
          WithinWindow cache.idempotency.value (ingestedIds ops) := by
        rw [hids, withinWindow_concat, and_iff_left_iff_imp]
        intro _ before since heq
        exact absurd (by simp [heq]) hnew
      rw [hsplit, hfirst, run_concat, run_concat, hop]
      rcases ih with ⟨hwithin, hsame⟩ | ⟨hwithin, hahead⟩
      · exact .inl ⟨hwithin, hsame.fresh hfresh hfresh' transport receivedAt⟩
      · refine .inr ⟨hwithin, ?_⟩
        rw [revision_step_fresh hfresh (by omega), revision_step_fresh hfresh' (by omega)]
        omega
    | again event transport receivedAt hop hid hvalid hold hfirst =>
      rw [hid, Option.toList_some] at hids
      have hsplit : WithinWindow cache.idempotency.value (ingestedIds (ops ++ [op])) ↔
          WithinWindow cache.idempotency.value (ingestedIds ops) ∧
            Replayed (run cache startedAt ops : StoreInner C) event := by
        rw [hids, withinWindow_concat, replayed_iff_withinWindow cache startedAt hvalid hold]
      rw [hsplit, hfirst, run_concat, hop]
      by_cases hreplayed : Replayed (run cache startedAt ops : StoreInner C) event
      · have hinert := (inert_of_replayed hreplayed transport receivedAt).revision
        rcases ih with ⟨hwithin, hsame⟩ | ⟨hwithin, hahead⟩
        · exact .inl ⟨⟨hwithin, hreplayed⟩, hsame.replayed hreplayed transport receivedAt⟩
        · refine .inr ⟨fun h => hwithin h.1, ?_⟩
          rw [StoreInner.step, hinert]
          exact hahead
      · have hfresh : Fresh (run cache startedAt ops : StoreInner C) event := by
          refine ⟨hvalid, ?_⟩
          by_contra hseen
          exact hreplayed ⟨hvalid, Option.isSome_iff_ne_none.2 hseen⟩
        refine .inr ⟨fun h => hreplayed h.2, ?_⟩
        rw [revision_step_fresh hfresh (by omega)]
        rcases ih with ⟨-, hsame⟩ | ⟨-, hahead⟩
        · obtain ⟨ledger, heq, -⟩ := hsame.ledger
          rw [heq]
          exact Nat.lt_succ_self _
        · omega

/-- Delivering events at least once comes to delivering them exactly once, if and only if every id
that comes again does so within the window: the store is then that of the first deliveries alone,
but for the ids its window holds and the duplicates and rejections it counted. -/
theorem redelivered_once_iff (ops : List StoreOp) (hlen : ops.length < 2 ^ 64) :
    (firstDeliveries ops).Sublist ops ∧ (ingestedIds (firstDeliveries ops)).Nodup ∧
    (∀ id, id ∈ ingestedIds (firstDeliveries ops) ↔ id ∈ ingestedIds ops) ∧
    (WithinWindow cache.idempotency.value (ingestedIds ops) ↔
      (run cache startedAt (firstDeliveries ops) : StoreInner C).revision =
        (run cache startedAt ops : StoreInner C).revision) ∧
    (WithinWindow cache.idempotency.value (ingestedIds ops) →
      SameButWindow (run cache startedAt ops : StoreInner C)
        (run cache startedAt (firstDeliveries ops)) ∧
      ∀ now, snapshot (run cache startedAt (firstDeliveries ops) : StoreInner C) now =
        { snapshot (run cache startedAt ops : StoreInner C) now with
          counters := (run cache startedAt (firstDeliveries ops) : StoreInner C).counters }) := by
  refine ⟨sublist_firstDeliveries ops, nodup_firstDeliveries ops,
    fun id => mem_ingestedIds_firstDeliveries, ?_, ?_⟩
  · rcases once_cases (C := C) cache startedAt hlen with ⟨hwithin, hsame⟩ | ⟨hwithin, hahead⟩
    · refine iff_of_true hwithin ?_
      obtain ⟨ledger, heq, -⟩ := hsame.ledger
      rw [heq]
      rfl
    · exact iff_of_false hwithin (Nat.ne_of_lt hahead)
  · intro hwithin
    rcases once_cases (C := C) cache startedAt hlen with ⟨-, hsame⟩ | ⟨hnot, -⟩
    · exact ⟨hsame, hsame.snapshot_eq⟩
    · exact absurd hwithin hnot

end Runs

/-- The first event is sent again while the window of two ids still has it. -/
theorem redelivered_once_resent :
    snapshot (run Sample.cache (Sample.instant 0)
        [Sample.ingestAt 1 1 (Sample.created "a"), Sample.ingestAt 2 2 (Sample.started "a")] :
        StoreInner RecencyCache) (Sample.instant 4) =
      { snapshot (run Sample.cache (Sample.instant 0)
          [Sample.ingestAt 1 1 (Sample.created "a"), Sample.ingestAt 2 2 (Sample.started "a"),
            Sample.ingestAt 1 1 (Sample.created "a")] : StoreInner RecencyCache)
          (Sample.instant 4) with
        counters := (run Sample.cache (Sample.instant 0)
          [Sample.ingestAt 1 1 (Sample.created "a"), Sample.ingestAt 2 2 (Sample.started "a")] :
          StoreInner RecencyCache).counters } := by
  obtain ⟨-, -, -, hiff, hsame⟩ := redelivered_once_iff (C := RecencyCache) Sample.cache
    (Sample.instant 0)
    [Sample.ingestAt 1 1 (Sample.created "a"), Sample.ingestAt 2 2 (Sample.started "a"),
      Sample.ingestAt 1 1 (Sample.created "a")] (by decide)
  exact (hsame (hiff.2 (by decide))).2 (Sample.instant 4)

end ControlPlane
