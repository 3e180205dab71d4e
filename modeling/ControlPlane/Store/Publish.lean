import ControlPlane.Store.Hub

/-! What concurrent ingests broadcast: one update for every event accepted as new, whose
revision no later snapshot falls short of. -/

namespace ControlPlane

open Broadcast (sent send)
open LruCache (peek)

def StoreUpdate.ack (update : StoreUpdate) : IngestAck where
  accepted := true
  duplicate := false
  eventId := update.eventId
  revision := update.revision
  transport := update.transport
  receivedAt := update.receivedAt

namespace Hub

def locks (moves : List Move) : List StoreOp :=
  moves.filterMap fun
    | .locked op => some op
    | .send _ => none

section Publish

variable {C : Type → Type → Type} [LruCache C] [CounterArith] {S : Type → Type} [Broadcast S]

def accepted (hub : Hub C S) : Move → List IngestAck
  | .locked (.ingest event transport receivedAt) =>
    match (ingest hub.inner event transport receivedAt).2 with
    | .ok ingested => if ingested.ack.duplicate then [] else [ingested.ack]
    | .error _ => []
  | .locked (.recordRejection _) => []
  | .send _ => []

theorem inner_after (hub : Hub C S) (moves : List Move) :
    (Run.after step hub moves).inner = Run.after StoreInner.step hub.inner (locks moves) := by
  induction moves generalizing hub with
  | nil => rfl
  | cons m moves ih =>
    rw [Run.after_cons, ih]
    cases m with
    | locked op => rfl
    | send update =>
      rw [step]
      split
      · rfl
      · rfl

variable [LawfulLruCache C]

omit [Broadcast S] in
theorem accepted_locked (hub : Hub C S) (op : StoreOp) :
    hub.accepted (.locked op) = ((hub.inner.updateOf op).map StoreUpdate.ack).toList := by
  cases op with
  | recordRejection transport => rfl
  | ingest event transport receivedAt =>
    by_cases hfresh : Fresh hub.inner event
    · simp only [accepted, StoreInner.updateOf]
      rw [ingest_fresh_eq hfresh]
      rfl
    · have hanswer := (ingest_of_not_fresh hfresh transport receivedAt).answer
      rw [updateOf_of_not_fresh hfresh, accepted]
      cases he : (ingest hub.inner event transport receivedAt).2 with
      | error error => rfl
      | ok ingested => exact if_pos (hanswer ingested he).1

variable [LawfulBroadcast S]

/-- Sent or not, the updates made so far are those of the accepted events, and the revisions
count them until the counter saturates. -/
structure Published (accepts : List IngestAck) (hub : Hub C S) : Prop where
  acks : (hub.issued.map StoreUpdate.ack).Perm accepts
  revision : hub.inner.revision = min U64.MAX accepts.length
  revisions : (hub.issued.map StoreUpdate.revision).Perm
    ((List.range' 1 accepts.length).map (min U64.MAX))

namespace Published

variable {accepts : List IngestAck} {hub : Hub C S}

omit [CounterArith] [LawfulLruCache C] in
theorem start (cache : CacheConfig) (updateChannelCapacity : Nat) (startedAt : DateTime) :
    Published [] (new cache updateChannelCapacity startedAt : Hub C S) := by
  have hissued : issued (new cache updateChannelCapacity startedAt : Hub C S) = [] := by
    rw [issued, new, LawfulBroadcast.sent_channel, List.append_nil]
  constructor
  · rw [hissued]
    exact List.Perm.nil
  · rfl
  · rw [hissued]
    exact List.Perm.nil

theorem step (h : Published accepts hub) (m : Move) :
    Published (accepts ++ hub.accepted m) (hub.step m) := by
  rcases hub.step_cases m with ⟨op, rfl, hnone, hs, hr⟩ | ⟨op, update, rfl, hsome, hs, hu, hr⟩ |
    ⟨update, rfl, hmem, hs⟩ | ⟨update, rfl, -, hs⟩
  · -- the call broadcasts nothing
    have haccepted : hub.accepted (.locked op) = [] := by
      rw [accepted_locked, hnone]
      rfl
    rw [haccepted, List.append_nil, hs]
    exact ⟨h.acks, hr.trans h.revision, h.revisions⟩
  · have haccepted : hub.accepted (.locked op) = [update.ack] := by
      rw [accepted_locked, hsome]
      rfl
    have hissued : issued { hub with
        inner := hub.inner.step op, pending := hub.pending ++ [update] } =
          hub.issued ++ [update] := (List.append_assoc _ _ _).symm
    have hrevision : (hub.inner.step op).revision = min U64.MAX (accepts.length + 1) := by
      rw [hr, h.revision, U64.saturatingAdd]
      omega
    rw [haccepted, hs]
    constructor
    · rw [hissued, List.map_append]
      exact h.acks.append_right _
    · rw [List.length_append]
      exact hrevision
    · rw [hissued, List.map_append, List.length_append, List.length_singleton, List.range'_concat,
        List.map_append, List.map_singleton, List.map_singleton, hu, hrevision, Nat.one_mul,
        Nat.add_comm 1]
      exact h.revisions.append_right _
  · have hissued : (issued { hub with
        pending := hub.pending.erase update, updates := send hub.updates update }).Perm
          hub.issued := by
      rw [issued, issued, LawfulBroadcast.sent_send, List.append_assoc]
      exact (List.perm_cons_erase hmem).symm.append_left _
    rw [accepted, List.append_nil, hs]
    exact ⟨(hissued.map _).trans h.acks, h.revision, (hissued.map _).trans h.revisions⟩
  · rw [accepted, List.append_nil, hs]
    exact h

theorem run (cache : CacheConfig) (updateChannelCapacity : Nat) (startedAt : DateTime)
    (moves : List Move) :
    Published
      (Run.emitted accepted Hub.step
        (new cache updateChannelCapacity startedAt : Hub C S) moves)
      (Run.after Hub.step (new cache updateChannelCapacity startedAt : Hub C S) moves) :=
  Run.invariant_emitted (P := Published) (fun _ _ m h => h.step m) (.start cache updateChannelCapacity startedAt)
    moves

end Published

end Publish

section Reflected

variable {C : Type → Type → Type} [LruCache C] [CounterArith]

/-- The update comes from the acceptance of an event, and the store has only moved on since. -/
def Reflected (cache : CacheConfig) (startedAt : DateTime) (ops : List StoreOp)
    (inner : StoreInner C) (update : StoreUpdate) : Prop :=
  ∃ before event transport receivedAt later,
    ops = before ++ .ingest event transport receivedAt :: later ∧
    (run cache startedAt before : StoreInner C).updateOf (.ingest event transport receivedAt) =
      some update ∧
    inner = Run.after StoreInner.step
      (accept { (run cache startedAt before : StoreInner C) with
        seenEventIds := (LruCache.get
          (run cache startedAt before : StoreInner C).seenEventIds event.eventId).2 }
        event transport receivedAt) later

variable {cache : CacheConfig} {startedAt : DateTime} {ops : List StoreOp} {inner : StoreInner C}
  {update : StoreUpdate}

theorem Reflected.step (h : Reflected cache startedAt ops inner update) (op : StoreOp) :
    Reflected cache startedAt (ops ++ [op]) (inner.step op) update := by
  obtain ⟨before, event, transport, receivedAt, later, rfl, hupdate, rfl⟩ := h
  refine ⟨before, event, transport, receivedAt, later ++ [op], ?_, hupdate, ?_⟩
  · rw [List.append_assoc, List.cons_append]
  · rw [Run.after_append]
    rfl

variable [LawfulLruCache C]

theorem reflected_accept
    (h : (run cache startedAt ops : StoreInner C).updateOf op = some update) :
    Reflected cache startedAt (ops ++ [op]) ((run cache startedAt ops : StoreInner C).step op)
      update := by
  rcases ControlPlane.step_cases (run cache startedAt ops : StoreInner C) op with
    ⟨hnone, -⟩ | ⟨event, transport, receivedAt, rfl, hfresh, -⟩
  · rw [hnone] at h
    cases h
  · refine ⟨ops, event, transport, receivedAt, [], rfl, h, ?_⟩
    rw [StoreInner.step, ingest_fresh_eq hfresh]
    rfl

variable {S : Type → Type} [Broadcast S] [LawfulBroadcast S]

omit [LawfulLruCache C] [LawfulBroadcast S] in
theorem inner_run (cache : CacheConfig) (updateChannelCapacity : Nat) (startedAt : DateTime)
    (moves : List Move) :
    (Run.after step (new cache updateChannelCapacity startedAt : Hub C S) moves).inner =
      run cache startedAt (locks moves) :=
  inner_after _ moves

theorem reflected_run (updateChannelCapacity : Nat) (moves : List Move)
    (h : update ∈
      (Run.after step (new cache updateChannelCapacity startedAt : Hub C S) moves).issued) :
    Reflected cache startedAt (locks moves) (run cache startedAt (locks moves) : StoreInner C)
      update := by
  induction moves using List.reverseRecOn with
  | nil =>
    rw [Run.after_nil, issued, new, LawfulBroadcast.sent_channel] at h
    cases h
  | append_singleton moves m ih =>
    have hinner : (Run.after step (new cache updateChannelCapacity startedAt : Hub C S) moves).inner =
      run cache startedAt (locks moves) := inner_run cache updateChannelCapacity startedAt moves
    rw [Run.after_append, Run.after_cons, Run.after_nil] at h
    generalize Run.after step (new cache updateChannelCapacity startedAt : Hub C S) moves = hub
      at h ih hinner
    rw [locks, List.filterMap_append]
    cases m with
    | locked op =>
      rw [List.filterMap_cons, List.filterMap_nil, ← locks, run_concat]
      rw [issued, step, ← List.append_assoc, List.mem_append] at h
      cases h with
      | inl hbefore => exact (ih hbefore).step op
      | inr hnew =>
        rw [hinner, Option.mem_toList] at hnew
        exact reflected_accept hnew
    | send sending =>
      rw [List.filterMap_cons, List.filterMap_nil, List.append_nil, ← locks]
      apply ih
      rw [step] at h
      split at h
      · next hmem =>
        rw [issued, LawfulBroadcast.sent_send, List.append_assoc] at h
        exact ((List.perm_cons_erase hmem).symm.append_left _).mem_iff.mp h
      · exact h

/-- Once every ingest has returned, the events accepted as new have been broadcast, each once,
and nothing else has; the revisions count them.  A snapshot taken after an update was sent has at
least its revision and a state that follows from the acceptance of its event. -/
theorem published_once (cache : CacheConfig) (updateChannelCapacity : Nat) (startedAt : DateTime)
    (moves : List Move) :
    let opened : Hub C S := new cache updateChannelCapacity startedAt
    let hub := Run.after step opened moves
    let accepts := Run.emitted accepted step opened moves
    (hub.pending = [] →
      ((sent hub.updates).map StoreUpdate.ack).Perm accepts ∧
      (accepts.length < 2 ^ 64 →
        ((sent hub.updates).map StoreUpdate.revision).Perm (List.range' 1 accepts.length))) ∧
    ∀ update ∈ sent hub.updates,
      (∀ generatedAt, update.revision ≤ (snapshot hub.inner generatedAt).revision) ∧
      Reflected cache startedAt (locks moves) hub.inner update := by
  intro opened hub accepts
  have hpublished : Published accepts hub := .run cache updateChannelCapacity startedAt moves
  have hnumbered : hub.Numbered := numbered cache updateChannelCapacity startedAt moves
  constructor
  · intro hpending
    have hissued : hub.issued = sent hub.updates := by rw [issued, hpending, List.append_nil]
    rw [← hissued]
    refine ⟨hpublished.acks, fun hfew => ?_⟩
    have hmax : (List.range' 1 accepts.length).map (min U64.MAX) = List.range' 1 accepts.length := by
      refine (List.map_congr_left fun revision hr => ?_).trans (List.map_id _)
      rw [List.mem_range'_1] at hr
      apply min_eq_right
      rw [U64.MAX]
      omega
    rw [← hmax]
    exact hpublished.revisions
  · intro update hsent
    have hmem : update ∈ hub.issued := List.mem_append_left _ hsent
    refine ⟨fun _ => hnumbered.revision_le update hmem, ?_⟩
    rw [inner_run cache updateChannelCapacity startedAt moves]
    exact reflected_run updateChannelCapacity moves hmem

end Reflected

end Hub

namespace Sample

def crossed : List Hub.Move :=
  [.locked (ingestAt 1 1 (created "a")), .locked (ingestAt 2 2 (started "a")), .send second,
    .send first, .locked (ingestAt 1 3 (created "a")), .locked (.recordRejection .http)]

end Sample

theorem Hub.published_once_crossed :
    ((sent (Run.after step
        (new Sample.cache 8 (Sample.instant 0) : Hub RecencyCache LogChannel)
        Sample.crossed).updates).map StoreUpdate.revision).Perm (List.range' 1 2) := by
  have hpublished := published_once (C := RecencyCache) (S := LogChannel) Sample.cache 8
    (Sample.instant 0) Sample.crossed
  exact (hpublished.1 (by decide)).2 (by decide)

namespace Sample

def eventId (i : Nat) : Uuid := BitVec.ofNat 128 (i + 1)

def busy (i : Nat) : StoreOp := ingestAt (eventId i) 1 (created "a")

def busyUpdate (i : Nat) : StoreUpdate :=
  (envelope (eventId i) 1 (created "a")).updateAt (min U64.MAX (i + 1)) .http (instant 1)

def storm (n : Nat) : List Hub.Move :=
  (List.range n).flatMap fun i => [.locked (busy i), .send (busyUpdate i)]

def stormed (n : Nat) : Hub RecencyCache LogChannel :=
  Run.after Hub.step (.new cache 8 (instant 0)) (storm n)

theorem storm_succ (n : Nat) :
    storm (n + 1) = storm n ++ [.locked (busy n), .send (busyUpdate n)] := by
  rw [storm, List.range_succ, List.flatMap_append, List.flatMap_singleton, storm]

theorem locks_storm (n : Nat) : Hub.locks (storm n) = (List.range n).map busy := by
  induction n with
  | zero => rfl
  | succ n ih =>
    rw [storm_succ, Hub.locks, List.filterMap_append, ← Hub.locks, ih, List.range_succ,
      List.map_append]
    rfl

theorem toNat_eventId {i : Nat} (hi : i < 2 ^ 65) : (eventId i).toNat = i + 1 := by
  rw [eventId, BitVec.toNat_ofNat]
  omega

theorem validate_busy {i : Nat} (hi : i < 2 ^ 65) :
    (envelope (eventId i) 1 (created "a")).validate = .ok () := by
  have hnil : (envelope (eventId i) 1 (created "a")).eventId.isNil = false := by
    rw [Uuid.isNil, beq_eq_false_iff_ne]
    intro hzero
    have htoNat := (toNat_eventId hi).symm.trans (congrArg BitVec.toNat hzero)
    exact absurd htoNat (Nat.succ_ne_zero i)
  rw [EventEnvelope.validate, hnil]
  exact (by decide : (envelope 1 1 (created "a")).validate = .ok ())

theorem fresh_busy {n : Nat} (hn : n < 2 ^ 65) :
    Fresh (run cache (instant 0) ((List.range n).map busy) : StoreInner RecencyCache)
      (envelope (eventId n) 1 (created "a")) := by
  apply fresh_of_new
  · exact validate_busy hn
  · rw [ingestedIds, List.filterMap_map, List.mem_filterMap]
    rintro ⟨i, hi, hid⟩
    rw [List.mem_range] at hi
    have hvalid := EventEnvelope.isValid_iff.mpr (validate_busy (hi.trans hn))
    have heq : eventId i = eventId n := by
      rw [Function.comp_apply, busy, ingestAt, StoreOp.ingestedId, if_pos hvalid] at hid
      exact Option.some.inj hid
    have htoNat := congrArg BitVec.toNat heq
    rw [toNat_eventId (hi.trans hn), toNat_eventId hn] at htoNat
    omega

theorem fresh_storm {n : Nat} (hn : n < 2 ^ 64) :
    Fresh (stormed n).inner (envelope (eventId n) 1 (created "a")) := by
  rw [stormed, Hub.inner_run, locks_storm]
  exact fresh_busy (hn.trans (by decide))

theorem stormed_succ (n : Nat) :
    stormed (n + 1) = ((stormed n).step (.locked (busy n))).step (.send (busyUpdate n)) := by
  rw [stormed, storm_succ, Run.after_append]
  rfl

theorem stormed_eq {n : Nat} (hn : n ≤ 2 ^ 64) :
    (stormed n).pending = [] ∧ (stormed n).inner.revision = min U64.MAX n ∧
      sent (stormed n).updates = (List.range n).map busyUpdate := by
  induction n with
  | zero => exact ⟨rfl, rfl, rfl⟩
  | succ n ih =>
    obtain ⟨hpending, hrevision, hsent⟩ := ih (by omega)
    have hfresh := ingest_fresh_eq (fresh_storm hn) .http (instant 1)
    have hnext : U64.saturatingAdd (stormed n).inner.revision 1 = min U64.MAX (n + 1) := by
      rw [hrevision, U64.saturatingAdd]
      omega
    have hlocked : (stormed n).step (.locked (busy n)) =
        { stormed n with
          inner := (stormed n).inner.step (busy n)
          pending := [busyUpdate n] } := by
      rw [Hub.step, hpending, busy, ingestAt, StoreInner.updateOf, hfresh, hnext]
      rfl
    rw [stormed_succ, hlocked, Hub.step, if_pos List.mem_cons_self]
    refine ⟨?_, ?_, ?_⟩
    · exact List.erase_cons_head _ _
    · rw [busy, ingestAt, StoreInner.step, hfresh, revision_accept]
      exact hnext
    · rw [LawfulBroadcast.sent_send, hsent, List.range_succ, List.map_append, List.map_singleton]

theorem not_numbered_stormed {n : Nat} (hmax : U64.MAX < n) (hn : n ≤ 2 ^ 64) (m : Nat) :
    ¬((sent (stormed n).updates).map StoreUpdate.revision).Perm (List.range' 1 m) := by
  intro hperm
  rw [(stormed_eq hn).2.2, List.map_map] at hperm
  have hnodup := hperm.nodup_iff.mpr List.nodup_range'
  have hsame : (StoreUpdate.revision ∘ busyUpdate) (n - 2) =
      (StoreUpdate.revision ∘ busyUpdate) (n - 1) := by
    change min U64.MAX (n - 2 + 1) = min U64.MAX (n - 1 + 1)
    omega
  have hpos : 1 < n := lt_of_le_of_lt (by decide) hmax
  have hinj := List.inj_on_of_nodup_map hnodup (List.mem_range.mpr (by omega))
    (List.mem_range.mpr (by omega)) hsame
  omega

theorem not_numbered {n : Nat} (hmax : U64.MAX < n) (hn : n ≤ 2 ^ 64) :
    ¬∀ moves : List Hub.Move,
      let hub : Hub RecencyCache LogChannel :=
        Run.after Hub.step (.new cache 8 (instant 0)) moves
      hub.pending = [] →
        ∃ m, ((sent hub.updates).map StoreUpdate.revision).Perm (List.range' 1 m) := by
  intro h
  obtain ⟨m, hperm⟩ := h (storm n) (stormed_eq hn).1
  exact not_numbered_stormed hmax hn m hperm

/-- The counter saturates: of 2^64 updates the last two have the same revision. -/
theorem revisions_repeat : ¬∀ moves : List Hub.Move,
    let hub : Hub RecencyCache LogChannel :=
      Run.after Hub.step (.new cache 8 (instant 0)) moves
    hub.pending = [] →
      ∃ n, ((sent hub.updates).map StoreUpdate.revision).Perm (List.range' 1 n) :=
  not_numbered (Nat.lt_succ_self U64.MAX) (Nat.le_refl (2 ^ 64))

end Sample

end ControlPlane
