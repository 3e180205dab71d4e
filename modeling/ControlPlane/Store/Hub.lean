import ControlPlane.Lib.Broadcast
import ControlPlane.Lib.Run
import ControlPlane.Store.Revision

/-! The store as its callers share it: an ingest first changes the projection under the write
lock and, after releasing it, sends its update to the subscribers. -/

namespace ControlPlane

open Broadcast (channel send sent)

/-- `pending` are the updates of ingests that have released the lock and not yet sent. -/
structure Hub (C : Type → Type → Type) (S : Type → Type) where
  inner : StoreInner C
  pending : List StoreUpdate
  updates : S StoreUpdate

namespace Hub

/-- What concurrent callers do, one atomic step at a time; readers change nothing. -/
inductive Move
  | locked (op : StoreOp)
  | send (update : StoreUpdate)

section Issued

variable {C : Type → Type → Type} {S : Type → Type} [Broadcast S]

def issued (hub : Hub C S) : List StoreUpdate := sent hub.updates ++ hub.pending

/-- While the revision has not reached its maximum, the updates made so far have the revisions
from one to the current one, each once. -/
structure Numbered (hub : Hub C S) : Prop where
  bounded : hub.inner.revision ≤ U64.MAX
  revision_le : ∀ update ∈ hub.issued, update.revision ≤ hub.inner.revision
  perm : hub.inner.revision < U64.MAX →
    (hub.issued.map StoreUpdate.revision).Perm (List.range' 1 hub.inner.revision)

def since (hub : Hub C S) (i : Nat) : List StoreUpdate := (sent hub.updates).drop i

def InOrder (i : Nat) (hub : Hub C S) : Prop :=
  (hub.since i).Pairwise (fun a b => a.revision < b.revision) ∧
    ∀ a ∈ hub.since i, ∀ b ∈ hub.pending, a.revision < b.revision

def Disordered (i : Nat) (hub : Hub C S) : Prop :=
  ¬(hub.since i).Pairwise (fun a b => a.revision < b.revision) ∨
    ∃ late ∈ hub.since i, ∃ early ∈ hub.pending, early.revision < late.revision

theorem mem_issued_of_since {hub : Hub C S} {i : Nat} {update : StoreUpdate}
    (h : update ∈ hub.since i) : update ∈ hub.issued :=
  List.mem_append_left _ (List.mem_of_mem_drop h)

theorem mem_issued_of_pending {hub : Hub C S} {update : StoreUpdate} (h : update ∈ hub.pending) :
    update ∈ hub.issued :=
  List.mem_append_right _ h

namespace Numbered

variable {hub : Hub C S} (h : Numbered hub) (hlt : hub.inner.revision < U64.MAX)
include h hlt

theorem nodup : (hub.issued.map StoreUpdate.revision).Nodup :=
  (h.perm hlt).nodup_iff.mpr List.nodup_range'

theorem eq_of_revision {a b : StoreUpdate} (ha : a ∈ hub.issued) (hb : b ∈ hub.issued)
    (hab : a.revision = b.revision) : a = b :=
  List.inj_on_of_nodup_map (h.nodup hlt) ha hb hab

end Numbered

end Issued

section Hub

variable {C : Type → Type → Type} [LruCache C] {S : Type → Type} [Broadcast S]

def new (cache : CacheConfig) (updateChannelCapacity : Nat) (startedAt : DateTime) : Hub C S where
  inner := .new cache startedAt
  pending := []
  updates := channel updateChannelCapacity

variable [CounterArith]

def step (hub : Hub C S) : Move → Hub C S
  | .locked op =>
    { hub with
      inner := hub.inner.step op
      pending := hub.pending ++ (hub.inner.updateOf op).toList }
  | .send update =>
    if update ∈ hub.pending then
      { hub with
        pending := hub.pending.erase update
        updates := send hub.updates update }
    else hub

/-- The send of an update while one with a smaller revision is still to be sent. -/
def Overtakes (hub : Hub C S) : Move → Prop
  | .locked _ => False
  | .send update =>
    update ∈ hub.pending ∧ ∃ earlier ∈ hub.pending, earlier.revision < update.revision

instance (hub : Hub C S) (m : Move) : Decidable (hub.Overtakes m) :=
  match m with
  | .locked _ => inferInstanceAs (Decidable False)
  | .send _ => inferInstanceAs (Decidable (_ ∧ _))

variable [LawfulLruCache C] [LawfulBroadcast S]

open LawfulBroadcast

omit [LawfulBroadcast S] in
theorem step_cases (hub : Hub C S) (m : Move) :
    (∃ op, m = .locked op ∧ hub.inner.updateOf op = none ∧ hub.step m =
      { hub with inner := hub.inner.step op } ∧
        (hub.inner.step op).revision = hub.inner.revision) ∨
    (∃ op update, m = .locked op ∧ hub.inner.updateOf op = some update ∧ hub.step m =
      { hub with inner := hub.inner.step op, pending := hub.pending ++ [update] } ∧
        update.revision = (hub.inner.step op).revision ∧
        (hub.inner.step op).revision = U64.saturatingAdd hub.inner.revision 1) ∨
    (∃ update, m = .send update ∧ update ∈ hub.pending ∧ hub.step m =
      { hub with pending := hub.pending.erase update, updates := send hub.updates update }) ∨
    (∃ update, m = .send update ∧ update ∉ hub.pending ∧ hub.step m = hub) := by
  cases m with
  | locked op =>
    rcases ControlPlane.step_cases hub.inner op with
      ⟨hnone, hr, -⟩ | ⟨event, transport, receivedAt, -, -, hr, hsome, -⟩
    · refine .inl ⟨op, rfl, hnone, ?_, hr⟩
      simp only [step, hnone, Option.toList_none, List.append_nil]
    · refine .inr (.inl ⟨op, _, rfl, hsome, ?_, rfl, hr⟩)
      simp only [step, hsome, Option.toList_some]
  | send update =>
    by_cases h : update ∈ hub.pending
    · exact .inr (.inr (.inl ⟨update, rfl, h, if_pos h⟩))
    · exact .inr (.inr (.inr ⟨update, rfl, h, if_neg h⟩))

omit [LawfulLruCache C] [CounterArith] in
theorem Numbered.start (cache : CacheConfig) (updateChannelCapacity : Nat) (startedAt : DateTime) :
    Numbered (new cache updateChannelCapacity startedAt : Hub C S) where
  bounded := Nat.zero_le _
  revision_le := by
    rw [issued, new, sent_channel]
    exact nofun
  perm _ := by
    rw [issued, new, sent_channel]
    exact List.Perm.nil

theorem Numbered.step {hub : Hub C S} (h : Numbered hub) (m : Move) : Numbered (hub.step m) := by
  rcases hub.step_cases m with ⟨op, -, -, hs, hr⟩ | ⟨op, update, -, -, hs, hu, hr⟩ |
    ⟨update, -, hm, hs⟩ | ⟨update, -, -, hs⟩ <;> rw [hs]
  · exact ⟨hr ▸ h.bounded, fun u hu => hr ▸ h.revision_le u hu, fun hlt => hr ▸ h.perm (hr ▸ hlt)⟩
  · have hissued : issued { hub with
        inner := hub.inner.step op, pending := hub.pending ++ [update] } =
          hub.issued ++ [update] := (List.append_assoc _ _ _).symm
    have hle := revision_le_step hub.inner op h.bounded
    refine ⟨hle.2, fun u hmem => ?_, fun hlt => ?_⟩
    · rw [hissued] at hmem
      rcases List.mem_append.mp hmem with hmem | hmem
      · exact (h.revision_le u hmem).trans hle.1
      · obtain rfl := List.mem_singleton.mp hmem
        exact hu.le
    · have hrev : (hub.inner.step op).revision = hub.inner.revision + 1 := by
        rw [hr] at hlt ⊢
        simp only [U64.saturatingAdd] at hlt ⊢
        omega
      rw [hissued, List.map_append, List.map_cons, List.map_nil, hu, hrev, List.range'_concat,
        Nat.one_mul, Nat.add_comm 1]
      exact (h.perm (hle.1.trans_lt hlt)).append_right _
  · have hissued : (issued { hub with
        pending := hub.pending.erase update, updates := send hub.updates update }).Perm
          hub.issued := by
      rw [issued, issued, sent_send, List.append_assoc]
      exact (List.perm_cons_erase hm).symm.append_left _
    exact ⟨h.bounded, fun u hmem => h.revision_le u (hissued.mem_iff.mp hmem),
      fun hlt => (hissued.map _).trans (h.perm hlt)⟩
  · exact h

theorem numbered (cache : CacheConfig) (updateChannelCapacity : Nat) (startedAt : DateTime)
    (moves : List Move) :
    Numbered (Run.after step (new cache updateChannelCapacity startedAt : Hub C S) moves) :=
  Run.invariant (fun _ m h => h.step m) (.start cache updateChannelCapacity startedAt) moves

omit [LawfulBroadcast S] in
theorem revision_mono (hub : Hub C S) (h : hub.inner.revision ≤ U64.MAX) (m : Move) :
    hub.inner.revision ≤ (hub.step m).inner.revision := by
  rcases hub.step_cases m with ⟨op, -, -, hs, hr⟩ | ⟨op, update, -, -, hs, -, -⟩ |
    ⟨update, -, -, hs⟩ | ⟨update, -, -, hs⟩
  · rw [hs]
    exact hr.ge
  · rw [hs]
    exact (revision_le_step hub.inner op h).1
  · rw [hs]
  · rw [hs]

theorem sent_step (hub : Hub C S) (m : Move) :
    ∃ news, sent (hub.step m).updates = sent hub.updates ++ news := by
  rcases hub.step_cases m with ⟨op, -, -, hs, -⟩ | ⟨op, update, -, -, hs, -, -⟩ |
    ⟨update, -, -, hs⟩ | ⟨update, -, -, hs⟩ <;> rw [hs]
  · exact ⟨[], (List.append_nil _).symm⟩
  · exact ⟨[], (List.append_nil _).symm⟩
  · exact ⟨[update], sent_send hub.updates update⟩
  · exact ⟨[], (List.append_nil _).symm⟩

omit [LruCache C] [CounterArith] [LawfulLruCache C] in
theorem since_send {hub : Hub C S} {i : Nat} (hi : i ≤ (sent hub.updates).length)
    (update : StoreUpdate) (pending : List StoreUpdate) :
    since { hub with pending, updates := send hub.updates update } i =
      hub.since i ++ [update] := by
  rw [since, sent_send, List.drop_append_of_le_length hi, since]

theorem InOrder.step {i : Nat} {hub : Hub C S} (h : InOrder i hub) (hn : hub.Numbered)
    (hi : i ≤ (sent hub.updates).length) {m : Move} (hm : ¬hub.Overtakes m)
    (hlt : (hub.step m).inner.revision < U64.MAX) : InOrder i (hub.step m) := by
  have hprev := (hub.revision_mono hn.bounded m).trans_lt hlt
  rcases hub.step_cases m with ⟨op, -, -, hs, -⟩ | ⟨op, update, -, -, hs, hu, hr⟩ |
    ⟨update, rfl, hpending, hs⟩ | ⟨update, -, -, hs⟩ <;> rw [hs] at hlt ⊢
  · exact h
  · refine ⟨h.1, fun a ha b hb => ?_⟩
    rcases List.mem_append.mp hb with hb | hb
    · exact h.2 a ha b hb
    · -- the new update has the revision after all earlier ones
      obtain rfl := List.mem_singleton.mp hb
      have hle := hn.revision_le a (mem_issued_of_since ha)
      rw [hu, hr, U64.saturatingAdd]
      exact lt_min (Nat.lt_succ_of_le hle) (hle.trans_lt hprev)
  · have hleast : ∀ b ∈ hub.pending.erase update, update.revision < b.revision := by
      intro b hb
      have hmem := List.mem_of_mem_erase hb
      refine lt_of_le_of_ne (not_lt.mp fun hlt => hm ⟨hpending, b, hmem, hlt⟩) fun heq => ?_
      obtain rfl := hn.eq_of_revision hprev (mem_issued_of_pending hpending)
        (mem_issued_of_pending hmem) heq
      have hnodup : hub.pending.Nodup :=
        (List.Nodup.of_map _ (hn.nodup hprev)).sublist (List.sublist_append_right _ _)
      exact hnodup.not_mem_erase hb
    rw [InOrder, since_send hi]
    refine ⟨List.pairwise_append.mpr ⟨h.1, List.pairwise_singleton _ _, ?_⟩, ?_⟩
    · intro a ha b hb
      obtain rfl := List.mem_singleton.mp hb
      exact h.2 a ha _ hpending
    · intro a ha b hb
      rcases List.mem_append.mp ha with ha | ha
      · exact h.2 a ha b (List.mem_of_mem_erase hb)
      · obtain rfl := List.mem_singleton.mp ha
        exact hleast b hb
  · exact h

omit [LawfulLruCache C] in
theorem Disordered.of_overtakes {i : Nat} {hub : Hub C S} (hi : i ≤ (sent hub.updates).length)
    {m : Move} (hm : hub.Overtakes m) : Disordered i (hub.step m) := by
  cases m with
  | locked op => exact hm.elim
  | send update =>
    obtain ⟨hpending, early, hearly, hlt⟩ := hm
    have hne : early ≠ update := by
      rintro rfl
      exact lt_irrefl _ hlt
    rw [step, if_pos hpending, Disordered, since_send hi]
    exact .inr ⟨update, by simp, early, (List.mem_erase_of_ne hne).mpr hearly, hlt⟩

theorem Disordered.step {i : Nat} {hub : Hub C S} (h : Disordered i hub)
    (hi : i ≤ (sent hub.updates).length) (m : Move) : Disordered i (hub.step m) := by
  rcases hub.step_cases m with ⟨op, -, -, hs, -⟩ | ⟨op, update, -, -, hs, -, -⟩ |
    ⟨update, -, hpending, hs⟩ | ⟨update, -, -, hs⟩ <;> rw [hs]
  · exact h
  · refine h.imp (fun hp => hp) ?_
    rintro ⟨late, hlate, early, hearly, hlt⟩
    exact ⟨late, hlate, early, List.mem_append_left _ hearly, hlt⟩
  · rw [Disordered, since_send hi, List.pairwise_append]
    rcases h with hp | ⟨late, hlate, early, hearly, hlt⟩
    · exact .inl fun hall => hp hall.1
    · by_cases he : early = update
      · -- the smaller revision has now been sent, after the larger one
        subst he
        exact .inl fun hall => lt_asymm hlt (hall.2.2 late hlate early (by simp))
      · exact .inr ⟨late, List.mem_append_left _ hlate, early,
          (List.mem_erase_of_ne he).mpr hearly, hlt⟩
  · exact h

end Hub

end Hub

namespace Sample

def updateAt (eventId : Uuid) (revision : Nat) (event : AgentEvent) : StoreUpdate :=
  (envelope eventId revision event).updateAt revision .http (instant revision)

def first : StoreUpdate := updateAt 1 1 (created "a")

def second : StoreUpdate := updateAt 2 2 (started "a")

end Sample

end ControlPlane
