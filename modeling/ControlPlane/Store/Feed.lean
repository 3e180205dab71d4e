import ControlPlane.Store.Hub

/-! One subscriber among the callers: what it is handed, and in which order. -/

namespace ControlPlane

open Broadcast (Receiver subscribe recv sent next messages Took)

structure Feed (C : Type → Type → Type) (S : Type → Type) [Broadcast S] where
  hub : Hub C S
  receiver : Receiver S
  taken : List (Received StoreUpdate)

namespace Feed

inductive Move
  | hub (m : Hub.Move)
  | recv

section Feed

variable {C : Type → Type → Type} [LruCache C] [CounterArith] {S : Type → Type} [Broadcast S]

def start (hub : Hub C S) : Feed C S := ⟨hub, subscribe hub.updates, []⟩

def step (feed : Feed C S) : Move → Feed C S
  | .hub m => { feed with hub := feed.hub.step m }
  | .recv =>
    let received := recv feed.hub.updates feed.receiver
    { feed with receiver := received.2, taken := feed.taken ++ [received.1] }

def Overtakes (feed : Feed C S) : Move → Prop
  | .hub m => feed.hub.Overtakes m
  | .recv => False

instance (feed : Feed C S) (m : Move) : Decidable (feed.Overtakes m) :=
  match m with
  | .hub m => inferInstanceAs (Decidable (feed.hub.Overtakes m))
  | .recv => inferInstanceAs (Decidable False)

/-- A subscriber that comes in after a run of the callers. -/
def joined (cache : CacheConfig) (updateChannelCapacity : Nat) (startedAt : DateTime)
    (before : List Hub.Move) : Feed C S :=
  start (Run.after Hub.step (.new cache updateChannelCapacity startedAt) before)

def received (feed : Feed C S) : List StoreUpdate := messages feed.taken

structure Follows (i : Nat) (feed : Feed C S) : Prop where
  numbered : feed.hub.Numbered
  took : Took (sent feed.hub.updates) i feed.taken (next feed.receiver)
  le : next feed.receiver ≤ (sent feed.hub.updates).length

omit [LruCache C] [CounterArith] in
theorem Follows.position_le {i : Nat} {feed : Feed C S} (h : Follows i feed) :
    i ≤ (sent feed.hub.updates).length :=
  h.took.le.trans h.le

variable [LawfulLruCache C] [LawfulBroadcast S]

open LawfulBroadcast

omit [LruCache C] [CounterArith] [LawfulLruCache C] in
theorem Follows.start {hub : Hub C S} (h : hub.Numbered) :
    Follows (sent hub.updates).length (start hub) where
  numbered := h
  took := (next_subscribe hub.updates).symm
  le := (next_subscribe hub.updates).le

theorem Follows.step {i : Nat} {feed : Feed C S} (h : Follows i feed) (m : Move) :
    Follows i (feed.step m) := by
  cases m with
  | recv =>
    obtain ⟨htook, hle⟩ := Broadcast.took_recv feed.hub.updates feed.receiver
    exact ⟨h.numbered, h.took.append htook, hle h.le⟩
  | hub m =>
    obtain ⟨news, hnews⟩ := feed.hub.sent_step m
    refine ⟨h.numbered.step m, ?_, ?_⟩ <;> dsimp only [Feed.step] <;> rw [hnews]
    · exact h.took.grow news
    · rw [List.length_append]
      exact h.le.trans (Nat.le_add_right _ _)

theorem follows_after {hub : Hub C S} (h : hub.Numbered) (later : List Move) :
    Follows (sent hub.updates).length (Run.after step (start hub) later) :=
  Run.invariant (fun _ m h => h.step m) (.start h) later

omit [LawfulBroadcast S] in
theorem revision_mono {i : Nat} {feed : Feed C S} (h : Follows i feed) (m : Move) :
    feed.hub.inner.revision ≤ (feed.step m).hub.inner.revision := by
  cases m with
  | recv => exact le_rfl
  | hub m => exact feed.hub.revision_mono h.numbered.bounded m

/-- If no send overtakes an update, the sends are in the order of the revisions. -/
theorem inOrder_after {hub : Hub C S} (h : hub.Numbered) {later : List Move}
    (along : Run.Along (fun feed m => ¬Overtakes feed m) step (start hub) later)
    (hlt : (Run.after step (start hub) later).hub.inner.revision < U64.MAX) :
    (Run.after step (start hub) later).hub.InOrder (sent hub.updates).length := by
  let P : Feed C S → Prop := fun feed => Follows (sent hub.updates).length feed ∧
    (feed.hub.inner.revision < U64.MAX → feed.hub.InOrder (sent hub.updates).length)
  have hstart : P (start hub) := by
    refine ⟨.start h, fun _ => ?_⟩
    rw [Hub.InOrder, Hub.since, start, List.drop_length]
    exact ⟨List.Pairwise.nil, fun _ hmem => absurd hmem List.not_mem_nil⟩
  have hkeeps : ∀ feed m, P feed → ¬Overtakes feed m → P (feed.step m) := by
    rintro feed m ⟨hf, ho⟩ hm
    refine ⟨hf.step m, fun hlt => ?_⟩
    have hin := ho ((revision_mono hf m).trans_lt hlt)
    cases m with
    | recv => exact hin
    | hub m => exact hin.step hf.numbered hf.position_le hm hlt
  exact (Run.invariant_along hkeeps hstart along).2 hlt

theorem along_of_inOrder {hub : Hub C S} (h : hub.Numbered) {later : List Move}
    (hpending : (Run.after step (start hub) later).hub.pending = [])
    (horder : ((Run.after step (start hub) later).hub.since (sent hub.updates).length).Pairwise
      fun a b => a.revision < b.revision) :
    Run.Along (fun feed m => ¬Overtakes feed m) step (start hub) later := by
  refine Run.along_of_unmarked (P := Follows (sent hub.updates).length)
    (M := fun feed => feed.hub.Disordered (sent hub.updates).length)
    (fun _ m hf => hf.step m) ?_ ?_ (.start h) ?_
  · intro feed m hf hm
    cases m with
    | recv => exact (hm nofun).elim
    | hub m => exact .of_overtakes hf.position_le (not_not.mp hm)
  · intro feed m hf hd
    cases m with
    | recv => exact hd
    | hub m => exact hd.step hf.position_le m
  · rintro (hp | ⟨late, -, early, hearly, -⟩)
    · exact hp horder
    · rw [hpending] at hearly
      cases hearly

/-- A subscriber that does not lag is handed what was sent since it came in, in the order of
the sends and each once.  The revisions increase if no send overtakes an update with a smaller
one, and, once all is sent and taken, only then. -/
theorem updates_in_send_order (cache : CacheConfig) (updateChannelCapacity : Nat)
    (startedAt : DateTime) (before : List Hub.Move) (later : List Move)
    (hlag : ∀ n, .lagged n ∉
      (Run.after step (joined cache updateChannelCapacity startedAt before : Feed C S) later).taken)
    (hmax : (Run.after step (joined cache updateChannelCapacity startedAt before : Feed C S)
      later).hub.inner.revision < U64.MAX) :
    let joining : Feed C S := joined cache updateChannelCapacity startedAt before
    let feed := Run.after step joining later
    feed.received = (feed.hub.since (next joining.receiver)).take
        (next feed.receiver - next joining.receiver) ∧
      (feed.received.map StoreUpdate.revision).Nodup ∧
      (Run.Along (fun feed m => ¬Overtakes feed m) step joining later →
        feed.received.Pairwise fun a b => a.revision < b.revision) ∧
      (feed.hub.pending = [] → next feed.receiver = (sent feed.hub.updates).length →
        feed.received.Pairwise (fun a b => a.revision < b.revision) →
          Run.Along (fun feed m => ¬Overtakes feed m) step joining later) := by
  intro joining feed
  have hnumbered : joining.hub.Numbered :=
    Hub.numbered cache updateChannelCapacity startedAt before
  have hnext : next joining.receiver = (sent joining.hub.updates).length := next_subscribe _
  have hfollows : Follows (sent joining.hub.updates).length feed := follows_after hnumbered later
  have hreceived : feed.received = (feed.hub.since (sent joining.hub.updates).length).take
      (next feed.receiver - (sent joining.hub.updates).length) := hfollows.took.messages_eq hlag
  rw [hnext]
  refine ⟨hreceived, ?_, fun along => ?_, fun hpending hcaught horder => ?_⟩
  · have hsub : feed.received.Sublist feed.hub.issued := by
      rw [hreceived]
      exact (List.take_sublist _ _).trans
        ((List.drop_sublist _ _).trans (List.sublist_append_left _ _))
    exact (hfollows.numbered.nodup hmax).sublist (hsub.map _)
  · rw [hreceived]
    exact (inOrder_after hnumbered along hmax).1.sublist (List.take_sublist _ _)
  · refine along_of_inOrder hnumbered hpending ?_
    rw [hreceived, hcaught, Hub.since, ← List.length_drop, List.take_length] at horder
    exact horder

end Feed

end Feed

namespace Sample

def bothIngested : List Feed.Move :=
  [.hub (.locked (ingestAt 1 1 (created "a"))), .hub (.locked (ingestAt 2 2 (started "a")))]

def subscriber : Feed RecencyCache LogChannel := .joined cache 8 (instant 0) []

end Sample

theorem Feed.updates_in_send_order_waiting :
    ((Run.after step Sample.subscriber (Sample.bothIngested ++
      [.hub (.send Sample.first), .recv, .hub (.send Sample.second), .recv])).received).Pairwise
        fun a b => a.revision < b.revision := by
  have htaken : (Run.after step Sample.subscriber (Sample.bothIngested ++
      [.hub (.send Sample.first), .recv, .hub (.send Sample.second), .recv])).taken =
        [.message Sample.first, .message Sample.second] := by decide
  refine (updates_in_send_order Sample.cache 8 (Sample.instant 0) [] _ ?_ ?_).2.2.1 ?_
  · change ∀ n, .lagged n ∉ (Run.after step Sample.subscriber _).taken
    rw [htaken]
    simp
  · decide
  · refine ⟨?_, ?_, ?_, ?_, ?_, ?_, trivial⟩ <;> decide

/-- The second ingest may send first, and the subscriber is handed revision 2 before 1. -/
theorem Feed.updates_out_of_order :
    ¬∀ later, (∀ n, .lagged n ∉ (Run.after step Sample.subscriber later).taken) →
      (Run.after step Sample.subscriber later).received.Pairwise
        fun a b => a.revision < b.revision := by
  intro h
  have htaken : (Run.after step Sample.subscriber (Sample.bothIngested ++
      [.hub (.send Sample.second), .recv, .hub (.send Sample.first), .recv])).taken =
        [.message Sample.second, .message Sample.first] := by decide
  have hlag : ∀ n, .lagged n ∉ (Run.after step Sample.subscriber (Sample.bothIngested ++
      [.hub (.send Sample.second), .recv, .hub (.send Sample.first), .recv])).taken := by
    rw [htaken]
    simp
  have horder := h _ hlag
  rw [received, htaken] at horder
  revert horder
  decide

end ControlPlane
