import ControlPlane.Store.Hub

/-! The socket of an operator page: it acknowledges, subscribes and forwards, while the callers
of the store go on and the page fetches a snapshot over another connection. -/

namespace ControlPlane

open Broadcast (Receiver subscribe recv sent next Took Hands Skips)

inductive UiFrame
  | unauthorized
  | authenticated
  | update (update : StoreUpdate)
  | resyncRequired (skipped : Nat)
  | pong (bytes : List UInt8)
  deriving DecidableEq

/-- What comes in from the page; `gone` is a close frame, an error or the end of the stream. -/
inductive UiMessage
  | ping (bytes : List UInt8)
  | other
  | gone

/-- `joined` is the position in the history of the channel at which the socket subscribed. -/
inductive UiSocket.Phase (S : Type → Type) [Broadcast S]
  | connected
  | acknowledged
  | live (joined : Nat) (receiver : Receiver S)
  | closed

inductive UiSocket.Client
  | waiting
  | greeted
  | fetched (revision : Nat)
  deriving DecidableEq

structure UiSocket (C : Type → Type → Type) (S : Type → Type) [Broadcast S] where
  hub : Hub C S
  phase : UiSocket.Phase S
  outbox : List UiFrame
  client : UiSocket.Client

namespace UiSocket

inductive Move
  | hub (m : Hub.Move)
  | greet (authorized delivered : Bool)
  | subscribe
  | forward (delivered : Bool)
  | incoming (message : UiMessage) (delivered : Bool)
  | receive
  | fetch

def frameOf : Received StoreUpdate → Option UiFrame
  | .message update => some (.update update)
  | .lagged skipped => some (.resyncRequired skipped)
  | .empty => none

def forwarded (outbox : List UiFrame) : List (Received StoreUpdate) :=
  outbox.filterMap fun
    | .update update => some (.message update)
    | .resyncRequired skipped => some (.lagged skipped)
    | _ => none

def Phase.Passed {S : Type → Type} [Broadcast S] (k : Nat) : Phase S → Prop
  | .acknowledged => True
  | .live joined _ => k < joined
  | .connected | .closed => False

section UiSocket

variable {C : Type → Type → Type} [LruCache C] {S : Type → Type} [Broadcast S]

def initial (cache : CacheConfig) (updateChannelCapacity : Nat) (startedAt : DateTime) :
    UiSocket C S where
  hub := .new cache updateChannelCapacity startedAt
  phase := .connected
  outbox := []
  client := .waiting

omit [LruCache C] in
def post (socket : UiSocket C S) (frame : UiFrame) (delivered : Bool) : UiSocket C S :=
  if delivered then { socket with outbox := socket.outbox ++ [frame] }
  else { socket with phase := .closed }

variable [CounterArith]

def step (socket : UiSocket C S) (m : Move) : UiSocket C S :=
  match m, socket.phase with
  | .hub m, _ => { socket with hub := socket.hub.step m }
  | .greet true delivered, .connected =>
    { socket with phase := .acknowledged }.post .authenticated delivered
  | .greet false delivered, .connected =>
    { socket.post .unauthorized delivered with phase := .closed }
  | .subscribe, .acknowledged =>
    { socket with
      phase := .live (sent socket.hub.updates).length (subscribe socket.hub.updates) }
  | .forward delivered, .live joined receiver =>
    let received := recv socket.hub.updates receiver
    match frameOf received.1 with
    | some frame => { socket with phase := .live joined received.2 }.post frame delivered
    | none => socket
  | .incoming (.ping bytes) delivered, .live _ _ => socket.post (.pong bytes) delivered
  | .incoming .gone _, .live _ _ => { socket with phase := .closed }
  | .receive, _ =>
    if socket.client = .waiting ∧ .authenticated ∈ socket.outbox then
      { socket with client := .greeted }
    else socket
  | .fetch, _ =>
    if socket.client = .greeted then
      { socket with client := .fetched socket.hub.inner.revision }
    else socket
  | _, _ => socket

/-- An update that the page's snapshot does not reflect is sent before the socket subscribed. -/
def SendsUnseen (socket : UiSocket C S) : Move → Prop
  | .hub (.send update) =>
    update ∈ socket.hub.pending ∧ socket.phase = .acknowledged ∧
      ∃ n, socket.client = .fetched n ∧ n < update.revision
  | _ => False

omit [LruCache C] [CounterArith] in
def Settled (socket : UiSocket C S) : Prop :=
  socket.hub.pending = [] ∧
    ∃ joined receiver, socket.phase = .live joined receiver ∧
      next receiver = (sent socket.hub.updates).length

def MissesNothing (n : Nat) (socket : UiSocket C S) : Prop :=
  ∀ joined receiver, socket.phase = .live joined receiver →
    ∀ k update, (sent socket.hub.updates)[k]? = some update → n < update.revision →
      Hands joined (forwarded socket.outbox) k update ∨ Skips joined (forwarded socket.outbox) k

/-- An update after the page's snapshot was sent where no frame can tell of it. -/
def Lost (socket : UiSocket C S) : Prop :=
  ∃ n, socket.client = .fetched n ∧
    ∃ k update, (sent socket.hub.updates)[k]? = some update ∧ n < update.revision ∧
      socket.phase.Passed k

inductive Effect (socket : UiSocket C S) : Move → UiSocket C S → Prop
  | hub (m : Hub.Move) : Effect socket (.hub m) { socket with hub := socket.hub.step m }
  | greeted (h : socket.phase = .connected) :
    Effect socket (.greet true true)
      { socket with phase := .acknowledged, outbox := socket.outbox ++ [.authenticated] }
  | subscribed (h : socket.phase = .acknowledged) :
    Effect socket .subscribe
      { socket with
        phase := .live (sent socket.hub.updates).length (subscribe socket.hub.updates) }
  | forwarded {joined : Nat} {receiver : Receiver S} {frame : UiFrame}
    (h : socket.phase = .live joined receiver)
    (hframe : frameOf (recv socket.hub.updates receiver).1 = some frame) :
    Effect socket (.forward true)
      { socket with
        phase := .live joined (recv socket.hub.updates receiver).2
        outbox := socket.outbox ++ [frame] }
  | fetched (h : socket.client = .greeted) :
    Effect socket .fetch { socket with client := .fetched socket.hub.inner.revision }
  | received (h : socket.client = .waiting) (hgreeting : .authenticated ∈ socket.outbox) :
    Effect socket .receive { socket with client := .greeted }
  | ponged {joined : Nat} {receiver : Receiver S} (h : socket.phase = .live joined receiver)
    (bytes : List UInt8) :
    Effect socket (.incoming (.ping bytes) true)
      { socket with outbox := socket.outbox ++ [.pong bytes] }
  | closed (m : Move) (outbox : List UiFrame) (h : socket.phase ≠ .acknowledged) :
    Effect socket m { socket with phase := .closed, outbox := outbox }
  | nothing (m : Move) : Effect socket m socket

theorem effect (socket : UiSocket C S) (m : Move) : Effect socket m (socket.step m) := by
  cases m with
  | hub m => exact .hub m
  | receive =>
    by_cases h : socket.client = .waiting ∧ .authenticated ∈ socket.outbox
    · simp only [step, if_pos h]
      exact .received h.1 h.2
    · simp only [step, if_neg h]
      exact .nothing _
  | fetch =>
    by_cases h : socket.client = .greeted
    · simp only [step, if_pos h]
      exact .fetched h
    · simp only [step, if_neg h]
      exact .nothing _
  | greet authorized delivered =>
    cases h : socket.phase with
    | connected =>
      cases authorized <;> cases delivered <;> simp only [step, h, post, if_true]
      · exact .closed _ _ (by simp [h])
      · exact .closed _ _ (by simp [h])
      · exact .closed _ _ (by simp [h])
      · exact .greeted h
    | _ => cases authorized <;> simp only [step, h] <;> exact .nothing _
  | subscribe =>
    cases h : socket.phase with
    | acknowledged =>
      simp only [step, h]
      exact .subscribed h
    | _ =>
      simp only [step, h]
      exact .nothing _
  | forward delivered =>
    cases h : socket.phase with
    | live joined receiver =>
      simp only [step, h]
      cases hframe : frameOf (recv socket.hub.updates receiver).1 with
      | none => exact .nothing _
      | some frame =>
        cases delivered
        · exact .closed _ _ (by simp [h])
        · exact .forwarded h hframe
    | _ =>
      simp only [step, h]
      exact .nothing _
  | incoming message delivered =>
    cases h : socket.phase with
    | live joined receiver =>
      cases message with
      | ping bytes =>
        simp only [step, h]
        cases delivered
        · exact .closed _ _ (by simp [h])
        · exact .ponged h bytes
      | other => exact .nothing _
      | gone =>
        simp only [step, h]
        exact .closed _ _ (by simp [h])
    | _ => cases message <;> simp only [step, h] <;> exact .nothing _

theorem phase_effect_of_closed {socket socket' : UiSocket C S} {m : Move}
    (he : Effect socket m socket') (h : socket.phase = .closed) : socket'.phase = .closed := by
  cases he with
  | greeted hphase | subscribed hphase | forwarded hphase =>
    rw [h] at hphase
    cases hphase
  | closed => rfl
  | _ => exact h

theorem client_effect_of_fetched {socket socket' : UiSocket C S} {m : Move}
    (he : Effect socket m socket') {n : Nat} (h : socket.client = .fetched n) :
    socket'.client = .fetched n := by
  cases he with
  | fetched hclient | received hclient =>
    rw [h] at hclient
    cases hclient
  | _ => exact h

omit [CounterArith] in
theorem forwarded_concat {received : Received StoreUpdate} {frame : UiFrame}
    (h : frameOf received = some frame) (outbox : List UiFrame) :
    forwarded (outbox ++ [frame]) = forwarded outbox ++ [received] := by
  cases received with
  | message update =>
    obtain rfl := Option.some.inj h
    simp [forwarded]
  | lagged skipped =>
    obtain rfl := Option.some.inj h
    simp [forwarded]
  | empty => cases h

omit [CounterArith] in
theorem forwarded_concat_pong (outbox : List UiFrame) (bytes : List UInt8) :
    forwarded (outbox ++ [.pong bytes]) = forwarded outbox := by simp [forwarded]

/-- Up to the acknowledgement nothing was said; from the subscription on, the frames account
for the positions the receiver has passed. -/
structure Watched (socket : UiSocket C S) : Prop where
  numbered : socket.hub.Numbered
  connected : socket.phase = .connected → socket.outbox = [] ∧ socket.client = .waiting
  acknowledged : socket.phase = .acknowledged → forwarded socket.outbox = []
  took : ∀ {joined receiver}, socket.phase = .live joined receiver →
    Took (sent socket.hub.updates) joined (forwarded socket.outbox) (next receiver) ∧
      next receiver ≤ (sent socket.hub.updates).length

omit [LruCache C] [CounterArith] in
theorem Watched.joined_le {socket : UiSocket C S} (h : Watched socket) {joined : Nat}
    {receiver : Receiver S} (hlive : socket.phase = .live joined receiver) :
    joined ≤ (sent socket.hub.updates).length :=
  (h.took hlive).1.le.trans (h.took hlive).2

omit [LruCache C] [CounterArith] in
/-- Once all is sent and taken, the page missed exactly what was lost. -/
theorem Watched.missesNothing_iff {socket : UiSocket C S} (h : Watched socket)
    (hsettled : Settled socket) {n : Nat} (hclient : socket.client = .fetched n) :
    MissesNothing n socket ↔ ¬Lost socket := by
  obtain ⟨-, joined, receiver, hphase, hcaught⟩ := hsettled
  constructor
  · rintro hmisses ⟨n', hclient', k, update, hk, hn, hpassed⟩
    obtain rfl : n' = n := Client.fetched.inj (hclient'.symm.trans hclient)
    rw [hphase] at hpassed
    have hlt : k < joined := hpassed
    rcases hmisses joined receiver hphase k update hk hn with hhands | hskips
    · exact absurd hhands.le (Nat.not_le.mpr hlt)
    · exact absurd hskips.le (Nat.not_le.mpr hlt)
  · intro hlost joined' receiver' hphase' k update hk hn
    obtain ⟨rfl, rfl⟩ := Phase.live.inj (hphase'.symm.trans hphase)
    have hjoined : joined' ≤ k := by
      by_contra hlt
      refine hlost ⟨n, hclient, k, update, hk, hn, ?_⟩
      rw [hphase]
      exact Nat.not_le.mp hlt
    have htook := (h.took hphase).1
    rw [hcaught] at htook
    exact htook.reached hk hjoined (List.getElem?_eq_some_iff.mp hk).1

variable [LawfulLruCache C] [LawfulBroadcast S]

open LawfulBroadcast

omit [CounterArith] [LawfulLruCache C] in
theorem Watched.start (cache : CacheConfig) (updateChannelCapacity : Nat) (startedAt : DateTime) :
    Watched (initial cache updateChannelCapacity startedAt : UiSocket C S) where
  numbered := .start cache updateChannelCapacity startedAt
  connected _ := ⟨rfl, rfl⟩
  acknowledged := nofun
  took := nofun

theorem Watched.effect {socket socket' : UiSocket C S} (h : Watched socket) {m : Move}
    (he : Effect socket m socket') : Watched socket' := by
  cases he with
  | hub m =>
    refine ⟨h.numbered.step m, h.connected, h.acknowledged, fun hlive => ?_⟩
    obtain ⟨htook, hle⟩ := h.took hlive
    obtain ⟨news, hnews⟩ := socket.hub.sent_step m
    rw [hnews, List.length_append]
    exact ⟨htook.grow news, hle.trans (Nat.le_add_right _ _)⟩
  | greeted hphase =>
    refine ⟨h.numbered, nofun, fun _ => ?_, nofun⟩
    rw [(h.connected hphase).1]
    rfl
  | subscribed hphase =>
    refine ⟨h.numbered, nofun, nofun, fun hlive => ?_⟩
    obtain ⟨rfl, rfl⟩ := Phase.live.inj hlive
    rw [h.acknowledged hphase, next_subscribe]
    exact ⟨rfl, le_rfl⟩
  | @forwarded joined receiver frame hphase hframe =>
    refine ⟨h.numbered, nofun, nofun, fun hlive => ?_⟩
    obtain ⟨rfl, rfl⟩ := Phase.live.inj hlive
    obtain ⟨htook, hle⟩ := h.took hphase
    obtain ⟨htook', hle'⟩ := Broadcast.took_recv socket.hub.updates receiver
    rw [forwarded_concat hframe]
    exact ⟨htook.append htook', hle' hle⟩
  | fetched hclient =>
    refine ⟨h.numbered, fun hphase => ?_, h.acknowledged, h.took⟩
    rw [(h.connected hphase).2] at hclient
    cases hclient
  | received hclient hgreeting =>
    refine ⟨h.numbered, fun hphase => ?_, h.acknowledged, h.took⟩
    rw [(h.connected hphase).1] at hgreeting
    cases hgreeting
  | ponged hphase bytes =>
    refine ⟨h.numbered, ?_, ?_, ?_⟩
    · intro hc
      rw [hphase] at hc
      cases hc
    · rw [forwarded_concat_pong]
      exact h.acknowledged
    · rw [forwarded_concat_pong]
      exact h.took
  | closed m outbox => exact ⟨h.numbered, nofun, nofun, nofun⟩
  | nothing => exact h

theorem watched (cache : CacheConfig) (updateChannelCapacity : Nat) (startedAt : DateTime)
    (moves : List Move) :
    Watched (Run.after step (initial cache updateChannelCapacity startedAt : UiSocket C S) moves) :=
  Run.invariant (fun socket m h => h.effect (socket.effect m)) (.start _ _ _) moves

theorem Lost.effect {socket socket' : UiSocket C S} (h : Lost socket) {m : Move}
    (he : Effect socket m socket') : Lost socket' ∨ socket'.phase = .closed := by
  obtain ⟨n, hclient, k, update, hk, hn, hpassed⟩ := h
  have hlength := (List.getElem?_eq_some_iff.mp hk).1
  cases he with
  | hub m =>
    obtain ⟨news, hnews⟩ := socket.hub.sent_step m
    refine .inl ⟨n, hclient, k, update, ?_, hn, hpassed⟩
    rw [hnews, List.getElem?_append_left hlength, hk]
  | greeted hphase =>
    rw [hphase] at hpassed
    exact hpassed.elim
  | subscribed hphase => exact .inl ⟨n, hclient, k, update, hk, hn, hlength⟩
  | forwarded hphase hframe =>
    rw [hphase] at hpassed
    exact .inl ⟨n, hclient, k, update, hk, hn, hpassed⟩
  | fetched hc =>
    rw [hclient] at hc
    cases hc
  | received hc =>
    rw [hclient] at hc
    cases hc
  | ponged => exact .inl ⟨n, hclient, k, update, hk, hn, hpassed⟩
  | closed => exact .inr rfl
  | nothing => exact .inl ⟨n, hclient, k, update, hk, hn, hpassed⟩

omit [LawfulLruCache C] in
theorem Lost.of_sendsUnseen {socket : UiSocket C S} {m : Move} (h : SendsUnseen socket m) :
    Lost (socket.step m) := by
  cases m with
  | hub m =>
    cases m with
    | send update =>
      obtain ⟨hpending, hphase, n, hclient, hn⟩ := h
      refine ⟨n, hclient, (sent socket.hub.updates).length, update, ?_, hn, ?_⟩
      · simp [UiSocket.step, Hub.step, if_pos hpending, sent_send]
      · simp only [UiSocket.step, hphase, Phase.Passed]
    | locked op => exact h.elim
  | _ => exact h.elim

theorem Watched.not_lost {socket socket' : UiSocket C S} (h : Watched socket) {m : Move}
    (he : Effect socket m socket') (hlost : ¬Lost socket) (hm : ¬SendsUnseen socket m) :
    ¬Lost socket' := by
  rintro ⟨n, hclient, k, update, hk, hn, hpassed⟩
  cases he with
  | hub m =>
    rcases socket.hub.step_cases m with ⟨op, -, -, hs, -⟩ | ⟨op, issued, -, -, hs, -, -⟩ |
      ⟨sending, rfl, hpending, hs⟩ | ⟨sending, -, -, hs⟩ <;> rw [hs] at hk
    · exact hlost ⟨n, hclient, k, update, hk, hn, hpassed⟩
    · exact hlost ⟨n, hclient, k, update, hk, hn, hpassed⟩
    · rw [sent_send] at hk
      rcases Nat.lt_or_ge k (sent socket.hub.updates).length with hlt | hge
      · rw [List.getElem?_append_left hlt] at hk
        exact hlost ⟨n, hclient, k, update, hk, hn, hpassed⟩
      · rw [List.getElem?_append_right hge, List.getElem?_singleton] at hk
        obtain ⟨-, hsending⟩ := Option.ite_none_right_eq_some.mp hk
        obtain rfl := Option.some.inj hsending
        cases hphase : socket.phase with
        | acknowledged => exact hm ⟨hpending, hphase, n, hclient, hn⟩
        | live joined receiver =>
          rw [hphase] at hpassed
          exact absurd (hpassed.trans_le (h.joined_le hphase)) (Nat.not_lt.mpr hge)
        | _ =>
          rw [hphase] at hpassed
          exact hpassed
    · exact hlost ⟨n, hclient, k, update, hk, hn, hpassed⟩
  | greeted hphase =>
    rw [(h.connected hphase).2] at hclient
    cases hclient
  | subscribed hphase =>
    refine hlost ⟨n, hclient, k, update, hk, hn, ?_⟩
    rw [hphase]
    trivial
  | forwarded hphase =>
    refine hlost ⟨n, hclient, k, update, hk, hn, ?_⟩
    rw [hphase]
    exact hpassed
  | fetched =>
    obtain rfl := Client.fetched.inj hclient
    have hissued : update ∈ socket.hub.issued :=
      List.mem_append_left _ (List.mem_of_getElem? hk)
    exact absurd (h.numbered.revision_le update hissued) (Nat.not_le.mpr hn)
  | received => cases hclient
  | ponged => exact hlost ⟨n, hclient, k, update, hk, hn, hpassed⟩
  | closed => exact hpassed
  | nothing => exact hlost ⟨n, hclient, k, update, hk, hn, hpassed⟩

/-- In a run that leaves the socket open, something is lost exactly if an unseen update was
sent. -/
theorem not_lost_iff (cache : CacheConfig) (updateChannelCapacity : Nat) (startedAt : DateTime)
    (moves : List Move)
    (hopen : (Run.after step (initial cache updateChannelCapacity startedAt : UiSocket C S)
      moves).phase ≠ .closed) :
    ¬Lost (Run.after step (initial cache updateChannelCapacity startedAt : UiSocket C S) moves) ↔
      Run.Along (fun socket m => ¬SendsUnseen socket m) step
        (initial cache updateChannelCapacity startedAt : UiSocket C S) moves := by
  constructor
  · intro hlost
    refine Run.along_of_unmarked (P := Watched)
      (M := fun socket => Lost socket ∨ socket.phase = .closed)
      (fun socket m h => h.effect (socket.effect m)) ?_ ?_ (.start _ _ _) ?_
    · exact fun socket m _ hm => .inl (.of_sendsUnseen (not_not.mp hm))
    · rintro socket m - (hlost | hclosed)
      · exact hlost.effect (socket.effect m)
      · exact .inr (phase_effect_of_closed (socket.effect m) hclosed)
    · rintro (hl | hc)
      · exact hlost hl
      · exact hopen hc
  · intro along
    have hstart : Watched (initial cache updateChannelCapacity startedAt : UiSocket C S) ∧
        ¬Lost (initial cache updateChannelCapacity startedAt : UiSocket C S) :=
      ⟨.start _ _ _, fun ⟨_, hclient, _⟩ => nomatch hclient⟩
    exact (Run.invariant_along (P := fun socket => Watched socket ∧ ¬Lost socket)
      (fun socket m h hm => ⟨h.1.effect (socket.effect m), h.1.not_lost (socket.effect m) h.2 hm⟩)
      hstart along).2

omit [LruCache C] [CounterArith] [LawfulLruCache C] [LawfulBroadcast S] in
def backlog (socket : UiSocket C S) : Nat :=
  match socket.phase with
  | .live _ receiver =>
    2 * socket.hub.pending.length + ((sent socket.hub.updates).length - next receiver)
  | _ => 0

omit [LruCache C] [CounterArith] [LawfulLruCache C] [LawfulBroadcast S] in
def IsLive (socket : UiSocket C S) : Prop :=
  ∃ joined receiver, socket.phase = .live joined receiver

theorem Watched.improves {socket : UiSocket C S} (h : Watched socket) (hlive : IsLive socket)
    (hbacklog : socket.backlog ≠ 0) :
    ∃ m, ¬SendsUnseen socket m ∧ (Watched (socket.step m) ∧ IsLive (socket.step m)) ∧
      (socket.step m).backlog < socket.backlog := by
  obtain ⟨joined, receiver, hphase⟩ := hlive
  have hle := (h.took hphase).2
  cases hpending : socket.hub.pending with
  | cons update pending =>
    refine ⟨.hub (.send update), ?_, ⟨h.effect (socket.effect _), joined, receiver, hphase⟩, ?_⟩
    · rintro ⟨-, hack, -⟩
      rw [hphase] at hack
      cases hack
    · simp only [backlog, UiSocket.step, hphase, Hub.step, hpending, List.mem_cons_self, if_true,
        List.erase_cons_head, sent_send, List.length_append, List.length_cons, List.length_nil]
      omega
  | nil =>
    have hbehind : next receiver < (sent socket.hub.updates).length := by
      simp only [backlog, hphase, hpending, List.length_nil] at hbacklog
      omega
    obtain ⟨frame, hframe⟩ : ∃ frame,
        frameOf (recv socket.hub.updates receiver).1 = some frame := by
      rcases Broadcast.recv_of_behind hbehind with ⟨update, hr⟩ | ⟨skipped, hr⟩ <;> rw [hr]
      · exact ⟨_, rfl⟩
      · exact ⟨_, rfl⟩
    have hstep : socket.step (.forward true) =
        { socket with
          phase := .live joined (recv socket.hub.updates receiver).2
          outbox := socket.outbox ++ [frame] } := by
      simp only [UiSocket.step, hphase, hframe, post, if_true]
    refine ⟨.forward true, id, ⟨h.effect (socket.effect _), joined, _, by rw [hstep]⟩, ?_⟩
    have hnext := Broadcast.next_lt_recv hbehind
    simp only [hstep, backlog, hphase, hpending, List.length_nil]
    omega

theorem Watched.settles_of_isLive {socket : UiSocket C S} (h : Watched socket)
    (hlive : IsLive socket) :
    ∃ more, Run.Along (fun socket m => ¬SendsUnseen socket m) step socket more ∧
      Settled (Run.after step socket more) := by
  obtain ⟨more, halong, ⟨hwatched, joined, receiver, hphase⟩, hzero⟩ :=
    Run.exists_finishing (P := fun socket : UiSocket C S => Watched socket ∧ IsLive socket)
      backlog (fun socket h => h.1.improves h.2) ⟨h, hlive⟩
  refine ⟨more, halong, ?_, joined, receiver, hphase, ?_⟩
  all_goals
    have hle := (hwatched.took hphase).2
    simp only [backlog, hphase] at hzero
  · exact List.eq_nil_of_length_eq_zero (by omega)
  · omega

theorem Watched.settles {socket : UiSocket C S} (h : Watched socket)
    (hopen : socket.phase = .acknowledged ∨ IsLive socket) :
    ∃ more, Run.Along (fun socket m => ¬SendsUnseen socket m) step socket more ∧
      Settled (Run.after step socket more) := by
  rcases hopen with hack | hlive
  · have hstep : (socket.step .subscribe).phase =
        .live (sent socket.hub.updates).length (subscribe socket.hub.updates) := by
      simp only [UiSocket.step, hack]
    have hwatched : Watched (socket.step .subscribe) := h.effect (socket.effect _)
    obtain ⟨more, halong, hsettled⟩ := hwatched.settles_of_isLive ⟨_, _, hstep⟩
    exact ⟨.subscribe :: more, ⟨id, halong⟩, hsettled⟩
  · exact h.settles_of_isLive hlive

/-- As long as the socket is open, everything can still be sent and taken; and when it is, the
page has missed nothing exactly if no update after its snapshot was sent before the socket
subscribed. -/
theorem misses_nothing_iff (cache : CacheConfig) (updateChannelCapacity : Nat)
    (startedAt : DateTime) (moves : List Move) (n : Nat)
    (hfetched : (Run.after step (initial cache updateChannelCapacity startedAt : UiSocket C S)
      moves).client = .fetched n)
    (hopen : (Run.after step (initial cache updateChannelCapacity startedAt : UiSocket C S)
      moves).phase ≠ .closed) :
    let start : UiSocket C S := initial cache updateChannelCapacity startedAt
    (∃ more, Settled (Run.after step start (moves ++ more)) ∧
      Run.Along (fun socket m => ¬SendsUnseen socket m) step (Run.after step start moves) more) ∧
    ∀ more, Settled (Run.after step start (moves ++ more)) →
      (MissesNothing n (Run.after step start (moves ++ more)) ↔
        Run.Along (fun socket m => ¬SendsUnseen socket m) step start (moves ++ more)) := by
  intro start
  have hwatched := fun moves => watched (C := C) (S := S) cache updateChannelCapacity startedAt moves
  constructor
  · have hphase : (Run.after step start moves).phase = .acknowledged ∨
        IsLive (Run.after step start moves) := by
      cases hp : (Run.after step start moves).phase with
      | acknowledged => exact .inl rfl
      | live joined receiver => exact .inr ⟨joined, receiver, hp⟩
      | closed => exact absurd hp hopen
      | connected =>
        rw [((hwatched moves).connected hp).2] at hfetched
        cases hfetched
    obtain ⟨more, halong, hsettled⟩ := (hwatched moves).settles hphase
    exact ⟨more, by rwa [Run.after_append], halong⟩
  · intro more hsettled
    have hclient : (Run.after step start (moves ++ more)).client = .fetched n := by
      rw [Run.after_append]
      exact Run.invariant (P := fun socket : UiSocket C S => socket.client = .fetched n)
        (fun socket m h => client_effect_of_fetched (socket.effect m) h) hfetched more
    rw [(hwatched _).missesNothing_iff hsettled hclient]
    refine not_lost_iff cache updateChannelCapacity startedAt _ ?_
    obtain ⟨-, joined, receiver, hphase, -⟩ := hsettled
    change (Run.after step start (moves ++ more)).phase ≠ .closed
    rw [hphase]
    nofun

end UiSocket

def subscribedInTime : List Move :=
  [.greet true true, .receive, .fetch, .subscribe,
    .hub (.locked (Sample.ingestAt 1 1 (Sample.created "a")))]

theorem misses_nothing_iff_subscribed :
    MissesNothing 0 (Run.after step (initial Sample.cache 8 (Sample.instant 0) :
      UiSocket RecencyCache LogChannel)
      (subscribedInTime ++ [.hub (.send Sample.first), .forward true])) := by
  refine ((misses_nothing_iff Sample.cache 8 (Sample.instant 0) subscribedInTime 0
    (by decide) nofun).2 _ ⟨by decide, _, _, rfl, by decide⟩).mpr ?_
  exact ⟨id, id, id, id, id, fun ⟨_, h, _⟩ => (nomatch h), id, trivial⟩

/-- An update that is sent between the fetch and the subscription reaches the page in no frame. -/
theorem ui_socket_misses_update :
    ¬∀ moves n, (Run.after step (initial Sample.cache 8 (Sample.instant 0) :
          UiSocket RecencyCache LogChannel) moves).client = .fetched n →
        Settled (Run.after step (initial Sample.cache 8 (Sample.instant 0) :
          UiSocket RecencyCache LogChannel) moves) →
        MissesNothing n (Run.after step (initial Sample.cache 8 (Sample.instant 0) :
          UiSocket RecencyCache LogChannel) moves) := by
  intro h
  have hmisses := h [.greet true true, .receive, .fetch,
    .hub (.locked (Sample.ingestAt 1 1 (Sample.created "a"))), .hub (.send Sample.first),
    .subscribe] 0 (by decide) ⟨by decide, _, _, rfl, by decide⟩
  rcases hmisses _ _ rfl 0 Sample.first (by decide) (by decide) with hhands | hskips
  · exact hhands
  · exact hskips

end UiSocket

end ControlPlane
