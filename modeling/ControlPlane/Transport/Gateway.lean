import ControlPlane.Lib.Unwinding
import ControlPlane.Protocol.Text
import ControlPlane.Store.Ledger
import ControlPlane.Transport.Accounting
import ControlPlane.Transport.Config

/-! The daemon's listeners as one machine: whatever arrives on any of them, in any order, over a
store and the agent sockets that were let in.  What does not carry the token leaves a mark on the
counters of rejections and nowhere else. -/

namespace ControlPlane

/-- An agent socket is known by a number of its own; what comes in on one that was never let in
reaches no handler. -/
inductive Arrival
  | request (headers : Headers) (payload : Except String EventEnvelope)
  | upgrade (socket : Nat) (headers : Headers) (queryToken : Option String)
  | message (socket : Nat) (message : WebSocketMessage)
  | frame (frame : Except String String)
  | datagram (bytes : List UInt8)

inductive Answer
  | request (answer : Except ApiError (StatusCode × IngestAck))
  | upgrade (answer : Except ApiError Unit)
  | reply (reply : Option Reply)

structure Gateway (C : Type → Type → Type) where
  inner : StoreInner C
  sockets : List Nat

def WebSocketMessage.isClose : WebSocketMessage → Bool
  | .close => true
  | .text _ | .binary _ | .ping _ | .pong _ => false

namespace Gateway

variable {C : Type → Type → Type} [LruCache C] [CounterArith]

def step (endpoint : Endpoint) (gateway : Gateway C) (arrival : Arrival × DateTime) : Gateway C :=
  match arrival.1 with
  | .request headers payload =>
    { gateway with inner := (endpoint.ingestEvent gateway.inner headers payload arrival.2).1 }
  | .upgrade socket headers queryToken =>
    let upgraded := endpoint.agentWebsocket gateway.inner headers queryToken
    match upgraded.2 with
    | .ok () => ⟨upgraded.1, socket :: gateway.sockets⟩
    | .error _ => ⟨upgraded.1, gateway.sockets⟩
  | .message socket message =>
    if socket ∈ gateway.sockets then
      ⟨(endpoint.handleMessage gateway.inner message arrival.2).1,
        if message.isClose then gateway.sockets.filter (· ≠ socket) else gateway.sockets⟩
    else gateway
  | .frame frame => { gateway with inner := (endpoint.handleFrame gateway.inner frame arrival.2).1 }
  | .datagram bytes =>
    { gateway with inner := (endpoint.handleDatagram gateway.inner bytes arrival.2).1 }

def answer (endpoint : Endpoint) (gateway : Gateway C) (arrival : Arrival × DateTime) : Answer :=
  match arrival.1 with
  | .request headers payload =>
    .request (endpoint.ingestEvent gateway.inner headers payload arrival.2).2
  | .upgrade _ headers queryToken =>
    .upgrade (endpoint.agentWebsocket gateway.inner headers queryToken).2
  | .message socket message =>
    if socket ∈ gateway.sockets then
      .reply (endpoint.handleMessage gateway.inner message arrival.2).2
    else .reply none
  | .frame frame => .reply (some (endpoint.handleFrame gateway.inner frame arrival.2).2)
  | .datagram bytes => .reply (endpoint.handleDatagram gateway.inner bytes arrival.2).2

end Gateway

def Endpoint.datagramPayload (endpoint : Endpoint) (bytes : List UInt8) :
    Except String TransportPayload :=
  let received := bytes.take (endpoint.maxPayloadBytes + 1)
  if endpoint.maxPayloadBytes < received.length then .error "oversized"
  else endpoint.parser.fromSlice received

/-- The token an arrival carries, where the handlers look for it. -/
def Arrival.credential (endpoint : Endpoint) : Arrival → Option String
  | .request headers _ => bearerToken headers
  | .upgrade _ headers queryToken => preferredToken headers queryToken
  | .message _ _ => none
  | .frame (.ok line) => (endpoint.parser.fromStr line).toOption.bind fun payload =>
      payload.intoParts.1
  | .frame (.error _) => none
  | .datagram bytes => (endpoint.datagramPayload bytes).toOption.bind fun payload =>
      payload.intoParts.1

def Endpoint.accepts (endpoint : Endpoint) (provided : Option String) : Bool :=
  (endpoint.auth.authorizeIngest provided).isOk

/-- The handlers act on the arrival instead of turning it away at the door. -/
def Gateway.admits {C : Type → Type → Type} (endpoint : Endpoint) (gateway : Gateway C)
    (arrival : Arrival × DateTime) : Bool :=
  match arrival.1 with
  | .request headers _ => endpoint.accepts (bearerToken headers)
  | .upgrade _ headers queryToken =>
    websocketOriginAllowed headers endpoint.corsAny &&
      endpoint.accepts (preferredToken headers queryToken)
  | .message socket _ => decide (socket ∈ gateway.sockets)
  | .frame (.ok line) => (endpoint.parser.fromStr line).toOption.any fun payload =>
      endpoint.accepts payload.intoParts.1
  | .frame (.error _) => false
  | .datagram bytes => (endpoint.datagramPayload bytes).toOption.any fun payload =>
      endpoint.accepts payload.intoParts.1

structure SameButRejections {C : Type → Type → Type} (a b : StoreInner C) : Prop where
  same : ∃ rejected rejectedByTransport,
    b = { a with counters := { a.counters with rejected, rejectedByTransport } }

namespace SameButRejections

variable {C : Type → Type → Type} {a b c : StoreInner C}

theorem refl (a : StoreInner C) : SameButRejections a a := ⟨_, _, rfl⟩

theorem symm (h : SameButRejections a b) : SameButRejections b a := by
  obtain ⟨rejected, byTransport, rfl⟩ := h
  exact ⟨_, _, rfl⟩

theorem trans (h : SameButRejections a b) (h' : SameButRejections b c) : SameButRejections a c := by
  obtain ⟨_, _, rfl⟩ := h
  obtain ⟨_, _, rfl⟩ := h'
  exact ⟨_, _, rfl⟩

theorem recordRejection (a : StoreInner C) (transport : Transport) :
    SameButRejections a (recordRejection a transport) := ⟨_, _, rfl⟩

theorem both_rejected (h : SameButRejections a b) (transport : Transport) :
    SameButRejections (ControlPlane.recordRejection a transport)
      (ControlPlane.recordRejection b transport) :=
  (recordRejection a transport).symm.trans (h.trans (recordRejection b transport))

variable [LruCache C] [CounterArith]

theorem ingest (h : SameButRejections a b) (event : EventEnvelope) (transport : Transport)
    (receivedAt : DateTime) :
    SameButRejections (ingest a event transport receivedAt).1
        (ingest b event transport receivedAt).1 ∧
      (ingest a event transport receivedAt).2 = (ingest b event transport receivedAt).2 := by
  obtain ⟨rejected, byTransport, rfl⟩ := h
  unfold ControlPlane.ingest
  cases event.validate with
  | error error => exact ⟨⟨_, _, rfl⟩, rfl⟩
  | ok _ =>
    dsimp only
    cases (LruCache.get a.seenEventIds event.eventId).1 with
    | some _ => exact ⟨⟨_, _, rfl⟩, rfl⟩
    | none =>
      have hcounters := accept_withCounters
        { a with seenEventIds := (LruCache.get a.seenEventIds event.eventId).2 }
        { a.counters with rejected := rejected, rejectedByTransport := byTransport } event transport
        receivedAt
      have hplain := counters_accept
        { a with seenEventIds := (LruCache.get a.seenEventIds event.eventId).2 } event transport
        receivedAt
      dsimp only at hcounters hplain ⊢
      rw [hcounters]
      refine ⟨⟨rejected, byTransport, ?_⟩, rfl⟩
      rw [hplain]

end SameButRejections

section Handlers

variable {C : Type → Type → Type} [LruCache C] [CounterArith] {a b : StoreInner C}

def AlikeResults {α : Type} (first second : StoreInner C × α) : Prop :=
  SameButRejections first.1 second.1 ∧ first.2 = second.2

variable (h : SameButRejections a b) (endpoint : Endpoint) (receivedAt : DateTime)

include h

omit [LruCache C] [CounterArith] in
theorem alike_rejected {α : Type} (transport : Transport) (answer : α) :
    AlikeResults (recordRejection a transport, answer) (recordRejection b transport, answer) :=
  ⟨h.both_rejected transport, rfl⟩

theorem alike_ingestReply (event : EventEnvelope) (transport : Transport) :
    AlikeResults (Endpoint.ingestReply a event transport receivedAt)
      (Endpoint.ingestReply b event transport receivedAt) := by
  obtain ⟨hinner, hresult⟩ := h.ingest event transport receivedAt
  unfold Endpoint.ingestReply AlikeResults
  dsimp only
  rw [← hresult]
  cases (ingest a event transport receivedAt).2 <;> exact ⟨hinner, rfl⟩

theorem alike_ingestEvent (headers : Headers) (payload : Except String EventEnvelope) :
    AlikeResults (endpoint.ingestEvent a headers payload receivedAt)
      (endpoint.ingestEvent b headers payload receivedAt) := by
  unfold Endpoint.ingestEvent
  cases endpoint.auth.authorizeIngest (bearerToken headers) with
  | error _ => exact alike_rejected h .http _
  | ok _ =>
    cases payload with
    | error bodyText => exact alike_rejected h .http _
    | ok event =>
      obtain ⟨hinner, hresult⟩ := h.ingest event .http receivedAt
      unfold AlikeResults
      dsimp only
      rw [← hresult]
      cases (ingest a event .http receivedAt).2 <;> exact ⟨hinner, rfl⟩

omit [LruCache C] [CounterArith] in
theorem alike_agentWebsocket (headers : Headers) (queryToken : Option String) :
    AlikeResults (endpoint.agentWebsocket a headers queryToken)
      (endpoint.agentWebsocket b headers queryToken) := by
  unfold Endpoint.agentWebsocket
  by_cases horigin : !websocketOriginAllowed headers endpoint.corsAny
  · simp only [if_pos horigin]
    exact alike_rejected h .webSocket _
  · simp only [if_neg horigin]
    cases endpoint.auth.authorizeIngest (preferredToken headers queryToken) with
    | error _ => exact alike_rejected h .webSocket _
    | ok _ => exact ⟨h, rfl⟩

theorem alike_handleMessage (message : WebSocketMessage) :
    AlikeResults (endpoint.handleMessage a message receivedAt)
      (endpoint.handleMessage b message receivedAt) := by
  have hanswer : ∀ payload : TransportPayload,
      AlikeResults (Endpoint.ingestReply a payload.intoParts.2 .webSocket receivedAt)
        (Endpoint.ingestReply b payload.intoParts.2 .webSocket receivedAt) :=
    fun payload => alike_ingestReply h receivedAt payload.intoParts.2 .webSocket
  unfold Endpoint.handleMessage
  cases message with
  | text text =>
    dsimp only
    cases endpoint.parser.fromStr text with
    | error error => exact alike_rejected h .webSocket _
    | ok payload => exact ⟨(hanswer payload).1, congrArg some (hanswer payload).2⟩
  | binary bytes =>
    dsimp only
    cases endpoint.parser.fromSlice bytes with
    | error error => exact alike_rejected h .webSocket _
    | ok payload => exact ⟨(hanswer payload).1, congrArg some (hanswer payload).2⟩
  | ping | pong | close => exact ⟨h, rfl⟩

theorem alike_handleFrame (frame : Except String String) :
    AlikeResults (endpoint.handleFrame a frame receivedAt)
      (endpoint.handleFrame b frame receivedAt) := by
  unfold Endpoint.handleFrame
  cases frame with
  | error error => exact alike_rejected h .tcp _
  | ok line =>
    dsimp only
    cases endpoint.parser.fromStr line with
    | error error => exact alike_rejected h .tcp _
    | ok payload =>
      dsimp only
      cases endpoint.auth.authorizeIngest payload.intoParts.1 with
      | error error => exact alike_rejected h .tcp _
      | ok _ => exact alike_ingestReply h receivedAt payload.intoParts.2 .tcp

theorem alike_handleDatagram (bytes : List UInt8) :
    AlikeResults (endpoint.handleDatagram a bytes receivedAt)
      (endpoint.handleDatagram b bytes receivedAt) := by
  unfold Endpoint.handleDatagram
  dsimp only
  split
  · exact alike_rejected h .udp _
  · cases endpoint.parser.fromSlice (bytes.take (endpoint.maxPayloadBytes + 1)) with
    | error _ => exact alike_rejected h .udp _
    | ok payload =>
      dsimp only
      cases endpoint.auth.authorizeIngest payload.intoParts.1 with
      | error _ => exact alike_rejected h .udp _
      | ok _ =>
        dsimp only
        split
        · exact alike_rejected h .udp _
        · have hreply := alike_ingestReply h receivedAt payload.intoParts.2 .udp
          exact ⟨hreply.1, congrArg some hreply.2⟩

end Handlers

namespace Gateway

variable {C : Type → Type → Type} [LruCache C] [CounterArith] {g h : Gateway C}
  (endpoint : Endpoint) (arrival : Arrival × DateTime)

omit [LruCache C] [CounterArith] in
structure Alike (g h : Gateway C) : Prop where
  inner : SameButRejections g.inner h.inner
  sockets : h.sockets = g.sockets

omit [LruCache C] [CounterArith] in
theorem Alike.refl (g : Gateway C) : Alike g g := ⟨.refl g.inner, rfl⟩

theorem Alike.step (alike : Alike g h) :
    Alike (g.step endpoint arrival) (h.step endpoint arrival) ∧
      g.answer endpoint arrival = h.answer endpoint arrival := by
  obtain ⟨arrival, receivedAt⟩ := arrival
  cases arrival with
  | request headers payload =>
    have hrequest := alike_ingestEvent alike.inner endpoint receivedAt headers payload
    exact ⟨⟨hrequest.1, alike.sockets⟩, congrArg Answer.request hrequest.2⟩
  | upgrade socket headers queryToken =>
    have hupgrade := alike_agentWebsocket alike.inner endpoint headers queryToken
    refine ⟨?_, congrArg Answer.upgrade hupgrade.2⟩
    simp only [Gateway.step, ← hupgrade.2, alike.sockets]
    split <;> exact ⟨hupgrade.1, rfl⟩
  | message socket message =>
    have hmessage := alike_handleMessage alike.inner endpoint receivedAt message
    simp only [Gateway.step, Gateway.answer, alike.sockets]
    by_cases hopen : socket ∈ g.sockets
    · simp only [if_pos hopen]
      exact ⟨⟨hmessage.1, rfl⟩, congrArg Answer.reply hmessage.2⟩
    · simp only [if_neg hopen]
      exact ⟨alike, trivial⟩
  | frame frame =>
    have hframe := alike_handleFrame alike.inner endpoint receivedAt frame
    exact ⟨⟨hframe.1, alike.sockets⟩, congrArg (fun reply => Answer.reply (some reply)) hframe.2⟩
  | datagram bytes =>
    have hdatagram := alike_handleDatagram alike.inner endpoint receivedAt bytes
    exact ⟨⟨hdatagram.1, alike.sockets⟩, congrArg Answer.reply hdatagram.2⟩

omit [LruCache C] [CounterArith] in
theorem not_accepts {provided : Option String} (h : endpoint.accepts provided = false) :
    ∃ error, endpoint.auth.authorizeIngest provided = .error error := by
  unfold Endpoint.accepts at h
  cases hauthorized : endpoint.auth.authorizeIngest provided with
  | error error => exact ⟨error, rfl⟩
  | ok _ =>
    rw [hauthorized] at h
    cases h

theorem step_of_withheld (hwithheld : g.admits endpoint arrival = false) :
    g.step endpoint arrival = g ∨
      ∃ transport, g.step endpoint arrival = { g with inner := recordRejection g.inner transport } := by
  obtain ⟨arrival, receivedAt⟩ := arrival
  cases arrival with
  | request headers payload =>
    obtain ⟨error, herror⟩ := not_accepts endpoint hwithheld
    refine .inr ⟨.http, ?_⟩
    simp only [step, Endpoint.ingestEvent, herror]
  | upgrade socket headers queryToken =>
    refine .inr ⟨.webSocket, ?_⟩
    cases horigin : websocketOriginAllowed headers endpoint.corsAny with
    | false =>
      simp only [step, Endpoint.agentWebsocket, horigin]
      rfl
    | true =>
      simp only [admits, horigin, Bool.true_and] at hwithheld
      obtain ⟨error, herror⟩ := not_accepts endpoint hwithheld
      simp only [step, Endpoint.agentWebsocket, horigin, herror]
      rfl
  | message socket message =>
    have hclosed : socket ∉ g.sockets := of_decide_eq_false hwithheld
    refine .inl ?_
    simp only [step, if_neg hclosed]
  | frame frame =>
    refine .inr ⟨.tcp, ?_⟩
    cases frame with
    | error error => rfl
    | ok line =>
      simp only [admits] at hwithheld
      simp only [step, Endpoint.handleFrame]
      cases hpayload : endpoint.parser.fromStr line with
      | error error => rfl
      | ok payload =>
        simp only [hpayload, Except.toOption, Option.any_some] at hwithheld
        obtain ⟨error, herror⟩ := not_accepts endpoint hwithheld
        simp only [herror]
  | datagram bytes =>
    refine .inr ⟨.udp, ?_⟩
    simp only [admits, Endpoint.datagramPayload] at hwithheld
    simp only [step, Endpoint.handleDatagram]
    split
    · rfl
    · next hlength =>
      simp only [if_neg hlength] at hwithheld
      cases hpayload : endpoint.parser.fromSlice (bytes.take (endpoint.maxPayloadBytes + 1)) with
      | error error => rfl
      | ok payload =>
        simp only [hpayload, Except.toOption, Option.any_some] at hwithheld
        obtain ⟨error, herror⟩ := not_accepts endpoint hwithheld
        simp only [herror]

theorem Alike.of_withheld (alike : Alike g h) (hwithheld : g.admits endpoint arrival = false) :
    Alike (g.step endpoint arrival) h := by
  rcases step_of_withheld endpoint arrival hwithheld with hsame | ⟨transport, hrejected⟩
  · rwa [hsame]
  · rw [hrejected]
    exact ⟨(SameButRejections.recordRejection g.inner transport).symm.trans alike.inner,
      alike.sockets⟩

omit [LruCache C] [CounterArith] in
theorem Alike.admits_eq (alike : Alike g h) :
    h.admits endpoint arrival = g.admits endpoint arrival := by
  simp only [admits, alike.sockets]

theorem unwinding : Run.Unwinding (admits endpoint) (step endpoint (C := C)) Alike where
  withheld alike hwithheld := alike.of_withheld endpoint _ hwithheld
  shown alike _ := (alike.step endpoint _).1

end Gateway

/-- The arrival carries the token, or came over a socket that an earlier upgrade with the token
asked for. -/
def Arrival.Authentic (endpoint : Endpoint) (token : String)
    (before : List (Arrival × DateTime)) : Arrival → Prop
  | .message socket _ => ∃ headers queryToken receivedAt,
      (.upgrade socket headers queryToken, receivedAt) ∈ before ∧
        preferredToken headers queryToken = some token
  | arrival => arrival.credential endpoint = some token

namespace Gateway

variable {C : Type → Type → Type} [LruCache C] [CounterArith] {g : Gateway C}
  {endpoint : Endpoint} {token : String}

def new (cache : CacheConfig) (startedAt : DateTime) : Gateway C := ⟨.new cache startedAt, []⟩

omit [LruCache C] [CounterArith] in
theorem eq_of_accepts (htoken : endpoint.auth.token = some token) {provided : Option String}
    (h : endpoint.accepts provided = true) : provided = some token := by
  unfold Endpoint.accepts at h
  cases hauthorized : endpoint.auth.authorizeIngest provided with
  | error error =>
    rw [hauthorized] at h
    cases h
  | ok _ => exact AuthPolicy.eq_of_authorize htoken hauthorized

omit [LruCache C] [CounterArith] in
theorem credential_of_admits (htoken : endpoint.auth.token = some token)
    {arrival : Arrival × DateTime} (hadmits : g.admits endpoint arrival = true) :
    arrival.1.credential endpoint = some token ∨
      ∃ socket message, arrival.1 = .message socket message ∧ socket ∈ g.sockets := by
  obtain ⟨arrival, receivedAt⟩ := arrival
  cases arrival with
  | request headers payload => exact .inl (eq_of_accepts htoken hadmits)
  | upgrade socket headers queryToken =>
    simp only [admits, Bool.and_eq_true] at hadmits
    exact .inl (eq_of_accepts htoken hadmits.2)
  | message socket message => exact .inr ⟨socket, message, rfl, of_decide_eq_true hadmits⟩
  | frame frame =>
    cases frame with
    | error error => cases hadmits
    | ok line =>
      cases hpayload : (endpoint.parser.fromStr line).toOption with
      | none => simp [admits, hpayload] at hadmits
      | some payload =>
        simp only [admits, hpayload, Option.any_some] at hadmits
        simp only [Arrival.credential, hpayload, Option.bind_some]
        exact .inl (eq_of_accepts htoken hadmits)
  | datagram bytes =>
    cases hpayload : (endpoint.datagramPayload bytes).toOption with
    | none => simp [admits, hpayload] at hadmits
    | some payload =>
      simp only [admits, hpayload, Option.any_some] at hadmits
      simp only [Arrival.credential, hpayload, Option.bind_some]
      exact .inl (eq_of_accepts htoken hadmits)

omit [LruCache C] [CounterArith] in
theorem preferred_of_upgraded (htoken : endpoint.auth.token = some token)
    {inner : StoreInner C} {headers : Headers} {queryToken : Option String}
    (h : (endpoint.agentWebsocket inner headers queryToken).2 = .ok ()) :
    preferredToken headers queryToken = some token := by
  unfold Endpoint.agentWebsocket at h
  split at h
  · cases h
  · cases hauthorized : endpoint.auth.authorizeIngest (preferredToken headers queryToken) with
    | error error =>
      rw [hauthorized] at h
      cases h
    | ok _ => exact eq_of_accepts htoken (by rw [Endpoint.accepts, hauthorized]; rfl)

theorem opened_with_token (htoken : endpoint.auth.token = some token) (cache : CacheConfig)
    (startedAt : DateTime) (before : List (Arrival × DateTime)) :
    ∀ socket ∈ (Run.after (step endpoint) (new cache startedAt : Gateway C) before).sockets,
      ∃ headers queryToken receivedAt,
        (Arrival.upgrade socket headers queryToken, receivedAt) ∈ before ∧
          preferredToken headers queryToken = some token := by
  induction before using List.reverseRecOn with
  | nil =>
    intro socket hsocket
    cases hsocket
  | append_singleton before arrival ih =>
    rw [Run.after_append, Run.after_cons, Run.after_nil]
    generalize hg : Run.after (step endpoint) (new cache startedAt : Gateway C) before = g at ih ⊢
    have hold : ∀ socket ∈ g.sockets, ∃ headers queryToken receivedAt,
        (Arrival.upgrade socket headers queryToken, receivedAt) ∈ before ++ [arrival] ∧
          preferredToken headers queryToken = some token := by
      intro socket hsocket
      obtain ⟨headers, queryToken, receivedAt, hmem, hprovided⟩ := ih socket hsocket
      exact ⟨headers, queryToken, receivedAt, List.mem_append_left _ hmem, hprovided⟩
    intro socket hsocket
    obtain ⟨arrival, receivedAt⟩ := arrival
    cases arrival with
    | request headers payload => exact hold socket hsocket
    | frame frame => exact hold socket hsocket
    | datagram bytes => exact hold socket hsocket
    | message other message =>
      simp only [step] at hsocket
      split at hsocket
      · cases hclose : message.isClose with
        | false =>
          simp only [hclose, Bool.false_eq_true, if_false] at hsocket
          exact hold socket hsocket
        | true =>
          simp only [hclose, if_true, List.mem_filter] at hsocket
          exact hold socket hsocket.1
      · exact hold socket hsocket
    | upgrade other headers queryToken =>
      simp only [step] at hsocket
      cases hupgraded : (endpoint.agentWebsocket g.inner headers queryToken).2 with
      | error error =>
        simp only [hupgraded] at hsocket
        exact hold socket hsocket
      | ok _ =>
        simp only [hupgraded, List.mem_cons] at hsocket
        rcases hsocket with rfl | hsocket
        · exact ⟨headers, queryToken, receivedAt, by simp, preferred_of_upgraded htoken hupgraded⟩
        · exact hold socket hsocket

/-- Arrivals that the handlers turn away change nothing but the counts of rejections: the store,
the open sockets and every other answer are those of the run without them.  And whatever is not
turned away carries the token, or came over a socket that was asked for with it. -/
theorem unauthorized_unnoticed (endpoint : Endpoint) (token : String)
    (htoken : endpoint.auth.token = some token) (cache : CacheConfig) (startedAt : DateTime)
    (arrivals : List (Arrival × DateTime)) :
    let start : Gateway C := new cache startedAt
    let admitted := Run.shown (admits endpoint) (step endpoint) start arrivals
    Alike (Run.after (step endpoint) start arrivals) (Run.after (step endpoint) start admitted) ∧
      Run.answered (admits endpoint) (answer endpoint) (step endpoint) start arrivals =
        Run.answered (admits endpoint) (answer endpoint) (step endpoint) start admitted ∧
      ∀ before arrival rest, arrivals = before ++ arrival :: rest →
        (Run.after (step endpoint) start before).admits endpoint arrival = true →
          arrival.1.Authentic endpoint token before := by
  intro start admitted
  refine ⟨(unwinding endpoint).after (Alike.refl start) arrivals, ?_, ?_⟩
  · refine (unwinding endpoint).answers ?_ (Alike.refl start) arrivals
    intro g h arrival alike hadmits
    exact ⟨(alike.admits_eq endpoint arrival).trans hadmits, (alike.step endpoint arrival).2⟩
  · intro before arrival rest harrivals hadmits
    obtain ⟨arrival, receivedAt⟩ := arrival
    rcases credential_of_admits htoken hadmits with hcredential | ⟨socket, message, rfl, hopen⟩
    · cases arrival with
      | message socket message => cases hcredential
      | request | upgrade | frame | datagram => exact hcredential
    · exact opened_with_token htoken cache startedAt before socket hopen

end Gateway

namespace Sample

def token : String := "0123456789abcdef"

def guarded : Endpoint where
  auth := ⟨some token, true⟩
  corsAny := false
  maxPayloadBytes := 1024
  parser := wireParser Numeral

def signed : TransportPayload := .frame ⟨some token, envelope 1 1 (created "a")⟩

def unsigned : TransportPayload := .event (envelope 2 2 (started "a"))

theorem read_signed : guarded.parser.fromStr (line signed) = .ok signed := by
  refine read_line signed (by decide +kernel) (fits_envelope (by decide) ?_)
  intro started heq
  cases heq

theorem read_unsigned : guarded.parser.fromStr (line unsigned) = .ok unsigned :=
  read_line unsigned (by decide +kernel) (fits_started (by decide) "a")

theorem unauthorized_unnoticed_signed :
    Gateway.Alike
      (Run.after (Gateway.step guarded) (Gateway.new cache (instant 0) : Gateway RecencyCache)
        [(.frame (.ok (line unsigned)), instant 1), (.frame (.ok (line signed)), instant 2),
          (.message 7 (.text (line signed)), instant 3)])
      (Run.after (Gateway.step guarded) (Gateway.new cache (instant 0) : Gateway RecencyCache)
        [(.frame (.ok (line signed)), instant 2)]) := by
  obtain ⟨halike, -⟩ := Gateway.unauthorized_unnoticed (C := RecencyCache) guarded token rfl cache
    (instant 0) [(.frame (.ok (line unsigned)), instant 1), (.frame (.ok (line signed)), instant 2),
      (.message 7 (.text (line signed)), instant 3)]
  rwa [Run.shown_cons_of_false, Run.shown_cons_of_true, Run.shown_cons_of_false, Run.shown_nil]
    at halike
  · rfl
  · simp only [Gateway.admits, read_signed]
    rfl
  · simp only [Gateway.admits, read_unsigned]
    rfl

end Sample

end ControlPlane
