import ControlPlane.Lib.Run
import ControlPlane.Transport.Payload

/-! The handlers of the four transports, each from one input to the store after it and the
reply. -/

namespace ControlPlane

inductive Reply
  | ack (ack : IngestAck)
  | error (error message : String)
  deriving DecidableEq, Repr

inductive ApiError
  | unauthorized
  | forbidden
  | badRequest (message : String)
  deriving DecidableEq, Repr

inductive StatusCode
  | ok
  | accepted
  deriving DecidableEq, Repr

inductive WebSocketMessage
  | text (text : String)
  | binary (bytes : List UInt8)
  | ping (bytes : List UInt8)
  | pong (bytes : List UInt8)
  | close

structure Endpoint where
  auth : AuthPolicy
  corsAny : Bool
  maxPayloadBytes : Nat
  parser : PayloadParser

namespace Endpoint

variable {C : Type → Type → Type} [LruCache C] [CounterArith]

def ingestReply (inner : StoreInner C) (event : EventEnvelope) (transport : Transport)
    (receivedAt : DateTime) : StoreInner C × Reply :=
  let (inner, result) := ingest inner event transport receivedAt
  match result with
  | .ok ingested => (inner, .ack ingested.ack)
  | .error error => (inner, .error "invalid_event" error.display)

def ingestEvent (endpoint : Endpoint) (inner : StoreInner C) (headers : Headers)
    (payload : Except String EventEnvelope) (receivedAt : DateTime) :
    StoreInner C × Except ApiError (StatusCode × IngestAck) :=
  match endpoint.auth.authorizeIngest (bearerToken headers) with
  | .error _ => (recordRejection inner .http, .error .unauthorized)
  | .ok () =>
    match payload with
    | .error bodyText => (recordRejection inner .http, .error (.badRequest bodyText))
    | .ok event =>
      let (inner, result) := ingest inner event .http receivedAt
      match result with
      | .error error => (inner, .error (.badRequest error.display))
      | .ok ⟨ack, _⟩ => (inner, .ok (if ack.duplicate then .ok else .accepted, ack))

def agentWebsocket (endpoint : Endpoint) (inner : StoreInner C) (headers : Headers)
    (queryToken : Option String) : StoreInner C × Except ApiError Unit :=
  if !websocketOriginAllowed headers endpoint.corsAny then
    (recordRejection inner .webSocket, .error .forbidden)
  else
    match endpoint.auth.authorizeIngest (preferredToken headers queryToken) with
    | .error _ => (recordRejection inner .webSocket, .error .unauthorized)
    | .ok () => (inner, .ok ())

def handleMessage (endpoint : Endpoint) (inner : StoreInner C) (message : WebSocketMessage)
    (receivedAt : DateTime) : StoreInner C × Option Reply :=
  let answer (payload : Except String TransportPayload) : StoreInner C × Option Reply :=
    match payload with
    | .ok payload =>
      let (inner, reply) := ingestReply inner payload.intoParts.2 .webSocket receivedAt
      (inner, some reply)
    | .error error => (recordRejection inner .webSocket, some (.error "invalid_json" error))
  match message with
  | .text text => answer (endpoint.parser.fromStr text)
  | .binary bytes => answer (endpoint.parser.fromSlice bytes)
  | .ping _ | .pong _ | .close => (inner, none)

/-- One turn of the loop of a TCP connection; `frame` is a decoded line or a decoder error. -/
def handleFrame (endpoint : Endpoint) (inner : StoreInner C) (frame : Except String String)
    (receivedAt : DateTime) : StoreInner C × Reply :=
  match frame with
  | .error error => (recordRejection inner .tcp, .error "invalid_frame" error)
  | .ok line =>
    match endpoint.parser.fromStr line with
    | .error error => (recordRejection inner .tcp, .error "invalid_json" error)
    | .ok payload =>
      let (token, event) := payload.intoParts
      match endpoint.auth.authorizeIngest token with
      | .error error => (recordRejection inner .tcp, .error "unauthorized" error.display)
      | .ok () => ingestReply inner event .tcp receivedAt

/-- The buffer holds one byte more than the limit, so that a longer datagram shows. -/
def handleDatagram (endpoint : Endpoint) (inner : StoreInner C) (datagram : List UInt8)
    (receivedAt : DateTime) : StoreInner C × Option Reply :=
  let received := datagram.take (endpoint.maxPayloadBytes + 1)
  if endpoint.maxPayloadBytes < received.length then (recordRejection inner .udp, none)
  else
    match endpoint.parser.fromSlice received with
    | .error _ => (recordRejection inner .udp, none)
    | .ok payload =>
      let (token, event) := payload.intoParts
      match endpoint.auth.authorizeIngest token with
      | .error _ => (recordRejection inner .udp, none)
      | .ok () =>
        if !event.event.allowedOverUdp then
          (recordRejection inner .udp, some (.error "transport_policy"
            "this event kind requires HTTP, WebSocket, or TCP"))
        else
          let (inner, reply) := ingestReply inner event .udp receivedAt
          (inner, some reply)

inductive Input
  | request (headers : Headers) (payload : Except String EventEnvelope)
  | upgrade (headers : Headers) (queryToken : Option String)
  | message (message : WebSocketMessage)
  | frame (frame : Except String String)
  | datagram (bytes : List UInt8)

def Input.isIngestion : Input → Bool
  | request _ _ | message (.text _) | message (.binary _) | frame _ | datagram _ => true
  | upgrade _ _ | message (.ping _) | message (.pong _) | message .close => false

def process (endpoint : Endpoint) (inner : StoreInner C) (input : Input × DateTime) :
    StoreInner C :=
  match input.1 with
  | .request headers payload => (endpoint.ingestEvent inner headers payload input.2).1
  | .upgrade headers queryToken => (endpoint.agentWebsocket inner headers queryToken).1
  | .message message => (endpoint.handleMessage inner message input.2).1
  | .frame frame => (endpoint.handleFrame inner frame input.2).1
  | .datagram bytes => (endpoint.handleDatagram inner bytes input.2).1

@[simp] theorem ingestReply_fst (inner : StoreInner C) (event : EventEnvelope)
    (transport : Transport) (receivedAt : DateTime) :
    (ingestReply inner event transport receivedAt).1 =
      inner.step (.ingest event transport receivedAt) := by
  rw [ingestReply, StoreInner.step]
  generalize ingest inner event transport receivedAt = ingested
  obtain ⟨inner, result⟩ := ingested
  cases result <;> rfl

variable (endpoint : Endpoint) (inner : StoreInner C) (receivedAt : DateTime)

theorem ingestEvent_step (headers : Headers) (payload : Except String EventEnvelope) :
    ∃ op, (endpoint.ingestEvent inner headers payload receivedAt).1 = inner.step op := by
  unfold ingestEvent
  cases endpoint.auth.authorizeIngest (bearerToken headers) with
  | error _ => exact ⟨.recordRejection .http, rfl⟩
  | ok _ =>
    cases payload with
    | error bodyText => exact ⟨.recordRejection .http, rfl⟩
    | ok event =>
      refine ⟨.ingest event .http receivedAt, ?_⟩
      rw [StoreInner.step]
      dsimp only
      generalize ingest inner event .http receivedAt = ingested
      obtain ⟨inner, result⟩ := ingested
      cases result <;> rfl

omit [LruCache C] [CounterArith] in
theorem agentWebsocket_fst (headers : Headers) (queryToken : Option String) :
    (endpoint.agentWebsocket inner headers queryToken).1 = inner ∨
      (endpoint.agentWebsocket inner headers queryToken).1 = recordRejection inner .webSocket := by
  unfold agentWebsocket
  split
  · exact .inr rfl
  · cases endpoint.auth.authorizeIngest (preferredToken headers queryToken) with
    | error _ => exact .inr rfl
    | ok _ => exact .inl rfl

theorem agentWebsocket_step (headers : Headers) (queryToken : Option String) :
    (endpoint.agentWebsocket inner headers queryToken).1 = inner ∨
      ∃ op, (endpoint.agentWebsocket inner headers queryToken).1 = inner.step op := by
  rcases endpoint.agentWebsocket_fst inner headers queryToken with hsame | hrejected
  · exact .inl hsame
  · exact .inr ⟨.recordRejection .webSocket, hrejected⟩

theorem handleMessage_step (message : WebSocketMessage)
    (h : (Input.message message).isIngestion = true) :
    ∃ op, (endpoint.handleMessage inner message receivedAt).1 = inner.step op := by
  unfold handleMessage
  cases message with
  | text text =>
    dsimp only
    cases endpoint.parser.fromStr text with
    | error error => exact ⟨.recordRejection .webSocket, rfl⟩
    | ok payload => exact ⟨.ingest payload.intoParts.2 .webSocket receivedAt, ingestReply_fst ..⟩
  | binary bytes =>
    dsimp only
    cases endpoint.parser.fromSlice bytes with
    | error error => exact ⟨.recordRejection .webSocket, rfl⟩
    | ok payload => exact ⟨.ingest payload.intoParts.2 .webSocket receivedAt, ingestReply_fst ..⟩
  | ping | pong | close => cases h

theorem handleFrame_step (frame : Except String String) :
    ∃ op, (endpoint.handleFrame inner frame receivedAt).1 = inner.step op := by
  unfold handleFrame
  cases frame with
  | error error => exact ⟨.recordRejection .tcp, rfl⟩
  | ok line =>
    dsimp only
    cases endpoint.parser.fromStr line with
    | error error => exact ⟨.recordRejection .tcp, rfl⟩
    | ok payload =>
      dsimp only
      cases endpoint.auth.authorizeIngest payload.intoParts.1 with
      | error error => exact ⟨.recordRejection .tcp, rfl⟩
      | ok _ => exact ⟨.ingest payload.intoParts.2 .tcp receivedAt, ingestReply_fst ..⟩

theorem handleDatagram_step (datagram : List UInt8) :
    (endpoint.handleDatagram inner datagram receivedAt).1 = inner.step (.recordRejection .udp) ∨
      ∃ event, event.event.allowedOverUdp = true ∧
        (endpoint.handleDatagram inner datagram receivedAt).1 =
          inner.step (.ingest event .udp receivedAt) := by
  unfold handleDatagram
  dsimp only
  split
  · exact .inl rfl
  · split
    · exact .inl rfl
    · next payload _ =>
      split
      · exact .inl rfl
      · split
        · exact .inl rfl
        · next allowed => exact .inr ⟨payload.intoParts.2, by simpa using allowed, ingestReply_fst ..⟩

theorem handleDatagram_of_read {datagram : List UInt8} {payload : TransportPayload}
    (hroom : datagram.length ≤ endpoint.maxPayloadBytes)
    (hread : endpoint.parser.fromSlice datagram = .ok payload)
    (hauth : endpoint.auth.authorizeIngest payload.intoParts.1 = .ok ())
    (hallowed : payload.intoParts.2.event.allowedOverUdp = true) :
    endpoint.handleDatagram inner datagram receivedAt =
      let reply := ingestReply inner payload.intoParts.2 .udp receivedAt
      (reply.1, some reply.2) := by
  unfold handleDatagram
  dsimp only
  rw [List.take_of_length_le (Nat.le_succ_of_le hroom), if_neg (Nat.not_lt.2 hroom), hread]
  dsimp only
  rw [hauth, hallowed]
  rfl

theorem process_step {input : Input × DateTime} (h : input.1.isIngestion = true) :
    ∃ op, endpoint.process inner input = inner.step op := by
  obtain ⟨input, receivedAt⟩ := input
  cases input with
  | request headers payload => exact endpoint.ingestEvent_step inner receivedAt headers payload
  | upgrade headers queryToken => cases h
  | message message => exact endpoint.handleMessage_step inner receivedAt message h
  | frame frame => exact endpoint.handleFrame_step inner receivedAt frame
  | datagram bytes =>
    rcases endpoint.handleDatagram_step inner receivedAt bytes with hrefused | ⟨event, -, hstep⟩
    · exact ⟨_, hrefused⟩
    · exact ⟨_, hstep⟩

theorem process_eq_or_step (input : Input × DateTime) :
    endpoint.process inner input = inner ∨ ∃ op, endpoint.process inner input = inner.step op := by
  by_cases h : input.1.isIngestion = true
  · exact .inr (endpoint.process_step inner h)
  · obtain ⟨input, receivedAt⟩ := input
    cases input with
    | upgrade headers queryToken => exact endpoint.agentWebsocket_step inner headers queryToken
    | message message =>
      cases message with
      | ping | pong | close => exact .inl rfl
      | text | binary => exact absurd rfl h
    | request | frame | datagram => exact absurd rfl h

end Endpoint

namespace Sample

def closed : Endpoint where
  auth := ⟨none, false⟩
  corsAny := false
  maxPayloadBytes := 0
  parser := ⟨fun _ => .error "expected value", fun _ => .error "expected value"⟩

end Sample

end ControlPlane
