import ControlPlane.Client.Send

/-! A client and the daemon at the two ends of a connection that carries what they write. -/

namespace ControlPlane

open Serde (Value Codec)

def ingestResponse : Except ApiError (StatusCode × IngestAck) → Nat × Reply
  | .ok (.ok, ack) => (200, .ack ack)
  | .ok (.accepted, ack) => (202, .ack ack)
  | .error .unauthorized => (401, .error "unauthorized" "Authentication failed")
  | .error .forbidden => (403, .error "forbidden" "Cross-origin WebSocket upgrade rejected")
  | .error (.badRequest message) => (400, .error "invalid_request" message)

/-- A daemon with what its libraries say for it: how a response is written, what is wrong with a
body, why there is no socket, and which endpoints lead to the routes of agents. -/
structure Site where
  daemon : Daemon
  writer : HttpWriter
  bodyTooLong : String
  rejection : String → String
  refusal : ApiError → String
  unreachable : String
  isEventRoute : HttpEndpoint → Bool
  isAgentRoute : String → Bool
  queryToken : String → Option String

namespace Site

variable (N : Type) [WireNumber N] [WireText] [JsonText N] (site : Site)
  {C : Type → Type → Type} [LruCache C] [CounterArith] (receivedAt : DateTime)

def endpoint : Endpoint := site.daemon.endpoint (wireParser N)

def headers (authorization : Option String) : Headers where
  authorization := authorization.map asBytes
  origin := none
  host := none

def extract (body : List UInt8) : Except String EventEnvelope :=
  if site.daemon.config.maxPayloadBytes < body.length then .error site.bodyTooLong
  else (fromSlice (EventEnvelope.codec : Codec N _) body).mapError site.rejection

def serveHttp (inner : StoreInner C) (authorization : Option String) (body : List UInt8) :
    StoreInner C × List UInt8 :=
  let (inner, answer) :=
    (site.endpoint N).ingestEvent inner (headers authorization) (site.extract N body) receivedAt
  let response := ingestResponse answer
  (inner, site.writer.response response.1 (toVec (response.2.encode : Value N)))

/-- After a message that is too long the socket is closed. -/
def serveWebsocket (inner : StoreInner C) (target : String) (authorization : Option String)
    (text : String) :
    StoreInner C × Except ClientError (List (Except ClientError WebSocketMessage)) :=
  let (inner, upgraded) :=
    (site.endpoint N).agentWebsocket inner (headers authorization) (site.queryToken target)
  match upgraded with
  | .error error => (inner, .error (.webSocket (site.refusal error)))
  | .ok () =>
    if site.daemon.config.maxPayloadBytes < (asBytes text).length then (inner, .ok [])
    else
      let (inner, reply) := (site.endpoint N).handleMessage inner (.text text) receivedAt
      (inner, .ok (reply.toList.map fun reply =>
        .ok (.text (JsonText.print (sortKeys (reply.encode : Value N))))))

/-- One line comes in, and its reply is the first line to go out. -/
def serveTcp (inner : StoreInner C) (bytes : List UInt8) : StoreInner C × Option (List UInt8) :=
  let line := bytes.takeWhile (· ≠ 10)
  let frames := (FramedRead.lines site.daemon.config.maxPayloadBytes).frames [⟨line, receivedAt⟩]
  let (inner, replies) := (site.endpoint N).handleConnection inner frames
  (inner, replies.head?.map fun reply =>
    (toVec (reply.encode : Value N) ++ [10]).takeWhile (· ≠ 10))

/-- Who gets no reply waits until the time is up. -/
def serveUdp (inner : StoreInner C) (address : SocketAddr) (datagram : List UInt8) :
    StoreInner C × Except ClientError (List UInt8 × SocketAddr) :=
  let (inner, reply) := (site.endpoint N).handleDatagram inner datagram receivedAt
  match reply with
  | some reply => (inner, .ok (toVec (sortKeys (reply.encode : Value N)), address))
  | none => (inner, .error .timeout)

def network : Network (StoreInner C) where
  http inner endpoint authorization body :=
    if site.isEventRoute endpoint then
      let served := site.serveHttp N receivedAt inner authorization body
      (served.1, .ok served.2)
    else (inner, .error (.io site.unreachable))
  webSocket inner target authorization text :=
    if site.isAgentRoute target then site.serveWebsocket N receivedAt inner target authorization text
    else (inner, .error (.io site.unreachable))
  tcp inner address bytes :=
    if address = site.daemon.addresses.tcp then
      let served := site.serveTcp N receivedAt inner bytes
      (served.1, .ok served.2)
    else (inner, .error (.io site.unreachable))
  udp inner address datagram :=
    if address = site.daemon.addresses.udp then
      site.serveUdp N receivedAt inner address datagram
    else (inner, .error (.io site.unreachable))

end Site

end ControlPlane
