import ControlPlane.Client.Answer

/-! The client of the daemon: one event, sent over one of the four transports. -/

namespace ControlPlane

open Serde (Value Codec)

def MAX_CLIENT_RESPONSE_BYTES : Nat := 16 * 1024 * 1024

inductive ClientTransport
  | http (endpoint : String)
  | webSocket (endpoint : String)
  | tcp (address : SocketAddr)
  | udp (address : SocketAddr)
  deriving DecidableEq, Repr

def ClientTransport.protocolTransport : ClientTransport → Transport
  | http _ => .http
  | webSocket _ => .webSocket
  | tcp _ => .tcp
  | udp _ => .udp

structure ClientConfig where
  transport : ClientTransport
  token : Option String
  /-- In nanoseconds. -/
  timeout : Nat
  maxResponseBytes : Nat
  deriving DecidableEq, Repr

structure Uri where
  scheme : Option String
  authority : Option String
  host : String
  port : Option Nat
  pathAndQuery : Option String
  deriving DecidableEq, Repr

/-- The libraries that read URIs, make requests for an upgrade of them and check headers. -/
class UriLibrary where
  parse : String → Except String Uri
  clientRequest : String → Except String Unit
  isHeaderValue : String → Bool
  isHeaderValue_of_text : ∀ {value}, (headerText (asBytes value)).isSome → isHeaderValue value

structure HttpEndpoint where
  connectAddress : String
  hostHeader : String
  path : String
  deriving DecidableEq, Repr

section Config

variable [UriLibrary]

def parseHttpEndpoint (endpoint : String) : Except ClientError HttpEndpoint :=
  match UriLibrary.parse endpoint with
  | .error error => .error (.invalidEndpoint error)
  | .ok uri =>
    if uri.scheme ≠ some "http" then
      .error (.invalidEndpoint
        "embedded HTTP client currently requires http://; use a local TLS terminator for https://")
    else
      match uri.authority with
      | none => .error (.invalidEndpoint "HTTP endpoint has no authority")
      | some authority =>
        if uri.host = "" then .error (.invalidEndpoint "HTTP endpoint has no host")
        else
          let port := uri.port.getD 80
          .ok {
            connectAddress :=
              if ':' ∈ uri.host.toList then "[" ++ uri.host ++ "]:" ++ toString port
              else uri.host ++ ":" ++ toString port
            hostHeader := authority
            path := uri.pathAndQuery.getD "/" }

namespace ClientConfig

def tokenIsSound (token : String) : Bool :=
  token ≠ "" && !(asBytes token).any fun byte =>
    byte == 32 || byte == 9 || byte == 10 || byte == 12 || byte == 13

def validate (config : ClientConfig) : Except ClientError Unit :=
  if config.timeout = 0 then .error (.invalidConfig "timeout must be greater than zero")
  else if config.maxResponseBytes = 0 ∨ MAX_CLIENT_RESPONSE_BYTES < config.maxResponseBytes then
    .error (.invalidConfig "maximum response bytes must be between 1 and 16777216")
  else if config.token.any fun token => !tokenIsSound token then
    .error (.invalidConfig "authentication tokens must be non-empty and contain no whitespace")
  else
    match config.transport with
    | .http endpoint => do
      let parsed ← parseHttpEndpoint endpoint
      if parsed.path = "" then
        throw (.invalidEndpoint "HTTP endpoint must include an ingestion path")
    | .webSocket endpoint =>
      if !"ws://".toList.isPrefixOf endpoint.toList then
        .error (.invalidEndpoint ("embedded WebSocket client currently requires a ws:// " ++
          "endpoint; use a local TLS terminator for wss://"))
      else (UriLibrary.clientRequest endpoint).mapError .invalidEndpoint
    | .tcp _ | .udp _ => .ok ()

end ClientConfig

structure EventClient where
  config : ClientConfig
  valid : config.validate = .ok ()

def EventClient.new (config : ClientConfig) : Except ClientError EventClient :=
  match h : config.validate with
  | .error error => .error error
  | .ok () => .ok ⟨config, h⟩

end Config

/-- What the connections do with the bytes of one exchange; `S` is what lies behind them.  An
exchange fails when it is not done in time or a socket reports an error. -/
structure Network (S : Type) where
  /-- The response up to the end of the stream. -/
  http : S → HttpEndpoint → Option String → List UInt8 → S × Except ClientError (List UInt8)
  /-- The messages that come after the client's own, until the socket is closed. -/
  webSocket : S → String → Option String → String →
    S × Except ClientError (List (Except ClientError WebSocketMessage))
  /-- The next line, if there is one. -/
  tcp : S → SocketAddr → List UInt8 → S × Except ClientError (Option (List UInt8))
  udp : S → SocketAddr → List UInt8 → S × Except ClientError (List UInt8 × SocketAddr)

namespace EventClient

variable [UriLibrary] (N : Type) [WireNumber N] [WireText] [JsonText N] (client : EventClient)
  {S : Type} (network : Network S) (state : S)

def bearer : Option String := client.config.token.map ("Bearer " ++ ·)

def sendHttp (endpoint : String) (event : EventEnvelope) : S × Except ClientError IngestAck :=
  match parseHttpEndpoint endpoint with
  | .error error => (state, .error error)
  | .ok endpoint =>
    let body := toVec (EventEnvelope.codec.encode event : Value N)
    let (state, response) := network.http state endpoint client.bearer body
    (state, response.bind fun response => readHttp N client.config.maxResponseBytes response)

/-- A pong that cannot be sent counts as the failure that comes next. -/
def receive : List (Except ClientError WebSocketMessage) → Except ClientError IngestAck
  | [] => .error .connectionClosed
  | .error error :: _ => .error error
  | .ok (.text text) :: _ => do
    ensureResponseSize (asBytes text).length client.config.maxResponseBytes
    decodeAck N (asBytes text)
  | .ok (.binary bytes) :: _ => do
    ensureResponseSize bytes.length client.config.maxResponseBytes
    decodeAck N bytes
  | .ok (.ping _) :: messages => receive messages
  | .ok (.pong _) :: messages => receive messages
  | .ok .close :: _ => .error .connectionClosed

def sendWebsocket (endpoint : String) (event : EventEnvelope) : S × Except ClientError IngestAck :=
  match UriLibrary.clientRequest endpoint with
  | .error error => (state, .error (.invalidEndpoint error))
  | .ok () =>
    if client.bearer.any fun value => !UriLibrary.isHeaderValue value then
      (state, .error (.invalidConfig "authentication token is not a valid header value"))
    else
      let payload := JsonText.print (EventEnvelope.codec.encode event : Value N)
      let (state, messages) := network.webSocket state endpoint client.bearer payload
      (state, messages.bind (client.receive N))

def readLine : Option (List UInt8) → Except ClientError IngestAck
  | none => .error .connectionClosed
  | some line =>
    match decodeLine client.config.maxResponseBytes line with
    | .error error => .error (.framing error)
    | .ok response => decodeAck N (asBytes response)

def sendTcp (address : SocketAddr) (event : EventEnvelope) : S × Except ClientError IngestAck :=
  let payload := toVec (TransportFrame.codec.encode ⟨client.config.token, event⟩ : Value N)
  let (state, response) := network.tcp state address (payload ++ [10])
  (state, response.bind (client.readLine N))

def sendUdp (address : SocketAddr) (event : EventEnvelope) : S × Except ClientError IngestAck :=
  if !event.event.allowedOverUdp then (state, .error (.udpPolicy event.kind))
  else
    let payload := toVec (TransportFrame.codec.encode ⟨client.config.token, event⟩ : Value N)
    if MAX_UDP_DATAGRAM_BYTES < payload.length then
      (state, .error (.invalidConfig "serialized UDP event exceeds the protocol datagram ceiling"))
    else
      let (state, response) := network.udp state address payload
      (state, response.bind fun response =>
        -- the buffer holds no more of a datagram
        let received := response.1.take (min client.config.maxResponseBytes MAX_UDP_DATAGRAM_BYTES)
        if response.2 ≠ address then
          .error (.invalidResponse "UDP acknowledgement came from an unexpected peer")
        else decodeAck N received)

def deliver (event : EventEnvelope) : S × Except ClientError IngestAck :=
  match client.config.transport with
  | .http endpoint => client.sendHttp N network state endpoint event
  | .webSocket endpoint => client.sendWebsocket N network state endpoint event
  | .tcp address => client.sendTcp N network state address event
  | .udp address => client.sendUdp N network state address event

def send (event : EventEnvelope) : S × Except ClientError IngestAck :=
  match event.validate with
  | .error error => (state, .error (.invalidEvent error.display))
  | .ok () =>
    let (state, delivered) := client.deliver N network state event
    (state, delivered.bind fun ack =>
      (validateAck ack event client.config.transport.protocolTransport).map fun () => ack)

end EventClient

end ControlPlane
