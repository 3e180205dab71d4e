import ControlPlane.Lib.Decimal
import ControlPlane.Protocol.Text
import ControlPlane.Transport.Config
import ControlPlane.Transport.Tcp

/-! What a client makes of the bytes that come back from the daemon. -/

namespace ControlPlane

open Serde (Value Codec Field Fields)

def Transport.codec {N : Type} : Codec N Transport :=
  .enumeration false [http, webSocket, tcp, udp] asStr fun transport => by cases transport <;> rfl

def Wire.open : Fields.Shape where
  denyUnknown := false
  positional := true

structure RemoteError where
  error : String
  message : Option String
  deriving DecidableEq, Repr

def RemoteError.codec {N : Type} : Codec N RemoteError :=
  .struct (.cons (.required "error" .string) <| .cons (Wire.optionalString "message") .nil)
    Wire.open (fun remote => (remote.error, remote.message, ()))
    fun (error, message, _) => ⟨error, message⟩

section Reply

variable {N : Type} [WireNumber N] [WireText]

def IngestAck.codec : Codec N IngestAck :=
  .struct
    (.cons (.required "accepted" .bool) <|
      .cons (.required "duplicate" .bool) <|
      .cons (.required "event_id" Wire.uuid) <|
      .cons (.required "revision" Wire.u64) <|
      .cons (.required "transport" Transport.codec) <|
      .cons (.required "received_at" Wire.instant) .nil)
    Wire.open
    (fun ack =>
      (ack.accepted, ack.duplicate, ack.eventId, ack.revision, ack.transport, ack.receivedAt, ()))
    fun (accepted, duplicate, eventId, revision, transport, receivedAt, _) =>
      ⟨accepted, duplicate, eventId, revision, transport, receivedAt⟩

/-- The serializer's own objects hold their keys in order. -/
def sortKeys : Value N → Value N
  | .object entries => .object (entries.mergeSort fun a b => decide (a.1 ≤ b.1))
  | written => written

def Reply.encode : Reply → Value N
  | .ack acknowledgement => IngestAck.codec.encode acknowledgement
  | .error code message => RemoteError.codec.encode ⟨code, some message⟩

def Reply.Fits : Reply → Prop
  | .ack acknowledgement =>
    acknowledgement.revision < 2 ^ 64 ∧ WireText.IsInstant acknowledgement.receivedAt
  | .error _ _ => True

end Reply

inductive ClientError
  | invalidConfig (message : String)
  | invalidEndpoint (message : String)
  | invalidEvent (message : String)
  | timeout
  | connectionClosed
  | remoteRejected (code message : String)
  | httpStatus (status : Nat)
  | responseTooLarge (maximum : Nat)
  | invalidResponse (message : String)
  | unexpectedAcknowledgement (message : String)
  | udpPolicy (kind : String)
  | webSocket (message : String)
  | framing (message : String)
  | io (message : String)
  | json (message : String)
  deriving DecidableEq, Repr

def ensureResponseSize (length maximum : Nat) : Except ClientError Unit :=
  if maximum < length then .error (.responseTooLarge maximum) else .ok ()

def validateAck (ack : IngestAck) (event : EventEnvelope) (expectedTransport : Transport) :
    Except ClientError Unit :=
  if !ack.accepted then .error (.unexpectedAcknowledgement "server returned accepted=false")
  else if ack.eventId ≠ event.eventId then
    .error (.unexpectedAcknowledgement "event ID did not match the submitted event")
  else if ack.transport ≠ expectedTransport then
    .error (.unexpectedAcknowledgement
      ("transport was " ++ ack.transport.asStr ++ ", expected " ++ expectedTransport.asStr))
  else .ok ()

def RemoteError.rejected (remote : RemoteError) : ClientError :=
  .remoteRejected remote.error (remote.message.getD "request rejected")

def MAX_HTTP_HEADER_BYTES : Nat := 16 * 1024

def findSubsequence (haystack needle : List UInt8) : Option Nat :=
  (List.range (haystack.length + 1 - needle.length)).find? fun i =>
    needle.isPrefixOf (haystack.drop i)

def firstLine (text : List Char) : Option (List Char) :=
  if text.isEmpty then none
  else
    let line := text.takeWhile (· ≠ '\n')
    some (if line.length < text.length ∧ line.getLast? = some '\r' then line.dropLast else line)

def splitWhitespace (text : List Char) : List (List Char) :=
  (text.splitOnP isWhitespace).filter fun word => !word.isEmpty

def statusOf (headers : String) : Option Nat := do
  let line ← firstLine headers.toList
  let value ← (splitWhitespace line)[1]?
  Decimal.fromStr 16 value

section Decode

variable (N : Type) [WireNumber N] [WireText] [JsonText N]

def decodeAck (bytes : List UInt8) : Except ClientError IngestAck :=
  match fromSlice (IngestAck.codec : Codec N _) bytes with
  | .ok ack => .ok ack
  | .error error =>
    match fromSlice (RemoteError.codec : Codec N _) bytes with
    | .ok remote => .error remote.rejected
    | .error _ => .error (.invalidResponse error)

omit [WireNumber N] [WireText] in
def decodeRemoteError (bytes : List UInt8) (status : Option Nat) : ClientError :=
  match fromSlice (RemoteError.codec : Codec N _) bytes with
  | .ok remote => remote.rejected
  | .error _ =>
    match status with
    | some status => .httpStatus status
    | none => .invalidResponse "remote error was not valid JSON"

/-- `response` is what the connection gives until it ends; no more than the limit is read. -/
def readHttp (maximum : Nat) (response : List UInt8) : Except ClientError IngestAck :=
  let totalLimit := maximum + MAX_HTTP_HEADER_BYTES + 1
  let response := response.take totalLimit
  if totalLimit ≤ response.length then .error (.responseTooLarge maximum)
  else
    match findSubsequence response [13, 10, 13, 10] with
    | none => .error (.invalidResponse "HTTP headers were incomplete")
    | some separator =>
      if MAX_HTTP_HEADER_BYTES < separator then
        .error (.invalidResponse "HTTP response headers exceeded the client limit")
      else
        let responseBody := response.drop (separator + 4)
        if maximum < responseBody.length then .error (.responseTooLarge maximum)
        else
          match fromUtf8 (response.take separator) with
          | none => .error (.invalidResponse "HTTP headers were not UTF-8")
          | some headers =>
            match statusOf headers with
            | none => .error (.invalidResponse "HTTP status line was invalid")
            | some status =>
              if status < 200 ∨ 300 ≤ status then
                .error (decodeRemoteError N responseBody (some status))
              else decodeAck N responseBody

end Decode

section Replies

variable {N : Type} [WireNumber N] [WireText]

def Reply.result : Reply → Except ClientError IngestAck
  | .ack acknowledgement => .ok acknowledgement
  | .error code message => .error (.remoteRejected code message)

theorem Reply.nests_encode (reply : Reply) : (reply.encode : Value N).Nests 1 := by
  cases reply with
  | ack acknowledgement => exact IngestAck.codec.nests_encode acknowledgement
  | error code message => exact RemoteError.codec.nests_encode _

variable [JsonText N]

end Replies

def blankLine : List UInt8 := [13, 10, 13, 10]

def httpVersion : List Char := ['H', 'T', 'T', 'P', '/', '1', '.', '1']

/-- How the server writes the lines above a body: the status line first, and no blank one. -/
structure HttpWriter where
  head : Nat → List UInt8 → String
  statusLine : ∀ status body, ∃ rest, (head status body).toList =
    httpVersion ++ ' ' :: (Nat.toDigits 10 status ++ ' ' :: rest)
  noBlankLine : ∀ status body, ∀ i < (asBytes (head status body)).length,
    ¬blankLine <+: (asBytes (head status body) ++ blankLine).drop i
  short : ∀ status body, status < 1000 →
    (asBytes (head status body)).length + 4 ≤ MAX_HTTP_HEADER_BYTES

namespace HttpWriter

variable (writer : HttpWriter)

def response (status : Nat) (body : List UInt8) : List UInt8 :=
  asBytes (writer.head status body) ++ blankLine ++ body

variable {N : Type} [WireNumber N] [WireText] [JsonText N]

end HttpWriter

end ControlPlane
