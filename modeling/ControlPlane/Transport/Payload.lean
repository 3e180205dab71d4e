import ControlPlane.Store.Ingest

/-! What agents send, and who may send it. -/

namespace ControlPlane

structure AuthPolicy where
  token : Option String
  protectReads : Bool
  deriving DecidableEq, Repr

inductive AuthorizationError
  | failed
  deriving DecidableEq, Repr

def AuthorizationError.display : AuthorizationError → String
  | failed => "authentication failed"

namespace AuthPolicy

def authorize (policy : AuthPolicy) (provided : Option String) : Except AuthorizationError Unit :=
  match policy.token, provided with
  | none, _ => .ok ()
  | some _, none => .error .failed
  | some expected, some provided =>
    if expected.utf8ByteSize ≠ provided.utf8ByteSize ∨ expected ≠ provided then .error .failed
    else .ok ()

def authorizeIngest (policy : AuthPolicy) (provided : Option String) :
    Except AuthorizationError Unit :=
  policy.authorize provided

end AuthPolicy

structure Headers where
  authorization : Option (List UInt8)
  origin : Option (List UInt8)
  host : Option (List UInt8)
  deriving DecidableEq, Repr

/-- `HeaderValue::to_str`: visible ASCII, blanks and tabs only. -/
def headerText (value : List UInt8) : Option (List Char) :=
  if value.all fun byte => (32 ≤ byte && byte < 127) || byte == 9 then
    some (value.map fun byte => Char.ofNat byte.toNat)
  else none

def isAsciiWhitespace (c : Char) : Bool :=
  c == ' ' || c == '\t' || c == '\n' || c == '\r' || c.toNat == 0x0C

def eqIgnoreAsciiCase (a b : List Char) : Bool := a.map Char.toLower == b.map Char.toLower

def bearerToken (headers : Headers) : Option String := do
  let value ← headerText (← headers.authorization)
  if ' ' ∉ value then none
  let scheme := value.takeWhile (· ≠ ' ')
  let token := (value.dropWhile (· ≠ ' ')).tail
  if eqIgnoreAsciiCase scheme "bearer".toList && !token.isEmpty && !token.any isAsciiWhitespace then
    some (String.ofList token)
  else none

def preferredToken (headers : Headers) (queryToken : Option String) : Option String :=
  if headers.authorization.isSome then bearerToken headers else queryToken

def stripPrefix (start : String) (text : List Char) : Option (List Char) :=
  if start.toList.isPrefixOf text then some (text.drop start.length) else none

def websocketOriginAllowed (headers : Headers) (corsAny : Bool) : Bool :=
  if corsAny then true
  else
    match headers.origin with
    | none => true
    | some origin =>
      match headers.host.bind headerText, headerText origin with
      | none, _ => false
      | some _, none => false
      | some host, some origin =>
        ((stripPrefix "http://" origin).or (stripPrefix "https://" origin)).any fun originHost =>
          eqIgnoreAsciiCase originHost host

structure TransportFrame where
  token : Option String
  event : EventEnvelope

inductive TransportPayload
  | frame (frame : TransportFrame)
  | event (event : EventEnvelope)

def TransportPayload.intoParts : TransportPayload → Option String × EventEnvelope
  | .frame transportFrame => (transportFrame.token, transportFrame.event)
  | .event envelope => (none, envelope)

/-- The JSON deserializer of payloads, with the texts of its errors. -/
structure PayloadParser where
  fromStr : String → Except String TransportPayload
  fromSlice : List UInt8 → Except String TransportPayload

end ControlPlane
