import ControlPlane.Api.Access
import ControlPlane.Client.Exchange

/-! The client says that an event was accepted if and only if it was. -/

namespace ControlPlane

open Serde (Value Codec)

section Store

variable {C : Type → Type → Type} [LruCache C] [CounterArith]

theorem ingest_of_valid {event : EventEnvelope} (hvalid : event.validate = .ok ())
    (inner : StoreInner C) (transport : Transport) (receivedAt : DateTime) :
    ∃ ack update, (ingest inner event transport receivedAt).2 = .ok ⟨ack, update⟩ ∧
      ack.accepted = true ∧ ack.eventId = event.eventId ∧ ack.transport = transport ∧
      ack.receivedAt = receivedAt ∧ (inner.revision < 2 ^ 64 → ack.revision < 2 ^ 64) := by
  rw [ingest, hvalid]
  dsimp only
  split
  · exact ⟨_, _, rfl, rfl, rfl, rfl, rfl, fun h => h⟩
  · refine ⟨_, _, rfl, rfl, rfl, rfl, rfl, fun _ => ?_⟩
    have hle : U64.saturatingAdd (applyEvent { inner with
        seenEventIds := (LruCache.get inner.seenEventIds event.eventId).2 } event).revision 1 ≤
          U64.MAX := Nat.min_le_right _ _
    exact Nat.lt_of_le_of_lt hle (by decide)

/-- How an exchange ends: with the acknowledgement of the store, which has the event, or with an
error, and the store has nothing but a rejection more. -/
inductive Ended (inner : StoreInner C) (event : EventEnvelope) (transport : Transport)
    (receivedAt : DateTime) (admitted : Prop) : StoreInner C × Except ClientError IngestAck → Prop
  | acknowledged {inner' : StoreInner C} {ack : IngestAck} {update : Option StoreUpdate}
    (hadmitted : admitted) (h : ingest inner event transport receivedAt = (inner', .ok ⟨ack, update⟩)) :
    Ended inner event transport receivedAt admitted (inner', .ok ack)
  | refused {inner' : StoreInner C} {error : ClientError} (hrefused : ¬admitted)
    (h : inner' = inner ∨ inner' = recordRejection inner transport) :
    Ended inner event transport receivedAt admitted (inner', .error error)

namespace Ended

variable {inner : StoreInner C} {event : EventEnvelope} {transport : Transport}
  {receivedAt : DateTime} {admitted : Prop} {sent : StoreInner C × Except ClientError IngestAck}

theorem congr {admitted' : Prop} (h : Ended inner event transport receivedAt admitted sent)
    (hiff : admitted ↔ admitted') : Ended inner event transport receivedAt admitted' sent := by
  cases h with
  | acknowledged hadmitted h => exact .acknowledged (hiff.1 hadmitted) h
  | refused hrefused h => exact .refused (fun hadmitted => hrefused (hiff.2 hadmitted)) h

end Ended

end Store

section Room

variable [UriLibrary] (N : Type) [WireNumber N] [WireText] [JsonText N]

namespace EventClient

variable (client : EventClient)

def transport : Transport := client.config.transport.protocolTransport

def request (event : EventEnvelope) : Value N :=
  match client.config.transport with
  | .http _ | .webSocket _ => EventEnvelope.codec.encode event
  | .tcp _ | .udp _ => TransportFrame.codec.encode ⟨client.config.token, event⟩

def responseLimit : Nat :=
  match client.config.transport with
  | .udp _ => min client.config.maxResponseBytes MAX_UDP_DATAGRAM_BYTES
  | _ => client.config.maxResponseBytes

end EventClient

namespace Site

variable (site : Site) (client : EventClient)

def written (transport : Transport) (reply : Reply) : Value N :=
  match transport with
  | .http | .tcp => reply.encode
  | .webSocket | .udp => sortKeys reply.encode

def requestLimit (transport : Transport) : Nat :=
  match transport with
  | .udp => min site.daemon.config.maxUdpPayloadBytes MAX_UDP_DATAGRAM_BYTES
  | _ => site.daemon.config.maxPayloadBytes

/-- The client's endpoint is one of this daemon's. -/
def Reaches : Prop :=
  match client.config.transport with
  | .http endpoint => ∃ parsed, parseHttpEndpoint endpoint = .ok parsed ∧ site.isEventRoute parsed
  | .webSocket target => site.isAgentRoute target = true
  | .tcp address => address = site.daemon.addresses.tcp
  | .udp address => address = site.daemon.addresses.udp

def credential : Option String :=
  match client.config.transport with
  | .webSocket target => client.config.token.or (site.queryToken target)
  | _ => client.config.token

def Admits : Prop := site.daemon.auth.authorizeIngest (site.credential client) = .ok ()

/-- The request is within the limits of the daemon. -/
def Within (event : EventEnvelope) : Prop :=
  (toVec (client.request N event)).length ≤ site.requestLimit client.transport

structure Accepts (event : EventEnvelope) : Prop where
  admits : site.Admits client
  allowed : client.transport = .udp → event.event.allowedOverUdp = true
  within : site.Within N client event

end Site

/-- The acknowledgement is within the limit of the client. -/
def EventClient.HasRoom (client : EventClient) {C : Type → Type → Type} [LruCache C]
    [CounterArith] (inner : StoreInner C) (event : EventEnvelope) (receivedAt : DateTime) : Prop :=
  ∀ ack update, (ingest inner event.rebuilt client.transport receivedAt).2 = .ok ⟨ack, update⟩ →
    (toVec (Site.written N client.transport (.ack ack))).length ≤ client.responseLimit

variable {client : EventClient}

end Room

section Exchange

variable {N : Type} [WireNumber N] [WireText] [JsonText N] {site : Site}
  {event : EventEnvelope} {receivedAt : DateTime}

variable {C : Type → Type → Type} [LruCache C] [CounterArith] {inner : StoreInner C}

variable [UriLibrary] {client : EventClient}

end Exchange

namespace Sample

def eventsEndpoint : String := "http://127.0.0.1:8787/api/v1/events"

instance uriLibrary : UriLibrary where
  parse text :=
    if text = eventsEndpoint then
      .ok ⟨some "http", some "127.0.0.1:8787", "127.0.0.1", some 8787, some "/api/v1/events"⟩
    else .error "invalid uri"
  clientRequest _ := .ok ()
  isHeaderValue value := (headerText (asBytes value)).isSome
  isHeaderValue_of_text h := h

def client : EventClient where
  config :=
    { transport := .http eventsEndpoint
      token := some token
      timeout := 10 * 10 ^ 9
      maxResponseBytes := 256 * 1024 }
  valid := by decide +kernel

def statusLine (status : Nat) : List Char :=
  httpVersion ++ ' ' :: (Nat.toDigits 10 status ++ [' '])

theorem statusLine_visible (status : Nat) : ∀ c ∈ statusLine status, 32 ≤ c.toNat := by
  have hversion : (' ' :: httpVersion).all (fun c => decide (32 ≤ c.toNat)) = true := by decide
  have hsign : ∀ c ∈ ' ' :: httpVersion, 32 ≤ c.toNat := fun c hc =>
    of_decide_eq_true (List.all_eq_true.1 hversion c hc)
  intro c hc
  simp only [statusLine, List.mem_append, List.mem_cons, List.not_mem_nil, or_false] at hc
  rcases hc with hc | rfl | hc | rfl
  · exact hsign c (List.mem_cons_of_mem _ hc)
  · exact hsign _ List.mem_cons_self
  · have hdigit := Nat.isDigit_of_mem_toDigits (by decide) (by decide) hc
    rw [Char.isDigit, Bool.and_eq_true, decide_eq_true_eq] at hdigit
    have hle : 48 ≤ c.toNat := hdigit.1
    omega
  · exact hsign _ List.mem_cons_self

def writer : HttpWriter where
  head status _ := String.ofList (statusLine status)
  statusLine status _ := ⟨[], String.toList_ofList⟩
  noBlankLine status _ i hi hblank := by
    rw [List.drop_append_of_le_length hi.le, List.drop_eq_getElem_cons hi] at hblank
    have hreturn := (List.cons_prefix_cons.1 hblank).1
    exact (ne_of_mem_asBytes (statusLine_visible status) (List.getElem_mem hi)).2 hreturn.symm
  short status _ h := by
    have hdigits : (Nat.toDigits 10 status).length ≤ 3 :=
      (Nat.length_toDigits_le_iff (by decide) (by decide)).2 h
    have hbytes := length_asBytes_le (String.ofList (statusLine status))
    rw [String.toList_ofList] at hbytes
    have hline : (statusLine status).length = 10 + (Nat.toDigits 10 status).length := by
      simp only [statusLine, httpVersion, List.length_append, List.length_cons, List.length_nil]
      omega
    rw [MAX_HTTP_HEADER_BYTES]
    omega

def site : Site where
  daemon := ⟨exposed, Config.validate_eq_ok_iff.1 rfl, ⟨exposed.httpAddr, exposed.tcpAddr, exposed.udpAddr⟩⟩
  writer := writer
  bodyTooLong := "length limit exceeded"
  rejection error := "Failed to deserialize the JSON body into the target type: " ++ error
  refusal _ := "HTTP error: 401 Unauthorized"
  unreachable := "connection refused"
  isEventRoute endpoint := endpoint.path = "/api/v1/events"
  isAgentRoute target := target = "ws://127.0.0.1:8787/ws/agent"
  queryToken _ := none

theorem quote_instant : ∀ t ∈ firstSeconds, (Value.quote (rfc3339 t)).length ≤ 218 := by
  decide +kernel

theorem length_ack_le {ack : IngestAck} (hfits : (Reply.ack ack).Fits) :
    (toVec (Reply.encode (.ack ack) : Value Numeral)).length ≤ 256 * 1024 := by
  have hname : ∀ name ∈ ["accepted", "duplicate", "event_id", "revision", "transport",
      "received_at"], (Value.quote name).length ≤ 68 := by
    intro name hname
    have hlength : name.toList.length ≤ 11 := by
      simp only [List.mem_cons, List.not_mem_nil, or_false] at hname
      rcases hname with rfl | rfl | rfl | rfl | rfl | rfl <;> decide
    exact (Value.length_quote_le name).trans (by omega)
  have hbool : ∀ value : Bool, (Value.print (.bool value : Value Numeral)).length ≤ 5 := by
    intro value
    cases value <;> decide
  have huuid : (Value.quote (WireText.displayUuid ack.eventId)).length ≤ 218 := by
    have hlength : (WireText.displayUuid ack.eventId).toList.length = 36 := by
      show (String.ofList (Hex.grouped '-' [8, 4, 4, 4]
        (Hex.padded 32 ack.eventId.toNat))).toList.length = 36
      rw [String.toList_ofList, Hex.length_grouped '-' (by rw [Hex.length_padded]; decide),
        Hex.length_padded]
      rfl
    have hquote := Value.length_quote_le (WireText.displayUuid ack.eventId)
    omega
  have hrevision : (Nat.toDigits 10 ack.revision).length ≤ 20 :=
    (Nat.length_toDigits_le_iff (by decide) (by decide)).2 (hfits.1.trans (by decide))
  have htransport : (Value.quote ack.transport.asStr).length ≤ 68 := by
    cases ack.transport <;> decide
  have hinstant : (Value.quote (WireText.displayInstant ack.receivedAt)).length ≤ 218 :=
    quote_instant ack.receivedAt hfits.2
  have hbytes := length_asBytes_le (String.ofList (Value.print (Reply.encode (.ack ack) :
    Value Numeral)))
  have hprint : (Value.print (Reply.encode (.ack ack) : Value Numeral)).length ≤ 1024 := by
    show (Value.print (.object [("accepted", .bool ack.accepted), ("duplicate", .bool ack.duplicate),
      ("event_id", .string (WireText.displayUuid ack.eventId)),
      ("revision", .number (.unsigned ack.revision)), ("transport", .string ack.transport.asStr),
      ("received_at", .string (WireText.displayInstant ack.receivedAt))] : Value Numeral)).length ≤ _
    simp only [Value.print, Value.printEntries, List.length_cons, List.length_append,
      List.length_nil, Serde.NumberText.print]
    have haccepted := hname "accepted" (by simp)
    have hduplicate := hname "duplicate" (by simp)
    have heventId := hname "event_id" (by simp)
    have hrevisionName := hname "revision" (by simp)
    have htransportName := hname "transport" (by simp)
    have hreceivedAt := hname "received_at" (by simp)
    have hfirst := hbool ack.accepted
    have hsecond := hbool ack.duplicate
    omega
  rw [String.toList_ofList] at hbytes
  exact hbytes.trans (by omega)

theorem room {event : EventEnvelope} {inner : StoreInner RecencyCache} {receivedAt : DateTime}
    (hvalid : event.validate = .ok ()) (hinstant : receivedAt ∈ firstSeconds)
    (hrevision : inner.revision < 2 ^ 64) :
    client.HasRoom Numeral inner event receivedAt := by
  intro ack update hingest
  obtain ⟨ack', update', hingest', -, -, -, hreceived, hlt⟩ := ingest_of_valid
    (event.validate_rebuilt.trans hvalid) inner client.transport receivedAt
  rw [hingest] at hingest'
  cases hingest'
  exact length_ack_le ⟨hlt hrevision, hreceived ▸ hinstant⟩

end Sample

end ControlPlane
