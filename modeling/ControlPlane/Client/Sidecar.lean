import ControlPlane.Client.Agreement
import ControlPlane.Provider.Adapter

/-! The sidecar: observations of a provider come in line by line, and go out as events. -/

namespace ControlPlane

open Serde (Value Codec Deserialize)

section Collect

variable {N : Type}

def insertEntry (entry : String × Value N) (entries : List (String × Value N)) :
    List (String × Value N) :=
  if (entries.lookup entry.1).isSome then entries
  else entries.orderedInsert (fun a b => a.1 ≤ b.1) entry

mutual

def collect : Value N → Value N
  | .object entries => .object (collectEntries entries)
  | .array values => .array (collectValues values)
  | .null => .null
  | .bool value => .bool value
  | .number n => .number n
  | .string text => .string text
termination_by structural value => value

def collectEntries : List (String × Value N) → List (String × Value N)
  | [] => []
  | (name, value) :: entries => insertEntry (name, collect value) (collectEntries entries)
termination_by structural entries => entries

def collectValues : List (Value N) → List (Value N)
  | [] => []
  | value :: values => collect value :: collectValues values
termination_by structural values => values

end

end Collect

namespace Sidecar

def DEFAULT_MAX_RESPONSE_BYTES : Nat := 256 * 1024

inductive ProviderArg
  | openAi
  | anthropic
  | gemini
  deriving DecidableEq, Repr

inductive TransportArg
  | http
  | webSocket
  | tcp
  | udp
  deriving DecidableEq, Repr

structure Args where
  provider : ProviderArg
  transport : TransportArg
  endpoint : Option String
  token : Option String
  timeoutSeconds : Nat
  maxResponseBytes : Nat
  dryRun : Bool
  deriving DecidableEq, Repr

inductive SidecarError
  | emptyInput
  | json (line : Nat) (source : String)
  | adapter (line : Nat) (source : Provider.AdapterError)
  | client (line : Nat) (source : ClientError)
  | socketAddress (endpoint source : String)
  | zeroTimeout
  | io (message : String)
  | clientConfig (error : ClientError)
  deriving DecidableEq, Repr

def TransportArg.defaultEndpoint : TransportArg → String
  | http => "http://127.0.0.1:8787/api/v1/events"
  | webSocket => "ws://127.0.0.1:8787/ws/agent"
  | tcp => "127.0.0.1:8788"
  | udp => "127.0.0.1:8789"

section Client

variable [UriLibrary] (parseAddress : String → Except String SocketAddr) (args : Args)

def parseSocketAddress (endpoint : String) : Except SidecarError SocketAddr :=
  (parseAddress endpoint).mapError (.socketAddress endpoint)

def transport : Except SidecarError ClientTransport :=
  let endpoint := args.endpoint.getD args.transport.defaultEndpoint
  match args.transport with
  | .http => .ok (.http endpoint)
  | .webSocket => .ok (.webSocket endpoint)
  | .tcp => (parseSocketAddress parseAddress endpoint).map .tcp
  | .udp => (parseSocketAddress parseAddress endpoint).map .udp

def clientOf : Except SidecarError (Option EventClient) :=
  if args.dryRun then .ok none
  else do
    let transport ← transport parseAddress args
    let config : ClientConfig :=
      { transport
        token := args.token
        timeout := args.timeoutSeconds * 10 ^ 9
        maxResponseBytes := args.maxResponseBytes }
    ((EventClient.new config).mapError .clientConfig).map some

end Client

section Run

variable (N : Type) [WireNumber N] [WireText] [JsonText N]
  [Deserialize N Provider.OpenAiObservation] [Deserialize N Provider.AnthropicObservation]
  [Deserialize N Provider.GeminiObservation]

def ProviderArg.normalize (provider : ProviderArg) (origin : Provider.Origin) (value : Value N) :
    Except Provider.AdapterError EventEnvelope :=
  match provider with
  | openAi => Provider.normalizeOpenai origin value
  | anthropic => Provider.normalizeAnthropic origin value
  | gemini => Provider.normalizeGemini origin value

/-- The event of a line; an error names the line when it is known. -/
def observe (provider : ProviderArg) (origin : Provider.Origin) (text : String) :
    Except (Nat → SidecarError) EventEnvelope :=
  match (JsonText.parse text : Except String (Value N)) with
  | .error source => .error fun line => .json line source
  | .ok value =>
    (provider.normalize N origin (collect value)).mapError fun source line => .adapter line source

structure Line (S : Type) where
  text : Except String String
  origin : Provider.Origin
  network : Network S

def isBlank (text : String) : Bool := text.toList.all isWhitespace

variable [UriLibrary] {S : Type}

def forward (provider : ProviderArg) (client : Option EventClient) (state : S)
    (lineNumber observations : Nat) : List (Line S) → S × List String × Except SidecarError Nat
  | [] => (state, [], .ok observations)
  | line :: lines =>
    match line.text with
    | .error message => (state, [], .error (.io message))
    | .ok text =>
      let lineNumber := U64.saturatingAdd lineNumber 1
      if isBlank text then forward provider client state lineNumber observations lines
      else
        let observations := U64.saturatingAdd observations 1
        match observe N provider line.origin text with
        | .error error => (state, [], .error (error lineNumber))
        | .ok event =>
          match client with
          | some client' =>
            let (state, sent) := client'.send N line.network state event
            match sent with
            | .error source => (state, [], .error (.client lineNumber source))
            | .ok acknowledgement =>
              let (state, printed, result) :=
                forward provider client state lineNumber observations lines
              (state, JsonText.print (IngestAck.codec.encode acknowledgement : Value N) :: printed,
                result)
          | none =>
            let (state, printed, result) :=
              forward provider client state lineNumber observations lines
            (state, JsonText.print (EventEnvelope.codec.encode event : Value N) :: printed, result)

def run (parseAddress : String → Except String SocketAddr) (args : Args) (state : S)
    (lines : List (Line S)) : S × List String × Except SidecarError Unit :=
  if args.timeoutSeconds = 0 then (state, [], .error .zeroTimeout)
  else
    match clientOf parseAddress args with
    | .error error => (state, [], .error error)
    | .ok client =>
      let (state, printed, result) := forward N args.provider client state 0 0 lines
      (state, printed, result.bind fun observations =>
        if observations = 0 then .error .emptyInput else .ok ())

end Run

inductive Link
  | intact
  | requestLost (error : ClientError)
  | replyLost (error : ClientError)
  deriving DecidableEq, Repr

namespace Link

variable {S : Type}

def carry (link : Link) (network : Network S) : Network S :=
  match link with
  | intact => network
  | requestLost error =>
    { http := fun state _ _ _ => (state, .error error)
      webSocket := fun state _ _ _ => (state, .error error)
      tcp := fun state _ _ => (state, .error error)
      udp := fun state _ _ => (state, .error error) }
  | replyLost error =>
    { http := fun state endpoint authorization body =>
        ((network.http state endpoint authorization body).1, .error error)
      webSocket := fun state target authorization text =>
        ((network.webSocket state target authorization text).1, .error error)
      tcp := fun state address bytes => ((network.tcp state address bytes).1, .error error)
      udp := fun state address datagram => ((network.udp state address datagram).1, .error error) }

variable (N : Type) [WireNumber N] [WireText] [JsonText N] [UriLibrary] (client : EventClient)
  (event : EventEnvelope) {network : Network S} {state : S}

end Link

structure Turn where
  text : Except String String
  origin : Provider.Origin
  receivedAt : DateTime
  link : Link

section Against

variable (N : Type) [WireNumber N] [WireText] [JsonText N]
  [Deserialize N Provider.OpenAiObservation] [Deserialize N Provider.AnthropicObservation]
  [Deserialize N Provider.GeminiObservation] [UriLibrary]
  {C : Type → Type → Type} [LruCache C] [CounterArith]
  (provider : ProviderArg) (site : Site) (client : EventClient)

def Turn.line (turn : Turn) : Line (StoreInner C) where
  text := turn.text
  origin := turn.origin
  network := turn.link.carry (site.network N turn.receivedAt)

def Turn.Tells (turn : Turn) (event : EventEnvelope) : Prop :=
  ∃ text, turn.text = .ok text ∧ isBlank text = false ∧
    observe N provider turn.origin text = .ok event

def Turn.IsBlank (turn : Turn) : Prop := ∃ text, turn.text = .ok text ∧ isBlank text = true

structure Turn.Goes (turn : Turn) (event : EventEnvelope) : Prop where
  tells : turn.Tells N provider event
  intact : turn.link = .intact
  valid : event.validate = .ok ()
  accepts : site.Accepts N client event

/-- The lines from the first on that are blank or go through, with the store after them and the
acknowledgements that it gave. -/
inductive Passed : StoreInner C → List Turn → StoreInner C → List IngestAck → Prop
  | nil (inner : StoreInner C) : Passed inner [] inner []
  | blank {inner inner' : StoreInner C} {turn : Turn} {turns : List Turn} {acks : List IngestAck}
    (hblank : turn.IsBlank) (h : Passed inner turns inner' acks) :
    Passed inner (turn :: turns) inner' acks
  | goes {inner next inner' : StoreInner C} {turn : Turn} {turns : List Turn}
    {event : EventEnvelope} {ack : IngestAck} {update : Option StoreUpdate} {acks : List IngestAck}
    (hgoes : turn.Goes N provider site client event)
    (hingest : ingest inner event.rebuilt client.transport turn.receivedAt =
      (next, .ok ⟨ack, update⟩))
    (h : Passed next turns inner' acks) : Passed inner (turn :: turns) inner' (ack :: acks)

/-- What a turn that stops the run leaves: the store as it was, with a rejection more, or with
the event of a reply that was lost. -/
inductive Turn.Leaves (turn : Turn) (inner : StoreInner C) : StoreInner C → Prop
  | same : turn.Leaves inner inner
  | rejection : turn.Leaves inner (recordRejection inner client.transport)
  | unheard {event : EventEnvelope} {error : ClientError} (hlost : turn.link = .replyLost error)
    (htells : turn.Tells N provider event) (hvalid : event.validate = .ok ())
    (haccepts : site.Accepts N client event) :
    turn.Leaves inner (ingest inner event.rebuilt client.transport turn.receivedAt).1

def printed (ack : IngestAck) : String := JsonText.print (IngestAck.codec.encode ack : Value N)

/-- How a run ends: after all lines, or at the first that is not blank and does not go through.
What is printed is the acknowledgements of the lines before. -/
inductive Outcome {α : Type} (Done : List IngestAck → Except SidecarError α → Prop)
    (inner : StoreInner C) (turns : List Turn) :
    StoreInner C × List String × Except SidecarError α → Prop
  | all {inner' : StoreInner C} {acks : List IngestAck} {result : Except SidecarError α}
    (h : Passed N provider site client inner turns inner' acks) (hdone : Done acks result) :
    Outcome Done inner turns (inner', acks.map (printed N), result)
  | stopped {before after : List Turn} {turn : Turn} {inner' left : StoreInner C}
    {acks : List IngestAck} {error : SidecarError} (hturns : turns = before ++ turn :: after)
    (h : Passed N provider site client inner before inner' acks) (hblank : ¬turn.IsBlank)
    (hgoes : ∀ event, ¬turn.Goes N provider site client event)
    (hleaves : turn.Leaves N provider site client inner' left) :
    Outcome Done inner turns (left, acks.map (printed N), .error error)

structure Turn.Sound (turn : Turn) : Prop where
  instant : WireText.IsInstant turn.receivedAt
  fits : ∀ event, turn.Tells N provider event → event.Fits
  room : ∀ event, turn.Tells N provider event → ∀ inner : StoreInner C, inner.revision < 2 ^ 64 →
    client.HasRoom N inner event turn.receivedAt

variable {N} {provider : ProviderArg} {site : Site} {client : EventClient}

namespace Outcome

variable {α : Type} {Done Done' : List IngestAck → Except SidecarError α → Prop}
  {inner : StoreInner C} {turn : Turn} {turns : List Turn}

end Outcome

def Counted (observations : Nat) (acks : List IngestAck) (result : Except SidecarError Nat) : Prop :=
  ∃ count, result = .ok count ∧ (count = 0 ↔ observations = 0 ∧ acks = [])

end Against

end Sidecar

namespace Sample

open Sidecar

def observation : Provider.OpenAiObservation where
  responseId := "r1"
  context := ⟨"worker", "gpt", none, none, none, none⟩
  update := .toolCall "a" "shell" "c1" "Listed the files." 1

def observationText : String :=
  "\x7b\"response_id\":\"r1\",\"context\":\x7b\"agent_id\":\"worker\",\"model\":\"gpt\"\x7d," ++
    "\"observation\":\"tool_call\",\"task_id\":\"a\",\"tool_name\":\"shell\"," ++
      "\"call_id\":\"c1\",\"summary\":\"Listed the files.\"\x7d"

instance openAiObservation : Deserialize Numeral Provider.OpenAiObservation where
  fromValue value :=
    if some value.print = (Value.parse 127 observationText.toList).map fun written : Value Numeral =>
        (collect written).print then .ok observation
    else .error "missing field `response_id`"

instance anthropicObservation : Deserialize Numeral Provider.AnthropicObservation where
  fromValue _ := .error "missing field `message_id`"

instance geminiObservation : Deserialize Numeral Provider.GeminiObservation where
  fromValue _ := .error "missing field `response_id`"

def firstOrigin : Provider.Origin where
  newV4 := 0x00000000000040008000000000000001#128
  version := by decide
  now := instant 4

def secondOrigin : Provider.Origin where
  newV4 := 0x00000000000040008000000000000002#128
  version := by decide
  now := instant 5

def args : Args where
  provider := .openAi
  transport := .http
  endpoint := none
  token := some token
  timeoutSeconds := 10
  maxResponseBytes := DEFAULT_MAX_RESPONSE_BYTES
  dryRun := false

def turns : List Turn :=
  [⟨.ok " ", firstOrigin, instant 4, .intact⟩,
    ⟨.ok observationText, firstOrigin, instant 5, .intact⟩,
    ⟨.ok observationText, secondOrigin, instant 6, .replyLost .timeout⟩]

def observed (origin : Provider.Origin) : EventEnvelope :=
  Provider.normalize origin .openAi observation.responseId observation.context observation.update

end Sample

end ControlPlane
