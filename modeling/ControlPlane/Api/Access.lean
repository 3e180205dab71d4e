import ControlPlane.Api.Reads
import ControlPlane.Explorer.CacheOrder
import ControlPlane.Timeline.Walk
import ControlPlane.Transport.Gateway
import ControlPlane.Transport.UiSocket

/-! The runtime's posts and the operator sockets, and what a daemon that listens beyond the
machine gives to whoever has no token. -/

namespace ControlPlane

namespace Runtime

inductive ApiError
  | unauthorized
  | badRequest (message : String)
  | agentNotHookBacked
  | commandAgentMismatch
  | notFound
  deriving DecidableEq, Repr

namespace ApiError

def status : ApiError → Nat
  | unauthorized => 401
  | badRequest _ => 400
  | agentNotHookBacked => 409
  | commandAgentMismatch => 403
  | notFound => 404

def code : ApiError → String
  | unauthorized => "unauthorized"
  | badRequest _ => "invalid_runtime_request"
  | agentNotHookBacked => "runtime_agent_not_hook_backed"
  | commandAgentMismatch => "runtime_command_agent_mismatch"
  | notFound => "runtime_command_not_found"

def message : ApiError → String
  | unauthorized => "Authentication failed"
  | badRequest message => message
  | agentNotHookBacked => "Agent has no cooperative control channel"
  | commandAgentMismatch => "Control command belongs to a different agent"
  | notFound => "Control command was not found"

end ApiError

inductive Post
  | ingestHook (payload : Option RuntimeHookEnvelope)
  | setCollection (enabled : Option Bool)
  | enqueueCommand (payload : Option ControlCommandRequest) (commandId : Uuid)
  | pendingCommands (agentId : Option String)
  | acknowledgeCommand (payload : Option ControlCommandAck)

inductive PostReply
  | hook (status : Nat) (eventId : Uuid) (accepted duplicate : Bool)
  | collection (enabled : Bool)
  | command (status : Nat) (command : ControlCommand)
  | pending (commands : List ControlCommand)

namespace RuntimeMonitor

def handle (monitor : RuntimeMonitor) (post : Post) (now : DateTime) :
    RuntimeMonitor × Except ApiError PostReply :=
  match post with
  | .ingestHook none => (monitor, .error (.badRequest "Invalid runtime hook JSON"))
  | .ingestHook (some hook) =>
    match monitor.ingestHook hook with
    | (monitor, .ok ()) => (monitor, .ok (.hook 202 hook.eventId true false))
    | (monitor, .error .duplicateHook) => (monitor, .ok (.hook 200 hook.eventId true true))
    | (monitor, .error _) => (monitor, .error (.badRequest "Runtime hook failed validation"))
  | .setCollection none => (monitor, .error (.badRequest "Invalid collection control JSON"))
  | .setCollection (some enabled) =>
    ({ monitor with collectionEnabled := enabled }, .ok (.collection enabled))
  | .enqueueCommand none _ => (monitor, .error (.badRequest "Invalid control command JSON"))
  | .enqueueCommand (some request) commandId =>
    match monitor.enqueueCommand request commandId now with
    | (monitor, .ok command) => (monitor, .ok (.command 202 command))
    | (monitor, .error .agentNotHookBacked) => (monitor, .error .agentNotHookBacked)
    | (monitor, .error _) => (monitor, .error (.badRequest "Control command failed validation"))
  | .pendingCommands none => (monitor, .error (.badRequest "Invalid command poll JSON"))
  | .pendingCommands (some agentId) =>
    match monitor.pendingCommands agentId with
    | .ok commands => (monitor, .ok (.pending commands))
    | .error _ => (monitor, .error (.badRequest "Command poll failed validation"))
  | .acknowledgeCommand none =>
    (monitor, .error (.badRequest "Invalid command acknowledgement JSON"))
  | .acknowledgeCommand (some ack) =>
    match monitor.acknowledgeCommand ack now with
    | (monitor, .ok command) => (monitor, .ok (.command 200 command))
    | (monitor, .error .commandNotFound) => (monitor, .error .notFound)
    | (monitor, .error .commandAgentMismatch) => (monitor, .error .commandAgentMismatch)
    | (monitor, .error _) =>
      (monitor, .error (.badRequest "Command acknowledgement failed validation"))

/-- Every post needs the token of ingestion, the poll for commands too. -/
def serve (policy : AuthPolicy) (monitor : RuntimeMonitor) (headers : Headers) (post : Post)
    (now : DateTime) : RuntimeMonitor × Except ApiError PostReply :=
  match policy.authorizeIngest (bearerToken headers) with
  | .error _ => (monitor, .error .unauthorized)
  | .ok () => monitor.handle post now

theorem serve_of_not_bearer {policy : AuthPolicy} {token : String}
    (htoken : policy.token = some token) (monitor : RuntimeMonitor) {headers : Headers}
    (hbearer : bearerToken headers ≠ some token) (post : Post) (now : DateTime) :
    serve policy monitor headers post now = (monitor, .error .unauthorized) := by
  unfold serve
  cases hauthorized : policy.authorizeIngest (bearerToken headers) with
  | error error => rfl
  | ok _ => exact absurd (AuthPolicy.eq_of_authorize htoken hauthorized) hbearer

end RuntimeMonitor

end Runtime

namespace UiSocket

/-- The messages that came within the time there is to authenticate, each with whether a pong for
it could be sent; `tokenOf` is the JSON deserializer of the first frame that counts. -/
def authenticate (policy : AuthPolicy) (tokenOf : WebSocketMessage → Option String) :
    List (Except String WebSocketMessage × Bool) → Bool
  | [] => false
  | (.error _, _) :: _ => false
  | (.ok (.ping _), delivered) :: rest => delivered && authenticate policy tokenOf rest
  | (.ok (.pong _), _) :: rest => authenticate policy tokenOf rest
  | (.ok .close, _) :: _ => false
  | (.ok message, _) :: _ =>
    (tokenOf message).any fun token => (policy.authorizeRead (some token)).isOk

def authorized (policy : AuthPolicy) (tokenOf : WebSocketMessage → Option String)
    (messages : List (Except String WebSocketMessage × Bool)) : Bool :=
  !policy.protectReads || authenticate policy tokenOf messages

theorem exists_of_authenticate {policy : AuthPolicy} {tokenOf : WebSocketMessage → Option String}
    {messages : List (Except String WebSocketMessage × Bool)}
    (h : authenticate policy tokenOf messages = true) :
    ∃ message delivered token, (.ok message, delivered) ∈ messages ∧ tokenOf message = some token ∧
      policy.authorizeRead (some token) = .ok () := by
  have hframe : ∀ {message : WebSocketMessage},
      (tokenOf message).any (fun token => (policy.authorizeRead (some token)).isOk) = true →
        ∃ token, tokenOf message = some token ∧ policy.authorizeRead (some token) = .ok () := by
    intro message hany
    cases htoken : tokenOf message with
    | none => simp [htoken] at hany
    | some token =>
      simp only [htoken, Option.any_some] at hany
      cases hread : policy.authorizeRead (some token) with
      | error error =>
        rw [hread] at hany
        cases hany
      | ok _ => exact ⟨token, rfl, hread⟩
  induction messages with
  | nil => cases h
  | cons first rest ih =>
    have hlater : authenticate policy tokenOf rest = true →
        ∃ message delivered token, (.ok message, delivered) ∈ first :: rest ∧
          tokenOf message = some token ∧ policy.authorizeRead (some token) = .ok () := by
      intro hrest
      obtain ⟨message, delivered, token, hmem, htoken⟩ := ih hrest
      exact ⟨message, delivered, token, List.mem_cons_of_mem first hmem, htoken⟩
    obtain ⟨received, delivered⟩ := first
    cases received with
    | error error => cases h
    | ok message =>
      cases message with
      | close => cases h
      | ping bytes =>
        simp only [authenticate, Bool.and_eq_true] at h
        exact hlater h.2
      | pong bytes => exact hlater h
      | text text =>
        obtain ⟨token, htoken⟩ := hframe h
        exact ⟨_, delivered, token, List.mem_cons_self, htoken⟩
      | binary bytes =>
        obtain ⟨token, htoken⟩ := hframe h
        exact ⟨_, delivered, token, List.mem_cons_self, htoken⟩

theorem not_authorized {policy : AuthPolicy} {token : String} (htoken : policy.token = some token)
    (hreads : policy.protectReads = true) {tokenOf : WebSocketMessage → Option String}
    {messages : List (Except String WebSocketMessage × Bool)}
    (hmessages : ∀ message ∈ messages, ∀ received, message.1 = .ok received →
      tokenOf received ≠ some token) :
    authorized policy tokenOf messages = false := by
  rw [authorized, hreads, Bool.not_true, Bool.false_or]
  by_contra hauthentic
  rw [Bool.not_eq_false] at hauthentic
  obtain ⟨message, delivered, given, hmem, hgiven, hread⟩ := exists_of_authenticate hauthentic
  rw [AuthPolicy.authorizeRead, if_pos hreads] at hread
  exact hmessages _ hmem message rfl (hgiven.trans (AuthPolicy.eq_of_authorize htoken hread))

variable {C : Type → Type → Type} [LruCache C] {S : Type → Type} [Broadcast S] [CounterArith]

structure Outside (socket : UiSocket C S) : Prop where
  phase : socket.phase = .connected ∨ socket.phase = .closed
  outbox : ∀ frame ∈ socket.outbox, frame = .unauthorized

def Move.Refuses : Move → Prop
  | .greet authorized _ => authorized = false
  | .hub _ | .subscribe | .forward _ | .incoming _ _ | .receive | .fetch => True

theorem Outside.step {socket : UiSocket C S} (h : socket.Outside) {m : Move} (hm : m.Refuses) :
    (socket.step m).Outside := by
  cases m with
  | hub m => exact ⟨h.phase, h.outbox⟩
  | receive =>
    simp only [UiSocket.step]
    split <;> exact ⟨h.phase, h.outbox⟩
  | fetch =>
    simp only [UiSocket.step]
    split <;> exact ⟨h.phase, h.outbox⟩
  | subscribe =>
    rcases h.phase with hphase | hphase <;> simp only [UiSocket.step, hphase] <;> exact h
  | forward delivered =>
    rcases h.phase with hphase | hphase <;> simp only [UiSocket.step, hphase] <;> exact h
  | incoming message delivered =>
    rcases h.phase with hphase | hphase <;> cases message <;>
      simp only [UiSocket.step, hphase] <;> exact h
  | greet authorized delivered =>
    obtain rfl : authorized = false := hm
    rcases h.phase with hphase | hphase
    · simp only [UiSocket.step, hphase, post]
      cases delivered with
      | false => exact ⟨.inr rfl, h.outbox⟩
      | true =>
        refine ⟨.inr rfl, ?_⟩
        intro frame hframe
        rcases List.mem_append.1 hframe with hold | hnew
        · exact h.outbox frame hold
        · exact List.mem_singleton.1 hnew
    · simp only [UiSocket.step, hphase]
      exact h

omit [CounterArith] in
theorem Outside.initial (cache : CacheConfig) (updateChannelCapacity : Nat)
    (startedAt : DateTime) :
    (UiSocket.initial cache updateChannelCapacity startedAt : UiSocket C S).Outside where
  phase := .inl rfl
  outbox _ h := by cases h

theorem Outside.after {socket : UiSocket C S} (h : socket.Outside) {moves : List Move}
    (hmoves : ∀ m ∈ moves, m.Refuses) : (Run.after UiSocket.step socket moves).Outside :=
  Run.invariant_along (Q := fun _ m => Move.Refuses m) (fun _ _ h hm => h.step hm) h
    (Run.along_of_forall fun m hm _ => hmoves m hm)

end UiSocket

namespace Gateway

variable {C : Type → Type → Type} [LruCache C] [CounterArith] {endpoint : Endpoint}
  {token : String}

theorem alike_of_no_credential (htoken : endpoint.auth.token = some token) (g : Gateway C)
    (hclosed : g.sockets = []) {arrivals : List (Arrival × DateTime)}
    (hnone : ∀ arrival ∈ arrivals, arrival.1.credential endpoint ≠ some token) :
    Alike g (Run.after (step endpoint) g arrivals) := by
  induction arrivals using List.reverseRecOn with
  | nil => exact .refl g
  | append_singleton before arrival ih =>
    rw [Run.after_append, Run.after_cons, Run.after_nil]
    have halike := ih fun earlier hmem => hnone earlier (List.mem_append_left _ hmem)
    have hwithheld : (Run.after (step endpoint) g before).admits endpoint arrival = false := by
      by_contra hadmits
      rw [Bool.not_eq_false] at hadmits
      rcases credential_of_admits htoken hadmits with hcredential | ⟨socket, message, -, hopen⟩
      · exact hnone arrival (by simp) hcredential
      · rw [halike.sockets, hclosed] at hopen
        cases hopen
    rcases step_of_withheld endpoint arrival hwithheld with hsame | ⟨transport, hrejected⟩
    · rwa [hsame]
    · rw [hrejected]
      exact ⟨halike.inner.trans (.recordRejection _ transport), halike.sockets⟩

end Gateway

namespace Api

variable {C : Type → Type → Type} [LruCache C] [UuidText] [UuidDisplay] [Chrono]

theorem respond_of_guarded {daemon : Daemon} (hprotected : daemon.config.protectReadApi = true)
    {headers : Headers} (hbearer : bearerToken headers ≠ daemon.config.authToken)
    (world : World C) {route : Route} (hguarded : route.guarded = true)
    (raw : Option (List Char)) : respond daemon world route headers raw = .error .unauthorized :=
  respond_of_not_permitted daemon world raw fun h => hbearer (h hguarded hprotected)

theorem respond_eq_of_not_bearer {daemon : Daemon} (hprotected : daemon.config.protectReadApi = true)
    {headers : Headers} (hbearer : bearerToken headers ≠ daemon.config.authToken)
    {world world' : World C} (hrevision : world.inner.revision = world'.inner.revision)
    (route : Route) (raw : Option (List Char)) :
    respond daemon world route headers raw = respond daemon world' route headers raw := by
  cases hguarded : route.guarded with
  | true =>
    rw [respond_of_guarded hprotected hbearer world hguarded raw,
      respond_of_guarded hprotected hbearer world' hguarded raw]
  | false =>
    have hopen : route.Permitted daemon headers := by
      intro h
      rw [hguarded] at h
      cases h
    rw [respond_of_permitted daemon world raw hopen, respond_of_permitted daemon world' raw hopen]
    cases route with
    | index | openapi | page => rfl
    | health => rw [project, project, hrevision]
    | metrics | snapshot | metacognition | coordination | explorer | timeline | runtimeSnapshot =>
      cases hguarded

variable {S : Type → Type} [Broadcast S] [CounterArith]

/-- A daemon that binds an address beyond the machine, and was not told that it is isolated, has a
token of sixteen bytes or more.  Whoever does not present it changes no store and no monitor, is
refused every guarded read and learns from the others nothing but the revision, and is sent no frame
over an operator socket but the refusal. -/
theorem exposed_daemon_closed (listener : SocketAddr → Except String SocketAddr) (config : Config)
    (daemon : Daemon) (hbind : Daemon.bind listener config = .ok daemon)
    (hremote : config.hasNonLoopbackListener = true)
    (hisolated : config.allowUnauthenticatedRemote = false) :
    ∃ token, config.authToken = some token ∧ 16 ≤ token.utf8ByteSize ∧
      (∀ parser (g : Gateway C) arrivals, g.sockets = [] →
        (∀ arrival ∈ arrivals, arrival.1.credential (daemon.endpoint parser) ≠ some token) →
        Gateway.Alike g (Run.after (Gateway.step (daemon.endpoint parser)) g arrivals)) ∧
      (∀ (world : World C) (route : Route) headers raw, bearerToken headers ≠ some token →
        route.guarded = true → respond daemon world route headers raw = .error .unauthorized) ∧
      (∀ (world world' : World C) route headers raw, bearerToken headers ≠ some token →
        world.inner.revision = world'.inner.revision →
        respond daemon world route headers raw = respond daemon world' route headers raw) ∧
      (∀ monitor headers post now, bearerToken headers ≠ some token →
        Runtime.RuntimeMonitor.serve daemon.auth monitor headers post now =
          (monitor, .error .unauthorized)) ∧
      ∀ tokenOf messages (socket : UiSocket C S) moves, socket.Outside →
        (∀ message ∈ messages, ∀ received, message.1 = .ok received →
          tokenOf received ≠ some token) →
        (∀ authorized delivered, UiSocket.Move.greet authorized delivered ∈ moves →
          authorized = UiSocket.authorized daemon.auth tokenOf messages) →
        (Run.after UiSocket.step socket moves).Outside := by
  have hconfig := Daemon.config_of_bind hbind
  have hsound := daemon.sound
  rw [hconfig] at hsound
  obtain ⟨htoken, hprotected⟩ := hsound.remote hremote hisolated
  obtain ⟨token, htoken⟩ := Option.ne_none_iff_exists'.1 htoken
  have hauth : daemon.auth.token = some token := by
    rw [← htoken, ← hconfig]
    rfl
  have hreads : daemon.auth.protectReads = true := by
    rw [← hprotected, ← hconfig]
    rfl
  have hclosed : daemon.config.protectReadApi = true := by rw [hconfig, hprotected]
  have hnotBearer : ∀ {headers}, bearerToken headers ≠ some token →
      bearerToken headers ≠ daemon.config.authToken := by
    intro headers hbearer
    rwa [hconfig, htoken]
  refine ⟨token, htoken, hsound.token token htoken, ?_, ?_, ?_, ?_, ?_⟩
  · intro parser g arrivals hclosed hnone
    exact Gateway.alike_of_no_credential hauth g hclosed hnone
  · intro world route headers raw hbearer hguarded
    exact respond_of_guarded hclosed (hnotBearer hbearer) world hguarded raw
  · intro world world' route headers raw hbearer hrevision
    exact respond_eq_of_not_bearer hclosed (hnotBearer hbearer) hrevision route raw
  · intro monitor headers post now hbearer
    exact Runtime.RuntimeMonitor.serve_of_not_bearer hauth monitor hbearer post now
  · intro tokenOf messages socket moves houtside hmessages hgreets
    have hrefused := UiSocket.not_authorized hauth hreads hmessages
    refine houtside.after fun m hm => ?_
    cases m with
    | greet authorized delivered => exact (hgreets authorized delivered hm).trans hrefused
    | hub | subscribe | forward | incoming | receive | fetch => trivial

end Api

namespace Sample

def exposed : Config where
  httpAddr := ⟨.v4 0 0 0 0, 8787⟩
  tcpAddr := ⟨.v4 127 0 0 1, 8788⟩
  udpAddr := ⟨.v6 1, 8789⟩
  authToken := some token
  allowUnauthenticatedRemote := false
  protectReadApi := true
  corsAny := false
  maxPayloadBytes := 65536
  maxUdpPayloadBytes := 61440
  maxTcpConnections := 16
  agentCapacity := 2
  goalCapacity := 2
  taskCapacity := 2
  lessonCapacity := 2
  eventCapacity := 2
  idempotencyCapacity := 2
  updateChannelCapacity := 2

theorem exposed_daemon_closed_exposed :
    ∃ daemon, Daemon.bind .ok exposed = .ok daemon ∧
      Gateway.Alike (Gateway.new cache (instant 0) : Gateway RecencyCache)
        (Run.after (Gateway.step (daemon.endpoint guarded.parser))
          (Gateway.new cache (instant 0)) [(.frame (.ok (line unsigned)), instant 1)]) := by
  have hbound : ∃ daemon, Daemon.bind .ok exposed = .ok daemon := ⟨_, rfl⟩
  obtain ⟨daemon, hbind⟩ := hbound
  obtain ⟨given, htoken, -, hstore, -⟩ := Api.exposed_daemon_closed (C := RecencyCache)
    (S := LogChannel) .ok exposed daemon hbind (by decide) (by decide)
  refine ⟨daemon, hbind, hstore guarded.parser _ _ rfl ?_⟩
  intro arrival hmem
  obtain rfl := List.mem_singleton.1 hmem
  rw [Arrival.credential, Daemon.endpoint, read_unsigned]
  exact (Option.some_ne_none given).symm

end Sample

end ControlPlane
