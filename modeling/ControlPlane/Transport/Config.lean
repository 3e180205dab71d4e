import ControlPlane.Lib.Check
import ControlPlane.Transport.Handlers

/-! The configuration of the daemon, what it refuses, and the state its listeners share. -/

namespace ControlPlane

inductive IpAddr
  | v4 (a b c d : UInt8)
  | v6 (bits : BitVec 128)
  deriving DecidableEq, Repr

def IpAddr.isLoopback : IpAddr → Bool
  | v4 a _ _ _ => a == 127
  | v6 bits => bits == 1

structure SocketAddr where
  ip : IpAddr
  port : UInt16
  deriving DecidableEq, Repr

def MAX_HTTP_STREAM_PAYLOAD_BYTES : Nat := 16 * 1024 * 1024

def MAX_UDP_DATAGRAM_BYTES : Nat := 65507

structure Config where
  httpAddr : SocketAddr
  tcpAddr : SocketAddr
  udpAddr : SocketAddr
  authToken : Option String
  allowUnauthenticatedRemote : Bool
  protectReadApi : Bool
  corsAny : Bool
  maxPayloadBytes : Nat
  maxUdpPayloadBytes : Nat
  maxTcpConnections : Nat
  agentCapacity : Nat
  goalCapacity : Nat
  taskCapacity : Nat
  lessonCapacity : Nat
  eventCapacity : Nat
  idempotencyCapacity : Nat
  updateChannelCapacity : Nat
  deriving DecidableEq, Repr

inductive ConfigError
  | zeroCapacity (name : String)
  | invalidPayloadLimit (maximum : Nat)
  | invalidUdpPayloadLimit (maximum : Nat)
  | weakAuthenticationToken
  | readProtectionRequiresAuthentication
  | remoteBindingRequiresAuthentication
  | remoteBindingRequiresReadProtection
  deriving DecidableEq, Repr

def ConfigError.display : ConfigError → String
  | zeroCapacity name => name ++ " must be greater than zero"
  | invalidPayloadLimit maximum =>
    "stream payload limit must be between 1 and " ++ toString maximum ++ " bytes"
  | invalidUdpPayloadLimit maximum =>
    "UDP payload limit must be between 1 and " ++ toString maximum ++ " bytes"
  | weakAuthenticationToken => "authentication tokens must contain at least 16 bytes"
  | readProtectionRequiresAuthentication => "read protection requires an authentication token"
  | remoteBindingRequiresAuthentication =>
    "non-loopback listeners require an authentication token; use --allow-unauthenticated-remote only inside an isolated network"
  | remoteBindingRequiresReadProtection =>
    "non-loopback listeners require --protect-read-api; use --allow-unauthenticated-remote only inside an isolated network"

namespace Config

def capacities (config : Config) : List (String × Nat) :=
  [("agent capacity", config.agentCapacity), ("goal capacity", config.goalCapacity),
    ("task capacity", config.taskCapacity), ("lesson capacity", config.lessonCapacity),
    ("event capacity", config.eventCapacity),
    ("idempotency capacity", config.idempotencyCapacity),
    ("update channel capacity", config.updateChannelCapacity),
    ("maximum TCP connections", config.maxTcpConnections)]

def hasNonLoopbackListener (config : Config) : Bool :=
  [config.httpAddr, config.tcpAddr, config.udpAddr].any fun address => !address.ip.isLoopback

def requirePositive (capacity : String × Nat) : Except ConfigError Unit :=
  if capacity.2 = 0 then .error (.zeroCapacity capacity.1) else .ok ()

def validate (config : Config) : Except ConfigError Unit := do
  config.capacities.forM requirePositive
  if config.maxPayloadBytes = 0 ∨ MAX_HTTP_STREAM_PAYLOAD_BYTES < config.maxPayloadBytes then
    throw (.invalidPayloadLimit MAX_HTTP_STREAM_PAYLOAD_BYTES)
  if config.maxUdpPayloadBytes = 0 ∨ MAX_UDP_DATAGRAM_BYTES < config.maxUdpPayloadBytes then
    throw (.invalidUdpPayloadLimit MAX_UDP_DATAGRAM_BYTES)
  if config.authToken.any fun token => token.utf8ByteSize < 16 then throw .weakAuthenticationToken
  if config.protectReadApi ∧ config.authToken = none then
    throw .readProtectionRequiresAuthentication
  if config.hasNonLoopbackListener ∧ config.authToken = none ∧
      ¬config.allowUnauthenticatedRemote then
    throw .remoteBindingRequiresAuthentication
  if config.hasNonLoopbackListener ∧ ¬config.protectReadApi ∧
      ¬config.allowUnauthenticatedRemote then
    throw .remoteBindingRequiresReadProtection

structure Sound (config : Config) : Prop where
  capacities : ∀ name capacity, (name, capacity) ∈ config.capacities → 0 < capacity
  maxPayloadBytes : 0 < config.maxPayloadBytes ∧
    config.maxPayloadBytes ≤ MAX_HTTP_STREAM_PAYLOAD_BYTES
  maxUdpPayloadBytes : 0 < config.maxUdpPayloadBytes ∧
    config.maxUdpPayloadBytes ≤ MAX_UDP_DATAGRAM_BYTES
  token : ∀ token, config.authToken = some token → 16 ≤ token.utf8ByteSize
  protectedReads : config.protectReadApi = true → config.authToken ≠ none
  remote : config.hasNonLoopbackListener = true → config.allowUnauthenticatedRemote = false →
    config.authToken ≠ none ∧ config.protectReadApi = true

theorem requirePositive_eq_ok_iff {capacity : String × Nat} :
    requirePositive capacity = .ok () ↔ 0 < capacity.2 := by
  rw [requirePositive]
  by_cases hzero : capacity.2 = 0
  · rw [if_pos hzero]
    refine iff_of_false ?_ (by omega)
    intro h
    cases h
  · rw [if_neg hzero]
    exact iff_of_true rfl (by omega)

theorem validate_eq_ok_iff {config : Config} : config.validate = .ok () ↔ config.Sound := by
  rw [validate, Check.seq_eq_ok_iff, Check.forM_eq_ok_iff]
  simp only [Check.guard_eq_ok_iff, Check.last_guard_eq_ok_iff, requirePositive_eq_ok_iff]
  constructor
  · rintro ⟨hcapacities, hpayload, hudp, htoken, hreads, hauthentication, hprotection⟩
    constructor
    · exact fun name capacity hmem => hcapacities (name, capacity) hmem
    · omega
    · omega
    · intro token heq
      simpa [heq] using htoken
    · intro hprotect hnone
      exact hreads ⟨hprotect, hnone⟩
    · intro hremote hisolated
      refine ⟨fun hnone => hauthentication ⟨hremote, hnone, by simp [hisolated]⟩, ?_⟩
      by_contra hopen
      exact hprotection ⟨hremote, hopen, by simp [hisolated]⟩
  · intro h
    refine ⟨fun capacity hmem => h.capacities capacity.1 capacity.2 hmem, ?_, ?_, ?_, ?_, ?_, ?_⟩
    · have := h.maxPayloadBytes
      omega
    · have := h.maxUdpPayloadBytes
      omega
    · cases htoken : config.authToken with
      | none => simp
      | some token => simpa using h.token token htoken
    · exact fun hreads => h.protectedReads hreads.1 hreads.2
    · rintro ⟨hremote, hnone, hisolated⟩
      exact (h.remote hremote (by simpa using hisolated)).1 hnone
    · rintro ⟨hremote, hopen, hisolated⟩
      exact hopen (h.remote hremote (by simpa using hisolated)).2

end Config

namespace AuthPolicy

def fromConfig (config : Config) : AuthPolicy where
  token := config.authToken
  protectReads := config.protectReadApi

def authorizeRead (policy : AuthPolicy) (provided : Option String) :
    Except AuthorizationError Unit :=
  if policy.protectReads then policy.authorize provided else .ok ()

theorem authorize_eq_ok_iff {policy : AuthPolicy} {provided : Option String} :
    policy.authorize provided = .ok () ↔ policy.token = none ∨ provided = policy.token := by
  unfold authorize
  cases htoken : policy.token with
  | none => simp
  | some expected =>
    cases provided with
    | none => simp
    | some provided =>
      by_cases heq : expected = provided
      · simp [heq]
      · simp [heq, Ne.symm heq]

theorem eq_of_authorize {policy : AuthPolicy} {token : String} (htoken : policy.token = some token)
    {provided : Option String} (h : policy.authorize provided = .ok ()) :
    provided = some token := by
  rcases authorize_eq_ok_iff.1 h with hnone | hsame
  · rw [htoken] at hnone
    cases hnone
  · rw [hsame, htoken]

end AuthPolicy

structure BoundAddresses where
  http : SocketAddr
  tcp : SocketAddr
  udp : SocketAddr
  deriving DecidableEq, Repr

inductive DaemonError
  | config (error : ConfigError)
  | bind (transport : String) (address : SocketAddr) (source : String)
  deriving DecidableEq, Repr

structure Daemon where
  config : Config
  sound : config.Sound
  addresses : BoundAddresses

namespace Daemon

/-- `listener` is what the operating system makes of an address. -/
def bindListener (listener : SocketAddr → Except String SocketAddr) (transport : String)
    (address : SocketAddr) : Except DaemonError SocketAddr :=
  match listener address with
  | .ok bound => .ok bound
  | .error source => .error (.bind transport address source)

def bind (listener : SocketAddr → Except String SocketAddr) (config : Config) :
    Except DaemonError Daemon :=
  match h : config.validate with
  | .error error => .error (.config error)
  | .ok () => do
    let http ← bindListener listener "HTTP" config.httpAddr
    let tcp ← bindListener listener "TCP" config.tcpAddr
    let udp ← bindListener listener "UDP" config.udpAddr
    return ⟨config, Config.validate_eq_ok_iff.1 h, ⟨http, tcp, udp⟩⟩

def auth (daemon : Daemon) : AuthPolicy := .fromConfig daemon.config

def endpoint (daemon : Daemon) (parser : PayloadParser) : Endpoint where
  auth := daemon.auth
  corsAny := daemon.config.corsAny
  maxPayloadBytes := daemon.config.maxUdpPayloadBytes
  parser := parser

theorem config_of_bind {listener : SocketAddr → Except String SocketAddr} {config : Config}
    {daemon : Daemon} (h : bind listener config = .ok daemon) : daemon.config = config := by
  unfold bind at h
  split at h
  · cases h
  · obtain ⟨http, -, h⟩ := Check.bind_eq_ok_iff.1 h
    obtain ⟨tcp, -, h⟩ := Check.bind_eq_ok_iff.1 h
    obtain ⟨udp, -, h⟩ := Check.bind_eq_ok_iff.1 h
    cases h
    rfl

end Daemon

end ControlPlane
