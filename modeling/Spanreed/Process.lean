import Spanreed.AccessLists
import Spanreed.Egress
import Spanreed.Opening

/-! # The process

`CreateProxy`, and `main` as far as it makes a deployment of the environment variables. What the
variables say about destinations then holds for the whole process, of which the host lists are one
end and the socket of the UDP handler is the other (`process_egress`). -/

namespace Spanreed
open Flatbuffers Automata

/-! ## The hub that `main` makes -/

/-- What a `ProxyConfig` says about queues, clients and timeouts. -/
structure ProxyConfig where
  incomingClientConnectionBufferLength : Int := 0
  incomingClientMessageBufferLength : Int := 0
  incomingDestinationMessageBufferLength : Int := 0
  outgoingClientMessageBufferLength : Int := 0
  outgoingDestinationMessageBufferLength : Int := 0
  maxConcurrentConnections : Int := 0
  clientMessageTimeoutMilliseconds : Int64 := 0
  clientAuthTimeoutMilliseconds : Int64 := 0
  destinationMessageTimeoutMilliseconds : Int64 := 0
  maxConnectionLengthMilliseconds : Int64 := 0

/-- A length is configured if it is positive. -/
def positiveOr (length : Int) (default : Nat) : Nat :=
  if length > 0 then length.toNat else default

theorem positiveOr_pos {length : Int} {default : Nat} (h : 0 < default) :
    0 < positiveOr length default := by
  unfold positiveOr
  split
  · omega
  · exact h

/-- A `time.Duration` in microseconds. It is configured in milliseconds and kept in nanoseconds, of
which a multiplication may overflow. -/
def timeout (milliseconds default : Int64) : Int :=
  ((if milliseconds > 0 then 1000000 * milliseconds else default) / 1000).toInt

namespace ProxyConfig
variable (config : ProxyConfig)

def timeouts : HubConfig where
  clientMessageTimeout := timeout config.clientMessageTimeoutMilliseconds 60000000000
  destinationMessageTimeout := timeout config.destinationMessageTimeoutMilliseconds 15000000000
  clientAuthTimeout := timeout config.clientAuthTimeoutMilliseconds 10000000000
  maxConnectionLength := timeout config.maxConnectionLengthMilliseconds 21600000000000

def maxConnections : Nat := positiveOr config.maxConcurrentConnections 512

/-- The channels that `CreateProxy` makes, and those that are made with a handler. -/
def channelLength : Chan → Option Nat
  | .incomingClientMessage | .incomingClientClose | .incomingClientOpen =>
    some (positiveOr config.incomingClientMessageBufferLength 256)
  | .incomingDestinationVerdict | .incomingDestinationMessage | .incomingDestinationClose =>
    some (positiveOr config.incomingDestinationMessageBufferLength 256)
  | .clientMessage _ => some (positiveOr config.outgoingClientMessageBufferLength 256)
  | .destinationMessage _ => some (positiveOr config.outgoingDestinationMessageBufferLength 256)
  | .clientVerdict _ | .clientClose _ | .destinationOpen _ | .destinationClose _ =>
    some (positiveOr config.incomingClientConnectionBufferLength 32)
  | .nextClientId _ => none

def capacity : Capacities where
  bound := config.channelLength
  pos c n h := by
    cases c <;> cases h
    all_goals exact positiveOr_pos (by decide)

end ProxyConfig

/-- `main` configures nothing of this, so that the hub has the defaults. -/
theorem createProxy_defaults :
    ({} : ProxyConfig).timeouts = {} ∧ ({} : ProxyConfig).channelLength = Chan.defaultCapacity := by
  constructor
  · rw [ProxyConfig.timeouts, HubConfig.mk.injEq]
    decide +kernel
  · funext c
    cases c <;> rfl

/-! ## `main` -/

/-- The environment variables, as far as `main` makes the deployment of them: the lists, the two
paths, which client handlers are wanted, and what `ParseUint` gives for the lengths of the queues.
`SPANREED_UDP` is set. -/
structure MainFlags where
  environment : Environment
  certPath : Bytes
  keyPath : Bytes
  useWebsockets : Bool
  useWebtransport : Bool
  clientIncomingMessageQueueLength : Option UInt32
  clientOutgoingMessageQueueLength : Option UInt32

namespace MainFlags
variable (flags : MainFlags)

def clientHandlers : List String :=
  (if flags.useWebsockets then ["WebSocket"] else []) ++
    if flags.useWebtransport ∧ flags.keyPath ≠ [] ∧ flags.certPath ≠ [] then ["WebTransport"]
    else []

/-- What `main` starts. It starts nothing if it is given one of the two paths without the other. -/
def main (resolveUDPAddr : Bytes → Except GoError UDPAddr) : Option DeploymentConfig :=
  if (flags.keyPath = []) ≠ (flags.certPath = []) then none
  else some {
    hub := ({} : ProxyConfig).timeouts
    maxConnections := ({} : ProxyConfig).maxConnections
    clientHandlers := flags.clientHandlers
    router := fun _ => createClientConnectionRouter
      (flags.clientIncomingMessageQueueLength.getD 16)
      (flags.clientOutgoingMessageQueueLength.getD 16)
    destinationName := "UdpDestination"
    matchConnectionString := defaultUdpDestinationHandlerMatchConnectionStringFn
    udp := flags.environment.udpParams resolveUDPAddr
    capacity := ({} : ProxyConfig).capacity }

/-- Clients may come over this transport. WebTransport needs a certificate and a key. -/
def Offers (name : String) : Prop :=
  name = "WebSocket" ∧ flags.useWebsockets = true ∨
    name = "WebTransport" ∧ flags.useWebtransport = true ∧ flags.certPath ≠ [] ∧ flags.keyPath ≠ []

variable {flags} {resolveUDPAddr : Bytes → Except GoError UDPAddr} {cfg : DeploymentConfig}

theorem mem_clientHandlers {name : String} : name ∈ flags.clientHandlers ↔ flags.Offers name := by
  simp only [clientHandlers, Offers, List.mem_append, List.mem_ite_nil_right, List.mem_singleton]
  tauto

theorem main_eq (h : flags.main resolveUDPAddr = some cfg) :
    cfg.clientHandlers = flags.clientHandlers ∧
      cfg.udp = flags.environment.udpParams resolveUDPAddr := by
  simp only [main, Option.ite_none_left_eq_some] at h
  cases h.2
  exact ⟨rfl, rfl⟩

end MainFlags

/-- What is resolved is what follows `udp:`. -/
theorem udpScheme_of_resolution {s host : Bytes} (h : defaultHostResolution s = some (.ok host)) :
    s = udpScheme ++ host := by
  by_cases hlen : s.length < 4
  · rw [defaultHostResolution, range_zero_eq_none hlen] at h
    cases h
  by_cases hprefix : udpScheme <+: s
  · rw [defaultHostResolution_eq hprefix] at h
    cases h
    obtain ⟨rest, rfl⟩ := hprefix
    rfl
  · -- another scheme is an error
    obtain ⟨b, hb, hbytes⟩ := range_zero_eq (Nat.le_of_not_lt hlen)
    have hne : b.bytes ≠ udpScheme := fun heq =>
      hprefix (take_eq_udpScheme.mp (hbytes.symm.trans heq))
    simp [defaultHostResolution, hb, hne] at h

namespace Deployment
variable {cfg : DeploymentConfig} {tr : List DeploymentEvent} {s : Deployment}

/-- What the UDP handler takes as an open command a connection has made. -/
theorem openSend_of_recvOpen (h : Run cfg tr s) {m : OpenClientConnectionCommand}
    (he : .recvOpen m ∈ udpHistory tr) : ∃ name k cmd,
      .router name (.conn k (.openSend cmd)) ∈ tr ∧ cmd.clientId = m.clientId ∧
        cmd.connectionString = m.connectionString := by
  obtain ⟨tr₁, s₁, h₁, hen₁, hp₁⟩ := h.of_mem (of_udpHistory he (by simp))
  -- the hub has sent it on, for a command that it has attached ...
  obtain ⟨tr₂, s₂, h₂, hen₂, hp₂⟩ := h₁.of_mem (udpOpen_from h₁ hen₁)
  obtain ⟨cmd, t, hattach, rfl⟩ := Hub.origin_at (hub_run h₂) (enabled_hub hen₂)
  obtain ⟨tr₃, s₃, h₃, hen₃, hp₃⟩ := h₂.of_mem (of_hubHistory hattach (by simp))
  -- ... and received from a connection
  have hrecv := Hub.origin_at (hub_run h₃) (enabled_hub hen₃).1
  obtain ⟨tr₄, s₄, h₄, hen₄, hp₄⟩ := h₃.of_mem (of_hubHistory hrecv (by simp))
  obtain ⟨name, k, hsend⟩ := hubOpen_from h₄ hen₄
  have hp : tr₄ <+: tr := ((List.prefix_append ..).trans hp₄).trans (((List.prefix_append ..).trans
    hp₃).trans (((List.prefix_append ..).trans hp₂).trans ((List.prefix_append ..).trans hp₁)))
  exact ⟨name, k, cmd, hp.subset hsend, rfl, rfl⟩

/-- A router that does anything is one of those the deployment has. -/
theorem mem_clientHandlers (h : Run cfg tr s) {name : String} {e : RouterEvent}
    (he : .router name e ∈ tr) : name ∈ cfg.clientHandlers := by
  obtain ⟨tr₁, s₁, h₁, hen, -⟩ := h.of_mem he
  exact hen.1.1

/-- In every history of the process that `main` starts, every datagram that is written goes where a
client has asked to be connected to. The client has come over a transport that is offered, and its
first packet has the connection string `udp:` with a host of this address. If the lists that are
not configured do not matter, the environment variables admit the host. -/
theorem process_egress {flags : MainFlags} {resolveUDPAddr : Bytes → Except GoError UDPAddr}
    (hmain : flags.main resolveUDPAddr = some cfg) (h : Run cfg tr s) {e : UdpEvent}
    (he : .udp e ∈ tr) {m : OutgoingMessage} (hm : e.written = some m) :
    ∃ name k packet authMsg cmd host, flags.Offers name ∧ Homed tr m.payload.clientId name k ∧
      (transportPackets name k tr).head? = some packet ∧
      safeParseConnectClientMessage packet = .ok authMsg ∧
      Connection.openCommand m.payload.clientId authMsg cmd.recvTimestamp = some cmd ∧
      cmd.connectionString = udpScheme ++ host ∧ resolveUDPAddr host = .ok m.addr ∧
      (Unaffected flags.environment.allowAllDestinations flags.environment.allowedDestinations
        flags.environment.forbiddenDestinations host →
      Admitted flags.environment.allowAllDestinations flags.environment.allowedDestinations
        flags.environment.forbiddenDestinations host) := by
  obtain ⟨hhandlers, hudp⟩ := MainFlags.main_eq hmain
  obtain ⟨opening, hopen, hc, host, hhost, hallows, haddr⟩ :=
    Udp.permitted_of_written (udp_run h) (mem_udpHistory he) hm
  obtain ⟨name, k, cmd, hsend, hcmd, hstring⟩ := openSend_of_recvOpen h hopen
  obtain ⟨packet, authMsg, hk, hpacket, hparse, hread⟩ := packet_of_openSend h hsend
  have hoffers := mem_clientHandlers h hsend
  rw [hhandlers, MainFlags.mem_clientHandlers] at hoffers
  rw [hudp] at hhost hallows haddr
  rw [hcmd.trans hc] at hk hread
  refine ⟨name, k, packet, authMsg, cmd, host, hoffers, hk, hpacket, hparse, hread,
    hstring.trans (udpScheme_of_resolution hhost), haddr, fun hun => ?_⟩
  exact (isDestinationAllowed_split_iff.mpr hun).mp
    (UdpSpanreedDestinationParams.isDestinationAllowed_iff.mpr hallows)

/-- WebSocket alone, only the host `a` is allowed. -/
def onlyHostA : MainFlags where
  environment := ⟨true, [], [], false, ascii "a", []⟩
  certPath := []
  keyPath := []
  useWebsockets := true
  useWebtransport := true
  clientIncomingMessageQueueLength := none
  clientOutgoingMessageQueueLength := some 4

/-- Client 1 asks for `udp:a`, and the UDP handler writes its request. -/
def requestWritten : List DeploymentEvent :=
  (Sample.opened ++ Sample.asked).map (embed "WebSocket") ++ [
    .udp (.senderTake (Udp.connectionRequest Sample.openCommand Sample.addr)),
    .udp (.senderWrite (Udp.connectionRequest Sample.openCommand Sample.addr))]

set_option maxRecDepth 100000 in
theorem process_egress_requestWritten :
    ∃ cfg name k packet authMsg cmd host, onlyHostA.main (fun _ => .ok Sample.addr) = some cfg ∧
      (automaton cfg).Admits (start cfg) requestWritten ∧ onlyHostA.Offers name ∧
      Homed requestWritten 1 name k ∧
      (transportPackets name k requestWritten).head? = some packet ∧
      safeParseConnectClientMessage packet = .ok authMsg ∧
      Connection.openCommand 1 authMsg cmd.recvTimestamp = some cmd ∧
      cmd.connectionString = udpScheme ++ host ∧ (host ≠ [] → Admitted false (ascii "a") [] host) := by
  have hadmits : (automaton ((onlyHostA.main (fun _ => .ok Sample.addr)).get rfl)).Admits
      (start ((onlyHostA.main (fun _ => .ok Sample.addr)).get rfl)) requestWritten := by
    decide +kernel
  have hwritten : .udp (.senderWrite (Udp.connectionRequest Sample.openCommand Sample.addr)) ∈
      requestWritten := by simp [requestWritten]
  obtain ⟨name, k, packet, authMsg, cmd, host, hoffers, hk, hpacket, hparse, hread, hstring, -,
      hadmitted⟩ := process_egress (show onlyHostA.main (fun _ => .ok Sample.addr) = some _ from rfl)
    (Automaton.Admits.run hadmits) hwritten rfl
  exact ⟨_, name, k, packet, authMsg, cmd, host, rfl, hadmits, hoffers, hk, hpacket, hparse, hread,
    hstring, fun hne => hadmitted (.inl hne)⟩

end Deployment
end Spanreed
