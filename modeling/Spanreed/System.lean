import Spanreed.Hub
import Spanreed.Router
import Spanreed.Udp
import Spanreed.Lib.Network

/-! # Router, hub and UDP handler together

The composed system of one client connection router, the hub and one UDP destination handler, the
only handlers of the hub. Every goroutine of the three interleaves with every other; the Go
channels between them are FIFO queues (`Automata.network`); cancelling the root context reaches
all three at once; `GetNowTimestamp` reads the hub's clock. A call of `GetNextClientId` returns
its id to the `OpenConnection` that made it, which is a channel of its own here. -/

namespace Spanreed
open Flatbuffers Automata

/-- The channels the hub makes. Those of a handler carry its name. -/
inductive Chan
  | incomingClientMessage
  | incomingClientClose
  | incomingClientOpen
  | incomingDestinationVerdict
  | incomingDestinationMessage
  | incomingDestinationClose
  | clientVerdict (name : String)
  | clientMessage (name : String)
  | clientClose (name : String)
  | destinationOpen (name : String)
  | destinationMessage (name : String)
  | destinationClose (name : String)
  | nextClientId (name : String)
deriving DecidableEq

abbrev Chan.Msg : Chan → Type
  | .incomingClientMessage => ClientMessage
  | .incomingClientClose => ClientCloseCommand
  | .incomingClientOpen => OpenClientConnectionCommand
  | .incomingDestinationVerdict => OpenClientConnectionVerdict
  | .incomingDestinationMessage => DestinationMessage
  | .incomingDestinationClose => ClientCloseCommand
  | .clientVerdict _ => OpenClientConnectionVerdict
  | .clientMessage _ => ClientMessage
  | .clientClose _ => ClientCloseCommand
  | .destinationOpen _ => OpenClientConnectionCommand
  | .destinationMessage _ => DestinationMessage
  | .destinationClose _ => ClientCloseCommand
  | .nextClientId _ => ClientId

instance : ∀ c : Chan, DecidableEq c.Msg
  | .incomingClientMessage | .clientMessage _ => inferInstanceAs (DecidableEq ClientMessage)
  | .incomingClientClose | .incomingDestinationClose | .clientClose _ | .destinationClose _ =>
    inferInstanceAs (DecidableEq ClientCloseCommand)
  | .incomingClientOpen | .destinationOpen _ =>
    inferInstanceAs (DecidableEq OpenClientConnectionCommand)
  | .incomingDestinationVerdict | .clientVerdict _ =>
    inferInstanceAs (DecidableEq OpenClientConnectionVerdict)
  | .incomingDestinationMessage | .destinationMessage _ =>
    inferInstanceAs (DecidableEq DestinationMessage)
  | .nextClientId _ => inferInstanceAs (DecidableEq ClientId)

/-- The capacities of a hub configured with the defaults. -/
def Chan.defaultCapacity : Chan → Option Nat
  | .incomingClientMessage | .incomingClientClose | .incomingClientOpen => some 256
  | .incomingDestinationVerdict | .incomingDestinationMessage | .incomingDestinationClose =>
    some 256
  | .clientMessage _ | .destinationMessage _ => some 256
  | .clientVerdict _ | .clientClose _ | .destinationOpen _ | .destinationClose _ => some 32
  | .nextClientId _ => none

/-! ## The channel operations of the components -/

def HubEvent.op : HubEvent → ChannelOp Chan Chan.Msg
  | .createClient name clientId _ => .send (.nextClientId name) clientId
  | .recvClientMessage m => .recv .incomingClientMessage m
  | .recvOpenClient m => .recv .incomingClientOpen m
  | .recvClientClose m => .recv .incomingClientClose m
  | .recvDestinationMessage m => .recv .incomingDestinationMessage m
  | .recvVerdict v => .recv .incomingDestinationVerdict v
  | .recvDestinationClose m => .recv .incomingDestinationClose m
  | .fwdClientSend m name => .send (.destinationMessage name) m
  | .fwdDestSend m name => .send (.clientMessage name) m
  | .verdictSend v name => .send (.clientVerdict name) v
  | .reqSend m name => .send (.destinationOpen name) m
  | .kickClientSend _ c r cn _ _ => .send (.clientClose cn) (Hub.closeCommand c r)
  | .kickDestSend _ c r dn _ => .send (.destinationClose dn) (Hub.closeCommand c r)
  | _ => .internal

/-- The router of the client handler `name`. -/
def RouterEvent.op (name : String) : RouterEvent → ChannelOp Chan Chan.Msg
  | .nextClientId id => .recv (.nextClientId name) id
  | .conn _ (.authClose m) => .send .incomingClientClose m
  | .conn _ (.openSend cmd) => .send .incomingClientOpen cmd
  | .conn _ (.transportSend m) => .send .incomingClientMessage m
  | .conn _ (.transportClose m) => .send .incomingClientClose m
  | .recvClose m => .recv (.clientClose name) m
  | .recvMessage m => .recv (.clientMessage name) m
  | .recvVerdict v => .recv (.clientVerdict name) v
  | _ => .internal

/-- The UDP handler of the destination handler `name`. -/
def UdpEvent.op (name : String) : UdpEvent → ChannelOp Chan Chan.Msg
  | .recvOpen m => .recv (.destinationOpen name) m
  | .recvClose m => .recv (.destinationClose name) m
  | .recvMessage m => .recv (.destinationMessage name) m
  | .reject v => .send .incomingDestinationVerdict v
  | .sendVerdict _ v => .send .incomingDestinationVerdict v
  | .sendMessage _ m => .send .incomingDestinationMessage m
  | .sendClose _ m => .send .incomingDestinationClose m
  | _ => .internal

/-! ## Composition -/

structure SystemConfig where
  hub : HubConfig
  maxConnections : Nat
  clientName : String
  destinationName : String
  matchConnectionString : Bytes → Option Bool
  router : ClientConnectionRouterParams
  udp : UdpSpanreedDestinationParams
  capacity : Chan → Option Nat

structure Components where
  router : Router
  hub : Hub
  udp : Udp

inductive SystemEvent
  | cancel
  | router (e : RouterEvent)
  | hub (e : HubEvent)
  | udp (e : UdpEvent)

/-- Cancellation is an event of the whole system, and no further handler is registered while it
runs. -/
def HubEvent.isSetup : HubEvent → Bool
  | .cancel | .createClientMessageHandler _ | .createDestinationMessageHandler _ => true
  | _ => false

/-- The client handler that calls back for an id. -/
def HubEvent.caller : HubEvent → Option String
  | .getNewClientId name _ => some name
  | _ => none

/-- The time a router event reads from the clock. -/
def RouterEvent.reads : RouterEvent → Option Timestamp
  | .conn _ (.openNow cmd) => some cmd.recvTimestamp
  | .conn _ (.transportNow m) => some m.recvTimestamp
  | _ => none

/-- The time an event of the UDP handler reads from the clock. -/
def UdpEvent.reads : UdpEvent → Option Timestamp
  | .messageNow _ m => some m.recvTimestamp
  | _ => none

def RouterEvent.isCancel : RouterEvent → Bool
  | .cancel => true
  | _ => false

def UdpEvent.isCancel : UdpEvent → Bool
  | .cancel => true
  | _ => false

namespace Components

def start (cfg : SystemConfig) : Components where
  router := .start cfg.router
  hub := .start cfg.hub cfg.maxConnections [cfg.clientName]
    [⟨cfg.destinationName, cfg.matchConnectionString⟩]
  udp := .start cfg.udp

def enabled (cfg : SystemConfig) (s : Components) : SystemEvent → Prop
  | .cancel => True
  | .router e => e.isCancel = false ∧ (∀ t ∈ e.reads, t = s.hub.now) ∧ s.router.enabled e
  | .hub e => e.isSetup = false ∧ (∀ name ∈ e.caller, name = cfg.clientName) ∧ s.hub.enabled e
  | .udp e => e.isCancel = false ∧ (∀ t ∈ e.reads, t = s.hub.now) ∧ s.udp.enabled e

def next (s : Components) : SystemEvent → Components
  | .cancel => ⟨s.router.next .cancel, s.hub.next .cancel, s.udp.next .cancel⟩
  | .router e => { s with router := s.router.next e }
  | .hub e => { s with hub := s.hub.next e }
  | .udp e => { s with udp := s.udp.next e }

def automaton (cfg : SystemConfig) : Automaton Components SystemEvent where
  enabled := enabled cfg
  next := next

instance (cfg : SystemConfig) : ∀ s e, Decidable ((automaton cfg).enabled s e)
  | _, .cancel => inferInstanceAs (Decidable True)
  | _, .router _ => inferInstanceAs (Decidable (_ ∧ _ ∧ _))
  | _, .hub _ => inferInstanceAs (Decidable (_ ∧ _ ∧ _))
  | _, .udp _ => inferInstanceAs (Decidable (_ ∧ _ ∧ _))

end Components

def SystemEvent.op (cfg : SystemConfig) : SystemEvent → ChannelOp Chan Chan.Msg
  | .cancel => .internal
  | .router e => e.op cfg.clientName
  | .hub e => e.op
  | .udp e => e.op cfg.destinationName

/-- The composed system with its queues. -/
abbrev System := Components × Queues Chan.Msg

namespace System

def start (cfg : SystemConfig) : System := (.start cfg, fun _ => [])

def automaton (cfg : SystemConfig) : Automaton System SystemEvent :=
  network (Components.automaton cfg) (SystemEvent.op cfg) cfg.capacity

instance (cfg : SystemConfig) (s : System) (e : SystemEvent) :
    Decidable ((automaton cfg).enabled s e) :=
  inferInstanceAs (Decidable ((network _ _ _).enabled s e))

/-- The histories of the system. -/
abbrev Run (cfg : SystemConfig) (tr : List SystemEvent) (s : System) : Prop :=
  (automaton cfg).Run (start cfg) tr s

end System

/-! ## The components of a history -/

def SystemEvent.routerPart : SystemEvent → Option RouterEvent
  | .cancel => some .cancel
  | .router e => some e
  | _ => none

def SystemEvent.hubPart : SystemEvent → Option HubEvent
  | .cancel => some .cancel
  | .hub e => some e
  | _ => none

def SystemEvent.udpPart : SystemEvent → Option UdpEvent
  | .cancel => some .cancel
  | .udp e => some e
  | _ => none

abbrev routerTrace (tr : List SystemEvent) : List RouterEvent := tr.filterMap SystemEvent.routerPart
abbrev hubTrace (tr : List SystemEvent) : List HubEvent := tr.filterMap SystemEvent.hubPart
abbrev udpTrace (tr : List SystemEvent) : List UdpEvent := tr.filterMap SystemEvent.udpPart

section
variable (cfg : SystemConfig)

def Components.routerComponent :
    Automaton.Component (Components.automaton cfg) Router.automaton where
  state := Components.router
  part := SystemEvent.routerPart
  enabled {s e e'} he hp := by
    cases e <;> cases hp
    · exact trivial
    · exact he.2.2
  next {s e e'} he hp := by cases e <;> cases hp <;> rfl
  frame {s e} he hp := by cases e <;> cases hp <;> rfl

def Components.hubComponent : Automaton.Component (Components.automaton cfg) Hub.automaton where
  state := Components.hub
  part := SystemEvent.hubPart
  enabled {s e e'} he hp := by
    cases e <;> cases hp
    · exact trivial
    · exact he.2.2
  next {s e e'} he hp := by cases e <;> cases hp <;> rfl
  frame {s e} he hp := by cases e <;> cases hp <;> rfl

def Components.udpComponent : Automaton.Component (Components.automaton cfg) Udp.automaton where
  state := Components.udp
  part := SystemEvent.udpPart
  enabled {s e e'} he hp := by
    cases e <;> cases hp
    · exact trivial
    · exact he.2.2
  next {s e e'} he hp := by cases e <;> cases hp <;> rfl
  frame {s e} he hp := by cases e <;> cases hp <;> rfl

end

namespace System
variable {cfg : SystemConfig} {tr : List SystemEvent} {s : System}

theorem Run.router (h : Run cfg tr s) :
    Router.automaton.Run (.start cfg.router) (routerTrace tr) s.1.router :=
  (Components.routerComponent cfg).run (network_run h)

theorem Run.hub (h : Run cfg tr s) :
    Hub.automaton.Run (.start cfg.hub cfg.maxConnections [cfg.clientName]
      [⟨cfg.destinationName, cfg.matchConnectionString⟩]) (hubTrace tr) s.1.hub :=
  (Components.hubComponent cfg).run (network_run h)

theorem Run.udp (h : Run cfg tr s) :
    Udp.automaton.Run (.start cfg.udp) (udpTrace tr) s.1.udp :=
  (Components.udpComponent cfg).run (network_run h)

/-! What an event of the system is for its component. -/

theorem enabled_router {e : RouterEvent} (h : (automaton cfg).enabled s (.router e)) :
    s.1.router.enabled e := h.1.2.2

theorem enabled_hub {e : HubEvent} (h : (automaton cfg).enabled s (.hub e)) : s.1.hub.enabled e :=
  h.1.2.2

theorem enabled_udp {e : UdpEvent} (h : (automaton cfg).enabled s (.udp e)) : s.1.udp.enabled e :=
  h.1.2.2

theorem Run.of_mem (h : Run cfg tr s) {e : SystemEvent} (he : e ∈ tr) :
    ∃ tr₁ s₁, Run cfg tr₁ s₁ ∧ (automaton cfg).enabled s₁ e ∧ tr₁ ++ [e] <+: tr :=
  Automaton.Run.of_mem h he

end System
/-! ## A history

One client of a hub with default settings: it is opened, asks for `udp:a`, and the destination
accepts it. Longer histories elsewhere are built from these pieces. -/

namespace Sample

def addr : UDPAddr := ⟨[127, 0, 0, 1], 1, []⟩

def config : SystemConfig where
  hub := {}
  maxConnections := 512
  clientName := "WebSocket"
  destinationName := "UdpDestination"
  matchConnectionString := defaultUdpDestinationHandlerMatchConnectionStringFn
  router := createClientConnectionRouter 0 0
  udp := {
    allowAllDestinations := true
    allowlistedDestinations := []
    denylistedDestinations := []
    resolveUdpHost := defaultHostResolution
    resolveUDPAddr := fun _ => .ok addr }
  capacity := Chan.defaultCapacity

/-- A `ConnectClientMessage` with connection string `udp:a` and no app data. -/
def authPacket : Slice := .ofBytes
  [0x0c, 0, 0, 0, 0x08, 0, 0x08, 0, 0x04, 0, 0, 0, 0x08, 0, 0, 0, 0x04, 0, 0, 0, 0x05, 0, 0, 0,
    0x75, 0x64, 0x70, 0x3a, 0x61]

/-- A `DestinationMessage` with a `ConnectionVerdict` that accepts client 1. -/
def verdictDatagram : Datagram where
  bytes := [0x0e, 0, 0, 0, 0x0a, 0, 0x0c, 0, 0x08, 0, 0x04, 0, 0, 0, 0x0a, 0, 0, 0, 0x0d, 0, 0, 0,
    0x02, 0x08, 0, 0x09, 0, 0x04, 0, 0x08, 0, 0x08, 0, 0, 0, 0x01, 0, 0, 0, 0x01]
  len_le := by decide

/-- A `DestinationMessage` of the given kind for client 1 with app data `[42]`. -/
def datagram (tag : UInt8) : Datagram where
  bytes := [0x0e, 0, 0, 0, 0x0a, 0, 0x10, 0, 0x0c, 0, 0x04, 0, 0x08, 0, 0x0a, 0, 0, 0,
    0x0f, 0, 0, 0, 0x13, 0, 0, 0, tag, 0x06, 0, 0x08, 0, 0x04, 0, 0x06, 0, 0, 0, 0x01, 0, 0, 0,
    0x01, 0, 0, 0, 0x2a]
  len_le := by simp

def openCommand : OpenClientConnectionCommand := ⟨1, 0, 0, [0x75, 0x64, 0x70, 0x3a, 0x61], none⟩

def verdict : OpenClientConnectionVerdict := ⟨1, true, none, none⟩

/-- Client 1 gets its id and a connection. -/
def opened : List SystemEvent := [
  .hub (.getNewClientId "WebSocket" 1), .hub (.callbackNow "WebSocket" 1),
  .hub (.createClient "WebSocket" 1 0), .router (.nextClientId 1), .router (.register 1)]

/-- Its first packet is parsed, the hub attaches it and the UDP handler registers it. -/
def asked : List SystemEvent := [
  .router (.conn 0 (.put authPacket)), .router (.conn 0 (.authPacket authPacket)),
  .router (.conn 0 (.openNow openCommand)), .router (.conn 0 (.openSend openCommand)),
  .hub (.recvOpenClient openCommand), .hub (.reqNow openCommand), .hub (.reqName openCommand 0),
  .hub (.reqMatch openCommand 0 "UdpDestination"), .hub (.reqLookup openCommand 0 "UdpDestination"),
  .hub (.reqAttach openCommand 0 "UdpDestination"), .hub (.reqSend openCommand "UdpDestination"),
  .udp (.recvOpen openCommand), .udp (.connect openCommand addr), .udp (.register openCommand addr),
  .udp (.connectSend openCommand addr)]

/-- The destination accepts, and the hub forwards its verdict. -/
def answered : List SystemEvent := [
  .udp (.readFromUDP addr verdictDatagram),
  .udp (.datagramForward addr verdictDatagram (.verdict verdict)), .udp (.sendVerdict addr verdict),
  .hub (.recvVerdict verdict), .hub (.verdictName verdict "WebSocket"),
  .hub (.verdictLookup verdict "WebSocket"), .hub (.verdictConnect verdict "WebSocket"),
  .hub (.verdictSend verdict "WebSocket")]

/-- The verdict reaches the connection. -/
def pushed : List SystemEvent := [
  .router (.recvVerdict verdict), .router (.routeVerdict verdict 0),
  .router (.pushVerdict 0 verdict)]

/-- The connection tells its transport and starts its listeners. -/
def told : List SystemEvent := [
  .router (.conn 0 (.emitVerdict true [] none)), .router (.conn 0 .markConnected)]

def accepted : List SystemEvent := pushed ++ .router (.conn 0 (.verdictRecv verdict)) :: told

def packet : Slice := .ofBytes [0x07]

def clientMessage : ClientMessage := ⟨1, 0, 0, some [0x07]⟩

/-- The transport puts a second packet, which its listener sends to the hub. -/
def sentUp : List SystemEvent := [
  .router (.conn 0 (.put packet)), .router (.conn 0 (.transportPacket packet)),
  .router (.conn 0 (.transportNow clientMessage)),
  .router (.conn 0 (.transportSend clientMessage)), .hub (.recvClientMessage clientMessage),
  .hub (.fwdClientNow clientMessage)]

def destinationMessage : DestinationMessage := ⟨1, 0, 0, some [0x2a]⟩

def messageForClient : ClientMessage := ⟨1, 0, 0, some [0x2a]⟩

/-- The destination sends a message, which reaches the connection's proxy listener. -/
def sentDown : List SystemEvent := [
  .udp (.readFromUDP addr (datagram 1)),
  .udp (.datagramForward addr (datagram 1) (.message 1 (some [0x2a]))),
  .udp (.messageNow addr destinationMessage), .udp (.sendMessage addr destinationMessage),
  .hub (.recvDestinationMessage destinationMessage), .hub (.fwdDestNow destinationMessage),
  .hub (.fwdDestName destinationMessage 0 "WebSocket"),
  .hub (.fwdDestLookup destinationMessage 0 "WebSocket"),
  .hub (.fwdDestSend messageForClient "WebSocket"), .router (.recvMessage messageForClient),
  .router (.routeMessage messageForClient 0), .router (.pushMessage 0 messageForClient),
  .router (.conn 0 (.proxyMessage messageForClient))]

def closeFromDestination : ClientCloseCommand := ⟨1, [], none, some [0x2a]⟩

/-- The destination closes the client, and the hub kicks it. -/
def kicked : List SystemEvent := [
  .udp (.readFromUDP addr (datagram 3)),
  .udp (.datagramForward addr (datagram 3) (.close closeFromDestination)),
  .udp (.sendClose addr closeFromDestination), .hub (.recvDestinationClose closeFromDestination),
  .hub (.kickClientName .destination 1 none .select),
  .hub (.kickDestName .destination 1 none "WebSocket" .select),
  .hub (.kickClientLock .destination 1 none "WebSocket" "UdpDestination" .select),
  .hub (.kickClientSend .destination 1 none "WebSocket" "UdpDestination" .select),
  .hub (.kickDestLock .destination 1 none "UdpDestination" .select),
  .hub (.kickDestSend .destination 1 none "UdpDestination" .select),
  .hub (.kickRemove .destination 1 none .select)]

set_option maxRecDepth 100000 in
example : (System.automaton config).Admits (System.start config)
    (opened ++ asked ++ answered ++ accepted) := by decide +kernel

end Sample
end Spanreed
