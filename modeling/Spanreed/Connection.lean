import Spanreed.Messages
import Spanreed.Lib.Automaton

/-! # One client connection

What `clientConnectionRouter.OpenConnection` starts for one client
(`pkg/transport/client_connection_router.go`): the routing goroutine with its two authentication
phases, the two goroutines it forks on acceptance (the proxy listener and the transport
listener), and the channels between them and the transport. The transport handler
(`onWsRequest`, `onWtRequest`) is its reader loop and its writer loop.

A channel of capacity one is an `Option` (or a `Bool`, when its value does not matter); longer
channels are lists, oldest first. A packet handed to the transport is kept as the arguments of its
FlatBuffers encoding. -/

namespace Spanreed
open Flatbuffers Automata

/-- The queue lengths of a router. -/
structure ClientConnectionRouterParams where
  incomingMessageQueueLength : Nat
  outgoingMessageQueueLength : Nat
  incoming_pos : 0 < incomingMessageQueueLength
  outgoing_pos : 0 < outgoingMessageQueueLength

/-- `CreateClientConnectionRouter`: a length of zero stands for 16. -/
def createClientConnectionRouter (incoming outgoing : UInt32) : ClientConnectionRouterParams where
  incomingMessageQueueLength := if incoming = 0 then 16 else incoming.toNat
  outgoingMessageQueueLength := if outgoing = 0 then 16 else outgoing.toNat
  incoming_pos := by
    split
    · decide
    · next h => exact Nat.pos_of_ne_zero fun h' => h (UInt32.toNat_inj.mp h')
  outgoing_pos := by
    split
    · decide
    · next h => exact Nat.pos_of_ne_zero fun h' => h (UInt32.toNat_inj.mp h')

/-- A packet for the transport: `createVerdictMsg` of its arguments, or application data. -/
inductive Packet
  | verdict (accepted : Bool) (reason : Bytes) (appData : Option Bytes)
  | data (d : Option Bytes)
deriving DecidableEq

/-- The routing goroutine. -/
inductive RoutingPc
  | awaitAuth
  | authClose
  | openNow (authMsg : Table)
  | openSend (cmd : OpenClientConnectionCommand)
  | awaitVerdict
  | emitVerdict (accepted : Bool) (reason : Bytes) (appData : Option Bytes)
  | closeTransport
  | markConnected
  | forked
  | returned
deriving DecidableEq

/-- "Route proxy messages out". -/
inductive ProxyListenerPc
  | notStarted
  | select
  | emit (d : Option Bytes)
  | closeTransport
  | returned
deriving DecidableEq

/-- "Route connection messages to proxy". -/
inductive TransportListenerPc
  | notStarted
  | select
  | messageNow (packet : Slice)
  | messageSend (m : ClientMessage)
  | closeSend (m : ClientCloseCommand)
  | returned
deriving DecidableEq

/-- The connection listener of the transport handler. `cancelled`: the loop has ended and
`routeCancel` has run. -/
inductive ReaderPc
  | reading
  | cancelled
  | returned
deriving DecidableEq

structure Connection where
  clientId : ClientId
  /-- The route context is cancelled. -/
  done : Bool
  routing : RoutingPc
  proxyListener : ProxyListenerPc
  transportListener : TransportListenerPc
  reader : ReaderPc
  writerReturned : Bool
  /-- The transport handler has run its deferred `Remove`. -/
  removed : Bool
  outgoingMessages : List ClientMessage
  closeRequest : Option ClientCloseCommand
  verdict : Option OpenClientConnectionVerdict
  outgoingPackets : List Packet
  incomingPackets : List Slice
  clientClose : Bool
  proxyClose : Bool
deriving DecidableEq

inductive ConnectionEvent
  -- the shutdown context
  | cancel
  -- the transport handler
  | put (packet : Slice)
  | readerStops
  | clientClose
  | take (packet : Packet)
  | writeFails (packet : Packet)
  | takeClose
  | remove
  -- the dispatch loop of the router
  | pushMessage (m : ClientMessage)
  | pushClose (m : ClientCloseCommand)
  | pushVerdict (v : OpenClientConnectionVerdict)
  -- the routing goroutine, first phase
  | authDone
  | authClientClose
  | authCloseRequest (m : ClientCloseCommand)
  | authPacket (packet : Slice)
  | authClose (m : ClientCloseCommand)
  | openNow (cmd : OpenClientConnectionCommand)
  | openSend (cmd : OpenClientConnectionCommand)
  -- the routing goroutine, second phase
  | verdictDone
  | verdictClientClose
  | verdictCloseRequest (m : ClientCloseCommand)
  | verdictRecv (v : OpenClientConnectionVerdict)
  | emitVerdict (accepted : Bool) (reason : Bytes) (appData : Option Bytes)
  | closeTransport
  | markConnected
  -- the proxy listener
  | proxyDone
  | proxyCloseRequest (m : ClientCloseCommand)
  | proxyMessage (m : ClientMessage)
  | proxyEmit (d : Option Bytes)
  | proxyCloseTransport
  -- the transport listener
  | transportDone
  | transportClientClose
  | transportCloseRequest (m : ClientCloseCommand)
  | transportPacket (packet : Slice)
  | transportNow (m : ClientMessage)
  | transportSend (m : ClientMessage)
  | transportClose (m : ClientCloseCommand)
deriving DecidableEq

namespace Connection

/-- A connection as `OpenConnection` returns it; `done` if its context is already cancelled. -/
def opened (clientId : ClientId) (done : Bool) : Connection where
  clientId := clientId
  done := done
  routing := .awaitAuth
  proxyListener := .notStarted
  transportListener := .notStarted
  reader := .reading
  writerReturned := false
  removed := false
  outgoingMessages := []
  closeRequest := none
  verdict := none
  outgoingPackets := []
  incomingPackets := []
  clientClose := false
  proxyClose := false

/-- A close command of the connection to the hub. -/
def closeCommand (clientId : ClientId) (reason : String) : ClientCloseCommand where
  clientId := clientId
  reason := ascii reason
  error := none
  appData := none

/-- The open command for a parsed auth message; the fields are read again, outside `recover`. -/
def openCommand (clientId : ClientId) (authMsg : Table) (now : Timestamp) :
    Option OpenClientConnectionCommand := do
  let connectionString ← ConnectClientMessage.connectionString authMsg
  let appData ← ConnectClientMessage.appDataBytes authMsg
  pure {
    clientId := clientId
    recvTimestamp := now
    routeTimestamp := 0
    connectionString := goString connectionString
    appData := appData.map Slice.bytes }

def clientMessage (clientId : ClientId) (packet : Slice) (now : Timestamp) : ClientMessage where
  clientId := clientId
  recvTimestamp := now
  routeTimestamp := 0
  data := some packet.bytes

variable (params : ClientConnectionRouterParams)

def enabled (c : Connection) : ConnectionEvent → Prop
  | .cancel => True
  | .put _ => c.reader = .reading ∧ c.incomingPackets.length < params.incomingMessageQueueLength
  | .readerStops => c.reader = .reading
  | .clientClose => c.reader = .cancelled ∧ c.clientClose = false
  | .take packet => c.writerReturned = false ∧ c.outgoingPackets.head? = some packet
  | .writeFails packet => c.writerReturned = false ∧ c.outgoingPackets.head? = some packet
  | .takeClose => c.writerReturned = false ∧ c.proxyClose = true
  | .remove => c.reader = .returned ∧ c.writerReturned = true ∧ c.removed = false
  | .pushMessage _ => c.outgoingMessages.length < params.outgoingMessageQueueLength
  | .pushClose _ => c.closeRequest = none
  | .pushVerdict _ => c.verdict = none
  | .authDone => c.routing = .awaitAuth ∧ c.done
  | .authClientClose => c.routing = .awaitAuth ∧ c.clientClose
  | .authCloseRequest m => c.routing = .awaitAuth ∧ c.closeRequest = some m
  | .authPacket packet => c.routing = .awaitAuth ∧ c.incomingPackets.head? = some packet
  | .authClose m => c.routing = .authClose ∧ m = closeCommand c.clientId "Proxy shutdown request"
  | .openNow cmd => ∃ authMsg, c.routing = .openNow authMsg ∧
      openCommand c.clientId authMsg cmd.recvTimestamp = some cmd
  | .openSend cmd => c.routing = .openSend cmd
  | .verdictDone => c.routing = .awaitVerdict ∧ c.done
  | .verdictClientClose => c.routing = .awaitVerdict ∧ c.clientClose
  | .verdictCloseRequest m => c.routing = .awaitVerdict ∧ c.closeRequest = some m
  | .verdictRecv v => c.routing = .awaitVerdict ∧ c.verdict = some v
  | .emitVerdict accepted reason appData => c.routing = .emitVerdict accepted reason appData ∧
      c.outgoingPackets.length < params.outgoingMessageQueueLength
  | .closeTransport => c.routing = .closeTransport ∧ c.proxyClose = false
  | .markConnected => c.routing = .markConnected
  | .proxyDone => c.proxyListener = .select ∧ c.done
  | .proxyCloseRequest m => c.proxyListener = .select ∧ c.closeRequest = some m
  | .proxyMessage m => c.proxyListener = .select ∧ c.outgoingMessages.head? = some m
  | .proxyEmit d => c.proxyListener = .emit d ∧
      c.outgoingPackets.length < params.outgoingMessageQueueLength
  | .proxyCloseTransport => c.proxyListener = .closeTransport ∧ c.proxyClose = false
  | .transportDone => c.transportListener = .select ∧ c.done
  | .transportClientClose => c.transportListener = .select ∧ c.clientClose
  | .transportCloseRequest m => c.transportListener = .select ∧ c.closeRequest = some m
  | .transportPacket packet => c.transportListener = .select ∧
      c.incomingPackets.head? = some packet
  | .transportNow m => ∃ packet, c.transportListener = .messageNow packet ∧
      m = clientMessage c.clientId packet m.recvTimestamp
  | .transportSend m => c.transportListener = .messageSend m
  | .transportClose m => c.transportListener = .closeSend m

def next (c : Connection) : ConnectionEvent → Connection
  | .cancel => { c with done := true }
  | .put packet => { c with incomingPackets := c.incomingPackets ++ [packet] }
  | .readerStops => { c with reader := .cancelled, done := true }
  | .clientClose => { c with reader := .returned, clientClose := true }
  | .take _ => { c with outgoingPackets := c.outgoingPackets.tail }
  -- only WebTransport: a failed SendDatagram on a dead session ends the writer
  | .writeFails _ => { c with
      outgoingPackets := c.outgoingPackets.tail
      writerReturned := true
      done := true }
  | .takeClose => { c with proxyClose := false, writerReturned := true, done := true }
  | .remove => { c with removed := true }
  | .pushMessage m => { c with outgoingMessages := c.outgoingMessages ++ [m] }
  | .pushClose m => { c with closeRequest := some m }
  | .pushVerdict v => { c with verdict := some v }
  | .authDone => { c with routing := .authClose }
  | .authClientClose => { c with clientClose := false, routing := .authClose }
  | .authCloseRequest _ => { c with closeRequest := none, routing := .authClose }
  | .authPacket packet => { c with
      incomingPackets := c.incomingPackets.tail
      routing := match safeParseConnectClientMessage packet with
        | .ok authMsg => .openNow authMsg
        | .error _ => .returned }
  | .authClose _ => { c with routing := .returned }
  | .openNow cmd => { c with routing := .openSend cmd }
  | .openSend _ => { c with routing := .awaitVerdict }
  | .verdictDone => { c with routing := .emitVerdict false (ascii "Proxy shutdown") none }
  | .verdictClientClose => { c with clientClose := false, routing := .closeTransport }
  | .verdictCloseRequest _ => { c with
      closeRequest := none
      routing := .emitVerdict false (ascii "Auth timeout") none }
  | .verdictRecv v => { c with
      verdict := none
      routing := .emitVerdict v.verdict (v.error.getD []) v.appData }
  | .emitVerdict accepted reason appData => { c with
      outgoingPackets := c.outgoingPackets ++ [.verdict accepted reason appData]
      routing := if accepted then .markConnected else .closeTransport }
  | .closeTransport => { c with proxyClose := true, routing := .returned }
  | .markConnected => { c with
      routing := .forked
      proxyListener := .select
      transportListener := .select }
  -- the arm of the cancelled context is empty: the loop goes round
  | .proxyDone => c
  | .proxyCloseRequest _ => { c with closeRequest := none, proxyListener := .closeTransport }
  | .proxyMessage m => { c with
      outgoingMessages := c.outgoingMessages.tail
      proxyListener := .emit m.data }
  | .proxyEmit d => { c with
      outgoingPackets := c.outgoingPackets ++ [.data d]
      proxyListener := .select }
  | .proxyCloseTransport => { c with proxyClose := true, proxyListener := .returned }
  | .transportDone => { c with
      transportListener := .closeSend (closeCommand c.clientId "Proxy shutdown request") }
  -- the arm of the client's own close is empty too
  | .transportClientClose => { c with clientClose := false }
  | .transportCloseRequest _ => { c with
      closeRequest := none
      transportListener :=
        .closeSend (closeCommand c.clientId "Close request received from transport") }
  | .transportPacket packet => { c with
      incomingPackets := c.incomingPackets.tail
      transportListener := .messageNow packet }
  | .transportNow m => { c with transportListener := .messageSend m }
  | .transportSend _ => { c with transportListener := .select }
  | .transportClose _ => { c with transportListener := .returned }

def automaton : Automaton Connection ConnectionEvent where
  enabled := enabled params
  next := next

instance decidableEnabled (c : Connection) : ∀ e, Decidable (c.enabled params e)
  | .openNow cmd =>
    match h : c.routing with
    | .openNow authMsg =>
      decidable_of_iff (openCommand c.clientId authMsg cmd.recvTimestamp = some cmd)
        (by simp [enabled, h])
    | .awaitAuth | .authClose | .openSend _ | .awaitVerdict | .emitVerdict .. | .closeTransport
    | .markConnected | .forked | .returned => isFalse (by simp [enabled, h])
  | .transportNow m =>
    match h : c.transportListener with
    | .messageNow packet =>
      decidable_of_iff (m = clientMessage c.clientId packet m.recvTimestamp)
        (by simp [enabled, h])
    | .notStarted | .select | .messageSend _ | .closeSend _ | .returned =>
      isFalse (by simp [enabled, h])
  | .cancel => inferInstanceAs (Decidable True)
  | .put _ | .clientClose | .take _ | .writeFails _ | .takeClose | .remove | .authDone
  | .authClientClose | .authCloseRequest _ | .authPacket _ | .authClose _ | .verdictDone
  | .verdictClientClose
  | .verdictCloseRequest _ | .verdictRecv _ | .emitVerdict .. | .closeTransport | .proxyDone
  | .proxyCloseRequest _ | .proxyMessage _ | .proxyEmit _ | .proxyCloseTransport
  | .transportDone | .transportClientClose | .transportCloseRequest _ | .transportPacket _ =>
    inferInstanceAs (Decidable (_ ∧ _))
  | .pushMessage _ => inferInstanceAs (Decidable (_ < _))
  | .readerStops | .pushClose _ | .pushVerdict _ | .openSend _ | .markConnected
  | .transportSend _ | .transportClose _ => inferInstanceAs (Decidable (_ = _))

instance : ∀ s e, Decidable ((automaton params).enabled s e) :=
  fun s e => inferInstanceAs (Decidable (s.enabled params e))

end Connection
end Spanreed
