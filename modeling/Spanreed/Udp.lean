import Spanreed.Messages
import Spanreed.Lib.Automaton
import Mathlib.Data.List.AList

/-! # The UDP destination handler

`pkg/transport/udp_destination.go` as an automaton: the proxy message listener, the datagram
listener, the sender and the closing goroutine of `Start`, with the registry
`destinationConnections` and the output queue `outgoingMessages`. The read lock of the registry is
held by the datagram listener from its lookup until its send to the hub completes, the write lock
by the closing goroutine during its loop; every other use of the registry is a single event that
waits for the lock.

`net.ResolveUDPAddr` and the optional `ResolveUdpHost` are parameters. A datagram for a
destination is kept as the arguments of its FlatBuffers encoding; a datagram from a destination is
its bytes. -/

namespace Spanreed
open Flatbuffers Automata

structure UDPAddr where
  ip : Bytes
  port : Nat
  zone : Bytes
deriving DecidableEq

structure UdpSpanreedDestinationParams where
  allowAllDestinations : Bool
  allowlistedDestinations : List Bytes
  denylistedDestinations : List Bytes
  /-- `none` is a panic. -/
  resolveUdpHost : Bytes → Option (Except GoError Bytes)
  /-- `net.ResolveUDPAddr` -/
  resolveUDPAddr : Bytes → Except GoError UDPAddr

/-- `utils.Contains` -/
def contains (s : Bytes) (list : List Bytes) : Bool := list.any (· == s)

def isDestinationAllowed (allowAll : Bool) (allowlist denylist : List Bytes)
    (destination : Bytes) : Bool :=
  if contains destination denylist then false
  else if allowAll then true
  else contains destination allowlist

/-- The Go string `"udp:"`. -/
def udpScheme : Bytes := [0x75, 0x64, 0x70, 0x3a]

def defaultUdpDestinationHandlerMatchConnectionStringFn (connStr : Bytes) : Option Bool := do
  let scheme ← (Slice.ofBytes connStr).range 0 4
  pure (scheme.bytes == udpScheme)

def defaultHostResolution (connStr : Bytes) : Option (Except GoError Bytes) := do
  let scheme ← (Slice.ofBytes connStr).range 0 4
  if scheme.bytes ≠ udpScheme then pure (.error .notUdpConnectionString)
  else
    let host ← (Slice.ofBytes connStr).drop 4
    pure (.ok host.bytes)

/-- What `onConnectClient` does before it registers a client: the address of the destination. -/
def UdpSpanreedDestinationParams.connectAddress (params : UdpSpanreedDestinationParams)
    (connectionString : Bytes) : Option (Except GoError UDPAddr) := do
  match ← params.resolveUdpHost connectionString with
  | .error err => pure (.error err)
  | .ok udpHost =>
    if !isDestinationAllowed params.allowAllDestinations params.allowlistedDestinations
        params.denylistedDestinations udpHost then
      pure (.error .deniedDestination)
    else pure (params.resolveUDPAddr udpHost)

/-! ## Datagrams -/

inductive ProxyDestInnerMsg
  | proxyDestConnectionRequest
  | proxyDestClientMessage
  | proxyDestCloseConnection
deriving DecidableEq

structure ProxyDestinationMessage where
  innerMessage : ProxyDestInnerMsg
  clientId : ClientId
  appData : Option Bytes
deriving DecidableEq

structure OutgoingMessage where
  addr : UDPAddr
  payload : ProxyDestinationMessage
deriving DecidableEq

/-- A datagram as it is read: at most 2048 bytes. -/
structure Datagram where
  bytes : Bytes
  len_le : bytes.length ≤ 2048
deriving DecidableEq

/-- `buf[0:bytesRead]` of the zeroed buffer of 2048 bytes. -/
def Datagram.rawMsg (d : Datagram) : Slice where
  array := d.bytes ++ List.replicate (2048 - d.bytes.length) 0
  len := d.bytes.length
  len_le := by simp

/-- What a datagram makes the handler send to the hub. A message is stamped with the time before
it is sent. -/
inductive Forward
  | verdict (v : OpenClientConnectionVerdict)
  | message (clientId : ClientId) (appData : Option Bytes)
  | close (m : ClientCloseCommand)
deriving DecidableEq

def Forward.clientId : Forward → ClientId
  | .verdict v => v.clientId
  | .message clientId _ => clientId
  | .close m => m.clientId

section
variable (registered : ClientId → Bool)

def onReceiveVerdict (msg : Table) (appData : Option Slice) : Option (Option Forward) := do
  let clientId ← ConnectionVerdict.clientId msg
  let accepted ← ConnectionVerdict.accepted msg
  if registered clientId then
    pure (some (.verdict {
      clientId := clientId
      verdict := accepted
      error := none
      appData := appData.map Slice.bytes }))
  else pure none

def onReceiveProxyMessage (msg : Table) (appData : Option Slice) : Option (Option Forward) := do
  let clientId ← ProxyMessage.clientId msg
  if registered clientId then pure (some (.message clientId (appData.map Slice.bytes)))
  else pure none

/-- The reason is only read for a registered client. -/
def onReceiveCloseRequest (msg : Table) (appData : Option Slice) : Option (Option Forward) := do
  let clientId ← CloseConnection.clientId msg
  if registered clientId then
    let reason ← CloseConnection.reason msg
    pure (some (.close {
      clientId := clientId
      reason := goString reason
      error := none
      appData := appData.map Slice.bytes }))
  else pure none

/-- One iteration of the connection message listening loop, up to its send to the hub: `none` is a
panic, `some none` skips the datagram. -/
def onDatagram (rawMsg : Slice) : Option (Option Forward) :=
  match safeParseDestinationMessage rawMsg with
  | .error _ => some none
  | .ok parsedMsg => do
    match ← DestinationMessageTable.msg parsedMsg with
    | none => pure none
    | some ut =>
      match ← DestinationMessageTable.msgType parsedMsg with
      | .connectionVerdict =>
        onReceiveVerdict registered ut (← DestinationMessageTable.appDataBytes parsedMsg)
      | .proxyMessage =>
        onReceiveProxyMessage registered ut (← DestinationMessageTable.appDataBytes parsedMsg)
      | .closeConnection =>
        onReceiveCloseRequest registered ut (← DestinationMessageTable.appDataBytes parsedMsg)
      | .none => pure none
      | .unknown _ => pure none

end

/-! ## The goroutines -/

/-- The proxy message listener. -/
inductive ListenerPc
  | select
  | exited
  | connect (m : OpenClientConnectionCommand)
  | register (m : OpenClientConnectionCommand) (addr : UDPAddr)
  | connectSend (m : OpenClientConnectionCommand) (addr : UDPAddr)
  | reject (v : OpenClientConnectionVerdict)
  | closeLookup (m : ClientCloseCommand)
  | closeSend (m : ClientCloseCommand) (addr : UDPAddr)
  | closeDelete (m : ClientCloseCommand)
  | messageLookup (m : DestinationMessage)
  | messageSend (m : DestinationMessage) (addr : UDPAddr)
deriving DecidableEq

/-- The datagram listener. -/
inductive DatagramPc
  | read
  | exited
  | received (src : UDPAddr) (d : Datagram)
  | messageNow (src : UDPAddr) (clientId : ClientId) (appData : Option Bytes)
  | sendVerdict (src : UDPAddr) (v : OpenClientConnectionVerdict)
  | sendMessage (src : UDPAddr) (m : DestinationMessage)
  | sendClose (src : UDPAddr) (m : ClientCloseCommand)
deriving DecidableEq

/-- Where the datagram listener goes to forward something it received from `src`. -/
def Forward.pc (src : UDPAddr) : Forward → DatagramPc
  | .verdict v => .sendVerdict src v
  | .message clientId appData => .messageNow src clientId appData
  | .close m => .sendClose src m

/-- Holding `mut_destinationConnections` for reading. -/
def DatagramPc.readsConnections : DatagramPc → Bool
  | .messageNow .. | .sendVerdict .. | .sendMessage .. | .sendClose .. => true
  | _ => false

inductive SenderPc
  | select
  | exited
  | write (m : OutgoingMessage)
deriving DecidableEq

/-- The closing goroutine; `closing` holds `mut_destinationConnections` for writing. -/
inductive CloserPc
  | wait
  | closing
  | returned
deriving DecidableEq

structure Udp where
  params : UdpSpanreedDestinationParams
  done : Bool
  connClosed : Bool
  destinationConnections : AList fun _ : ClientId => UDPAddr
  outgoingMessages : List OutgoingMessage
  listener : ListenerPc
  datagrams : DatagramPc
  sender : SenderPc
  closer : CloserPc

inductive UdpEvent
  | cancel
  -- the proxy message listener
  | exitListener
  | recvOpen (m : OpenClientConnectionCommand)
  | recvClose (m : ClientCloseCommand)
  | recvMessage (m : DestinationMessage)
  | connect (m : OpenClientConnectionCommand) (addr : UDPAddr)
  | connectFails (m : OpenClientConnectionCommand) (err : GoError)
  | register (m : OpenClientConnectionCommand) (addr : UDPAddr)
  | connectSend (m : OpenClientConnectionCommand) (addr : UDPAddr)
  | reject (v : OpenClientConnectionVerdict)
  | closeLookup (m : ClientCloseCommand) (addr : UDPAddr)
  | closeUnknown (m : ClientCloseCommand)
  | closeSend (m : ClientCloseCommand) (addr : UDPAddr)
  | closeDelete (m : ClientCloseCommand)
  | messageLookup (m : DestinationMessage) (addr : UDPAddr)
  | messageUnknown (m : DestinationMessage)
  | messageSend (m : DestinationMessage) (addr : UDPAddr)
  -- the datagram listener
  | readFromUDP (src : UDPAddr) (d : Datagram)
  | datagramForward (src : UDPAddr) (d : Datagram) (f : Forward)
  | datagramSkip (src : UDPAddr) (d : Datagram)
  | messageNow (src : UDPAddr) (m : DestinationMessage)
  | sendVerdict (src : UDPAddr) (v : OpenClientConnectionVerdict)
  | sendMessage (src : UDPAddr) (m : DestinationMessage)
  | sendClose (src : UDPAddr) (m : ClientCloseCommand)
  | exitDatagrams
  -- the sender
  | exitSender
  | senderTake (m : OutgoingMessage)
  | senderWrite (m : OutgoingMessage)
  -- the closing goroutine
  | closerLock
  | closerWrite (clientId : ClientId) (addr : UDPAddr)
  | closerClose
deriving DecidableEq

namespace Udp

/-- The capacity of `outgoingMessages`. -/
def outgoingCapacity : Nat := 128

def start (params : UdpSpanreedDestinationParams) : Udp where
  params := params
  done := false
  connClosed := false
  destinationConnections := ∅
  outgoingMessages := []
  listener := .select
  datagrams := .read
  sender := .select
  closer := .wait

variable (u : Udp)

def address (clientId : ClientId) : Option UDPAddr := u.destinationConnections.lookup clientId

def registered (clientId : ClientId) : Bool := (u.address clientId).isSome

/-- `mut_destinationConnections` can be taken for reading. -/
def RLock : Prop := u.closer ≠ .closing
/-- `mut_destinationConnections` can be taken for writing. -/
def Lock : Prop := u.closer ≠ .closing ∧ u.datagrams.readsConnections = false

instance : Decidable u.RLock := inferInstanceAs (Decidable (_ ≠ _))
instance : Decidable u.Lock := inferInstanceAs (Decidable (_ ∧ _))

def Room : Prop := u.outgoingMessages.length < outgoingCapacity

instance : Decidable u.Room := inferInstanceAs (Decidable (_ < _))

/-- The refusing verdict for an open command that fails. -/
def refusal (clientId : ClientId) (err : GoError) : OpenClientConnectionVerdict where
  clientId := clientId
  verdict := false
  error := err.error
  appData := none

def connectionRequest (m : OpenClientConnectionCommand) (addr : UDPAddr) : OutgoingMessage where
  addr := addr
  payload := ⟨.proxyDestConnectionRequest, m.clientId, m.appData⟩

def clientMessage (m : DestinationMessage) (addr : UDPAddr) : OutgoingMessage where
  addr := addr
  payload := ⟨.proxyDestClientMessage, m.clientId, m.data⟩

def closeConnection (clientId : ClientId) (addr : UDPAddr) : OutgoingMessage where
  addr := addr
  payload := ⟨.proxyDestCloseConnection, clientId, none⟩

def enabled : UdpEvent → Prop
  | .cancel => True
  | .exitListener => u.listener = .select ∧ u.done
  | .recvOpen _ | .recvClose _ | .recvMessage _ => u.listener = .select
  | .connect m addr => u.listener = .connect m ∧
      u.params.connectAddress m.connectionString = some (.ok addr)
  | .connectFails m err => u.listener = .connect m ∧
      u.params.connectAddress m.connectionString = some (.error err)
  | .register m addr => u.listener = .register m addr ∧ u.Lock
  | .connectSend m addr => u.listener = .connectSend m addr ∧ u.Room
  | .reject v => u.listener = .reject v
  | .closeLookup m addr => u.listener = .closeLookup m ∧ u.RLock ∧ u.address m.clientId = some addr
  | .closeUnknown m => u.listener = .closeLookup m ∧ u.RLock ∧ u.address m.clientId = none
  | .closeSend m addr => u.listener = .closeSend m addr ∧ u.Room
  | .closeDelete m => u.listener = .closeDelete m ∧ u.Lock
  | .messageLookup m addr => u.listener = .messageLookup m ∧ u.RLock ∧
      u.address m.clientId = some addr
  | .messageUnknown m => u.listener = .messageLookup m ∧ u.RLock ∧ u.address m.clientId = none
  | .messageSend m addr => u.listener = .messageSend m addr ∧ u.Room
  | .readFromUDP _ _ => u.datagrams = .read ∧ u.connClosed = false
  | .datagramForward src d f => u.datagrams = .received src d ∧ u.RLock ∧
      onDatagram u.registered d.rawMsg = some (some f)
  | .datagramSkip src d => u.datagrams = .received src d ∧ u.RLock ∧
      onDatagram u.registered d.rawMsg = some none
  | .messageNow src m => u.datagrams = .messageNow src m.clientId m.data ∧ m.routeTimestamp = 0
  | .sendVerdict src v => u.datagrams = .sendVerdict src v
  | .sendMessage src m => u.datagrams = .sendMessage src m
  | .sendClose src m => u.datagrams = .sendClose src m
  | .exitDatagrams => u.datagrams = .read ∧ u.connClosed
  | .exitSender => u.sender = .select ∧ u.done
  | .senderTake m => u.sender = .select ∧ u.outgoingMessages.head? = some m
  | .senderWrite m => u.sender = .write m
  | .closerLock => u.closer = .wait ∧ u.done ∧ u.datagrams.readsConnections = false
  | .closerWrite clientId addr => u.closer = .closing ∧ u.address clientId = some addr
  | .closerClose => u.closer = .closing ∧ u.destinationConnections.entries = []

def next : UdpEvent → Udp
  | .cancel => { u with done := true }
  | .exitListener => { u with listener := .exited }
  | .recvOpen m => { u with listener := .connect m }
  | .recvClose m => { u with listener := .closeLookup m }
  | .recvMessage m => { u with listener := .messageLookup m }
  | .connect m addr => { u with listener := .register m addr }
  | .connectFails m err => { u with listener := .reject (refusal m.clientId err) }
  | .register m addr => { u with
      destinationConnections := u.destinationConnections.insert m.clientId addr
      listener := .connectSend m addr }
  | .connectSend m addr => { u with
      outgoingMessages := u.outgoingMessages ++ [connectionRequest m addr]
      listener := .select }
  | .reject _ => { u with listener := .select }
  | .closeLookup m addr => { u with listener := .closeSend m addr }
  | .closeUnknown _ => { u with listener := .select }
  | .closeSend m addr => { u with
      outgoingMessages := u.outgoingMessages ++ [closeConnection m.clientId addr]
      listener := .closeDelete m }
  | .closeDelete m => { u with
      destinationConnections := u.destinationConnections.erase m.clientId
      listener := .select }
  | .messageLookup m addr => { u with listener := .messageSend m addr }
  | .messageUnknown _ => { u with listener := .select }
  | .messageSend m addr => { u with
      outgoingMessages := u.outgoingMessages ++ [clientMessage m addr]
      listener := .select }
  | .readFromUDP src d => { u with datagrams := .received src d }
  | .datagramForward src _ f => { u with datagrams := f.pc src }
  | .datagramSkip _ _ => { u with datagrams := .read }
  | .messageNow src m => { u with datagrams := .sendMessage src m }
  | .sendVerdict _ _ | .sendMessage _ _ | .sendClose _ _ => { u with datagrams := .read }
  | .exitDatagrams => { u with datagrams := .exited }
  | .exitSender => { u with sender := .exited }
  | .senderTake m => { u with
      outgoingMessages := u.outgoingMessages.tail
      sender := .write m }
  | .senderWrite _ => { u with sender := .select }
  | .closerLock => { u with closer := .closing }
  | .closerWrite clientId _ => { u with
      destinationConnections := u.destinationConnections.erase clientId }
  | .closerClose => { u with connClosed := true, closer := .returned }

def automaton : Automaton Udp UdpEvent where
  enabled := enabled
  next := next

instance : ∀ e, Decidable (u.enabled e) := by
  intro e
  cases e <;> dsimp only [enabled] <;> infer_instance

instance : ∀ s e, Decidable (automaton.enabled s e) :=
  fun s e => inferInstanceAs (Decidable (s.enabled e))

end Udp
end Spanreed
