import Spanreed.ClientStore
import Spanreed.Lib.Network

/-! # The hub

`pkg/proxy/proxy.go` as an automaton. The goroutines of `proxy.Start` and the pending
`GetNextClientId` callbacks interleave at the granularity of single store operations, clock reads,
lock acquisitions and channel operations: one event is one such operation of one goroutine, and a
goroutine between two operations is at one of the points `HubPc`. Where an operation has several
outcomes that the code treats differently, each outcome is an event of its own.

The two `RWMutex`es on the outgoing channel maps and the one on the handler list are not separate
state: who holds them is determined by where the goroutines are (`HubPc.readsClientChannels` and
the like). A panic ends the process, so an operation that panics has no event. -/

namespace Spanreed
open Flatbuffers Automata

/-- The three goroutines of `proxy.Start`, and `Start` itself, which waits for them and then kicks
every client. -/
inductive Goroutine
  | client
  | destination
  | timeout
  | main
deriving DecidableEq

instance (p : Goroutine → Prop) [DecidablePred p] : Decidable (∀ g, p g) :=
  decidable_of_iff (p .client ∧ p .destination ∧ p .timeout ∧ p .main)
    ⟨fun ⟨h₁, h₂, h₃, h₄⟩ g => by cases g <;> assumption, fun h => ⟨h _, h _, h _, h _⟩⟩

/-- Where a goroutine goes on after a kick. -/
inductive KickReturn
  | select
  | kickOldClients (rest : List ClientId)
  | checkForAuthTimeouts (rest : List ClientId)
  | kickAllClients
deriving DecidableEq

/-- The points of the hub's goroutines, each named after the operation that comes next. -/
inductive HubPc
  | select
  | exited
  -- forwardClientMessage and SetClientRecvTimestamp
  | fwdClientNow (m : ClientMessage)
  | fwdClientName (m : ClientMessage) (deqTime : Timestamp)
  | fwdClientLookup (m : ClientMessage) (deqTime : Timestamp) (destHandlerName : String)
  | fwdClientSend (m : DestinationMessage) (destHandlerName : String)
  | clientStampNow (clientId : ClientId)
  | clientStamp (clientId : ClientId) (timestamp : Timestamp)
  -- forwardDestinationMessage and SetDestinationRecvTimestamp
  | fwdDestNow (m : DestinationMessage)
  | fwdDestName (m : DestinationMessage) (deqTime : Timestamp)
  | fwdDestLookup (m : DestinationMessage) (deqTime : Timestamp) (clientHandlerName : String)
  | fwdDestSend (m : ClientMessage) (clientHandlerName : String)
  | destStampNow (clientId : ClientId)
  | destStamp (clientId : ClientId) (timestamp : Timestamp)
  -- forwardDestinationVerdict
  | verdictName (v : OpenClientConnectionVerdict)
  | verdictLookup (v : OpenClientConnectionVerdict) (clientName : String)
  | verdictConnect (v : OpenClientConnectionVerdict) (clientName : String)
  | verdictSend (v : OpenClientConnectionVerdict) (clientName : String)
  -- handleClientConnectionRequestMessage
  | reqNow (m : OpenClientConnectionCommand)
  | reqName (m : OpenClientConnectionCommand) (dequeTimestamp : Timestamp)
  | reqMatch (m : OpenClientConnectionCommand) (dequeTimestamp : Timestamp)
  | reqLookup (m : OpenClientConnectionCommand) (dequeTimestamp : Timestamp) (name : String)
  | reqAttach (m : OpenClientConnectionCommand) (dequeTimestamp : Timestamp) (name : String)
  | reqSend (m : OpenClientConnectionCommand) (name : String)
  -- kickClient
  | kickClientName (c : ClientId) (reason : Option GoError) (k : KickReturn)
  | kickDestName (c : ClientId) (reason : Option GoError) (clientName : String) (k : KickReturn)
  | kickClientLookup (c : ClientId) (reason : Option GoError) (clientName destName : String)
      (k : KickReturn)
  | kickClientSend (c : ClientId) (reason : Option GoError) (clientName destName : String)
      (k : KickReturn)
  | kickDestLookup (c : ClientId) (reason : Option GoError) (destName : String) (k : KickReturn)
  | kickDestSend (c : ClientId) (reason : Option GoError) (destName : String) (k : KickReturn)
  | kickRemove (c : ClientId) (reason : Option GoError) (k : KickReturn)
  -- kickOldClients and checkForAuthTimeouts
  | sweepNow₁
  | sweepNow₂ (clientMsgDeadline : Timestamp)
  | sweepNow₃ (clientMsgDeadline destinationMsgDeadline : Timestamp)
  | sweepList (clientMsgDeadline destinationMsgDeadline connectionDeadline : Timestamp)
  | kickOldClients (clientsToKick : List ClientId)
  | authNow
  | authList (authDeadline : Timestamp)
  | checkForAuthTimeouts (clientsToTimeout : List ClientId)
  -- the end of Start
  | waitGroup
  | kickAllClients
deriving DecidableEq

def KickReturn.resume : KickReturn → HubPc
  | .select => .select
  | .kickOldClients rest => .kickOldClients rest
  | .checkForAuthTimeouts rest => .checkForAuthTimeouts rest
  | .kickAllClients => .kickAllClients

namespace HubPc

/-- Holding `mut_outgoingClientMessageChannels` for reading. -/
def readsClientChannels : HubPc → Bool
  | .fwdDestSend .. | .verdictConnect .. | .verdictSend .. => true
  | _ => false

/-- Holding `mut_outgoingClientMessageChannels` for writing. -/
def writesClientChannels : HubPc → Bool
  | .kickClientSend .. => true
  | _ => false

/-- Holding `mut_outgoingDestinationMessageSendChannels` for reading. -/
def readsDestinationChannels : HubPc → Bool
  | .fwdClientSend .. | .reqAttach .. | .reqSend .. => true
  | _ => false

/-- Holding `mut_outgoingDestinationMessageSendChannels` for writing. -/
def writesDestinationChannels : HubPc → Bool
  | .kickDestSend .. => true
  | _ => false

/-- Holding `mut_connectedDestinationHandlers` for reading. -/
def readsHandlers : HubPc → Bool
  | .reqLookup .. | .reqAttach .. | .reqSend .. => true
  | _ => false

/-- Inside `KickAllClients`, which holds the store's lock all the time. -/
def holdsStore : HubPc → Bool
  | .kickAllClients => true
  | .kickClientLookup _ _ _ _ .kickAllClients | .kickClientSend _ _ _ _ .kickAllClients => true
  | .kickDestLookup _ _ _ .kickAllClients | .kickDestSend _ _ _ .kickAllClients => true
  | .kickRemove _ _ .kickAllClients => true
  | _ => false

end HubPc

/-- A `GetNextClientId` callback of a client handler that is under way. -/
inductive Callback
  | now (name : String) (clientId : ClientId)
  | create (name : String) (clientId : ClientId) (timestamp : Timestamp)
deriving DecidableEq

/-- A registered destination handler; a match function that panics gives `none`. -/
structure DestinationHandler where
  name : String
  matchConnectionString : Bytes → Option Bool

/-- The loop of `handleClientConnectionRequestMessage` over the handlers: the name of the first
that matches. -/
def firstMatch (connectionString : Bytes) : List DestinationHandler → Option (Option String)
  | [] => some none
  | handler :: handlers =>
    match handler.matchConnectionString connectionString with
    | none => none
    | some true => some (some handler.name)
    | some false => firstMatch connectionString handlers

/-- Timeouts in microseconds. -/
structure HubConfig where
  clientMessageTimeout : Int := 60000000
  destinationMessageTimeout : Int := 15000000
  clientAuthTimeout : Int := 10000000
  maxConnectionLength : Int := 21600000000

structure Hub where
  config : HubConfig
  clientStore : ClientStore
  now : Timestamp
  done : Bool
  pc : Goroutine → HubPc
  callbacks : List Callback
  /-- The keys of `outgoingClientMessageChannels`. -/
  clientHandlers : List String
  /-- The keys of `outgoingDestinationMessageSendChannels`. -/
  destinationHandlers : List String
  connectedDestinationHandlers : List DestinationHandler

namespace Hub

/-- A hub right after its handlers were registered and its goroutines started. -/
def start (config : HubConfig) (maxConnections : Nat) (clientHandlers : List String)
    (handlers : List DestinationHandler) : Hub where
  config := config
  clientStore := .createClientStore maxConnections
  now := 0
  done := false
  pc := fun g => if g = .main then .waitGroup else .select
  callbacks := []
  clientHandlers := clientHandlers
  destinationHandlers := handlers.map (·.name)
  connectedDestinationHandlers := handlers

def goto (h : Hub) (g : Goroutine) (pc : HubPc) : Hub := { h with pc := Function.update h.pc g pc }

@[simp] theorem goto_pc (h : Hub) (g : Goroutine) (pc : HubPc) :
    (h.goto g pc).pc = Function.update h.pc g pc := rfl
@[simp] theorem goto_clientStore (h : Hub) (g : Goroutine) (pc : HubPc) :
    (h.goto g pc).clientStore = h.clientStore := rfl
@[simp] theorem goto_callbacks (h : Hub) (g : Goroutine) (pc : HubPc) :
    (h.goto g pc).callbacks = h.callbacks := rfl
@[simp] theorem goto_clientHandlers (h : Hub) (g : Goroutine) (pc : HubPc) :
    (h.goto g pc).clientHandlers = h.clientHandlers := rfl
@[simp] theorem goto_destinationHandlers (h : Hub) (g : Goroutine) (pc : HubPc) :
    (h.goto g pc).destinationHandlers = h.destinationHandlers := rfl
@[simp] theorem goto_connectedDestinationHandlers (h : Hub) (g : Goroutine) (pc : HubPc) :
    (h.goto g pc).connectedDestinationHandlers = h.connectedDestinationHandlers := rfl
@[simp] theorem goto_done (h : Hub) (g : Goroutine) (pc : HubPc) : (h.goto g pc).done = h.done :=
  rfl

/-- `mut_outgoingClientMessageChannels` can be taken for reading. -/
def ClientRLock (h : Hub) : Prop := ∀ g, (h.pc g).writesClientChannels = false
/-- `mut_outgoingClientMessageChannels` can be taken for writing. -/
def ClientLock (h : Hub) : Prop :=
  ∀ g, (h.pc g).writesClientChannels = false ∧ (h.pc g).readsClientChannels = false
/-- `mut_outgoingDestinationMessageSendChannels` can be taken for reading. -/
def DestinationRLock (h : Hub) : Prop := ∀ g, (h.pc g).writesDestinationChannels = false
/-- `mut_outgoingDestinationMessageSendChannels` can be taken for writing. -/
def DestinationLock (h : Hub) : Prop :=
  ∀ g, (h.pc g).writesDestinationChannels = false ∧ (h.pc g).readsDestinationChannels = false
/-- `mut_connectedDestinationHandlers` can be taken for writing. -/
def HandlersLock (h : Hub) : Prop := ∀ g, (h.pc g).readsHandlers = false

instance (h : Hub) : Decidable h.ClientRLock := inferInstanceAs (Decidable (∀ _, _))
instance (h : Hub) : Decidable h.ClientLock := inferInstanceAs (Decidable (∀ _, _))
instance (h : Hub) : Decidable h.DestinationRLock := inferInstanceAs (Decidable (∀ _, _))
instance (h : Hub) : Decidable h.DestinationLock := inferInstanceAs (Decidable (∀ _, _))
instance (h : Hub) : Decidable h.HandlersLock := inferInstanceAs (Decidable (∀ _, _))

end Hub

/-- The operations of the hub's goroutines. -/
inductive HubEvent
  -- the clock, the shutdown context and the registration of handlers
  | advanceClock (t : Timestamp)
  | cancel
  | createClientMessageHandler (name : String)
  | createDestinationMessageHandler (handler : DestinationHandler)
  -- a GetNextClientId callback of the client handler `name`
  | getNewClientId (name : String) (clientId : ClientId)
  | callbackNow (name : String) (clientId : ClientId)
  | createClient (name : String) (clientId : ClientId) (timestamp : Timestamp)
  | createClientFails (name : String) (clientId : ClientId) (timestamp : Timestamp)
  -- the selects
  | exit (g : Goroutine)
  | recvClientMessage (m : ClientMessage)
  | recvOpenClient (m : OpenClientConnectionCommand)
  | recvClientClose (m : ClientCloseCommand)
  | recvDestinationMessage (m : DestinationMessage)
  | recvVerdict (v : OpenClientConnectionVerdict)
  | recvDestinationClose (m : ClientCloseCommand)
  | ticker
  -- forwardClientMessage
  | fwdClientNow (m : ClientMessage)
  | fwdClientName (m : ClientMessage) (deqTime : Timestamp) (name : String)
  | fwdClientNoClient (m : ClientMessage) (deqTime : Timestamp)
  | fwdClientLookup (m : ClientMessage) (deqTime : Timestamp) (name : String)
  | fwdClientNoHandler (m : ClientMessage) (deqTime : Timestamp) (name : String)
  | fwdClientSend (m : DestinationMessage) (name : String)
  | clientStampNow (c : ClientId)
  | clientStamp (c : ClientId) (t : Timestamp)
  -- forwardDestinationMessage
  | fwdDestNow (m : DestinationMessage)
  | fwdDestName (m : DestinationMessage) (deqTime : Timestamp) (name : String)
  | fwdDestNoClient (m : DestinationMessage) (deqTime : Timestamp)
  | fwdDestLookup (m : DestinationMessage) (deqTime : Timestamp) (name : String)
  | fwdDestNoHandler (m : DestinationMessage) (deqTime : Timestamp) (name : String)
  | fwdDestSend (m : ClientMessage) (name : String)
  | destStampNow (c : ClientId)
  | destStamp (c : ClientId) (t : Timestamp)
  -- forwardDestinationVerdict
  | verdictName (v : OpenClientConnectionVerdict) (name : String)
  | verdictNoClient (v : OpenClientConnectionVerdict)
  | verdictLookup (v : OpenClientConnectionVerdict) (name : String)
  | verdictNoHandler (v : OpenClientConnectionVerdict) (name : String)
  | verdictConnect (v : OpenClientConnectionVerdict) (name : String)
  | verdictSend (v : OpenClientConnectionVerdict) (name : String)
  -- handleClientConnectionRequestMessage
  | reqNow (m : OpenClientConnectionCommand)
  | reqName (m : OpenClientConnectionCommand) (t : Timestamp)
  | reqDuplicate (m : OpenClientConnectionCommand) (t : Timestamp) (name : String)
  | reqNoClient (m : OpenClientConnectionCommand) (t : Timestamp)
  | reqMatch (m : OpenClientConnectionCommand) (t : Timestamp) (name : String)
  | reqNoMatch (m : OpenClientConnectionCommand) (t : Timestamp)
  | reqLookup (m : OpenClientConnectionCommand) (t : Timestamp) (name : String)
  | reqNoHandler (m : OpenClientConnectionCommand) (t : Timestamp) (name : String)
  | reqAttach (m : OpenClientConnectionCommand) (t : Timestamp) (name : String)
  | reqAttachFails (m : OpenClientConnectionCommand) (t : Timestamp) (name : String)
  | reqSend (m : OpenClientConnectionCommand) (name : String)
  -- kickClient
  | kickClientName (g : Goroutine) (c : ClientId) (r : Option GoError) (k : KickReturn)
  | kickDestName (g : Goroutine) (c : ClientId) (r : Option GoError) (cn : String) (k : KickReturn)
  | kickClientSkip (g : Goroutine) (c : ClientId) (r : Option GoError) (cn dn : String)
      (k : KickReturn)
  | kickClientLock (g : Goroutine) (c : ClientId) (r : Option GoError) (cn dn : String)
      (k : KickReturn)
  | kickClientSend (g : Goroutine) (c : ClientId) (r : Option GoError) (cn dn : String)
      (k : KickReturn)
  | kickDestSkip (g : Goroutine) (c : ClientId) (r : Option GoError) (dn : String) (k : KickReturn)
  | kickDestLock (g : Goroutine) (c : ClientId) (r : Option GoError) (dn : String) (k : KickReturn)
  | kickDestSend (g : Goroutine) (c : ClientId) (r : Option GoError) (dn : String) (k : KickReturn)
  | kickRemove (g : Goroutine) (c : ClientId) (r : Option GoError) (k : KickReturn)
  -- kickOldClients and checkForAuthTimeouts
  | sweepNow₁
  | sweepNow₂ (a : Timestamp)
  | sweepNow₃ (a b : Timestamp)
  | sweepList (a b d : Timestamp) (clientsToKick : List ClientId)
  | kickOldClient (c : ClientId) (rest : List ClientId)
  | sweepDone
  | authNow
  | authList (a : Timestamp) (clientsToTimeout : List ClientId)
  | kickUnauthedClient (c : ClientId) (rest : List ClientId)
  | authDone
  -- the end of Start
  | waitGroup
  | kickAllNext (c : ClientId) (connection : ClientConnectionMetadata)
  | kickAllDone

namespace Hub

/-- When an operation can happen: its goroutine is at it, the lock it takes is free, and its
outcome is the one the event names. -/
def enabled (h : Hub) : HubEvent → Prop
  | .advanceClock t => h.now ≤ t
  | .cancel => True
  | .createClientMessageHandler _ => h.ClientLock
  | .createDestinationMessageHandler _ => h.DestinationLock ∧ h.HandlersLock
  | .getNewClientId _ clientId => clientId = h.clientStore.getNewClientId
  | .callbackNow name clientId => .now name clientId ∈ h.callbacks
  | .createClient name clientId t => .create name clientId t ∈ h.callbacks ∧
      (h.pc .main).holdsStore = false ∧ (h.clientStore.createClient clientId name t).isOk
  | .createClientFails name clientId t => .create name clientId t ∈ h.callbacks ∧
      (h.pc .main).holdsStore = false ∧ ¬(h.clientStore.createClient clientId name t).isOk
  | .exit g => h.pc g = .select ∧ h.done
  | .recvClientMessage _ | .recvOpenClient _ | .recvClientClose _ => h.pc .client = .select
  | .recvDestinationMessage _ | .recvVerdict _ | .recvDestinationClose _ =>
      h.pc .destination = .select
  | .ticker => h.pc .timeout = .select
  | .fwdClientNow m => h.pc .client = .fwdClientNow m
  | .fwdClientName m t name => h.pc .client = .fwdClientName m t ∧
      (h.clientStore.get m.clientId).map (·.destinationHandlerName) = some name
  | .fwdClientNoClient m t => h.pc .client = .fwdClientName m t ∧
      h.clientStore.get m.clientId = none
  | .fwdClientLookup m t name => h.pc .client = .fwdClientLookup m t name ∧ h.DestinationRLock ∧
      name ∈ h.destinationHandlers
  | .fwdClientNoHandler m t name => h.pc .client = .fwdClientLookup m t name ∧
      h.DestinationRLock ∧ name ∉ h.destinationHandlers
  | .fwdClientSend m name => h.pc .client = .fwdClientSend m name
  | .clientStampNow c => h.pc .client = .clientStampNow c
  | .clientStamp c t => h.pc .client = .clientStamp c t
  | .fwdDestNow m => h.pc .destination = .fwdDestNow m
  | .fwdDestName m t name => h.pc .destination = .fwdDestName m t ∧
      (h.clientStore.get m.clientId).map (·.clientHandlerName) = some name
  | .fwdDestNoClient m t => h.pc .destination = .fwdDestName m t ∧
      h.clientStore.get m.clientId = none
  | .fwdDestLookup m t name => h.pc .destination = .fwdDestLookup m t name ∧ h.ClientRLock ∧
      name ∈ h.clientHandlers
  | .fwdDestNoHandler m t name => h.pc .destination = .fwdDestLookup m t name ∧ h.ClientRLock ∧
      name ∉ h.clientHandlers
  | .fwdDestSend m name => h.pc .destination = .fwdDestSend m name
  | .destStampNow c => h.pc .destination = .destStampNow c
  | .destStamp c t => h.pc .destination = .destStamp c t
  | .verdictName v name => h.pc .destination = .verdictName v ∧
      (h.clientStore.get v.clientId).map (·.clientHandlerName) = some name
  | .verdictNoClient v => h.pc .destination = .verdictName v ∧
      h.clientStore.get v.clientId = none
  | .verdictLookup v name => h.pc .destination = .verdictLookup v name ∧ h.ClientRLock ∧
      name ∈ h.clientHandlers
  | .verdictNoHandler v name => h.pc .destination = .verdictLookup v name ∧ h.ClientRLock ∧
      name ∉ h.clientHandlers
  | .verdictConnect v name => h.pc .destination = .verdictConnect v name
  | .verdictSend v name => h.pc .destination = .verdictSend v name
  | .reqNow m => h.pc .client = .reqNow m
  | .reqName m t => h.pc .client = .reqName m t ∧
      (h.clientStore.get m.clientId).map (·.destinationHandlerName) = some ""
  | .reqDuplicate m t name => h.pc .client = .reqName m t ∧
      (h.clientStore.get m.clientId).map (·.destinationHandlerName) = some name ∧ name ≠ ""
  | .reqNoClient m t => h.pc .client = .reqName m t ∧ h.clientStore.get m.clientId = none
  | .reqMatch m t name => h.pc .client = .reqMatch m t ∧
      firstMatch m.connectionString h.connectedDestinationHandlers = some (some name)
  | .reqNoMatch m t => h.pc .client = .reqMatch m t ∧
      firstMatch m.connectionString h.connectedDestinationHandlers = some none
  | .reqLookup m t name => h.pc .client = .reqLookup m t name ∧ h.DestinationRLock ∧
      name ∈ h.destinationHandlers
  | .reqNoHandler m t name => h.pc .client = .reqLookup m t name ∧ h.DestinationRLock ∧
      name ∉ h.destinationHandlers
  | .reqAttach m t name => h.pc .client = .reqAttach m t name ∧
      (h.clientStore.get m.clientId).isSome
  | .reqAttachFails m t name => h.pc .client = .reqAttach m t name ∧
      h.clientStore.get m.clientId = none
  | .reqSend m name => h.pc .client = .reqSend m name
  | .kickClientName g c r k => h.pc g = .kickClientName c r k
  | .kickDestName g c r cn k => h.pc g = .kickDestName c r cn k
  | .kickClientSkip g c r cn dn k => h.pc g = .kickClientLookup c r cn dn k ∧
      (cn = "" ∨ h.ClientLock ∧ cn ∉ h.clientHandlers)
  | .kickClientLock g c r cn dn k => h.pc g = .kickClientLookup c r cn dn k ∧
      cn ≠ "" ∧ h.ClientLock ∧ cn ∈ h.clientHandlers
  | .kickClientSend g c r cn dn k => h.pc g = .kickClientSend c r cn dn k
  | .kickDestSkip g c r dn k => h.pc g = .kickDestLookup c r dn k ∧
      (dn = "" ∨ h.DestinationLock ∧ dn ∉ h.destinationHandlers)
  | .kickDestLock g c r dn k => h.pc g = .kickDestLookup c r dn k ∧
      dn ≠ "" ∧ h.DestinationLock ∧ dn ∈ h.destinationHandlers
  | .kickDestSend g c r dn k => h.pc g = .kickDestSend c r dn k
  | .kickRemove g c r k => h.pc g = .kickRemove c r k
  | .sweepNow₁ => h.pc .timeout = .sweepNow₁
  | .sweepNow₂ a => h.pc .timeout = .sweepNow₂ a
  | .sweepNow₃ a b => h.pc .timeout = .sweepNow₃ a b
  | .sweepList a b d l => h.pc .timeout = .sweepList a b d ∧
      l.Perm (h.clientStore.getTimeoutClientList a b d)
  | .kickOldClient c rest => h.pc .timeout = .kickOldClients (c :: rest)
  | .sweepDone => h.pc .timeout = .kickOldClients []
  | .authNow => h.pc .timeout = .authNow
  | .authList a l => h.pc .timeout = .authList a ∧
      l.Perm (h.clientStore.getAuthTimeoutClientList a)
  | .kickUnauthedClient c rest => h.pc .timeout = .checkForAuthTimeouts (c :: rest)
  | .authDone => h.pc .timeout = .checkForAuthTimeouts []
  | .waitGroup => h.pc .main = .waitGroup ∧ h.pc .client = .exited ∧
      h.pc .destination = .exited ∧ h.pc .timeout = .exited
  | .kickAllNext c connection => h.pc .main = .kickAllClients ∧
      h.clientStore.get c = some connection
  | .kickAllDone => h.pc .main = .kickAllClients ∧ h.clientStore.clientConnections.entries = []

/-- The name a lookup of `kickClient` goes on with: a missing client only logs a warning. -/
def nameOrEmpty (name : Except GoError String) : String :=
  match name with
  | .ok name => name
  | .error _ => ""

/-- The close command of `sendClientDisconnect` and `sendDestinationDisconnect`. -/
def closeCommand (c : ClientId) (reason : Option GoError) : ClientCloseCommand where
  clientId := c
  reason := []
  error := reason
  appData := none

def next (h : Hub) : HubEvent → Hub
  | .advanceClock t => { h with now := t }
  | .cancel => { h with done := true }
  -- a name that is taken is an error and registers nothing
  | .createClientMessageHandler name => { h with
      clientHandlers := if name ∈ h.clientHandlers then h.clientHandlers
        else h.clientHandlers ++ [name] }
  | .createDestinationMessageHandler handler => { h with
      destinationHandlers := if handler.name ∈ h.destinationHandlers then h.destinationHandlers
        else h.destinationHandlers ++ [handler.name]
      connectedDestinationHandlers :=
        if handler.name ∈ h.destinationHandlers then h.connectedDestinationHandlers
        else h.connectedDestinationHandlers ++ [handler] }
  | .getNewClientId name clientId => { h with
      clientStore := { h.clientStore with nextClientId := clientId }
      callbacks := h.callbacks ++ [.now name clientId] }
  | .callbackNow name clientId => { h with
      callbacks := h.callbacks.erase (.now name clientId) ++ [.create name clientId h.now] }
  | .createClient name clientId t => { h with
      clientStore := match h.clientStore.createClient clientId name t with
        | .ok store => store
        | .error _ => h.clientStore
      callbacks := h.callbacks.erase (.create name clientId t) }
  | .createClientFails name clientId t => { h with
      callbacks := h.callbacks.erase (.create name clientId t) }
  | .exit g => h.goto g .exited
  | .recvClientMessage m => h.goto .client (.fwdClientNow m)
  | .recvOpenClient m => h.goto .client (.reqNow m)
  | .recvClientClose m => h.goto .client (.kickClientName m.clientId m.error .select)
  | .recvDestinationMessage m => h.goto .destination (.fwdDestNow m)
  | .recvVerdict v => h.goto .destination (.verdictName v)
  | .recvDestinationClose m => h.goto .destination (.kickClientName m.clientId m.error .select)
  | .ticker => h.goto .timeout .sweepNow₁
  | .fwdClientNow m => h.goto .client (.fwdClientName m h.now)
  | .fwdClientName m t name => h.goto .client (.fwdClientLookup m t name)
  | .fwdClientNoClient _ _ => h.goto .client .select
  | .fwdClientLookup m t name => h.goto .client (.fwdClientSend {
      clientId := m.clientId
      recvTimestamp := m.recvTimestamp
      routeTimestamp := t
      data := m.data } name)
  | .fwdClientNoHandler _ _ _ => h.goto .client .select
  | .fwdClientSend m _ => h.goto .client (.clientStampNow m.clientId)
  | .clientStampNow c => h.goto .client (.clientStamp c h.now)
  | .clientStamp c t =>
      { h with clientStore := h.clientStore.setClientRecvTimestamp c t }.goto .client .select
  | .fwdDestNow m => h.goto .destination (.fwdDestName m h.now)
  | .fwdDestName m t name => h.goto .destination (.fwdDestLookup m t name)
  | .fwdDestNoClient _ _ => h.goto .destination .select
  | .fwdDestLookup m t name => h.goto .destination (.fwdDestSend {
      clientId := m.clientId
      recvTimestamp := m.recvTimestamp
      routeTimestamp := t
      data := m.data } name)
  | .fwdDestNoHandler _ _ _ => h.goto .destination .select
  | .fwdDestSend m _ => h.goto .destination (.destStampNow m.clientId)
  | .destStampNow c => h.goto .destination (.destStamp c h.now)
  | .destStamp c t =>
      { h with clientStore := h.clientStore.setDestinationRecvTimestamp c t }.goto
        .destination .select
  | .verdictName v name => h.goto .destination (.verdictLookup v name)
  | .verdictNoClient _ => h.goto .destination .select
  | .verdictLookup v name => h.goto .destination (.verdictConnect v name)
  | .verdictNoHandler _ _ => h.goto .destination .select
  | .verdictConnect v name =>
      { h with clientStore := h.clientStore.connect v.clientId }.goto
        .destination (.verdictSend v name)
  | .verdictSend _ _ => h.goto .destination .select
  | .reqNow m => h.goto .client (.reqName m h.now)
  | .reqName m t => h.goto .client (.reqMatch m t)
  | .reqDuplicate _ _ _ => h.goto .client .select
  | .reqNoClient _ _ => h.goto .client .select
  | .reqMatch m t name => h.goto .client (.reqLookup m t name)
  | .reqNoMatch m _ => h.goto .client (.kickClientName m.clientId
      (some (.noMatchingHandlerForConnectionString m.connectionString)) .select)
  | .reqLookup m t name => h.goto .client (.reqAttach m t name)
  | .reqNoHandler m _ name => h.goto .client (.kickClientName m.clientId
      (some (.missingDestinationHandler name)) .select)
  | .reqAttach m t name =>
      { h with clientStore := h.clientStore.setDestinationHandlerName m.clientId name }.goto
        .client (.reqSend { m with routeTimestamp := t } name)
  | .reqAttachFails m _ _ => h.goto .client (.kickClientName m.clientId
      (some (.missingClientId m.clientId)) .select)
  | .reqSend _ _ => h.goto .client .select
  | .kickClientName g c r k =>
      h.goto g (.kickDestName c r (nameOrEmpty (h.clientStore.getClientHandlerName c)) k)
  | .kickDestName g c r cn k =>
      h.goto g (.kickClientLookup c r cn
        (nameOrEmpty (h.clientStore.getDestinationHandlerName c)) k)
  | .kickClientSkip g c r _ dn k => h.goto g (.kickDestLookup c r dn k)
  | .kickClientLock g c r cn dn k => h.goto g (.kickClientSend c r cn dn k)
  | .kickClientSend g c r _ dn k => h.goto g (.kickDestLookup c r dn k)
  | .kickDestSkip g c r _ k => h.goto g (.kickRemove c r k)
  | .kickDestLock g c r dn k => h.goto g (.kickDestSend c r dn k)
  | .kickDestSend g c r _ k => h.goto g (.kickRemove c r k)
  | .kickRemove g c _ k =>
      { h with clientStore := h.clientStore.removeClient c }.goto g k.resume
  | .sweepNow₁ => h.goto .timeout (.sweepNow₂ (h.now - h.config.clientMessageTimeout))
  | .sweepNow₂ a => h.goto .timeout (.sweepNow₃ a (h.now - h.config.destinationMessageTimeout))
  | .sweepNow₃ a b => h.goto .timeout (.sweepList a b (h.now - h.config.maxConnectionLength))
  | .sweepList _ _ _ l => h.goto .timeout (.kickOldClients l)
  | .kickOldClient c rest =>
      h.goto .timeout (.kickClientName c (some .connectionTimeout) (.kickOldClients rest))
  | .sweepDone => h.goto .timeout .authNow
  | .authNow => h.goto .timeout (.authList (h.now - h.config.clientAuthTimeout))
  | .authList _ l => h.goto .timeout (.checkForAuthTimeouts l)
  | .kickUnauthedClient c rest =>
      h.goto .timeout (.kickClientName c (some .authTimeout) (.checkForAuthTimeouts rest))
  | .authDone => h.goto .timeout .select
  | .waitGroup => h.goto .main .kickAllClients
  | .kickAllNext c connection => h.goto .main (.kickClientLookup c (some .proxyShutdown)
      connection.clientHandlerName connection.destinationHandlerName .kickAllClients)
  | .kickAllDone => h.goto .main .exited

def automaton : Automaton Hub HubEvent where
  enabled := enabled
  next := next

instance (h : Hub) : ∀ e, Decidable (h.enabled e) := by
  intro e
  cases e <;> dsimp only [enabled] <;> infer_instance

instance : ∀ s e, Decidable (automaton.enabled s e) :=
  fun s e => inferInstanceAs (Decidable (s.enabled e))

end Hub
end Spanreed
