import Spanreed.Handlers
import Mathlib.Data.List.AList

/-! # The client store

`internal/client_store.go`. Each operation runs under the store's lock, so it is one function of
the store here; the goroutines interleave between operations (`Spanreed.Hub`). -/

namespace Spanreed

structure ClientConnectionMetadata where
  isConnected : Bool
  clientHandlerName : String
  destinationHandlerName : String
  createdTime : Timestamp
  lastClientMsgTime : Timestamp
  lastDestinationMsgTime : Timestamp
deriving DecidableEq

structure ClientStore where
  maxConnections : Nat
  nextClientId : ClientId
  clientConnections : AList fun _ : ClientId => ClientConnectionMetadata

namespace ClientStore
variable (store : ClientStore)

def createClientStore (maxConnections : Nat) : ClientStore where
  maxConnections := maxConnections
  nextClientId := 0
  clientConnections := ∅

/-- The record of a client, if it has one. -/
def get (clientId : ClientId) : Option ClientConnectionMetadata :=
  store.clientConnections.lookup clientId

/-- `nextClientId.Add(1)`: the counter wraps. -/
def getNewClientId : ClientId := store.nextClientId + 1

def hasClient (clientId : ClientId) : Bool := (store.get clientId).isSome

def createClient (clientId : ClientId) (clientHandlerName : String) (timestamp : Timestamp) :
    Except GoError ClientStore :=
  if store.hasClient clientId then .error (.duplicateClientId clientId)
  else if store.maxConnections ≤ store.clientConnections.entries.length then .error .tooManyClients
  else .ok { store with
    clientConnections := store.clientConnections.insert clientId {
      isConnected := false
      clientHandlerName := clientHandlerName
      destinationHandlerName := ""
      createdTime := timestamp
      lastClientMsgTime := timestamp
      lastDestinationMsgTime := timestamp } }

def removeClient (clientId : ClientId) : ClientStore :=
  { store with clientConnections := store.clientConnections.erase clientId }

/-- Change the record of a client that has one. -/
def update (clientId : ClientId) (f : ClientConnectionMetadata → ClientConnectionMetadata) :
    ClientStore :=
  match store.get clientId with
  | some connection =>
    { store with clientConnections := store.clientConnections.insert clientId (f connection) }
  | none => store

def connect (clientId : ClientId) : ClientStore :=
  store.update clientId fun connection => { connection with isConnected := true }

def setDestinationHandlerName (clientId : ClientId) (name : String) : ClientStore :=
  store.update clientId fun connection => { connection with destinationHandlerName := name }

def setClientRecvTimestamp (clientId : ClientId) (timestamp : Timestamp) : ClientStore :=
  store.update clientId fun connection => { connection with lastClientMsgTime := timestamp }

def setDestinationRecvTimestamp (clientId : ClientId) (timestamp : Timestamp) : ClientStore :=
  store.update clientId fun connection => { connection with lastDestinationMsgTime := timestamp }

def getDestinationHandlerName (clientId : ClientId) : Except GoError String :=
  match store.get clientId with
  | some connection => .ok connection.destinationHandlerName
  | none => .error (.missingClientId clientId)

def getClientHandlerName (clientId : ClientId) : Except GoError String :=
  match store.get clientId with
  | some connection => .ok connection.clientHandlerName
  | none => .error (.missingClientId clientId)

/-- The clients of `GetTimeoutClientList` in one iteration order of the map. -/
def getTimeoutClientList (clientMsgDeadline destinationMsgDeadline connectionDeadline : Timestamp) :
    List ClientId :=
  (store.clientConnections.entries.filter fun e =>
    e.2.createdTime < connectionDeadline ∨ e.2.lastClientMsgTime < clientMsgDeadline ∨
      e.2.lastDestinationMsgTime < destinationMsgDeadline).map Sigma.fst

/-- The clients of `GetAuthTimeoutClientList` in one iteration order of the map. -/
def getAuthTimeoutClientList (connectDeadline : Timestamp) : List ClientId :=
  (store.clientConnections.entries.filter fun e =>
    !e.2.isConnected ∧ e.2.createdTime < connectDeadline).map Sigma.fst

/-- The handler names in the record of a client: client handler, then destination handler. -/
def names (clientId : ClientId) : Option (String × String) :=
  (store.get clientId).map fun connection =>
    (connection.clientHandlerName, connection.destinationHandlerName)

/-! ## Records after an operation -/

variable {store : ClientStore} {c d : ClientId}

@[simp] theorem get_createClientStore (n : Nat) : (createClientStore n).get c = none :=
  AList.lookup_empty c

theorem get_removeClient :
    (store.removeClient c).get d = if d = c then none else store.get d := by
  unfold removeClient get
  split
  · next h => subst h; exact AList.lookup_erase _ _
  · next h => exact AList.lookup_erase_ne h

theorem get_update {f : ClientConnectionMetadata → ClientConnectionMetadata} :
    (store.update c f).get d = if d = c then (store.get d).map f else store.get d := by
  unfold update
  split
  · next connection hc =>
    unfold get at hc ⊢
    split
    · next h => subst h; rw [hc]; exact AList.lookup_insert _
    · next h => exact AList.lookup_insert_ne h
  · next hc =>
    split
    · next h => subst h; rw [hc]; rfl
    · rfl

@[simp] theorem nextClientId_update {f : ClientConnectionMetadata → ClientConnectionMetadata} :
    (store.update c f).nextClientId = store.nextClientId := by
  unfold update; split <;> rfl

/-- The record of a client that has just been created. -/
def newRecord (name : String) (t : Timestamp) : ClientConnectionMetadata where
  isConnected := false
  clientHandlerName := name
  destinationHandlerName := ""
  createdTime := t
  lastClientMsgTime := t
  lastDestinationMsgTime := t

/-- A successful creation: the id was free, and only its record is new. -/
theorem createClient_ok {store' : ClientStore} {name : String} {t : Timestamp}
    (h : store.createClient c name t = .ok store') :
    store.get c = none ∧ store'.nextClientId = store.nextClientId ∧
      store'.get c = some (newRecord name t) ∧ ∀ d, d ≠ c → store'.get d = store.get d := by
  unfold createClient at h
  split at h
  · cases h
  next hfree =>
  split at h
  · cases h
  · cases h
    refine ⟨by simpa [hasClient] using hfree, rfl, AList.lookup_insert _, ?_⟩
    intro d hd
    exact AList.lookup_insert_ne hd

theorem names_eq_none : store.names c = none ↔ store.get c = none := Option.map_eq_none_iff

theorem names_of_destination {name : String}
    (h : (store.get c).map (·.destinationHandlerName) = some name) :
    ∃ cn, store.names c = some (cn, name) := by
  obtain ⟨m, hm, rfl⟩ := Option.map_eq_some_iff.mp h
  exact ⟨m.clientHandlerName, by simp [names, hm]⟩

theorem names_of_client {name : String}
    (h : (store.get c).map (·.clientHandlerName) = some name) :
    ∃ dn, store.names c = some (name, dn) := by
  obtain ⟨m, hm, rfl⟩ := Option.map_eq_some_iff.mp h
  exact ⟨m.destinationHandlerName, by simp [names, hm]⟩

end ClientStore
end Spanreed
