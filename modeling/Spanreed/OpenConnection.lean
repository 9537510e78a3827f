import Spanreed.Allocation
import Spanreed.Deployment
import Spanreed.RouterFacts

/-! # Opening a connection

`clientConnectionRouter.OpenConnection` makes a record in the hub's store (`GetNextClientId`) and
then an entry in the routing map of its router. Records and entries are given up at different
times, so the id of a new record can have an entry of an earlier client once the counter has
wrapped; `OpenConnection` then fails and leaves the record behind (`open_connection_atomic`). -/

namespace Spanreed
open Flatbuffers Automata

/-- What an `OpenConnection` call changes: the hub's store and the routing map of the router. -/
structure Registries where
  clientStore : ClientStore
  connections : AList fun _ : ClientId => Nat

/-- `getClientIdCbForMessageHandler(name)` at time `now`. -/
def ClientStore.getNextClientId (store : ClientStore) (name : String) (now : Timestamp) :
    Except GoError ClientId × ClientStore :=
  let clientId := store.getNewClientId
  let store := { store with nextClientId := clientId }
  match store.createClient clientId name now with
  | .error err => (.error err, store)
  | .ok store => (.ok clientId, store)

namespace Registries
variable (s : Registries) (name : String) (now : Timestamp) (k : Nat)

/-- `OpenConnection` of the router of the client handler `name`, at time `now`; the connection it
makes has the number `k`. -/
def openConnection : Except GoError ClientId × Registries :=
  match s.clientStore.getNextClientId name now with
  | (.error err, store) => (.error err, { s with clientStore := store })
  | (.ok clientId, store) =>
    match s.connections.lookup clientId with
    | some _ => (.error (.duplicateClientId clientId), { s with clientStore := store })
    | none => (.ok clientId, ⟨store, s.connections.insert clientId k⟩)

/-- If the call returns an error, records and entries are as before. -/
def Atomic : Prop :=
  ∀ err s', s.openConnection name now k = (.error err, s') →
    s'.clientStore.clientConnections = s.clientStore.clientConnections ∧
      s'.connections = s.connections

/-- The id that is next has no entry in the routing map, or the store refuses it. -/
def NoStaleEntry : Prop :=
  s.connections.lookup s.clientStore.getNewClientId = none ∨
    s.clientStore.hasClient s.clientStore.getNewClientId = true ∨
    s.clientStore.maxConnections ≤ s.clientStore.clientConnections.entries.length

/-- What a call comes to. -/
theorem openConnection_cases :
    (∃ err, s.openConnection name now k =
        (.error err, { s with clientStore.nextClientId := s.clientStore.getNewClientId }) ∧
      (s.clientStore.hasClient s.clientStore.getNewClientId = true ∨
        s.clientStore.maxConnections ≤ s.clientStore.clientConnections.entries.length)) ∨
    (∃ store, s.clientStore.hasClient s.clientStore.getNewClientId = false ∧
      s.clientStore.clientConnections.entries.length < s.clientStore.maxConnections ∧
      store.clientConnections.entries.length =
        s.clientStore.clientConnections.entries.length + 1 ∧
      ((∃ k', s.connections.lookup s.clientStore.getNewClientId = some k' ∧
        s.openConnection name now k =
          (.error (.duplicateClientId s.clientStore.getNewClientId),
            { s with clientStore := store })) ∨
      s.connections.lookup s.clientStore.getNewClientId = none ∧
        s.openConnection name now k = (.ok s.clientStore.getNewClientId,
          ⟨store, s.connections.insert s.clientStore.getNewClientId k⟩))) := by
  unfold openConnection ClientStore.getNextClientId
  rcases ClientStore.createClient_cases
      { s.clientStore with nextClientId := s.clientStore.getNewClientId }
      s.clientStore.getNewClientId name now with
    ⟨hcreate, hhas⟩ | ⟨hcreate, -, hfull⟩ | ⟨store, hcreate, hfree, hroom, -, hlen⟩
  · refine .inl ⟨.duplicateClientId s.clientStore.getNewClientId, by simp only [hcreate], .inl ?_⟩
    exact Option.isSome_iff_ne_none.mpr hhas
  · exact .inl ⟨.tooManyClients, by simp only [hcreate], .inr hfull⟩
  · have hnot : s.clientStore.hasClient s.clientStore.getNewClientId = false :=
      Option.isSome_eq_false_iff.mpr (Option.isNone_iff_eq_none.mpr hfree)
    refine .inr ⟨store, hnot, hroom, hlen, ?_⟩
    cases hlookup : s.connections.lookup s.clientStore.getNewClientId with
    | some k' => exact .inl ⟨k', rfl, by simp only [hcreate, hlookup]⟩
    | none => exact .inr ⟨rfl, by simp only [hcreate, hlookup]⟩

variable {s name now k}

theorem atomic_iff : s.Atomic name now k ↔ s.NoStaleEntry := by
  unfold Atomic NoStaleEntry
  rcases s.openConnection_cases name now k with
    ⟨err, hopen, hrefused⟩ | ⟨store, hnot, hroom, hlen, ⟨k', hentry, hopen⟩ | ⟨hnone, hopen⟩⟩
  · refine iff_of_true ?_ (.inr hrefused)
    rintro _ _ h
    cases hopen.symm.trans h
    exact ⟨rfl, rfl⟩
  · refine iff_of_false ?_ ?_
    · intro hatomic
      have hrecords : store.clientConnections = s.clientStore.clientConnections :=
        (hatomic _ _ hopen).1
      rw [hrecords] at hlen
      omega
    · simp [hentry, hnot, hroom]
  · refine iff_of_true ?_ (.inl hnone)
    rintro _ _ h
    cases hopen.symm.trans h

end Registries

/-! ## The steps of a call

The callback of the hub and the registration of the router are sequences of events of the two
automata. -/

/-- The steps of a callback for an id. -/
def Hub.callbackSteps (h : Hub) (name : String) : List HubEvent :=
  let clientId := h.clientStore.getNewClientId
  [.getNewClientId name clientId, .callbackNow name clientId,
    match (h.clientStore.getNextClientId name h.now).1 with
    | .ok _ => .createClient name clientId h.now
    | .error _ => .createClientFails name clientId h.now]

/-- The steps of `OpenConnection` with an id. -/
def Router.registerSteps (r : Router) (clientId : ClientId) : List RouterEvent :=
  [.nextClientId clientId,
    match r.connections.lookup clientId with
    | some _ => .registerFails clientId
    | none => .register clientId]

/-- A callback of a hub whose store is not locked runs through and leaves the store of
`getNextClientId`. -/
theorem Hub.callback_run {h : Hub} (name : String) (hlock : (h.pc .main).holdsStore = false) :
    Hub.automaton.Admits h (h.callbackSteps name) ∧
    (Hub.automaton.exec h (h.callbackSteps name)).clientStore =
      (h.clientStore.getNextClientId name h.now).2 := by
  unfold callbackSteps ClientStore.getNextClientId
  cases hcreate : ClientStore.createClient
      { h.clientStore with nextClientId := h.clientStore.getNewClientId }
      h.clientStore.getNewClientId name h.now with
  | ok | error =>
    simp [Automaton.Admits, Automaton.exec, automaton, enabled, next, hcreate, hlock,
      Except.isOk, Except.toBool]

/-- A registration while the dispatch loop does not hold the lock of the routing map. -/
theorem Router.register_run {r : Router} (clientId : ClientId)
    (hlock : r.dispatch.readsConnections = false) :
    Router.automaton.Admits r (r.registerSteps clientId) ∧
    (Router.automaton.exec r (r.registerSteps clientId)).connections =
      match r.connections.lookup clientId with
      | some _ => r.connections
      | none => r.connections.insert clientId r.opened := by
  unfold registerSteps
  cases hlookup : r.connections.lookup clientId with
  | some | none =>
    simp [Automaton.Admits, Automaton.exec, automaton, enabled, next, hlookup, hlock]

/-- The registries after a call are those after its steps. -/
theorem Registries.openConnection_steps {h : Hub} {r : Router} (name : String)
    (hstore : (h.pc .main).holdsStore = false) (hmap : r.dispatch.readsConnections = false) :
    (openConnection ⟨h.clientStore, r.connections⟩ name h.now r.opened).2 =
      ⟨(Hub.automaton.exec h (h.callbackSteps name)).clientStore,
        match (h.clientStore.getNextClientId name h.now).1 with
        | .ok clientId => (Router.automaton.exec r (r.registerSteps clientId)).connections
        | .error _ => r.connections⟩ := by
  rw [(Hub.callback_run name hstore).2]
  unfold openConnection
  cases hnext : h.clientStore.getNextClientId name h.now with
  | mk result store =>
    cases result with
    | error err => rfl
    | ok clientId =>
      simp only [(Router.register_run clientId hmap).2]
      cases r.connections.lookup clientId <;> rfl

/-! ## Entries of a run -/

namespace DeploymentEvent

def hubPart : DeploymentEvent → Option HubEvent
  | .cancel => some .cancel
  | .hub e => some e
  | _ => none

def routerPart (name : String) : DeploymentEvent → Option RouterEvent
  | .cancel => some .cancel
  | .router name' e => if name' = name then some e else none
  | _ => none

theorem routerPart_router {name name' : String} {e e' : RouterEvent} :
    routerPart name (.router name' e) = some e' ↔ name' = name ∧ e = e' := by
  simp [routerPart]

end DeploymentEvent

namespace DeploymentParts
variable (cfg : DeploymentConfig)

def hubComponent : Automaton.Component (automaton cfg) Hub.automaton where
  state := DeploymentParts.hub
  part := DeploymentEvent.hubPart
  enabled {s e e'} he hp := by
    cases e <;> cases hp
    · exact trivial
    · exact he.2.2
  next {s e e'} he hp := by cases e <;> cases hp <;> rfl
  frame {s e} he hp := by cases e <;> cases hp <;> rfl

def routerComponent (name : String) : Automaton.Component (automaton cfg) Router.automaton where
  state s := s.router name
  part := DeploymentEvent.routerPart name
  enabled {s e e'} he hp := by
    cases e with
    | router name' e =>
      obtain ⟨rfl, rfl⟩ := DeploymentEvent.routerPart_router.mp hp
      exact he.2.2.2
    | cancel => cases hp; exact trivial
    | _ => cases hp
  next {s e e'} he hp := by
    cases e with
    | router name' e =>
      obtain ⟨rfl, rfl⟩ := DeploymentEvent.routerPart_router.mp hp
      exact Function.update_self ..
    | cancel => cases hp; rfl
    | _ => cases hp
  frame {s e} he hp := by
    cases e with
    | router name' e =>
      have hne : name ≠ name' := by
        rintro rfl
        simp [DeploymentEvent.routerPart] at hp
      exact Function.update_of_ne hne ..
    | cancel => cases hp
    | _ => rfl

end DeploymentParts

namespace Deployment
open HubEvent RouterEvent
variable {cfg : DeploymentConfig} {s : Deployment} {tr : List DeploymentEvent} {name : String}
  {c : ClientId}

/-- The ids allocated in a history. -/
def newIds (tr : List DeploymentEvent) : List ClientId :=
  (tr.filterMap DeploymentEvent.hubPart).filterMap newId

theorem hub_run (hr : (automaton cfg).Run (start cfg) tr s) :
    Hub.automaton.Run (.start cfg.hub cfg.maxConnections cfg.clientHandlers
      [⟨cfg.destinationName, cfg.matchConnectionString⟩])
      (tr.filterMap DeploymentEvent.hubPart) s.1.hub :=
  (DeploymentParts.hubComponent cfg).run (network_run hr)

theorem router_run (hr : (automaton cfg).Run (start cfg) tr s) (name : String) :
    Router.automaton.Run (.start (cfg.router name))
      (tr.filterMap (DeploymentEvent.routerPart name)) (s.1.router name) :=
  (DeploymentParts.routerComponent cfg name).run (network_run hr)

/-- An id on its way to a router has had a record made. -/
theorem createClient_of_send {e : DeploymentEvent} (h : e.op cfg = .send (.nextClientId name) c) :
    ∃ t, e = .hub (.createClient name c t) := by
  cases e with
  | hub e =>
    cases e <;> cases h
    exact ⟨_, rfl⟩
  | router name' e =>
    cases e
    case conn k e => cases e <;> cases h
    all_goals cases h
  | udp e => cases e <;> cases h
  | cancel => cases h

/-- The entries of a routing map are for ids that were allocated. -/
theorem newIds_of_entry (hr : (automaton cfg).Run (start cfg) tr s)
    (hc : (s.1.router name).connections.lookup c ≠ none) : c ∈ newIds tr := by
  obtain ⟨k, hk⟩ := Option.ne_none_iff_exists'.mp hc
  have hregistered := List.mem_of_getElem? (Router.lookup_registered (router_run hr name) hk)
  have htaken : c ∈ (tr.filterMap (DeploymentEvent.routerPart name)).filterMap idTaken := by
    have hcount := Router.count_registered_le (router_run hr name) c
    have hpos := List.count_pos_iff.mpr hregistered
    exact List.count_pos_iff.mp (by omega)
  obtain ⟨e, he, hid⟩ := List.mem_filterMap.mp htaken
  obtain ⟨e', he', hpart⟩ := List.mem_filterMap.mp he
  obtain rfl : e' = .router name (.nextClientId c) := by
    cases e <;> cases hid
    cases e' with
    | router name' e =>
      obtain ⟨rfl, rfl⟩ := DeploymentEvent.routerPart_router.mp hpart
      rfl
    | _ => cases hpart
  obtain ⟨tr₁, s₁, hr₁, hen, hprefix⟩ := hr.of_mem he'
  obtain ⟨e'', hmem, hop⟩ := send_before_recv hr₁ hen rfl
  obtain ⟨t, rfl⟩ := createClient_of_send hop
  refine Hub.newId_of_createdId (hub_run hr) ?_
  have hin : .hub (.createClient name c t) ∈ tr :=
    hprefix.subset (List.mem_append_left _ hmem)
  exact List.mem_filterMap.mpr ⟨_, List.mem_filterMap.mpr ⟨_, hin, rfl⟩, rfl⟩

/-- Until the counter wraps, the id that is next has not been allocated. -/
theorem next_not_mem_newIds (hr : (automaton cfg).Run (start cfg) tr s)
    (hlt : (newIds tr).length < 2 ^ 32) : s.1.hub.clientStore.getNewClientId ∉ newIds tr := by
  obtain ⟨hids, hcounter⟩ := Hub.newIds_eq (hub_run hr)
  intro hmem
  unfold newIds at hmem hlt
  rw [hids, List.mem_map] at hmem
  obtain ⟨n, hn, hid⟩ := hmem
  have hn := List.mem_range.mp hn
  rw [ClientStore.getNewClientId, hcounter] at hid
  have := congrArg UInt32.toNat hid
  simp only [UInt32.toNat_add, UInt32.toNat_ofNat', UInt32.toNat_one] at this
  omega

/-- The store of the hub and the routing map of the client handler `name`. -/
def registries (s : Deployment) (name : String) : Registries :=
  ⟨s.1.hub.clientStore, (s.1.router name).connections⟩

/-- In every state that comes about, a failing `OpenConnection` leaves records and entries as they
were exactly if the id that is next has no entry of an earlier client, or the store refuses it. As
long as fewer than `2 ^ 32` ids have been allocated, it has none. -/
theorem open_connection_atomic (hr : (automaton cfg).Run (start cfg) tr s) (name : String) :
    ((s.registries name).Atomic name s.1.hub.now (s.1.router name).opened ↔
      (s.registries name).NoStaleEntry) ∧
    ((newIds tr).length < 2 ^ 32 → (s.registries name).NoStaleEntry) := by
  refine ⟨Registries.atomic_iff, fun hlt => .inl ?_⟩
  by_contra hentry
  exact next_not_mem_newIds hr hlt (newIds_of_entry hr hentry)

theorem open_connection_atomic_joined :
    (registries ((automaton narrow).exec (start narrow) (joins 1 0)) "WebSocket").Atomic
      "WebSocket" 0 1 := by
  have hr : (automaton narrow).Run (start narrow) (joins 1 0) _ :=
    Automaton.Admits.run (by decide +kernel)
  obtain ⟨hiff, hfew⟩ := open_connection_atomic hr "WebSocket"
  exact hiff.mpr (hfew (by decide))

/-! ## An id with an entry of an earlier client

A hub for one client. While client 1 is there, `2 ^ 32 - 1` further calls are refused and the
counter wraps. Client 1 then leaves before it has sent anything: the hub removes its record, and
its routing goroutine returns without `Remove`. The next call gets the id 1 again. -/

def single : DeploymentConfig := { narrow with maxConnections := 1 }

/-- Client 1 is opened. -/
def first : List DeploymentEvent := [
  .hub (.getNewClientId "WebSocket" 1), .hub (.callbackNow "WebSocket" 1),
  .hub (.createClient "WebSocket" 1 0), .router "WebSocket" (.nextClientId 1),
  .router "WebSocket" (.register 1)]

def leaving : ClientCloseCommand :=
  Connection.closeCommand 1 "Proxy shutdown request"

/-- Its transport closes, and the hub kicks it. -/
def leaves : List DeploymentEvent := [
  .router "WebSocket" (.conn 0 .readerStops), .router "WebSocket" (.conn 0 .clientClose),
  .router "WebSocket" (.conn 0 .authClientClose),
  .router "WebSocket" (.conn 0 (.authClose leaving)), .hub (.recvClientClose leaving),
  .hub (.kickClientName .client 1 none .select),
  .hub (.kickDestName .client 1 none "WebSocket" .select),
  .hub (.kickClientLock .client 1 none "WebSocket" "" .select),
  .hub (.kickClientSend .client 1 none "WebSocket" "" .select),
  .hub (.kickDestSkip .client 1 none "" .select), .hub (.kickRemove .client 1 none .select)]

/-- The counter set to `n`. -/
def withCounter (s : Deployment) (n : ClientId) : Deployment :=
  ({ s.1 with hub.clientStore.nextClientId := n }, s.2)

/-- A store that refuses every id, and no callback under way. -/
structure Refuses (s : Deployment) : Prop where
  full : s.1.hub.clientStore.maxConnections ≤
    s.1.hub.clientStore.clientConnections.entries.length
  unlocked : (s.1.hub.pc .main).holdsStore = false
  idle : s.1.hub.callbacks = []

theorem Refuses.run_one (h : s.Refuses) (hname : name ∈ cfg.clientHandlers) :
    ∃ tr, (automaton cfg).Run s tr (s.withCounter (s.1.hub.clientStore.nextClientId + 1)) := by
  let id := s.1.hub.clientStore.getNewClientId
  let refused : List DeploymentEvent := [.hub (.getNewClientId name id),
    .hub (.callbackNow name id), .hub (.createClientFails name id s.1.hub.now)]
  have hfails : ¬(ClientStore.createClient { s.1.hub.clientStore with nextClientId := id } id name
      s.1.hub.now).isOk := by
    rcases ClientStore.createClient_cases { s.1.hub.clientStore with nextClientId := id } id name
      s.1.hub.now with ⟨hcreate, -⟩ | ⟨hcreate, -⟩ | ⟨store, -, -, hroom, -⟩
    · simp [hcreate, Except.isOk, Except.toBool]
    · simp [hcreate, Except.isOk, Except.toBool]
    · exact absurd h.full (Nat.not_le.mpr hroom)
  have hadmits : (automaton cfg).Admits s refused := by
    refine ⟨⟨⟨rfl, ?_, rfl⟩, trivial⟩, ⟨⟨rfl, ?_, ?_⟩, trivial⟩, ⟨⟨rfl, ?_, ?_, h.unlocked, hfails⟩,
      trivial⟩, trivial⟩
    · rintro _ ⟨⟩
      exact hname
    · rintro _ ⟨⟩
    · exact List.mem_append_right _ (List.mem_singleton_self _)
    · rintro _ ⟨⟩
    · exact List.mem_append_right _ (List.mem_singleton_self _)
  have hexec : (automaton cfg).exec s refused =
      s.withCounter (s.1.hub.clientStore.nextClientId + 1) := by
    have hcallbacks : ((([] ++ [Callback.now name id]).erase (.now name id) ++
        [.create name id s.1.hub.now]).erase (.create name id s.1.hub.now)) = [] := by simp
    simp only [refused, withCounter, Automaton.exec, List.foldl_cons, List.foldl_nil, automaton,
      network, DeploymentParts.automaton, DeploymentParts.next, Hub.next, h.idle, hcallbacks]
    simp only [← h.idle]
    rfl
  exact ⟨refused, hexec ▸ hadmits.run⟩

theorem Refuses.run (h : s.Refuses) (hname : name ∈ cfg.clientHandlers) (k : Nat) :
    ∃ tr, (automaton cfg).Run s tr
      (s.withCounter (s.1.hub.clientStore.nextClientId + UInt32.ofNat k)) := by
  induction k with
  | zero => exact ⟨[], by simpa [withCounter] using Automaton.Run.nil⟩
  | succ k ih =>
    obtain ⟨tr, hr⟩ := ih
    have hrefuses : Refuses (s.withCounter
        (s.1.hub.clientStore.nextClientId + UInt32.ofNat k)) := ⟨h.full, h.unlocked, h.idle⟩
    obtain ⟨tr', hr'⟩ := hrefuses.run_one hname
    refine ⟨tr ++ tr', ?_⟩
    rw [UInt32.ofNat_add, ← UInt32.add_assoc]
    exact hr.trans hr'

/-- The record of the call that fails stays. -/
theorem stale_entry_leaves_record : ∃ tr s, (automaton single).Run (start single) tr s ∧
    ¬(s.registries "WebSocket").Atomic "WebSocket" s.1.hub.now (s.1.router "WebSocket").opened := by
  let s₁ := (automaton single).exec (start single) first
  have hr₁ : (automaton single).Run (start single) first s₁ :=
    Automaton.Admits.run (by decide +kernel)
  have hrefuses : s₁.Refuses := ⟨by decide +kernel, by decide +kernel, by decide +kernel⟩
  have hname : "WebSocket" ∈ single.clientHandlers := by decide
  obtain ⟨tr₂, hr₂⟩ := hrefuses.run hname (2 ^ 32 - 1)
  have hwrap : s₁.1.hub.clientStore.nextClientId + UInt32.ofNat (2 ^ 32 - 1) = 0 := by
    decide +kernel
  rw [hwrap] at hr₂
  have hr₃ : (automaton single).Run (s₁.withCounter 0) leaves _ :=
    Automaton.Admits.run (by decide +kernel)
  refine ⟨_, _, (hr₁.trans hr₂).trans hr₃, ?_⟩
  rw [Registries.atomic_iff]
  unfold Registries.NoStaleEntry
  decide +kernel

end Deployment
end Spanreed
