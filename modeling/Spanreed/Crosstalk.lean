import Spanreed.DeploymentFacts

/-! # No crosstalk

A hub with any number of routers (`main` runs one for WebSocket and one for WebTransport) keeps its
clients apart (`no_crosstalk`). A client is at home at one connection of one router. What the hub
says about a client it says to that router, what the client's transport is handed comes from
datagrams that name the client, and what a destination is sent in the client's name comes from the
client's own transport. -/

namespace Spanreed
open Flatbuffers Automata

/-! ## The hub speaks to the handler that made the record -/

/-- The client handler an event of the hub speaks to, and about which client. -/
def HubEvent.toClient : HubEvent → Option (String × ClientId)
  | .fwdDestSend m name => some (name, m.clientId)
  | .verdictSend v name => some (name, v.clientId)
  | .kickClientSend _ c _ cn _ _ => some (cn, c)
  | _ => none

/-- Client `c` has had a record made for the client handler `name`. -/
def MadeFor (tr : List HubEvent) (c : ClientId) (name : String) : Prop :=
  ∃ t, .createClient name c t ∈ tr

theorem MadeFor.mono {tr tr' : List HubEvent} {c : ClientId} {name : String}
    (h : MadeFor tr c name) : MadeFor (tr ++ tr') c name := by
  obtain ⟨t, ht⟩ := h
  exact ⟨t, List.mem_append_left _ ht⟩

/-- A goroutine that is about to speak to a client handler about a client has found its name in a
record of the client; `kickClient` goes on with an empty name if there is none. -/
def HubPc.Addressed (tr : List HubEvent) : HubPc → Prop
  | .fwdDestLookup m _ name => MadeFor tr m.clientId name
  | .fwdDestSend m name => MadeFor tr m.clientId name
  | .verdictLookup v name | .verdictConnect v name | .verdictSend v name =>
    MadeFor tr v.clientId name
  | .kickDestName c _ cn _ | .kickClientLookup c _ cn _ _ | .kickClientSend c _ cn _ _ =>
    cn ≠ "" → MadeFor tr c cn
  | _ => True

theorem HubPc.Addressed.mono {tr tr' : List HubEvent} {pc : HubPc} (h : pc.Addressed tr) :
    pc.Addressed (tr ++ tr') := by
  cases pc
  case fwdDestLookup | fwdDestSend | verdictLookup | verdictConnect | verdictSend =>
    exact MadeFor.mono h
  case kickDestName | kickClientLookup | kickClientSend => exact fun hne => MadeFor.mono (h hne)
  all_goals trivial

namespace Hub
variable {config : HubConfig} {maxConnections : Nat} {clientHandlers : List String}
  {handlers : List DestinationHandler} {tr : List HubEvent} {h : Hub} {c : ClientId}

theorem madeFor_of_names
    (hr : automaton.Run (start config maxConnections clientHandlers handlers) tr h)
    {cn dn : String} (hc : h.clientStore.names c = some (cn, dn)) : MadeFor tr c cn := by
  induction hr generalizing cn dn with
  | nil => simp [start, ClientStore.names] at hc
  | @snoc tr h e hr he ih =>
    rcases names_next he c with ⟨name, t, rfl, -, hnew⟩ | ⟨g, r, k, rfl, hnew⟩ |
      ⟨m, t, name, cn', dn', rfl, -, hold, hnew⟩ | hsame
    · cases Option.some.inj (hnew.symm.trans hc)
      exact ⟨t, by simp⟩
    · cases hnew.symm.trans hc
    · cases Option.some.inj (hnew.symm.trans hc)
      exact (ih hold).mono
    · exact (ih (hsame.symm.trans hc)).mono

theorem madeFor_of_clientHandlerName
    (hr : automaton.Run (start config maxConnections clientHandlers handlers) tr h)
    {name : String} (hc : (h.clientStore.get c).map (·.clientHandlerName) = some name) :
    MadeFor tr c name := by
  obtain ⟨md, hmd, rfl⟩ := Option.map_eq_some_iff.mp hc
  have hnames : h.clientStore.names c = some (md.clientHandlerName, md.destinationHandlerName) := by
    simp [ClientStore.names, hmd]
  exact madeFor_of_names hr hnames

theorem addressed (hr : automaton.Run (start config maxConnections clientHandlers handlers) tr h) :
    ∀ g, (h.pc g).Addressed tr := by
  induction hr with
  | nil => intro g; cases g <;> trivial
  | @snoc tr h e hr he ih =>
    have move : ∀ {g pc}, pc.Addressed (tr ++ [e]) →
        ∀ g', (Function.update h.pc g pc g').Addressed (tr ++ [e]) :=
      fun hpc => forall_moved hpc fun g => (ih g).mono
    have stay : ∀ {g pc}, h.pc g = pc → pc.Addressed (tr ++ [e]) := fun hg => hg ▸ (ih _).mono
    cases e
    case advanceClock | cancel | createClientMessageHandler | createDestinationMessageHandler
        | getNewClientId | callbackNow | createClient | createClientFails =>
      exact fun g => (ih g).mono
    case fwdDestName | verdictName =>
      exact move (madeFor_of_clientHandlerName hr he.2).mono
    case fwdDestLookup | verdictLookup | kickClientLock =>
      have hs := stay he.1
      exact move hs
    case verdictConnect | kickDestName =>
      have hs := stay he
      exact move hs
    case kickClientName g c r k =>
      refine move fun hne => MadeFor.mono ?_
      unfold ClientStore.getClientHandlerName nameOrEmpty at *
      cases hget : h.clientStore.get c with
      | none => simp [hget] at hne
      | some md => exact madeFor_of_clientHandlerName hr (by simp [hget])
    case kickAllNext c connection =>
      exact move fun _ => (madeFor_of_clientHandlerName hr (by simp [he.2])).mono
    case kickRemove g c r k =>
      refine move ?_
      cases k <;> trivial
    all_goals exact move trivial

/-- What the hub says about a client it says to a handler the client has had a record made for. -/
theorem madeFor_of_toClient
    (hr : automaton.Run (start config maxConnections clientHandlers handlers) tr h) {e : HubEvent}
    {name : String} (he : e ∈ tr) (hto : e.toClient = some (name, c)) : MadeFor tr c name := by
  obtain ⟨tr₁, h₁, hr₁, he₁, tr₂, rfl⟩ := hr.of_mem he
  refine MadeFor.mono (MadeFor.mono ?_)
  cases e <;> cases hto
  case fwdDestSend m =>
    have ha := he₁ ▸ addressed hr₁ .destination
    exact ha
  case verdictSend v =>
    have ha := he₁ ▸ addressed hr₁ .destination
    exact ha
  case kickClientSend g r dn k =>
    have ha := he₁ ▸ addressed hr₁ g
    exact ha (known_at hr₁ he₁).2

end Hub

namespace Deployment
open HubEvent RouterEvent
variable {cfg : DeploymentConfig} {s : Deployment} {tr : List DeploymentEvent} {name : String}
  {c : ClientId} {k : Nat}

/-! ## From the transport to the destination -/

/-- The packets the transport of connection `k` of router `name` has put. -/
def transportPackets (name : String) (k : Nat) (tr : List DeploymentEvent) : List Slice :=
  (connectionTrace k (routerHistory name tr)).filterMap ConnectionEvent.putPacket

/-- The payloads of the client message datagrams enqueued for client `c`. -/
def datagramPayloads (c : ClientId) (tr : List DeploymentEvent) : List (Option Bytes) :=
  (udpHistory tr).filterMap (UdpEvent.clientDataOut c)

/-- What some router sends to the hub for client `c`. -/
def sentUp (c : ClientId) : DeploymentEvent → Option (Option Bytes)
  | .router _ e => e.dataSent c
  | _ => none

theorem hubIn_sublist (h : Run cfg tr s) (c : ClientId) :
    ((hubHistory tr).filterMap (clientDataIn c)).Sublist (tr.filterMap (sentUp c)) := by
  rw [List.filterMap_filterMap]
  refine network_sublist h .incomingClientMessage (f := ClientMessage.dataFor c)
    (fun e he d hd => ?_) fun e he d hd => ?_
  · obtain ⟨m, hsent, hm⟩ := Option.bind_eq_some_iff.mp hd
    cases sends_of_op (ChannelOp.sentOn_eq_some hsent)
    exact hm
  · cases e with
    | hub e =>
      cases e
      case recvClientMessage m =>
        rw [recvOn_bind (m := m) rfl]
        exact hd
      all_goals cases hd
    | _ => cases hd

theorem udpIn_sublist (h : Run cfg tr s) (c : ClientId) :
    ((udpHistory tr).filterMap (UdpEvent.clientDataIn c)).Sublist
      ((hubHistory tr).filterMap (clientDataOut c)) := by
  rw [List.filterMap_filterMap, List.filterMap_filterMap]
  refine network_sublist h (.destinationMessage cfg.destinationName)
    (f := DestinationMessage.dataFor c) (fun e he d hd => ?_) fun e he d hd => ?_
  · obtain ⟨m, hsent, hm⟩ := Option.bind_eq_some_iff.mp hd
    cases sends_of_op (ChannelOp.sentOn_eq_some hsent)
    exact hm
  · cases e with
    | udp e =>
      cases e
      case recvMessage m =>
        rw [recvOn_bind (m := m) rfl]
        exact hd
      all_goals cases hd
    | _ => cases hd

theorem upstream_sublist (h : Run cfg tr s) (c : ClientId) :
    (datagramPayloads c tr).Sublist (tr.filterMap (sentUp c)) :=
  (((Udp.lossy_listener (udp_run h) c).sublist.trans (udpIn_sublist h c)).trans
    (Hub.lossy_client (hub_run h) c).sublist).trans (hubIn_sublist h c)

/-- Somebody who sends for a client is at home there. -/
theorem homed_of_sentUp (h : Run cfg tr s) {e : DeploymentEvent} {d : Option Bytes} (he : e ∈ tr)
    (hd : sentUp c e = some d) : ∃ name k e', e = .router name e' ∧ Homed tr c name k := by
  cases e with
  | router name e =>
    cases e
    case conn k e =>
      cases e
      case transportSend m =>
        simp only [sentUp, dataSent, ClientMessage.dataFor] at hd
        split at hd
        · next hc => exact ⟨name, k, _, rfl, homed_of_speaksFor h he (by simp [speaksFor, hc])⟩
        · cases hd
      all_goals cases hd
    all_goals cases hd
  | _ => cases hd

theorem sentUp_eq (h : Run cfg tr s) (hlt : (newIds tr).length < 2 ^ 32)
    (hk : Homed tr c name k) :
    tr.filterMap (sentUp c) = (routerHistory name tr).filterMap (dataSent c) := by
  rw [List.filterMap_filterMap]
  refine List.filterMap_congr fun e he => ?_
  cases e with
  | router name' e =>
    by_cases hname : name' = name
    · simp [sentUp, DeploymentEvent.routerPart, hname]
    · simp only [DeploymentEvent.routerPart, hname, if_false, Option.bind_none]
      cases hd : sentUp c (.router name' e) with
      | none => rfl
      | some d =>
        obtain ⟨_, k', _, ⟨⟩, hk'⟩ := homed_of_sentUp h he hd
        exact (hname (hk'.unique h hlt hk).1).elim
  | _ => rfl

/-- What a destination is sent in the name of a client comes from the client's connection. -/
theorem payloads_sublist (h : Run cfg tr s) (hlt : (newIds tr).length < 2 ^ 32)
    (hk : Homed tr c name k) : (datagramPayloads c tr).Sublist
      ((connectionTrace k (routerHistory name tr)).filterMap ConnectionEvent.sentData) := by
  rw [← Router.dataSent_eq (router_run h name) (registeredIds_nodup h hlt name) hk,
    ← sentUp_eq h hlt hk]
  exact upstream_sublist h c

/-! ## From the destination to the transport -/

/-- The payloads handed to the transport of connection `k` of router `name`. -/
def handedData (name : String) (k : Nat) (tr : List DeploymentEvent) : List (Option Bytes) :=
  (connectionTrace k (routerHistory name tr)).filterMap ConnectionEvent.emittedData

/-- The app data of the messages received in datagrams that name client `c`. -/
def receivedData (c : ClientId) (tr : List DeploymentEvent) : List (Option Bytes) :=
  (udpHistory tr).filterMap (UdpEvent.destinationDataIn c)

theorem hubDestinationIn_sublist (h : Run cfg tr s) (c : ClientId) :
    ((hubHistory tr).filterMap (destinationDataIn c)).Sublist
      ((udpHistory tr).filterMap (UdpEvent.destinationDataOut c)) := by
  rw [List.filterMap_filterMap, List.filterMap_filterMap]
  refine network_sublist h .incomingDestinationMessage (f := DestinationMessage.dataFor c)
    (fun e he d hd => ?_) fun e he d hd => ?_
  · obtain ⟨m, hsent, hm⟩ := Option.bind_eq_some_iff.mp hd
    cases sends_of_op (ChannelOp.sentOn_eq_some hsent)
    exact hm
  · cases e with
    | hub e =>
      cases e
      case recvDestinationMessage m =>
        rw [recvOn_bind (m := m) rfl]
        exact hd
      all_goals cases hd
    | _ => cases hd

theorem routerIn_sublist (h : Run cfg tr s) (name : String) (c : ClientId) :
    ((routerHistory name tr).filterMap (dataReceived c)).Sublist
      ((hubHistory tr).filterMap (destinationDataOut c)) := by
  rw [List.filterMap_filterMap, List.filterMap_filterMap]
  refine network_sublist h (.clientMessage name) (f := ClientMessage.dataFor c)
    (fun e he d hd => ?_) fun e he d hd => ?_
  · obtain ⟨m, hsent, hm⟩ := Option.bind_eq_some_iff.mp hd
    cases sends_of_op (ChannelOp.sentOn_eq_some hsent)
    exact hm
  · cases e with
    | router name' e =>
      obtain ⟨e', hp, he'⟩ := Option.bind_eq_some_iff.mp hd
      obtain ⟨rfl, rfl⟩ := DeploymentEvent.routerPart_router.mp hp
      cases e
      case recvMessage m =>
        rw [recvOn_bind (m := m) rfl]
        exact he'
      all_goals cases he'
    | _ => cases hd

theorem downstream_sublist (h : Run cfg tr s) (name : String) (c : ClientId) :
    ((routerHistory name tr).filterMap (dataPushed c)).Sublist (receivedData c tr) :=
  ((((Router.lossy_dispatch (router_run h name) c).sublist.trans
    (routerIn_sublist h name c)).trans (Hub.lossy_destination (hub_run h) c).sublist).trans
    (hubDestinationIn_sublist h c)).trans (Udp.exact_datagrams (udp_run h) c).lossy.sublist

/-- What a client is handed comes from the datagrams that name it. -/
theorem handed_sublist (h : Run cfg tr s) (hlt : (newIds tr).length < 2 ^ 32)
    (hk : Homed tr c name k) : (handedData name k tr).Sublist (receivedData c tr) := by
  obtain ⟨conn, -, hrun⟩ := conn_of_homed h hk
  have hproxy := Connection.exact_proxyListener hrun
  rw [← Router.dataPushed_eq (router_run h name) (registeredIds_nodup h hlt name) hk] at hproxy
  exact hproxy.lossy.sublist.trans (downstream_sublist h name c)

/-! ## Clients are kept apart -/

/-- In every history with fewer than `2 ^ 32` allocations, a client `c` has at most one home: a
connection `k` of the router of one client handler `name`. Whatever the hub sends about `c` to a
client handler, it sends to `name`. The payloads of the client message datagrams enqueued for `c`
are, in order, a subsequence of what `c`'s own transport has put after its first packet, and the
payloads that transport is handed are, in order, a subsequence of those received in datagrams that
name `c`. A client without a home sends nothing. -/
theorem no_crosstalk (h : Run cfg tr s) (hlt : (newIds tr).length < 2 ^ 32) (c : ClientId) :
    (∀ name k, Homed tr c name k →
      (∀ name' k', Homed tr c name' k' → name' = name ∧ k' = k) ∧
      (∀ e name', .hub e ∈ tr → e.toClient = some (name', c) → name' = name) ∧
      (datagramPayloads c tr).Sublist
        ((transportPackets name k tr).tail.map payload) ∧
      (handedData name k tr).Sublist (receivedData c tr)) ∧
    ((∀ name k, ¬Homed tr c name k) → datagramPayloads c tr = []) := by
  refine ⟨fun name k hk => ⟨?_, ?_, ?_, ?_⟩, fun hno => ?_⟩
  · exact fun name' k' hk' => hk'.unique h hlt hk
  · intro e name' he hto
    obtain ⟨t, ht⟩ := Hub.madeFor_of_toClient (hub_run h) (mem_hubHistory he) hto
    obtain ⟨t', ht'⟩ := created_of_homed h hk
    have hsame := eq_of_nodup_filterMap (createdIds_nodup h hlt) ht (mem_hubHistory ht')
      (a := c) rfl rfl
    cases hsame
    rfl
  · obtain ⟨conn, -, hrun⟩ := conn_of_homed h hk
    exact (payloads_sublist h hlt hk).trans (Connection.sublist_puts hrun)
  · exact handed_sublist h hlt hk
  · have hnone : tr.filterMap (sentUp c) = [] := by
      rw [List.filterMap_eq_nil_iff]
      intro e he
      cases hd : sentUp c e with
      | none => rfl
      | some d =>
        obtain ⟨name, k, -, -, hk⟩ := homed_of_sentUp h he hd
        exact (hno name k hk).elim
    exact List.sublist_nil.mp (hnone ▸ upstream_sublist h c)

/-! ## Two transports -/

/-- An event of a system with a single router, where that router is one of several. -/
def embed (name : String) : SystemEvent → DeploymentEvent
  | .cancel => .cancel
  | .router e => .router name e
  | .hub e => .hub e
  | .udp e => .udp e

/-- A router for WebSocket and one for WebTransport. -/
def bothTransports : DeploymentConfig :=
  { narrow with clientHandlers := ["WebSocket", "WebTransport"] }

def forwarded : DestinationMessage := ⟨1, 0, 0, some [0x07]⟩

/-- Client 1 is accepted over WebSocket and sends a message, client 2 opens a connection over
WebTransport. -/
def twoClients : List DeploymentEvent :=
  (Sample.opened ++ Sample.asked ++ Sample.answered ++ Sample.accepted ++ Sample.sentUp).map
    (embed "WebSocket") ++ [
  .hub (.fwdClientName Sample.clientMessage 0 "UdpDestination"),
  .hub (.fwdClientLookup Sample.clientMessage 0 "UdpDestination"),
  .hub (.fwdClientSend forwarded "UdpDestination"), .udp (.recvMessage forwarded),
  .udp (.messageLookup forwarded Sample.addr), .udp (.messageSend forwarded Sample.addr),
  .hub (.getNewClientId "WebTransport" 2), .hub (.callbackNow "WebTransport" 2),
  .hub (.createClient "WebTransport" 2 0), .router "WebTransport" (.nextClientId 2),
  .router "WebTransport" (.register 2)]

set_option maxRecDepth 100000 in
theorem no_crosstalk_twoClients :
    datagramPayloads 1 twoClients = [some [0x07]] ∧
    (datagramPayloads 1 twoClients).Sublist
      ((transportPackets "WebSocket" 0 twoClients).tail.map payload) ∧
    datagramPayloads 2 twoClients = [] := by
  have hrun : (automaton bothTransports).Admits (start bothTransports) twoClients := by
    decide +kernel
  have hlt : (newIds twoClients).length < 2 ^ 32 := by decide +kernel
  have hfirst := ((no_crosstalk (Automaton.Admits.run hrun) hlt 1).1 "WebSocket" 0
    (by decide +kernel)).2.2.1
  have hsecond := ((no_crosstalk (Automaton.Admits.run hrun) hlt 2).1 "WebTransport" 0
    (by decide +kernel)).2.2.1
  refine ⟨by decide +kernel, hfirst, List.sublist_nil.mp ?_⟩
  rwa [show (transportPackets "WebTransport" 0 twoClients).tail.map payload = [] by
    decide +kernel] at hsecond

end Deployment
end Spanreed
