import Spanreed.Crosstalk
import Spanreed.WireProtocol

/-! # The way of an open command

From the connection that makes it, through the hub, to the connection request of the UDP handler.
On its way an open command may be dropped, but it is never made twice, nothing is attached,
registered or asked for without it, and what it carries stays the same: a client's destination is
asked at most once, with the app data of the client's first packet (`opened_once`). -/

namespace Spanreed
open Flatbuffers Automata

/-- The app data of an open command, if it is one of client `c`. -/
def OpenClientConnectionCommand.appDataFor (c : ClientId) (m : OpenClientConnectionCommand) :
    Option (Option Bytes) :=
  if m.clientId = c then some m.appData else none

/-! ## In the connection -/

/-- The app data of the open command an event sends to the hub. -/
def ConnectionEvent.requested : ConnectionEvent → Option (Option Bytes)
  | .openSend cmd => some cmd.appData
  | _ => none

namespace Connection
open ConnectionEvent
variable {params : ClientConnectionRouterParams} {id : ClientId} {done : Bool}
  {tr : List ConnectionEvent} {c : Connection}

/-- What a routing goroutine has asked the hub for, by where it is. -/
def RequestedSoFar : RoutingPc → List (Option Bytes) → Prop
  | .awaitVerdict, l | .emitVerdict .., l | .markConnected, l | .forked, l => ∃ a, l = [a]
  | .closeTransport, l | .returned, l => l = [] ∨ ∃ a, l = [a]
  | _, l => l = []

theorem requested_so_far (h : (automaton params).Run (opened id done) tr c) :
    RequestedSoFar c.routing (tr.filterMap requested) := by
  induction h with
  | nil => rfl
  | @snoc tr c e hr he ih =>
    rw [List.filterMap_append]
    cases e
    case openSend cmd =>
      rw [show c.routing = .openSend cmd from he] at ih
      exact ⟨cmd.appData, by rw [ih]; rfl⟩
    case authPacket packet =>
      rw [he.1] at ih
      simp only [automaton, next, requested, List.filterMap_cons, List.filterMap_nil,
        List.append_nil]
      split
      · exact ih
      · exact .inl ih
    case emitVerdict accepted reason appData =>
      rw [he.1] at ih
      simp only [automaton, next, requested, List.filterMap_cons, List.filterMap_nil,
        List.append_nil]
      split
      · exact ih
      · exact .inr ih
    all_goals
      simp only [automaton, enabled, next, requested, List.filterMap_cons, List.filterMap_nil,
        List.append_nil] at he ⊢
      first | exact ih | grind [RequestedSoFar]

theorem requested_le_one (h : (automaton params).Run (opened id done) tr c) :
    (tr.filterMap requested).length ≤ 1 := by
  have h := requested_so_far h
  cases hc : c.routing <;> rw [hc] at h
  case awaitVerdict | emitVerdict | markConnected | forked =>
    obtain ⟨a, h⟩ := h
    simp [h]
  case closeTransport | returned =>
    rcases h with h | ⟨a, h⟩ <;> simp [h]
  all_goals simp [show _ = [] from h]

end Connection

/-! ## In the hub -/

namespace HubEvent

/-- An open command of client `c` comes in. -/
def openIn (c : ClientId) : HubEvent → Option (Option Bytes)
  | .recvOpenClient m => m.appDataFor c
  | _ => none

/-- Client `c` is attached for an open command. -/
def openAttached (c : ClientId) : HubEvent → Option (Option Bytes)
  | .reqAttach m _ _ => m.appDataFor c
  | _ => none

/-- An open command of client `c` goes to a destination handler. -/
def openOut (c : ClientId) : HubEvent → Option (Option Bytes)
  | .reqSend m _ => m.appDataFor c
  | _ => none

end HubEvent

namespace HubPc

/-- The open command of client `c` a goroutine at this point has in its hands. -/
def openHolds (c : ClientId) : HubPc → List (Option Bytes)
  | .reqNow m | .reqName m _ | .reqMatch m _ | .reqLookup m _ _ | .reqAttach m _ _ =>
    (m.appDataFor c).toList
  | _ => []

/-- ... and the one for which it has attached the client. -/
def attachedHolds (c : ClientId) : HubPc → List (Option Bytes)
  | .reqSend m _ => (m.appDataFor c).toList
  | _ => []

@[simp] theorem openHolds_resume (c : ClientId) (k : KickReturn) : k.resume.openHolds c = [] := by
  cases k <;> rfl
@[simp] theorem attachedHolds_resume (c : ClientId) (k : KickReturn) :
    k.resume.attachedHolds c = [] := by cases k <;> rfl

end HubPc

namespace Hub
open HubEvent HubPc
variable {config : HubConfig} {maxConnections : Nat} {clientHandlers : List String}
  {handlers : List DestinationHandler} {tr : List HubEvent} {h : Hub} {c : ClientId}

/-- A stage of one goroutine: only its own operations take anything in or hand anything on. -/
theorem lossy_stage {α : Type} {g : Goroutine} {i o : HubEvent → Option α} {f : HubPc → List α}
    (hr : automaton.Run (start config maxConnections clientHandlers handlers) tr h)
    (h₀ : f .waitGroup = [] ∧ f .select = [])
    (hother : ∀ e, e.mover ≠ some g → i e = none ∧ o e = none)
    (hstep : ∀ (h : Hub) e, h.enabled e → e.mover = some g →
      ((o e).toList ++ f ((h.next e).pc g)).Sublist (f (h.pc g) ++ (i e).toList)) :
    Lossy (tr.filterMap i) (tr.filterMap o) (f (h.pc g)) := by
  refine hr.lossy (k := fun h => f (h.pc g)) ?_ ?_
  · simp only [start]
    split
    · exact h₀.1
    · exact h₀.2
  · intro _ h e _ he
    by_cases hm : e.mover = some g
    · exact hstep h e he hm
    · rw [(hother e hm).1, (hother e hm).2, show (automaton.next h e).pc g = h.pc g from
        pc_next_of_ne hm]
      simp

theorem lossy_attached
    (hr : automaton.Run (start config maxConnections clientHandlers handlers) tr h)
    (c : ClientId) : Lossy (tr.filterMap (openIn c)) (tr.filterMap (openAttached c))
      ((h.pc .client).openHolds c) := by
  refine lossy_stage hr ⟨rfl, rfl⟩ (fun e hm => ?_) fun h e he hm => ?_
  · cases e <;> first | exact ⟨rfl, rfl⟩ | exact (hm rfl).elim
  · cases e <;> simp only [mover, Option.some.injEq, reduceCtorEq] at hm
    all_goals
      first | subst hm | skip
      simp only [enabled] at he
    case kickRemove client r k => simp [next, openIn, openAttached]
    all_goals simp [next, openHolds, openIn, openAttached, he]

theorem lossy_openOut
    (hr : automaton.Run (start config maxConnections clientHandlers handlers) tr h)
    (c : ClientId) : Lossy (tr.filterMap (openAttached c)) (tr.filterMap (openOut c))
      ((h.pc .client).attachedHolds c) := by
  refine lossy_stage hr ⟨rfl, rfl⟩ (fun e hm => ?_) fun h e he hm => ?_
  · cases e <;> first | exact ⟨rfl, rfl⟩ | exact (hm rfl).elim
  · cases e <;> simp only [mover, Option.some.injEq, reduceCtorEq] at hm
    all_goals
      first | subst hm | skip
      simp only [enabled] at he
    case kickRemove client r k => simp [next, openAttached, openOut]
    all_goals
      simp [next, attachedHolds, openAttached, openOut, he, OpenClientConnectionCommand.appDataFor]

end Hub

/-! ## In the UDP handler -/

namespace UdpEvent

/-- An open command of client `c` comes in. -/
def openIn (c : ClientId) : UdpEvent → Option (Option Bytes)
  | .recvOpen m => m.appDataFor c
  | _ => none

/-- The address for an open command of client `c` is found, or is not. -/
def openResolved (c : ClientId) : UdpEvent → Option (Option Bytes)
  | .connect m _ | .connectFails m _ => m.appDataFor c
  | _ => none

/-- Client `c` is registered for an open command. -/
def openRegistered (c : ClientId) : UdpEvent → Option (Option Bytes)
  | .register m _ => m.appDataFor c
  | _ => none

/-- A connection request for client `c` is enqueued. -/
def openOut (c : ClientId) : UdpEvent → Option (Option Bytes)
  | .connectSend m _ => m.appDataFor c
  | _ => none

end UdpEvent

namespace Udp
open UdpEvent
variable {params : UdpSpanreedDestinationParams} {tr : List UdpEvent} {u : Udp} {c : ClientId}

/-- The open command of client `c` the listener has not resolved yet. -/
def unresolved (c : ClientId) : ListenerPc → List (Option Bytes)
  | .connect m => (m.appDataFor c).toList
  | _ => []

/-- ... that it has not registered yet ... -/
def unregistered (c : ClientId) : ListenerPc → List (Option Bytes)
  | .connect m | .register m _ => (m.appDataFor c).toList
  | _ => []

/-- ... and for which it has not enqueued the connection request yet. -/
def unasked (c : ClientId) : ListenerPc → List (Option Bytes)
  | .connectSend m _ => (m.appDataFor c).toList
  | _ => []

theorem lossy_resolved (h : automaton.Run (start params) tr u) (c : ClientId) :
    Lossy (tr.filterMap (openIn c)) (tr.filterMap (openResolved c)) (unresolved c u.listener) := by
  refine h.lossy (k := fun u => unresolved c u.listener) rfl ?_
  intro _ u e _ he
  cases e
  all_goals
    simp only [automaton, enabled] at he
    simp [automaton, next, unresolved, openIn, openResolved, he]

theorem lossy_registered (h : automaton.Run (start params) tr u) (c : ClientId) :
    Lossy (tr.filterMap (openIn c)) (tr.filterMap (openRegistered c))
      (unregistered c u.listener) := by
  refine h.lossy (k := fun u => unregistered c u.listener) rfl ?_
  intro _ u e _ he
  cases e
  all_goals
    simp only [automaton, enabled] at he
    simp [automaton, next, unregistered, openIn, openRegistered, he]

theorem lossy_asked (h : automaton.Run (start params) tr u) (c : ClientId) :
    Lossy (tr.filterMap (openRegistered c)) (tr.filterMap (openOut c)) (unasked c u.listener) := by
  refine h.lossy (k := fun u => unasked c u.listener) rfl ?_
  intro _ u e _ he
  cases e
  all_goals
    simp only [automaton, enabled] at he
    simp [automaton, next, unasked, openRegistered, openOut, he]

end Udp

namespace Deployment
open HubEvent RouterEvent
variable {cfg : DeploymentConfig} {s : Deployment} {tr : List DeploymentEvent} {name : String}
  {c : ClientId} {k : Nat}

/-! ## In the deployment -/

/-- Some connection makes an open command of client `c`. -/
def requestedBy (c : ClientId) : DeploymentEvent → Option (Option Bytes)
  | .router _ (.conn _ (.openSend m)) => m.appDataFor c
  | _ => none

/-- The app data of the open commands made for client `c`. -/
def requests (c : ClientId) (tr : List DeploymentEvent) : List (Option Bytes) :=
  tr.filterMap (requestedBy c)

/-- The app data of the connection requests enqueued for client `c`. -/
def asked (c : ClientId) (tr : List DeploymentEvent) : List (Option Bytes) :=
  (udpHistory tr).filterMap (UdpEvent.openOut c)

/-- Only the connection of a client makes an open command of it. -/
theorem homed_of_requestedBy (h : Run cfg tr s) {e : DeploymentEvent} {a : Option Bytes}
    (he : e ∈ tr) (ha : requestedBy c e = some a) : ∃ name k m,
      e = .router name (.conn k (.openSend m)) ∧ m.clientId = c ∧ m.appData = a ∧
        Homed tr c name k := by
  cases e with
  | router name e =>
    cases e
    case conn k e =>
      cases e
      case openSend m =>
        simp only [requestedBy, OpenClientConnectionCommand.appDataFor] at ha
        split at ha
        · next hc =>
          exact ⟨name, k, m, rfl, hc, Option.some.inj ha,
            homed_of_speaksFor h he (by simp [speaksFor, hc])⟩
        · cases ha
      all_goals cases ha
    all_goals cases ha
  | _ => cases ha

theorem requests_eq (h : Run cfg tr s) (hlt : (newIds tr).length < 2 ^ 32)
    (hk : Homed tr c name k) : requests c tr =
      (connectionTrace k (routerHistory name tr)).filterMap ConnectionEvent.requested := by
  rw [requests, List.filterMap_filterMap, List.filterMap_filterMap]
  refine List.filterMap_congr fun e he => ?_
  cases ha : requestedBy c e with
  | some a =>
    obtain ⟨name', k', m, rfl, -, rfl, hk'⟩ := homed_of_requestedBy h he ha
    obtain ⟨rfl, rfl⟩ := hk'.unique h hlt hk
    simp [DeploymentEvent.routerPart, connPart, ConnectionEvent.requested]
  | none =>
    symm
    rw [← Option.bind_assoc, Option.bind_eq_none_iff]
    intro e' hp
    cases e' <;> try rfl
    case openSend m =>
      -- then `m` would be an open command of `c`
      obtain rfl := (connPart_eq_some rfl).mp hp
      have hm : Homed tr m.clientId name k := homed_of_speaksFor h he rfl
      obtain rfl : m.clientId = c := Option.some.inj (hm.symm.trans hk)
      simp [requestedBy, OpenClientConnectionCommand.appDataFor] at ha

theorem requests_le_one (h : Run cfg tr s) (hlt : (newIds tr).length < 2 ^ 32) (c : ClientId) :
    (requests c tr).length ≤ 1 := by
  cases hreq : requests c tr with
  | nil => simp
  | cons a l =>
    have hmem : a ∈ requests c tr := by simp [hreq]
    obtain ⟨e, he, ha⟩ := List.mem_filterMap.mp hmem
    obtain ⟨name, k, m, -, -, -, hk⟩ := homed_of_requestedBy h he ha
    obtain ⟨conn, -, hrun⟩ := conn_of_homed h hk
    rw [← hreq, requests_eq h hlt hk]
    exact Connection.requested_le_one hrun

theorem hubOpenIn_sublist (h : Run cfg tr s) (c : ClientId) :
    ((hubHistory tr).filterMap (HubEvent.openIn c)).Sublist (requests c tr) := by
  rw [requests, List.filterMap_filterMap]
  refine network_sublist h .incomingClientOpen (f := OpenClientConnectionCommand.appDataFor c)
    (fun e he d hd => ?_) fun e he d hd => ?_
  · obtain ⟨m, hsent, hm⟩ := Option.bind_eq_some_iff.mp hd
    cases sends_of_op (ChannelOp.sentOn_eq_some hsent)
    exact hm
  · cases e with
    | hub e =>
      cases e
      case recvOpenClient m =>
        rw [recvOn_bind (m := m) rfl]
        exact hd
      all_goals cases hd
    | _ => cases hd

theorem udpOpenIn_sublist (h : Run cfg tr s) (c : ClientId) :
    ((udpHistory tr).filterMap (UdpEvent.openIn c)).Sublist
      ((hubHistory tr).filterMap (HubEvent.openOut c)) := by
  rw [List.filterMap_filterMap, List.filterMap_filterMap]
  refine network_sublist h (.destinationOpen cfg.destinationName)
    (f := OpenClientConnectionCommand.appDataFor c) (fun e he d hd => ?_) fun e he d hd => ?_
  · obtain ⟨m, hsent, hm⟩ := Option.bind_eq_some_iff.mp hd
    cases sends_of_op (ChannelOp.sentOn_eq_some hsent)
    exact hm
  · cases e with
    | udp e =>
      cases e
      case recvOpen m =>
        rw [recvOn_bind (m := m) rfl]
        exact hd
      all_goals cases hd
    | _ => cases hd

theorem attached_sublist (h : Run cfg tr s) (c : ClientId) :
    ((hubHistory tr).filterMap (openAttached c)).Sublist (requests c tr) :=
  (Hub.lossy_attached (hub_run h) c).sublist.trans (hubOpenIn_sublist h c)

theorem udpOpenIn_attached (h : Run cfg tr s) (c : ClientId) :
    ((udpHistory tr).filterMap (UdpEvent.openIn c)).Sublist
      ((hubHistory tr).filterMap (openAttached c)) :=
  (udpOpenIn_sublist h c).trans (Hub.lossy_openOut (hub_run h) c).sublist

theorem registered_sublist (h : Run cfg tr s) (c : ClientId) :
    ((udpHistory tr).filterMap (UdpEvent.openRegistered c)).Sublist
      ((hubHistory tr).filterMap (openAttached c)) :=
  (Udp.lossy_registered (udp_run h) c).sublist.trans (udpOpenIn_attached h c)

theorem asked_sublist (h : Run cfg tr s) (c : ClientId) :
    (asked c tr).Sublist ((udpHistory tr).filterMap (UdpEvent.openRegistered c)) :=
  (Udp.lossy_asked (udp_run h) c).sublist

theorem openedFor_length (c : ClientId) (tr : List UdpEvent) :
    (tr.filterMap (UdpEvent.openedFor c)).length = (tr.filterMap (UdpEvent.openIn c)).length := by
  have hmap : tr.filterMap (UdpEvent.openIn c) =
      (tr.filterMap (UdpEvent.openedFor c)).map OpenClientConnectionCommand.appData := by
    rw [List.map_filterMap]
    congr 1
    funext e
    cases e <;> simp [UdpEvent.openIn, UdpEvent.openedFor, OpenClientConnectionCommand.appDataFor,
      apply_ite]
  rw [hmap, List.length_map]

theorem oneOpen (h : Run cfg tr s) (hlt : (newIds tr).length < 2 ^ 32) (c : ClientId) :
    Udp.OneOpen c (udpHistory tr) := by
  unfold Udp.OneOpen
  rw [openedFor_length]
  exact ((udpOpenIn_attached h c).trans (attached_sublist h c)).length_le.trans
    (requests_le_one h hlt c)

/-- A connection makes its open command of its first packet. -/
theorem packet_of_openSend (h : Run cfg tr s) {cmd : OpenClientConnectionCommand}
    (he : .router name (.conn k (.openSend cmd)) ∈ tr) :
    ∃ packet authMsg, Homed tr cmd.clientId name k ∧
      (transportPackets name k tr).head? = some packet ∧
      safeParseConnectClientMessage packet = .ok authMsg ∧
      Connection.openCommand cmd.clientId authMsg cmd.recvTimestamp = some cmd := by
  have hk : Homed tr cmd.clientId name k := homed_of_speaksFor h he rfl
  obtain ⟨conn, -, hrun⟩ := conn_of_homed h hk
  obtain ⟨tr₁, conn₁, hrun₁, hen, hp⟩ := hrun.of_mem (mem_connection he)
  obtain ⟨packet, authMsg, hauth, hparse, hcmd⟩ := (Connection.opens_with hrun₁).2 cmd hen
  exact ⟨packet, authMsg, hk, Connection.first_packet hrun
    (hp.subset (List.mem_append_left _ hauth)), hparse, hcmd⟩

/-- An open command carries what the client's first packet says. -/
theorem requests_from (h : Run cfg tr s) {a : Option Bytes} (ha : a ∈ requests c tr) :
    ∃ name k packet authMsg cmd, Homed tr c name k ∧
      (transportPackets name k tr).head? = some packet ∧
      safeParseConnectClientMessage packet = .ok authMsg ∧
      Connection.openCommand c authMsg cmd.recvTimestamp = some cmd ∧ cmd.appData = a := by
  obtain ⟨e, he, hreq⟩ := List.mem_filterMap.mp ha
  obtain ⟨name, k, cmd, rfl, rfl, rfl, -⟩ := homed_of_requestedBy h he hreq
  obtain ⟨packet, authMsg, hk, hpacket, hparse, hcmd⟩ := packet_of_openSend h he
  exact ⟨name, k, packet, authMsg, cmd, hk, hpacket, hparse, hcmd, rfl⟩

/-- A connection request among the datagrams for a client is one that was asked for. -/
theorem asked_of_enqueued {m : OutgoingMessage}
    (hm : m ∈ (udpHistory tr).filterMap (UdpEvent.enqueuedFor c))
    (hreq : m.payload.innerMessage = .proxyDestConnectionRequest) :
    m.payload.appData ∈ asked c tr := by
  obtain ⟨e, he, hq⟩ := List.mem_filterMap.mp hm
  refine List.mem_filterMap.mpr ⟨e, he, ?_⟩
  cases e
  case connectSend cmd addr =>
    simp only [UdpEvent.enqueuedFor] at hq
    split at hq
    · next hc =>
      cases hq
      simp [UdpEvent.openOut, OpenClientConnectionCommand.appDataFor, hc, Udp.connectionRequest]
    · cases hq
  case messageSend cmd addr =>
    simp only [UdpEvent.enqueuedFor] at hq
    split at hq <;> cases hq
    cases hreq
  case closeSend cmd addr =>
    simp only [UdpEvent.enqueuedFor] at hq
    split at hq <;> cases hq
    cases hreq
  all_goals cases hq

/-- In every history with fewer than `2 ^ 32` allocations, a client makes at most one open command,
with the app data of its first packet. The hub attaches the client, and the UDP handler registers it
and asks its destination, each at most once and only for that command. So the datagrams enqueued for
a client are none, or a connection request, messages and at most one close, all to one address, and
the request carries the app data of the client's first packet. -/
theorem opened_once (h : Run cfg tr s) (hlt : (newIds tr).length < 2 ^ 32) (c : ClientId) :
    (requests c tr).length ≤ 1 ∧
    (∀ a ∈ requests c tr, ∃ name k packet authMsg cmd, Homed tr c name k ∧
      (transportPackets name k tr).head? = some packet ∧
      safeParseConnectClientMessage packet = .ok authMsg ∧
      Connection.openCommand c authMsg cmd.recvTimestamp = some cmd ∧ cmd.appData = a) ∧
    ((hubHistory tr).filterMap (openAttached c)).Sublist (requests c tr) ∧
    ((udpHistory tr).filterMap (UdpEvent.openRegistered c)).Sublist
      ((hubHistory tr).filterMap (openAttached c)) ∧
    (asked c tr).Sublist ((udpHistory tr).filterMap (UdpEvent.openRegistered c)) ∧
    ((udpHistory tr).filterMap (UdpEvent.enqueuedFor c) = [] ∨
      ∃ addr, Opened c addr ((udpHistory tr).filterMap (UdpEvent.enqueuedFor c)) ∨
        Closed c addr ((udpHistory tr).filterMap (UdpEvent.enqueuedFor c))) ∧
    ∀ m ∈ (udpHistory tr).filterMap (UdpEvent.enqueuedFor c),
      m.payload.innerMessage = .proxyDestConnectionRequest →
        m.payload.appData ∈ requests c tr := by
  refine ⟨requests_le_one h hlt c, fun a ha => requests_from h ha, attached_sublist h c,
    registered_sublist h c, asked_sublist h c, (Udp.keeps (udp_run h) (oneOpen h hlt c)).any,
    fun m hm hreq => ?_⟩
  exact (((asked_sublist h c).trans (registered_sublist h c)).trans (attached_sublist h c)).subset
    (asked_of_enqueued hm hreq)

set_option maxRecDepth 100000 in
theorem opened_once_twoClients :
    requests 1 twoClients = [Sample.openCommand.appData] ∧
    (asked 1 twoClients).length = 1 ∧
    ∀ m ∈ (udpHistory twoClients).filterMap (UdpEvent.enqueuedFor 1),
      m.payload.innerMessage = .proxyDestConnectionRequest →
        m.payload.appData ∈ requests 1 twoClients := by
  have hrun : (automaton bothTransports).Admits (start bothTransports) twoClients := by
    decide +kernel
  have hlt : (newIds twoClients).length < 2 ^ 32 := by decide +kernel
  have honce := opened_once (Automaton.Admits.run hrun) hlt 1
  exact ⟨by decide +kernel, by decide +kernel, honce.2.2.2.2.2.2⟩

end Deployment
end Spanreed
