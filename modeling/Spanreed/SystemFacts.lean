import Spanreed.System
import Spanreed.RouterFacts
import Spanreed.HubFacts
import Spanreed.UdpFacts

/-! # Causes across components

What must have happened in a history of the composed system before an event of one of its
components, where the cause is an event of another component: a receive is preceded by the send of
its message, whoever makes it (`hubOpen_from` and the like). With the facts about single
components these are the links of every end-to-end argument. -/

namespace Spanreed
open Flatbuffers Automata

/-- The number of client ids allocated in a history. -/
def allocations (tr : List SystemEvent) : Nat := ((hubTrace tr).filterMap HubEvent.newId).length

section
variable {tr : List SystemEvent}

theorem router_of_mem {e : RouterEvent} (he : e ∈ routerTrace tr) (hne : e ≠ .cancel) :
    .router e ∈ tr := by
  obtain ⟨e', he', hp⟩ := List.mem_filterMap.mp he
  cases e' <;> cases hp
  · exact (hne rfl).elim
  · exact he'

theorem hub_of_mem {e : HubEvent} (he : e ∈ hubTrace tr) (hne : e ≠ .cancel) : .hub e ∈ tr := by
  obtain ⟨e', he', hp⟩ := List.mem_filterMap.mp he
  cases e' <;> cases hp
  · exact (hne rfl).elim
  · exact he'

theorem udp_of_mem {e : UdpEvent} (he : e ∈ udpTrace tr) (hne : e ≠ .cancel) : .udp e ∈ tr := by
  obtain ⟨e', he', hp⟩ := List.mem_filterMap.mp he
  cases e' <;> cases hp
  · exact (hne rfl).elim
  · exact he'

theorem mem_router {e : RouterEvent} (he : .router e ∈ tr) : e ∈ routerTrace tr :=
  List.mem_filterMap.mpr ⟨_, he, rfl⟩

theorem mem_hub {e : HubEvent} (he : .hub e ∈ tr) : e ∈ hubTrace tr :=
  List.mem_filterMap.mpr ⟨_, he, rfl⟩

theorem mem_connection {k : Nat} {e : ConnectionEvent} (he : .router (.conn k e) ∈ tr) :
    e ∈ connectionTrace k (routerTrace tr) :=
  List.mem_filterMap.mpr ⟨_, mem_router he, by simp [RouterEvent.connPart]⟩

end

namespace System
variable {cfg : SystemConfig} {tr : List SystemEvent} {s : System} {c : ClientId}

/-! ## The handlers and the client ids -/

/-- The only handlers are the router and the UDP handler. -/
theorem handlers_eq (h : Run cfg tr s) : s.1.hub.clientHandlers = [cfg.clientName] ∧
    s.1.hub.destinationHandlers = [cfg.destinationName] := by
  refine h.invariant (I := fun s => s.1.hub.clientHandlers = [cfg.clientName] ∧
    s.1.hub.destinationHandlers = [cfg.destinationName]) ⟨rfl, rfl⟩ ?_
  intro s e ih he
  cases e with
  | hub e =>
    cases e
    case createClientMessageHandler | createDestinationMessageHandler => cases he.1.1
    all_goals exact ih
  | _ => exact ih

/-- Every record was made for the router. -/
theorem clientName_eq (h : Run cfg tr s) :
    (∀ cb ∈ s.1.hub.callbacks, cb.name = cfg.clientName) ∧
      ∀ c cn dn, s.1.hub.clientStore.names c = some (cn, dn) → cn = cfg.clientName := by
  induction h with
  | nil => exact ⟨by simp [start, Components.start, Hub.start], by
      simp [start, Components.start, Hub.start, ClientStore.names]⟩
  | @snoc tr s e hr he ih =>
    obtain ⟨ih₁, ih₂⟩ := ih
    cases e with
    | hub e =>
      refine ⟨?_, fun c cn dn hn => ?_⟩
      · cases e
        case getNewClientId name id =>
          intro cb hcb
          rcases List.mem_append.mp hcb with hcb | hcb
          · exact ih₁ cb hcb
          · rw [List.mem_singleton.mp hcb]
            exact he.1.2.1 name rfl
        case callbackNow name id =>
          intro cb hcb
          rcases List.mem_append.mp hcb with hcb | hcb
          · exact ih₁ cb (List.mem_of_mem_erase hcb)
          · rw [List.mem_singleton.mp hcb]
            exact ih₁ (.now name id) (enabled_hub he)
        case createClient | createClientFails =>
          exact fun cb hcb => ih₁ cb (List.mem_of_mem_erase hcb)
        all_goals exact ih₁
      · rcases Hub.names_next (enabled_hub he) c with ⟨name, t, rfl, -, hnew⟩ |
          ⟨g, r, k, rfl, hnew⟩ | ⟨m, t, name, cn', dn', rfl, -, hold, hnew⟩ | hsame
        · cases Option.some.inj (hnew.symm.trans hn)
          exact ih₁ _ (enabled_hub he).1
        · cases hnew.symm.trans hn
        · cases Option.some.inj (hnew.symm.trans hn)
          exact ih₂ c cn dn' hold
        · exact ih₂ c cn dn (hsame.symm.trans hn)
    | _ => exact ⟨ih₁, ih₂⟩

/-! ## Channels -/

/-- Who sends what on which channel. -/
inductive Sends : SystemEvent → (ch : Chan) → ch.Msg → Prop
  | created {name id t} : Sends (.hub (.createClient name id t)) (.nextClientId name) id
  | authClose {k m} : Sends (.router (.conn k (.authClose m))) .incomingClientClose m
  | openSend {k m} : Sends (.router (.conn k (.openSend m))) .incomingClientOpen m
  | transportSend {k m} : Sends (.router (.conn k (.transportSend m))) .incomingClientMessage m
  | transportClose {k m} : Sends (.router (.conn k (.transportClose m))) .incomingClientClose m
  | fwdClient {m name} : Sends (.hub (.fwdClientSend m name)) (.destinationMessage name) m
  | fwdDest {m name} : Sends (.hub (.fwdDestSend m name)) (.clientMessage name) m
  | verdict {v name} : Sends (.hub (.verdictSend v name)) (.clientVerdict name) v
  | req {m name} : Sends (.hub (.reqSend m name)) (.destinationOpen name) m
  | kickClient {g c r cn dn k} : Sends (.hub (.kickClientSend g c r cn dn k)) (.clientClose cn)
      (Hub.closeCommand c r)
  | kickDest {g c r dn k} : Sends (.hub (.kickDestSend g c r dn k)) (.destinationClose dn)
      (Hub.closeCommand c r)
  | reject {v} : Sends (.udp (.reject v)) .incomingDestinationVerdict v
  | udpVerdict {src v} : Sends (.udp (.sendVerdict src v)) .incomingDestinationVerdict v
  | udpMessage {src m} : Sends (.udp (.sendMessage src m)) .incomingDestinationMessage m
  | udpClose {src m} : Sends (.udp (.sendClose src m)) .incomingDestinationClose m

theorem sends_of_op {e : SystemEvent} {ch : Chan} {m : ch.Msg} (hop : e.op cfg = .send ch m) :
    Sends e ch m := by
  cases e with
  | cancel => cases hop
  | hub e => cases e <;> cases hop <;> constructor
  | udp e => cases e <;> cases hop <;> constructor
  | router e =>
    cases e
    case conn k e => cases e <;> cases hop <;> constructor
    all_goals cases hop

/-- The three components. -/
inductive Party
  | router
  | hub
  | udp

/-- Whose event it is. -/
def Party.of : SystemEvent → Option Party
  | .cancel => none
  | .router _ => some .router
  | .hub _ => some .hub
  | .udp _ => some .udp

/-- Who sends on a channel. -/
def Party.sender : Chan → Party
  | .incomingClientMessage | .incomingClientClose | .incomingClientOpen => .router
  | .incomingDestinationVerdict | .incomingDestinationMessage | .incomingDestinationClose => .udp
  | .clientVerdict _ | .clientMessage _ | .clientClose _ | .nextClientId _ => .hub
  | .destinationOpen _ | .destinationMessage _ | .destinationClose _ => .hub

/-- Who receives from a channel. -/
def Party.receiver : Chan → Party
  | .incomingClientMessage | .incomingClientClose | .incomingClientOpen => .hub
  | .incomingDestinationVerdict | .incomingDestinationMessage | .incomingDestinationClose => .hub
  | .clientVerdict _ | .clientMessage _ | .clientClose _ | .nextClientId _ => .router
  | .destinationOpen _ | .destinationMessage _ | .destinationClose _ => .udp

theorem sentOn_eq_none {e : SystemEvent} {ch : Chan} (h : Party.of e ≠ some (.sender ch)) :
    (e.op cfg).sentOn ch = none := by
  cases hs : (e.op cfg).sentOn ch with
  | none => rfl
  | some m =>
    have hsends := sends_of_op (ChannelOp.sentOn_eq_some hs)
    exact (h (by cases hsends <;> rfl)).elim

theorem recvOn_eq_none {e : SystemEvent} {ch : Chan} (h : Party.of e ≠ some (.receiver ch)) :
    (e.op cfg).recvOn ch = none := by
  cases hs : (e.op cfg).recvOn ch with
  | none => rfl
  | some m =>
    have hop := ChannelOp.recvOn_eq_some hs
    refine (h ?_).elim
    cases e with
    | cancel => cases hop
    | hub e => cases e <;> cases hop <;> rfl
    | udp e => cases e <;> cases hop <;> rfl
    | router e =>
      cases e
      case conn k e => cases e <;> cases hop
      all_goals cases hop <;> rfl

/-- A receive is preceded by the send of its message. -/
theorem sends_before (h : Run cfg tr s) {e : SystemEvent} {ch : Chan} {m : ch.Msg}
    (he : (automaton cfg).enabled s e) (hop : e.op cfg = .recv ch m) :
    ∃ e' ∈ tr, Sends e' ch m := by
  obtain ⟨e', hmem, hop'⟩ := send_before_recv h he hop
  exact ⟨e', hmem, sends_of_op hop'⟩

theorem hubOpen_from (h : Run cfg tr s) {m : OpenClientConnectionCommand}
    (he : (automaton cfg).enabled s (.hub (.recvOpenClient m))) :
    ∃ k, .router (.conn k (.openSend m)) ∈ tr := by
  obtain ⟨_, hmem, ⟨⟩⟩ := sends_before h he rfl
  exact ⟨_, hmem⟩

theorem hubVerdict_from (h : Run cfg tr s) {v : OpenClientConnectionVerdict}
    (he : (automaton cfg).enabled s (.hub (.recvVerdict v))) :
    .udp (.reject v) ∈ tr ∨ ∃ src, .udp (.sendVerdict src v) ∈ tr := by
  obtain ⟨_, hmem, ⟨⟩⟩ := sends_before h he rfl
  · exact .inl hmem
  · exact .inr ⟨_, hmem⟩

theorem hubDestinationMessage_from (h : Run cfg tr s) {m : DestinationMessage}
    (he : (automaton cfg).enabled s (.hub (.recvDestinationMessage m))) :
    ∃ src, .udp (.sendMessage src m) ∈ tr := by
  obtain ⟨_, hmem, ⟨⟩⟩ := sends_before h he rfl
  exact ⟨_, hmem⟩

theorem routerVerdict_from (h : Run cfg tr s) {v : OpenClientConnectionVerdict}
    (he : (automaton cfg).enabled s (.router (.recvVerdict v))) :
    .hub (.verdictSend v cfg.clientName) ∈ tr := by
  obtain ⟨_, hmem, ⟨⟩⟩ := sends_before h he rfl
  exact hmem

theorem routerMessage_from (h : Run cfg tr s) {m : ClientMessage}
    (he : (automaton cfg).enabled s (.router (.recvMessage m))) :
    .hub (.fwdDestSend m cfg.clientName) ∈ tr := by
  obtain ⟨_, hmem, ⟨⟩⟩ := sends_before h he rfl
  exact hmem

theorem udpOpen_from (h : Run cfg tr s) {m : OpenClientConnectionCommand}
    (he : (automaton cfg).enabled s (.udp (.recvOpen m))) :
    .hub (.reqSend m cfg.destinationName) ∈ tr := by
  obtain ⟨_, hmem, ⟨⟩⟩ := sends_before h he rfl
  exact hmem

/-- The hub only sends to handlers it has. -/
theorem handler_of_mem (h : Run cfg tr s) :
    (∀ m name, .hub (.fwdClientSend m name) ∈ tr → name = cfg.destinationName) ∧
      (∀ m name, .hub (.fwdDestSend m name) ∈ tr → name = cfg.clientName) ∧
      ∀ name id t, .hub (.createClient name id t) ∈ tr → name = cfg.clientName := by
  refine ⟨fun m name he => ?_, fun m name he => ?_, fun name id t he => ?_⟩
  · obtain ⟨tr₁, s₁, h₁, hen, -⟩ := h.of_mem he
    have hk := Hub.known_at h₁.hub (enabled_hub hen)
    simpa [Hub.Known, (handlers_eq h₁).2] using hk
  · obtain ⟨tr₁, s₁, h₁, hen, -⟩ := h.of_mem he
    have hk := Hub.known_at h₁.hub (enabled_hub hen)
    simpa [Hub.Known, (handlers_eq h₁).1] using hk
  · obtain ⟨tr₁, s₁, h₁, hen, -⟩ := h.of_mem he
    exact (clientName_eq h₁).1 _ (enabled_hub hen).1

/-- The ids the router takes are those the hub made records for. -/
theorem exact_nextClientId (h : Run cfg tr s) :
    Exact ((hubTrace tr).filterMap HubEvent.createdId)
      ((routerTrace tr).filterMap RouterEvent.idTaken) (s.2 (.nextClientId cfg.clientName)) := by
  rw [List.filterMap_filterMap, List.filterMap_filterMap,
    ← List.filterMap_some (l := s.2 (.nextClientId cfg.clientName))]
  refine network_exact h (.nextClientId cfg.clientName) (fun e he => ?_) fun e he => ?_
  · cases e with
    | hub e =>
      cases e
      case createClient name id t =>
        cases (handler_of_mem h).2.2 name id t he
        simp [SystemEvent.op, HubEvent.op, ChannelOp.sentOn_self, SystemEvent.hubPart,
          HubEvent.createdId]
      all_goals rfl
    | _ => rw [sentOn_eq_none (by simp [Party.of, Party.sender])]; rfl
  · cases e with
    | router e =>
      cases e
      case nextClientId id =>
        simp [SystemEvent.op, RouterEvent.op, ChannelOp.recvOn_self, SystemEvent.routerPart,
          RouterEvent.idTaken]
      case conn k e => cases e <;> rfl
      all_goals rfl
    | _ => rw [recvOn_eq_none (by simp [Party.of, Party.receiver])]; rfl

/-- The channel from the UDP handler to the hub. -/
theorem exact_incomingDestinationMessage (h : Run cfg tr s) (c : ClientId) :
    Exact ((udpTrace tr).filterMap (UdpEvent.destinationDataOut c))
      ((hubTrace tr).filterMap (HubEvent.destinationDataIn c))
      ((s.2 (.incomingDestinationMessage)).filterMap (DestinationMessage.dataFor c)) := by
  rw [List.filterMap_filterMap, List.filterMap_filterMap]
  refine network_exact h (.incomingDestinationMessage) (fun e he => ?_) fun e he => ?_
  · cases e with
    | udp e =>
      cases e
      case sendMessage src m =>
        simp [SystemEvent.op, UdpEvent.op, ChannelOp.sentOn_self,
          SystemEvent.udpPart, UdpEvent.destinationDataOut]
      all_goals rfl
    | _ => rw [sentOn_eq_none (by simp [Party.of, Party.sender])]; rfl
  · cases e with
    | hub e =>
      cases e
      case recvDestinationMessage m =>
        simp [SystemEvent.op, HubEvent.op, ChannelOp.recvOn_self,
          SystemEvent.hubPart, HubEvent.destinationDataIn]
      all_goals rfl
    | _ => rw [recvOn_eq_none (by simp [Party.of, Party.receiver])]; rfl

/-- The channel from the hub to the router. -/
theorem exact_clientMessage (h : Run cfg tr s) (c : ClientId) :
    Exact ((hubTrace tr).filterMap (HubEvent.destinationDataOut c))
      ((routerTrace tr).filterMap (RouterEvent.dataReceived c))
      ((s.2 (.clientMessage cfg.clientName)).filterMap (ClientMessage.dataFor c)) := by
  rw [List.filterMap_filterMap, List.filterMap_filterMap]
  refine network_exact h (.clientMessage cfg.clientName) (fun e he => ?_) fun e he => ?_
  · cases e with
    | hub e =>
      cases e
      case fwdDestSend m name =>
        cases (handler_of_mem h).2.1 m name he
        simp [SystemEvent.op, HubEvent.op, ChannelOp.sentOn_self,
          SystemEvent.hubPart, HubEvent.destinationDataOut]
      all_goals rfl
    | _ => rw [sentOn_eq_none (by simp [Party.of, Party.sender])]; rfl
  · cases e with
    | router e =>
      cases e
      case recvMessage m =>
        simp [SystemEvent.op, RouterEvent.op, ChannelOp.recvOn_self, SystemEvent.routerPart,
          RouterEvent.dataReceived]
      case conn k e => cases e <;> rfl
      all_goals rfl
    | _ => rw [recvOn_eq_none (by simp [Party.of, Party.receiver])]; rfl

/-- With fewer than `2 ^ 32` allocations, the connections of the router have distinct ids. -/
theorem registeredIds_nodup (h : Run cfg tr s) (hlt : allocations tr < 2 ^ 32) :
    (registeredIds (routerTrace tr)).Nodup := by
  refine Router.registeredIds_nodup h.router ?_
  have hcreated := Hub.createdIds_nodup h.hub hlt
  rw [exact_nextClientId h] at hcreated
  exact (List.nodup_append.mp hcreated).1

/-! ## Inside a component -/

/-- The components are only cancelled all together. -/
theorem cancel_of_mem (h : Run cfg tr s) :
    (.cancel ∈ routerTrace tr → .cancel ∈ tr) ∧ (.cancel ∈ hubTrace tr → .cancel ∈ tr) ∧
      (.cancel ∈ udpTrace tr → .cancel ∈ tr) := by
  refine ⟨fun he => ?_, fun he => ?_, fun he => ?_⟩
  all_goals
    obtain ⟨e', he', hp⟩ := List.mem_filterMap.mp he
    cases e' <;> cases hp
    · exact he'
    · obtain ⟨_, _, _, hen, _⟩ := h.of_mem he'
      cases hen.1.1

theorem conn_of_enabled {k : Nat} {e : ConnectionEvent} (h : Run cfg tr s)
    (he : (automaton cfg).enabled s (.router (.conn k e))) :
    ∃ conn, s.1.router.conns k = some conn ∧ conn.enabled cfg.router e ∧
      (Connection.automaton cfg.router).Run (.opened conn.clientId false)
        (connectionTrace k (routerTrace tr)) conn := by
  have hce := (enabled_router he).2.1
  unfold Router.ConnEnabled at hce
  split at hce
  · next conn hk =>
    rw [Router.params_eq h.router] at hce
    exact ⟨conn, hk, hce, Router.connection_run h.router hk⟩
  · exact hce.elim

/-- An event of a connection, seen in the history of the system. -/
theorem conn_of_mem (h : Run cfg tr s) {k : Nat} {e : ConnectionEvent}
    (he : e ∈ connectionTrace k (routerTrace tr)) (hown : e.own = true) :
    .router (.conn k e) ∈ tr := by
  have hmem := Router.mem_of_connection h.router he
  rw [RouterEvent.ofConnection_of_own hown] at hmem
  exact router_of_mem hmem (by simp)

theorem verdictRecv_before (h : Run cfg tr s) {k : Nat} {reason : Bytes} {appData : Option Bytes}
    (he : (automaton cfg).enabled s (.router (.conn k (.emitVerdict true reason appData)))) :
    ∃ v, .router (.conn k (.verdictRecv v)) ∈ tr ∧ v.verdict = true := by
  obtain ⟨conn, -, hen, hrun⟩ := conn_of_enabled h he
  obtain ⟨e, hmem, hacc⟩ := Connection.accepted_before hrun (by rw [hen.1]; rfl)
  cases e <;> first | exact hacc.elim | exact ⟨_, conn_of_mem h hmem rfl, hacc⟩

theorem pushVerdict_before (h : Run cfg tr s) {k : Nat} {v : OpenClientConnectionVerdict}
    (he : (automaton cfg).enabled s (.router (.conn k (.verdictRecv v)))) :
    .router (.pushVerdict k v) ∈ tr := by
  obtain ⟨conn, -, hen, hrun⟩ := conn_of_enabled h he
  exact router_of_mem (Router.mem_of_connection h.router (Connection.pushed_before hrun hen.2))
    (by simp)

theorem recvVerdict_before (h : Run cfg tr s) {k : Nat} {v : OpenClientConnectionVerdict}
    (he : (automaton cfg).enabled s (.router (.pushVerdict k v))) :
    .router (.recvVerdict v) ∈ tr := by
  have ho := Router.dispatch_origin_at h.router (enabled_router he).1
  exact router_of_mem ho (by simp)

theorem hubVerdict_before (h : Run cfg tr s) {v : OpenClientConnectionVerdict} {name : String}
    (he : (automaton cfg).enabled s (.hub (.verdictSend v name))) :
    .hub (.recvVerdict v) ∈ tr := by
  have ho := Hub.origin_at h.hub (enabled_hub he)
  exact hub_of_mem ho (by simp)

theorem reject_verdict (h : Run cfg tr s) {v : OpenClientConnectionVerdict}
    (he : (automaton cfg).enabled s (.udp (.reject v))) : v.verdict = false := by
  have ho := Udp.listener_origin_at h.udp (enabled_udp he)
  exact ho

theorem datagram_before_verdict (h : Run cfg tr s) {src : UDPAddr}
    {v : OpenClientConnectionVerdict}
    (he : (automaton cfg).enabled s (.udp (.sendVerdict src v))) :
    ∃ dg, .udp (.datagramForward src dg (.verdict v)) ∈ tr := by
  have ho := Udp.datagrams_origin_at h.udp (enabled_udp he)
  obtain ⟨dg, hmem⟩ := ho
  exact ⟨dg, udp_of_mem hmem (by simp)⟩

theorem datagram_before_message (h : Run cfg tr s) {src : UDPAddr} {m : DestinationMessage}
    (he : (automaton cfg).enabled s (.udp (.sendMessage src m))) :
    ∃ dg, .udp (.datagramForward src dg (.message m.clientId m.data)) ∈ tr := by
  have ho := Udp.datagrams_origin_at h.udp (enabled_udp he)
  obtain ⟨dg, hmem⟩ := ho
  exact ⟨dg, udp_of_mem hmem (by simp)⟩

theorem register_before (h : Run cfg tr s) {src : UDPAddr} {dg : Datagram} {f : Forward}
    (he : (automaton cfg).enabled s (.udp (.datagramForward src dg f))) :
    ∃ m addr, .udp (.register m addr) ∈ tr ∧ m.clientId = f.clientId := by
  obtain ⟨addr, -, m, hmem, hid⟩ := Udp.register_before_forward h.udp (enabled_udp he)
  exact ⟨m, addr, udp_of_mem hmem (by simp), hid⟩

theorem connect_before (h : Run cfg tr s) {m : OpenClientConnectionCommand} {addr : UDPAddr}
    (he : (automaton cfg).enabled s (.udp (.register m addr))) : .udp (.connect m addr) ∈ tr := by
  have ho := Udp.listener_origin_at h.udp (enabled_udp he).1
  exact udp_of_mem ho (by simp)

theorem recvOpen_before (h : Run cfg tr s) {m : OpenClientConnectionCommand} {addr : UDPAddr}
    (he : (automaton cfg).enabled s (.udp (.connect m addr))) : .udp (.recvOpen m) ∈ tr := by
  have ho := Udp.listener_origin_at h.udp (enabled_udp he).1
  exact udp_of_mem ho (by simp)

theorem attach_before (h : Run cfg tr s) {m : OpenClientConnectionCommand} {name : String}
    (he : (automaton cfg).enabled s (.hub (.reqSend m name))) :
    ∃ m' t, .hub (.reqAttach m' t name) ∈ tr ∧ m = { m' with routeTimestamp := t } := by
  have ho := Hub.origin_at h.hub (enabled_hub he)
  obtain ⟨m', t, hmem, hm⟩ := ho
  exact ⟨m', t, hub_of_mem hmem (by simp), hm⟩

theorem recvOpenClient_before (h : Run cfg tr s) {m : OpenClientConnectionCommand} {t : Timestamp}
    {name : String} (he : (automaton cfg).enabled s (.hub (.reqAttach m t name))) :
    .hub (.recvOpenClient m) ∈ tr := by
  have ho := Hub.origin_at h.hub (enabled_hub he).1
  exact hub_of_mem ho (by simp)

theorem authPacket_before (h : Run cfg tr s) {k : Nat} {cmd : OpenClientConnectionCommand}
    (he : (automaton cfg).enabled s (.router (.conn k (.openSend cmd)))) :
    ∃ packet authMsg, .router (.conn k (.authPacket packet)) ∈ tr ∧
      safeParseConnectClientMessage packet = .ok authMsg ∧
      Connection.openCommand cmd.clientId authMsg cmd.recvTimestamp = some cmd := by
  obtain ⟨conn, -, hen, hrun⟩ := conn_of_enabled h he
  have hopen := (Connection.opens_with hrun).2 cmd hen
  obtain ⟨packet, authMsg, hmem, hparse, hcmd⟩ := hopen
  refine ⟨packet, authMsg, conn_of_mem h hmem rfl, hparse, ?_⟩
  rw [Connection.OpensWith.clientId_eq ⟨packet, authMsg, hmem, hparse, hcmd⟩]
  exact hcmd

/-! ## From a destination back to the client's first packet -/

/-- What leads to the registration of a client, oldest first: its first packet is parsed, the
connection asks the hub, the hub attaches the client, the handler finds the address. -/
def openHistory (cfg : SystemConfig) (k : Nat) (packet : Slice) (cmd : OpenClientConnectionCommand)
    (t : Timestamp) (addr : UDPAddr) : List SystemEvent :=
  [.router (.conn k (.authPacket packet)), .router (.conn k (.openSend cmd)),
    .hub (.reqAttach cmd t cfg.destinationName),
    .udp (.connect { cmd with routeTimestamp := t } addr)]

/-- The open command is what the packet of connection `k` says. -/
structure Opens (cfg : SystemConfig) (packet : Slice) (cmd : OpenClientConnectionCommand)
    (addr : UDPAddr) : Prop where
  command : ∃ authMsg, safeParseConnectClientMessage packet = .ok authMsg ∧
    Connection.openCommand cmd.clientId authMsg cmd.recvTimestamp = some cmd
  address : cfg.udp.connectAddress cmd.connectionString = some (.ok addr)

theorem openHistory_before_connect (h : Run cfg tr s) {m : OpenClientConnectionCommand}
    {addr : UDPAddr} (he : (automaton cfg).enabled s (.udp (.connect m addr))) :
    ∃ k packet cmd t, m = { cmd with routeTimestamp := t } ∧ Opens cfg packet cmd addr ∧
      [.router (.conn k (.authPacket packet)), .router (.conn k (.openSend cmd)),
        .hub (.reqAttach cmd t cfg.destinationName)].Sublist tr := by
  obtain ⟨tr₁, s₁, h₁, he₁, hp₁⟩ := h.of_mem (recvOpen_before h he)
  obtain ⟨tr₂, s₂, h₂, he₂, hp₂⟩ := h₁.of_mem (udpOpen_from h₁ he₁)
  obtain ⟨cmd, t, hmem, rfl⟩ := attach_before h₂ he₂
  obtain ⟨tr₃, s₃, h₃, he₃, hp₃⟩ := h₂.of_mem hmem
  obtain ⟨tr₄, s₄, h₄, he₄, hp₄⟩ := h₃.of_mem (recvOpenClient_before h₃ he₃)
  obtain ⟨k, hopen⟩ := hubOpen_from h₄ he₄
  obtain ⟨tr₅, s₅, h₅, he₅, hp₅⟩ := h₄.of_mem hopen
  obtain ⟨packet, authMsg, hauth, hparse, hcmd⟩ := authPacket_before h₅ he₅
  have haddr : cfg.udp.connectAddress cmd.connectionString = some (.ok addr) :=
    Udp.params_eq h.udp ▸ (enabled_udp he).2
  refine ⟨k, packet, cmd, t, rfl, ⟨⟨authMsg, hparse, hcmd⟩, haddr⟩, ?_⟩
  have hs₄ := sublist_snoc (List.singleton_sublist.mpr hauth) hp₅
  have hs₃ := hs₄.trans ((List.prefix_append tr₄ _).trans hp₄).sublist
  have hs₂ := sublist_snoc hs₃ hp₃
  have hs₁ := hs₂.trans ((List.prefix_append tr₂ _).trans hp₂).sublist
  exact hs₁.trans ((List.prefix_append tr₁ _).trans hp₁).sublist

theorem openHistory_before_register (h : Run cfg tr s) {m : OpenClientConnectionCommand}
    {addr : UDPAddr} (he : (automaton cfg).enabled s (.udp (.register m addr))) :
    ∃ k packet cmd t, m = { cmd with routeTimestamp := t } ∧ Opens cfg packet cmd addr ∧
      (openHistory cfg k packet cmd t addr).Sublist tr := by
  obtain ⟨tr₁, s₁, h₁, he₁, hp₁⟩ := h.of_mem (connect_before h he)
  obtain ⟨k, packet, cmd, t, rfl, hopens, hsub⟩ := openHistory_before_connect h₁ he₁
  exact ⟨k, packet, cmd, t, rfl, hopens, sublist_snoc hsub hp₁⟩

/-- A client named in a datagram that is forwarded was opened and registered before. -/
theorem openHistory_before_forward (h : Run cfg tr s) {src : UDPAddr} {dg : Datagram} {f : Forward}
    (he : (automaton cfg).enabled s (.udp (.datagramForward src dg f))) :
    ∃ k packet cmd t addr, cmd.clientId = f.clientId ∧ Opens cfg packet cmd addr ∧
      (openHistory cfg k packet cmd t addr ++
        [SystemEvent.udp (.register { cmd with routeTimestamp := t } addr)]).Sublist tr := by
  obtain ⟨m, addr, hmem, hid⟩ := register_before h he
  obtain ⟨tr₁, s₁, h₁, he₁, hp₁⟩ := h.of_mem hmem
  obtain ⟨k, packet, cmd, t, rfl, hopens, hsub⟩ := openHistory_before_register h₁ he₁
  exact ⟨k, packet, cmd, t, addr, hid, hopens, sublist_snoc hsub hp₁⟩

/-- An accepting verdict that a connection consumes was carried by a datagram. -/
theorem datagram_before_accept (h : Run cfg tr s) {k : Nat} {v : OpenClientConnectionVerdict}
    (hv : v.verdict = true) (he : (automaton cfg).enabled s (.router (.conn k (.verdictRecv v)))) :
    .router (.pushVerdict k v) ∈ tr ∧
      ∃ src dg, .udp (.datagramForward src dg (.verdict v)) ∈ tr := by
  have hpush := pushVerdict_before h he
  obtain ⟨tr₁, s₁, h₁, he₁, hp₁⟩ := h.of_mem hpush
  obtain ⟨tr₂, s₂, h₂, he₂, hp₂⟩ := h₁.of_mem (recvVerdict_before h₁ he₁)
  obtain ⟨tr₃, s₃, h₃, he₃, hp₃⟩ := h₂.of_mem (routerVerdict_from h₂ he₂)
  obtain ⟨tr₄, s₄, h₄, he₄, hp₄⟩ := h₃.of_mem (hubVerdict_before h₃ he₃)
  have hlift : ∀ {e}, e ∈ tr₄ → e ∈ tr := fun h =>
    have mono : ∀ {tr tr' : List SystemEvent} {e e'}, tr' ++ [e'] <+: tr → e ∈ tr' → e ∈ tr :=
      fun hp h => hp.subset (List.mem_append_left _ h)
    mono hp₁ (mono hp₂ (mono hp₃ (mono hp₄ h)))
  rcases hubVerdict_from h₄ he₄ with hrej | ⟨src, hsend⟩
  · obtain ⟨_, _, h₅, he₅, -⟩ := h₄.of_mem hrej
    simp [reject_verdict h₅ he₅] at hv
  · obtain ⟨tr₅, s₅, h₅, he₅, hp₅⟩ := h₄.of_mem hsend
    obtain ⟨dg, hmem⟩ := datagram_before_verdict h₅ he₅
    exact ⟨hpush, src, dg, hlift (hp₅.subset (List.mem_append_left _ hmem))⟩

end System
end Spanreed
