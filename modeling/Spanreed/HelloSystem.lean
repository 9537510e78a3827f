import Spanreed.EndToEnd
import Spanreed.HelloServerSends

/-! # The proxy with the example server behind it

Hub, routers, UDP handler and example server in one system, with a network between the socket of
the UDP handler and that of the server that may lose, repeat and reorder datagrams, but makes up
none. What a client gets and what the server gets then has its cause at the other end
(`end_to_end`), and the server goes on as long as the clients send what it expects
(`server_survives`).

The builders of the server are parameters; that they build what they are asked to build is a
hypothesis. Datagrams of more than 2048 bytes do not get through. -/

namespace Spanreed
open Flatbuffers Automata

structure HelloConfig where
  proxy : DeploymentConfig
  server : HelloServerParams
  serverStart : UInt64
  /-- where the proxy reaches the server -/
  serverAddr : UDPAddr
  /-- where the server sees the proxy -/
  proxyAddr : SockaddrIn
  finishServerMessage : ServerMessage → Bytes
  finishDestinationMessage : DestinationContent → Option ServerMessage → Bytes

structure HelloSystem where
  proxy : Deployment
  server : HelloServer
  /-- what the proxy has written to its socket -/
  written : List OutgoingMessage

inductive HelloEvent
  | proxy (e : DeploymentEvent)
  | server (e : HelloServerEvent)

/-- A datagram for a destination, as its verified accessors give it. -/
def ProxyDestinationMessage.verified (m : ProxyDestinationMessage) : VerifiedMessage :=
  ⟨some m.innerMessage, some m.clientId, m.appData⟩

/-- The datagram the proxy writes. -/
def DeploymentEvent.writes : DeploymentEvent → Option OutgoingMessage
  | .udp e => e.written
  | _ => none

/-- The datagram the proxy reads. -/
def DeploymentEvent.readsDatagram : DeploymentEvent → Option Datagram
  | .udp (.readFromUDP _ d) => some d
  | _ => none

/-- The message the server receives, and where it comes from. -/
def HelloServerEvent.receives : HelloServerEvent → Option (SockaddrIn × VerifiedMessage)
  | .recvfrom src (some msg) => some (src, msg)
  | _ => none

namespace HelloSystem

def start (cfg : HelloConfig) : HelloSystem where
  proxy := .start cfg.proxy
  server := .start cfg.server cfg.serverStart
  written := []

def enabled (cfg : HelloConfig) (s : HelloSystem) : HelloEvent → Prop
  | .proxy e => (Deployment.automaton cfg.proxy).enabled s.proxy e ∧
      ∀ d ∈ e.readsDatagram, ∃ x ∈ s.server.sent, x.addr = cfg.proxyAddr ∧
        d.bytes = cfg.finishDestinationMessage x.msg x.appData
  | .server e => HelloServer.automaton.enabled s.server e ∧
      ∀ r ∈ e.receives, ∃ m ∈ s.written, m.addr = cfg.serverAddr ∧
        r = (cfg.proxyAddr, m.payload.verified)

def next (cfg : HelloConfig) (s : HelloSystem) : HelloEvent → HelloSystem
  | .proxy e => { s with
      proxy := (Deployment.automaton cfg.proxy).next s.proxy e
      written := s.written ++ e.writes.toList }
  | .server e => { s with server := s.server.next e }

def automaton (cfg : HelloConfig) : Automaton HelloSystem HelloEvent where
  enabled := enabled cfg
  next := next cfg

instance (cfg : HelloConfig) : ∀ s e, Decidable ((automaton cfg).enabled s e)
  | _, .proxy _ => inferInstanceAs (Decidable (_ ∧ ∀ _ ∈ _, ∃ _ ∈ _, _))
  | _, .server _ => inferInstanceAs (Decidable (_ ∧ ∀ _ ∈ _, ∃ _ ∈ _, _))

def proxyPart : HelloEvent → Option DeploymentEvent
  | .proxy e => some e
  | _ => none

def serverPart : HelloEvent → Option HelloServerEvent
  | .server e => some e
  | _ => none

def proxyComponent (cfg : HelloConfig) :
    Automaton.Component (automaton cfg) (Deployment.automaton cfg.proxy) where
  state := HelloSystem.proxy
  part := proxyPart
  enabled {s e e'} he hp := by
    cases e <;> cases hp
    exact he.1
  next {s e e'} he hp := by cases e <;> cases hp; rfl
  frame {s e} he hp := by cases e <;> cases hp; rfl

def serverComponent (cfg : HelloConfig) :
    Automaton.Component (automaton cfg) HelloServer.automaton where
  state := HelloSystem.server
  part := serverPart
  enabled {s e e'} he hp := by
    cases e <;> cases hp
    exact he.1
  next {s e e'} he hp := by cases e <;> cases hp; rfl
  frame {s e} he hp := by cases e <;> cases hp; rfl

/-- The histories of the system. -/
abbrev Run (cfg : HelloConfig) (tr : List HelloEvent) (s : HelloSystem) : Prop :=
  (automaton cfg).Run (start cfg) tr s

abbrev proxyHistory (tr : List HelloEvent) : List DeploymentEvent := tr.filterMap proxyPart

abbrev serverHistory (tr : List HelloEvent) : List HelloServerEvent := tr.filterMap serverPart

variable {cfg : HelloConfig} {tr tr' : List HelloEvent} {s : HelloSystem} {c : ClientId}
  {name : String} {k : Nat}

theorem proxy_run (h : Run cfg tr s) : Deployment.Run cfg.proxy (proxyHistory tr) s.proxy :=
  (proxyComponent cfg).run h

theorem server_run (h : Run cfg tr s) :
    HelloServer.Run cfg.server cfg.serverStart (serverHistory tr) s.server :=
  (serverComponent cfg).run h

theorem of_proxyHistory {e : DeploymentEvent} (he : e ∈ proxyHistory tr) : .proxy e ∈ tr := by
  obtain ⟨e', he', hp⟩ := List.mem_filterMap.mp he
  cases e' <;> cases hp
  exact he'

theorem of_serverHistory {e : HelloServerEvent} (he : e ∈ serverHistory tr) : .server e ∈ tr := by
  obtain ⟨e', he', hp⟩ := List.mem_filterMap.mp he
  cases e' <;> cases hp
  exact he'

theorem mem_proxyHistory {e : DeploymentEvent} (he : .proxy e ∈ tr) : e ∈ proxyHistory tr :=
  List.mem_filterMap.mpr ⟨_, he, rfl⟩

theorem mem_serverHistory {e : HelloServerEvent} (he : .server e ∈ tr) : e ∈ serverHistory tr :=
  List.mem_filterMap.mpr ⟨_, he, rfl⟩

/-- What has happened before an event of a history has happened in it. -/
theorem mem_of_before {e e' : HelloEvent} (hp : tr' ++ [e'] <+: tr) (he : e ∈ tr') : e ∈ tr :=
  hp.subset (List.mem_append_left _ he)

theorem proxy_of_before {e : DeploymentEvent} {e' : HelloEvent} (hp : tr' ++ [e'] <+: tr)
    (he : e ∈ proxyHistory tr') : e ∈ proxyHistory tr :=
  mem_proxyHistory (mem_of_before hp (of_proxyHistory he))

theorem server_of_before {e : HelloServerEvent} {e' : HelloEvent} (hp : tr' ++ [e'] <+: tr)
    (he : e ∈ serverHistory tr') : e ∈ serverHistory tr :=
  mem_serverHistory (mem_of_before hp (of_serverHistory he))

/-! ## Over the network -/

/-- What the server has sent stays sent. -/
theorem sent_of_before {e : HelloEvent} {s' : HelloSystem} (h : Run cfg tr s)
    (hp : tr' ++ [e] <+: tr) (h' : Run cfg tr' s') {x : SentDatagram} (hx : x ∈ s'.server.sent) :
    x ∈ s.server.sent := by
  obtain ⟨tr₂, rfl⟩ := hp
  rw [List.append_assoc] at h
  obtain ⟨s₁, h₁, h₂⟩ := h.split rfl
  rw [h₁.eq_exec, ← h'.eq_exec] at h₂
  refine h₂.invariant (I := fun s => x ∈ s.server.sent) hx fun s e hs _ => ?_
  cases e with
  | proxy e => exact hs
  | server e =>
    change x ∈ (s.server.next e).sent
    rw [HelloServer.sent_next]
    exact List.mem_append_left _ hs

/-- What the proxy has written, one of its events has written. -/
theorem writes_of_written (h : Run cfg tr s) {m : OutgoingMessage} (hm : m ∈ s.written) :
    ∃ e ∈ proxyHistory tr, e.writes = some m := by
  induction h with
  | nil => cases hm
  | @snoc tr s e hr he ih =>
    cases e with
    | proxy e =>
      rcases List.mem_append.mp (show m ∈ s.written ++ e.writes.toList from hm) with hm | hm
      · obtain ⟨e', he', hw⟩ := ih hm
        exact ⟨e', proxy_of_before List.prefix_rfl he', hw⟩
      · exact ⟨e, mem_proxyHistory (by simp), Option.mem_toList.mp hm⟩
    | server e =>
      obtain ⟨e', he', hw⟩ := ih hm
      exact ⟨e', proxy_of_before List.prefix_rfl he', hw⟩

/-- A datagram that the proxy has written was enqueued for its client, unless it is a close. -/
theorem enqueued_of_written (h : Run cfg tr s) {m : OutgoingMessage} (hm : m ∈ s.written)
    (hne : m.payload.innerMessage ≠ .proxyDestCloseConnection) :
    m ∈ (Deployment.udpHistory (proxyHistory tr)).filterMap
      (UdpEvent.enqueuedFor m.payload.clientId) := by
  obtain ⟨e, he, hw⟩ := writes_of_written h hm
  cases e <;> try cases hw
  case udp e =>
    have hsent : e.sent = some m := by
      cases e <;> cases hw
      · rfl
      · exact (hne rfl).elim
    have hexact := Udp.exact_sender (Deployment.udp_run (proxy_run h))
    have hmem := hexact.lossy.sublist.subset
      (List.mem_filterMap.mpr ⟨e, Deployment.mem_udpHistory he, hsent⟩)
    obtain ⟨e', he', henq⟩ := List.mem_filterMap.mp hmem
    exact List.mem_filterMap.mpr ⟨e', he', by simp [UdpEvent.enqueuedFor_eq, henq]⟩

/-- What the server receives the proxy has written for it. -/
theorem written_of_received (h : Run cfg tr s) {src : SockaddrIn} {msg : VerifiedMessage}
    (he : .recvfrom src (some msg) ∈ serverHistory tr) : src = cfg.proxyAddr ∧
      ∃ tr' s', Run cfg tr' s' ∧ (∃ e, tr' ++ [e] <+: tr) ∧
        ∃ m ∈ s'.written, m.addr = cfg.serverAddr ∧ msg = m.payload.verified := by
  obtain ⟨tr', s', h', hen, hp⟩ := h.of_mem (of_serverHistory he)
  obtain ⟨m, hm, haddr, hr⟩ := hen.2 (src, msg) rfl
  cases hr
  exact ⟨rfl, tr', s', h', ⟨_, hp⟩, m, hm, haddr, rfl⟩

end HelloSystem

/-- The datagram listener has read what it is about to look at. -/
theorem Udp.readFromUDP_of_received {params : UdpSpanreedDestinationParams} {tr : List UdpEvent}
    {u : Udp} {src : UDPAddr} {d : Datagram} (h : automaton.Run (start params) tr u)
    (hd : u.datagrams = .received src d) : .readFromUDP src d ∈ tr := by
  induction h with
  | nil => cases hd
  | @snoc tr u e hr he ih =>
    cases e
    case readFromUDP src' d' =>
      cases hd
      simp
    case datagramForward src' d' f => cases f <;> cases hd
    case datagramSkip | messageNow | sendVerdict | sendMessage | sendClose | exitDatagrams =>
      cases hd
    all_goals exact List.mem_append_left _ (ih hd)

namespace HelloSystem
variable {cfg : HelloConfig} {tr tr' : List HelloEvent} {s : HelloSystem} {c : ClientId}
  {name : String} {k : Nat}

/-- The builder has built what the server has sent. -/
def Built (cfg : HelloConfig) (s : HelloSystem) : Prop :=
  ∀ x ∈ s.server.sent, IsDestinationMessage (cfg.finishDestinationMessage x.msg x.appData) x.msg
    (x.appData.map cfg.finishServerMessage)

/-- What the proxy makes of a datagram is what the server has said with it. -/
theorem sent_of_forwarded (h : Run cfg tr s) (hbuilt : Built cfg s) {src : UDPAddr} {d : Datagram}
    {f : Forward} (he : .udp (.datagramForward src d f) ∈ proxyHistory tr) :
    ∃ tr' s', Run cfg tr' s' ∧ (∃ e, tr' ++ [e] <+: tr) ∧ ∃ x ∈ s'.server.sent,
      x.addr = cfg.proxyAddr ∧ f = x.msg.forward (x.appData.map cfg.finishServerMessage) := by
  obtain ⟨tr₁, s₁, h₁, hen, hp₁⟩ := h.of_mem (of_proxyHistory he)
  have hfwd := Deployment.enabled_udp hen.1
  have hread := Udp.readFromUDP_of_received (Deployment.udp_run (proxy_run h₁)) hfwd.1
  have hread := of_proxyHistory (Deployment.of_udpHistory hread (by simp))
  obtain ⟨tr₂, s₂, h₂, hen₂, hp₂⟩ := h₁.of_mem hread
  obtain ⟨x, hx, haddr, hbytes⟩ := hen₂.2 d rfl
  have hp : tr₂ ++ [.proxy (.udp (.readFromUDP src d))] <+: tr :=
    hp₂.trans ((List.prefix_append ..).trans hp₁)
  have hmsg := hbuilt x (sent_of_before h hp h₂ hx)
  rw [← hbytes, ← d.bytes_rawMsg] at hmsg
  have hboth := (onDatagram_read hmsg s₁.proxy.1.udp.registered).symm.trans hfwd.2.2
  refine ⟨tr₂, s₂, h₂, ⟨_, hp⟩, x, hx, haddr, ?_⟩
  split at hboth
  · exact (Option.some.inj (Option.some.inj hboth)).symm
  · cases hboth

/-! ## From end to end -/

/-- A client that a connection accepts is one the server has inserted. -/
theorem inserted_of_accepted (h : Run cfg tr s) (hbuilt : Built cfg s)
    (hk : Deployment.Homed (proxyHistory tr) c name k) {reason : Bytes} {appData : Option Bytes}
    (he : .router name (.conn k (.emitVerdict true reason appData)) ∈ proxyHistory tr) :
    ∃ userName now, .insert cfg.proxyAddr c userName now ∈ serverHistory tr := by
  obtain ⟨tr₁, s₁, h₁, hen, hp₁⟩ := h.of_mem (of_proxyHistory he)
  obtain ⟨src, d, v, hfwd, hv, hk'⟩ := Deployment.datagram_before_accept (proxy_run h₁) hen.1
  obtain ⟨tr₂, s₂, h₂, ⟨e, hp₂⟩, x, hx, haddr, hx'⟩ :=
    sent_of_forwarded h hbuilt (proxy_of_before hp₁ hfwd)
  -- the server has sent an accepting verdict about this client
  have hmsg : x.msg = .connectionVerdict v.clientId true := by
    cases hmsg : x.msg <;> rw [hmsg] at hx' <;> cases hx'
    rw [← hv]
  have hverdict : (cfg.proxyAddr, v.clientId, true) ∈
      s₂.server.sent.filterMap SentDatagram.verdictTo :=
    List.mem_filterMap.mpr ⟨x, hx, by simp [SentDatagram.verdictTo, hmsg, haddr]⟩
  rw [HelloServer.sent_verdicts (server_run h₂)] at hverdict
  obtain ⟨e', he', hans⟩ := List.mem_filterMap.mp hverdict
  have hc : v.clientId = c := by
    have hk' : Deployment.Homed (proxyHistory tr) v.clientId name k := by
      obtain ⟨tr₃, rfl⟩ := hp₁
      rw [proxyHistory, List.filterMap_append, List.filterMap_append]
      exact hk'.mono.mono
    exact Option.some.inj (hk'.symm.trans hk)
  cases e' <;> cases hans
  exact ⟨_, _, hc ▸ server_of_before hp₂ he'⟩

/-- A connection request the server receives is an open command of its client. -/
theorem request_of_received (h : Run cfg tr s) {src : SockaddrIn} {appData : Option Bytes}
    (he : .recvfrom src (some ⟨some .proxyDestConnectionRequest, some c, appData⟩) ∈
      serverHistory tr) : appData ∈ Deployment.requests c (proxyHistory tr) := by
  obtain ⟨-, tr₁, s₁, h₁, ⟨e, hp₁⟩, m, hm, -, hmsg⟩ := written_of_received h he
  obtain ⟨addr, kind, c', appData⟩ := m
  cases hmsg
  have henq := enqueued_of_written h₁ hm (by simp)
  have hreq := (((Deployment.asked_sublist (proxy_run h₁) c').trans
    (Deployment.registered_sublist (proxy_run h₁) c')).trans
    (Deployment.attached_sublist (proxy_run h₁) c')).subset (Deployment.asked_of_enqueued henq rfl)
  obtain ⟨e', he', hreq⟩ := List.mem_filterMap.mp hreq
  exact List.mem_filterMap.mpr ⟨e', proxy_of_before hp₁ he', hreq⟩

/-- A client that the server has inserted has asked for it through the proxy. -/
theorem requested_of_inserted (h : Run cfg tr s) {src : SockaddrIn} {userName : Bytes}
    {now : UInt64} (he : .insert src c userName now ∈ serverHistory tr) :
    ∃ data, some data ∈ Deployment.requests c (proxyHistory tr) ∧
      cfg.server.clientMessage data = some (.userConnectMessage (some userName)) := by
  obtain ⟨tr₁, s₁, h₁, hen, hp₁⟩ := (server_run h).of_mem he
  obtain ⟨data, hrecv, hdata⟩ := HelloServer.requested h₁ (by rw [hen.2]; rfl)
  exact ⟨data, request_of_received h (hp₁.subset (List.mem_append_left _ hrecv)), hdata⟩

/-- A message the server receives for a client is among the payloads enqueued for it. -/
theorem payload_of_received (h : Run cfg tr s) {src : SockaddrIn} {data : Option Bytes}
    (he : .recvfrom src (some ⟨some .proxyDestClientMessage, some c, data⟩) ∈ serverHistory tr) :
    data ∈ Deployment.datagramPayloads c (proxyHistory tr) := by
  obtain ⟨-, tr₁, s₁, h₁, ⟨e, hp₁⟩, m, hm, -, hmsg⟩ := written_of_received h he
  obtain ⟨addr, kind, c', appData⟩ := m
  cases hmsg
  have henq := enqueued_of_written h₁ hm (by simp)
  have hdata : appData ∈ Deployment.datagramPayloads c' (proxyHistory tr₁) := by
    rw [Deployment.datagramPayloads_eq]
    exact List.mem_filterMap.mpr ⟨_, henq, by simp [OutgoingMessage.clientData]⟩
  obtain ⟨e', he', hout⟩ := List.mem_filterMap.mp hdata
  obtain ⟨e₂, he₂, hpart⟩ := List.mem_filterMap.mp he'
  exact List.mem_filterMap.mpr ⟨e', List.mem_filterMap.mpr ⟨e₂, proxy_of_before hp₁ he₂, hpart⟩,
    hout⟩

/-- What the receiving thread puts into the queue has come in a datagram. -/
theorem received_of_enqueued (h : Run cfg tr s) {data : Bytes}
    (he : .enqueue c data ∈ serverHistory tr) : ∃ src,
      .recvfrom src (some ⟨some .proxyDestClientMessage, some c, some data⟩) ∈
        serverHistory tr := by
  obtain ⟨tr₁, s₁, h₁, hen, hp₁⟩ := (server_run h).of_mem he
  have hat : s₁.recvThread.origin = some (.message c data) := by rw [hen.2]; rfl
  obtain ⟨src, msg, hrecv, hmsg⟩ := HelloServer.received h₁ hat
  rcases HelloServerParams.handleRecvMessage_eq hmsg with h | ⟨_, _, _, -, -, h⟩ | ⟨_, _, -, h⟩ |
    ⟨_, _, rfl, h⟩
  all_goals cases h
  exact ⟨src, hp₁.subset (List.mem_append_left _ hrecv)⟩

/-- What the server puts into its queue for a client are packets of its own, after the first. -/
theorem packet_of_enqueued (h : Run cfg tr s)
    (hlt : (Deployment.newIds (proxyHistory tr)).length < 2 ^ 32)
    (hk : Deployment.Homed (proxyHistory tr) c name k) {data : Bytes}
    (he : .enqueue c data ∈ serverHistory tr) :
    some data ∈ (Deployment.transportPackets name k (proxyHistory tr)).tail.map payload := by
  obtain ⟨src, hrecv⟩ := received_of_enqueued h he
  obtain ⟨conn, -, hrun⟩ := Deployment.conn_of_homed (proxy_run h) hk
  exact ((Deployment.payloads_sublist (proxy_run h) hlt hk).trans
    (Connection.sublist_puts hrun)).subset (payload_of_received h hrecv)

/-- What a client is handed the server has sent to it. -/
theorem sent_of_handed (h : Run cfg tr s) (hbuilt : Built cfg s)
    (hlt : (Deployment.newIds (proxyHistory tr)).length < 2 ^ 32)
    (hk : Deployment.Homed (proxyHistory tr) c name k) {d : Option Bytes}
    (hd : d ∈ Deployment.handedData name k (proxyHistory tr)) :
    ∃ x ∈ s.server.sent, x.addr = cfg.proxyAddr ∧ x.msg = .proxyMessage c ∧
      d = x.appData.map cfg.finishServerMessage := by
  have hd := (Deployment.handed_sublist (proxy_run h) hlt hk).subset hd
  obtain ⟨e, he, hin⟩ := List.mem_filterMap.mp hd
  cases e <;> try cases hin
  case datagramForward src dg f =>
    cases f <;> simp only [UdpEvent.destinationDataIn, reduceCtorEq,
      Option.ite_none_right_eq_some, Option.some.injEq] at hin
    obtain ⟨rfl, rfl⟩ := hin
    obtain ⟨tr', s', h', ⟨e, hp⟩, x, hx, haddr, hx'⟩ :=
      sent_of_forwarded h hbuilt (Deployment.of_udpHistory he (by simp))
    refine ⟨x, sent_of_before h hp h' hx, haddr, ?_⟩
    cases hmsg : x.msg <;> rw [hmsg] at hx' <;> cases hx'
    exact ⟨rfl, rfl⟩

/-- The proxy with the example server behind it, in every history with fewer than `2 ^ 32`
allocations and whatever the network does, for a client at home at a connection of the proxy. If it
is told that it is accepted, the server has inserted it, under the name that the app data of its
first packet gives. What the server puts into its queue for it are packets of its own, after the
first. What it is handed are messages that the server has sent to it. And the server forgets it only
after the proxy has written a close for it. -/
theorem end_to_end (h : Run cfg tr s) (hbuilt : Built cfg s)
    (hlt : (Deployment.newIds (proxyHistory tr)).length < 2 ^ 32)
    (hk : Deployment.Homed (proxyHistory tr) c name k) :
    (∀ reason appData, .proxy (.router name (.conn k (.emitVerdict true reason appData))) ∈ tr →
      ∃ packet authMsg cmd data userName now,
        (Deployment.transportPackets name k (proxyHistory tr)).head? = some packet ∧
        safeParseConnectClientMessage packet = .ok authMsg ∧
        Connection.openCommand c authMsg cmd.recvTimestamp = some cmd ∧ cmd.appData = some data ∧
        cfg.server.clientMessage data = some (.userConnectMessage (some userName)) ∧
        .server (.insert cfg.proxyAddr c userName now) ∈ tr) ∧
    (∀ data, .server (.enqueue c data) ∈ tr →
      some data ∈ (Deployment.transportPackets name k (proxyHistory tr)).tail.map payload) ∧
    (∀ d ∈ Deployment.handedData name k (proxyHistory tr), ∃ x ∈ s.server.sent,
      x.addr = cfg.proxyAddr ∧ x.msg = .proxyMessage c ∧
        d = x.appData.map cfg.finishServerMessage) ∧
    ∀ src, .server (.erase src c) ∈ tr → ∃ e m, .proxy e ∈ tr ∧ e.writes = some m ∧
      m.addr = cfg.serverAddr ∧ m.payload.innerMessage = .proxyDestCloseConnection ∧
      m.payload.clientId = c := by
  refine ⟨fun reason appData he => ?_, fun data he => ?_, fun d hd => ?_, fun src he => ?_⟩
  · obtain ⟨userName, now, hins⟩ := inserted_of_accepted h hbuilt hk (mem_proxyHistory he)
    obtain ⟨data, hreq, hdata⟩ := requested_of_inserted h hins
    obtain ⟨name', k', packet, authMsg, cmd, hk', hpacket, hparse, hcmd, hreq⟩ :=
      Deployment.requests_from (proxy_run h) hreq
    obtain ⟨rfl, rfl⟩ := hk'.unique (proxy_run h) hlt hk
    exact ⟨packet, authMsg, cmd, data, userName, now, hpacket, hparse, hcmd, hreq, hdata,
      of_serverHistory hins⟩
  · exact packet_of_enqueued h hlt hk (mem_serverHistory he)
  · exact sent_of_handed h hbuilt hlt hk hd
  · obtain ⟨tr₁, s₁, h₁, hen, hp₁⟩ := (server_run h).of_mem (mem_serverHistory he)
    obtain ⟨appData, hrecv⟩ := HelloServer.closed h₁ (by rw [hen.2]; rfl)
    obtain ⟨-, tr₂, s₂, h₂, ⟨e, hp₂⟩, m, hm, haddr, hmsg⟩ :=
      written_of_received h (hp₁.subset (List.mem_append_left _ hrecv))
    obtain ⟨e', he', hw⟩ := writes_of_written h₂ hm
    simp only [ProxyDestinationMessage.verified, VerifiedMessage.mk.injEq, Option.some.injEq]
      at hmsg
    exact ⟨e', m, mem_of_before hp₂ (of_proxyHistory he'), hw, haddr, hmsg.1.symm, hmsg.2.1.symm⟩

/-- The first packet of the example client of a user `ann`, as its builder gives it: connection
string `udp:a` and a `ClientMessage` with a `UserConnectMessage`. -/
def annPacket : Slice := .ofBytes ([0x0c, 0, 0, 0, 0x08, 0, 0x0c, 0, 0x08, 0, 0x04, 0, 0x08, 0, 0,
  0, 0x08, 0, 0, 0, 0x34, 0, 0, 0, 0x2c, 0, 0, 0] ++ Sample.userMessage 1 (ascii "ann") ++
  [0x05, 0, 0, 0, 0x75, 0x64, 0x70, 0x3a, 0x61, 0, 0, 0])

def annCommand : OpenClientConnectionCommand :=
  { Sample.openCommand with appData := some (Sample.userMessage 1 (ascii "ann")) }

/-- The verdict of the server that accepts client 1, as its builder gives it. -/
def annVerdict : Datagram where
  bytes := [0x0c, 0, 0, 0, 0x08, 0, 0x0c, 0, 0x0b, 0, 0x04, 0, 0x08, 0, 0, 0, 0x10, 0, 0, 0, 0, 0,
    0, 0x02, 0x08, 0, 0x0c, 0, 0x04, 0, 0x0b, 0, 0x08, 0, 0, 0, 0x01, 0, 0, 0, 0, 0, 0, 0x01]
  len_le := by decide

def helloConfig : HelloConfig where
  proxy := Deployment.narrow
  server := Sample.helloParams
  serverStart := 0
  serverAddr := Sample.addr
  proxyAddr := Sample.proxyAddr
  finishServerMessage _ := []
  finishDestinationMessage _ _ := annVerdict.bytes

/-- Client 1 opens a connection with this first packet, and the UDP handler writes its request. -/
def asks (packet : Slice) (command : OpenClientConnectionCommand) : List HelloEvent :=
  (Sample.opened.map (Deployment.embed "WebSocket") ++ ([
    .router "WebSocket" (.conn 0 (.put packet)), .router "WebSocket" (.conn 0 (.authPacket packet)),
    .router "WebSocket" (.conn 0 (.openNow command)),
    .router "WebSocket" (.conn 0 (.openSend command)), .hub (.recvOpenClient command),
    .hub (.reqNow command), .hub (.reqName command 0), .hub (.reqMatch command 0 "UdpDestination"),
    .hub (.reqLookup command 0 "UdpDestination"), .hub (.reqAttach command 0 "UdpDestination"),
    .hub (.reqSend command "UdpDestination"), .udp (.recvOpen command),
    .udp (.connect command Sample.addr), .udp (.register command Sample.addr),
    .udp (.connectSend command Sample.addr),
    .udp (.senderTake (Udp.connectionRequest command Sample.addr)),
    .udp (.senderWrite (Udp.connectionRequest command Sample.addr))] : List DeploymentEvent)).map
      .proxy

/-- The server admits `ann`, and its verdict reaches her connection. -/
def annJoins : List HelloEvent :=
  asks annPacket annCommand ++ [
  .server (Sample.helloRequest 1 (ascii "ann")), .server (.vacant Sample.proxyAddr 1 (ascii "ann")),
  .server (.insert Sample.proxyAddr 1 (ascii "ann") 100),
  .proxy (.udp (.readFromUDP Sample.addr annVerdict)),
  .proxy (.udp (.datagramForward Sample.addr annVerdict (.verdict Sample.verdict)))] ++
  (((Sample.answered.drop 2) ++ Sample.accepted).map (Deployment.embed "WebSocket")).map .proxy

set_option maxRecDepth 100000 in
theorem admits_annJoins : (automaton helloConfig).Admits (start helloConfig) annJoins := by
  decide +kernel

/-- All the server has sent is that verdict. -/
theorem built_annJoins :
    Built helloConfig ((automaton helloConfig).exec (start helloConfig) annJoins) := by
  intro x hx
  rw [(server_run (Automaton.Admits.run admits_annJoins)).eq_exec,
    show serverHistory annJoins = [Sample.helloRequest 1 (ascii "ann"),
      .vacant Sample.proxyAddr 1 (ascii "ann"), .insert Sample.proxyAddr 1 (ascii "ann") 100]
      from rfl] at hx
  obtain rfl : x = HelloServer.verdict Sample.proxyAddr 1 true := List.mem_singleton.mp hx
  exact ⟨[some (.leaf (.byte 2)), some (.table [some (.uint32 1), some (.byte 1)]), none],
    [some (.uint32 1), some (.byte 1)], by decide +kernel, rfl, rfl,
    ⟨⟨_, rfl, .inl rfl⟩, ⟨_, rfl, .inl rfl⟩⟩, rfl⟩

set_option maxRecDepth 100000 in
theorem end_to_end_annJoins :
    ∃ packet authMsg cmd data userName now,
      (Deployment.transportPackets "WebSocket" 0 (proxyHistory annJoins)).head? = some packet ∧
      safeParseConnectClientMessage packet = .ok authMsg ∧
      Connection.openCommand 1 authMsg cmd.recvTimestamp = some cmd ∧ cmd.appData = some data ∧
      Sample.helloParams.clientMessage data = some (.userConnectMessage (some userName)) ∧
      .server (.insert Sample.proxyAddr 1 userName now) ∈ annJoins := by
  exact (@end_to_end _ _ _ 1 "WebSocket" 0 (Automaton.Admits.run admits_annJoins) built_annJoins
    (by decide +kernel) (by decide +kernel)).1 [] none (by simp [annJoins, Sample.accepted,
      Sample.told, Deployment.embed])

/-! ## The server goes on -/

/-- Every payload enqueued for a client is one. -/
theorem payload_isSome (h : Run cfg tr s)
    (hlt : (Deployment.newIds (proxyHistory tr)).length < 2 ^ 32) {data : Option Bytes}
    (hdata : data ∈ Deployment.datagramPayloads c (proxyHistory tr)) : data ≠ none := by
  have hup := (Deployment.upstream_sublist (proxy_run h) c).subset hdata
  obtain ⟨e, he, hsent⟩ := List.mem_filterMap.mp hup
  obtain ⟨name, k, -, -, hk⟩ := Deployment.homed_of_sentUp (proxy_run h) he hsent
  obtain ⟨conn, -, hrun⟩ := Deployment.conn_of_homed (proxy_run h) hk
  obtain ⟨packet, -, rfl⟩ := List.mem_map.mp (((Deployment.payloads_sublist (proxy_run h) hlt
    hk).trans (Connection.sublist_puts hrun)).subset hdata)
  simp [payload]

/-- As long as every client that opens a connection does so with app data, which is not a
`UserConnectMessage` without a name, and no client sends a chat without a text, the server goes on,
in every history with fewer than `2 ^ 32` allocations. -/
theorem server_survives (h : Run cfg tr s)
    (hlt : (Deployment.newIds (proxyHistory tr)).length < 2 ^ 32)
    (hconnect : ∀ c, ∀ appData ∈ Deployment.requests c (proxyHistory tr), ∃ data,
      appData = some data ∧ cfg.server.clientMessage data ≠ some (.userConnectMessage none))
    (hchat : ∀ c data, some data ∈ Deployment.datagramPayloads c (proxyHistory tr) →
      cfg.server.clientMessage data ≠ some (.userChatMessage none)) :
    s.server.alive = true := by
  by_contra hdead
  rcases HelloServer.cause_of_death (server_run h) (Bool.eq_false_of_not_eq_true hdead) with
    ⟨src, msg, hrecv, hmsg⟩ | ⟨c, data, henq, hmsg⟩
  · obtain _ | msg := msg
    · cases hmsg
    obtain ⟨-, -, -, -, -, m, -, -, rfl⟩ := written_of_received h hrecv
    obtain ⟨addr, kind, c, appData⟩ := m
    cases kind with
    | proxyDestConnectionRequest =>
      obtain ⟨data, rfl, hname⟩ := hconnect c appData (request_of_received h hrecv)
      simp only [ProxyDestinationMessage.verified, HelloServerParams.handleRecvMessage,
        HelloServerParams.connectionRequest, Option.bind_eq_bind, Option.bind_some] at hmsg
      split at hmsg
      · next name hread =>
        cases name with
        | none => exact hname hread
        | some name => cases hmsg
      · cases hmsg
    | proxyDestClientMessage =>
      cases appData with
      | none => exact payload_isSome h hlt (payload_of_received h hrecv) rfl
      | some data => cases hmsg
    | proxyDestCloseConnection => cases hmsg
  · obtain ⟨src, hrecv⟩ := received_of_enqueued h henq
    exact hchat c data (payload_of_received h hrecv) hmsg

/-- The open command that a connection sends. -/
def openSent : DeploymentEvent → Option OpenClientConnectionCommand
  | .router _ (.conn _ (.openSend m)) => some m
  | _ => none

theorem requests_eq_openSent (l : List DeploymentEvent) : Deployment.requests c l =
    (l.filterMap openSent).filterMap (OpenClientConnectionCommand.appDataFor c) := by
  rw [List.filterMap_filterMap, Deployment.requests]
  congr 1
  funext e
  cases e with
  | router name e =>
    cases e with
    | conn k e => cases e <;> rfl
    | _ => rfl
  | _ => rfl

/-- A client without app data ends the process. -/
def serverDies : List HelloEvent :=
  asks Sample.authPacket Sample.openCommand ++
    [.server (.recvfrom Sample.proxyAddr (some ⟨some .proxyDestConnectionRequest, some 1, none⟩))]

set_option maxRecDepth 100000 in
theorem server_survives_annJoins :
    ((automaton helloConfig).exec (start helloConfig) annJoins).server.alive = true ∧
    (automaton helloConfig).Admits (start helloConfig) serverDies ∧
    ((automaton helloConfig).exec (start helloConfig) serverDies).server.alive = false := by
  refine ⟨server_survives (Automaton.Admits.run admits_annJoins) (by decide +kernel) ?_ ?_,
    by decide +kernel, by decide +kernel⟩
  · intro c appData happ
    rw [requests_eq_openSent, show (proxyHistory annJoins).filterMap openSent = [annCommand]
      by decide +kernel, List.filterMap_cons, List.filterMap_nil] at happ
    simp only [OpenClientConnectionCommand.appDataFor] at happ
    split at happ
    · cases happ
    · next a ha =>
      obtain rfl := List.mem_singleton.mp happ
      split at ha <;> cases ha
      refine ⟨_, rfl, ?_⟩
      rw [show helloConfig.server.clientMessage (Sample.userMessage 1 (ascii "ann")) =
        some (.userConnectMessage (some (ascii "ann"))) from rfl]
      simp
  · intro c data hdata
    obtain ⟨e, he, hout⟩ := List.mem_filterMap.mp hdata
    obtain ⟨m, henq, hm⟩ := Option.bind_eq_some_iff.mp hout
    have hmem : m ∈ (Deployment.udpHistory (proxyHistory annJoins)).filterMap UdpEvent.enqueued :=
      List.mem_filterMap.mpr ⟨e, he, henq⟩
    rw [show (Deployment.udpHistory (proxyHistory annJoins)).filterMap UdpEvent.enqueued =
      [Udp.connectionRequest annCommand Sample.addr] by decide +kernel, List.mem_singleton] at hmem
    subst hmem
    simp [OutgoingMessage.clientData, Udp.connectionRequest] at hm

end HelloSystem
end Spanreed
