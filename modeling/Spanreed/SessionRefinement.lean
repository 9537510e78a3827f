import Spanreed.Opening
import Spanreed.Session

/-! # Every client has a session

The hub with its routers and the UDP handler, seen from one client that has a connection: whatever
the components do, the client and its destination see a history of `Session.automaton`
(`session_refinement`). Each event of the abstract protocol is found possible from the history of
the concrete one (`enabled_see`). -/

namespace Spanreed
open Flatbuffers Automata

/-! ## What a session sees -/

/-- What an event of a client's connection is for its session. -/
def ConnectionEvent.session : ConnectionEvent → Option SessionEvent
  | .openSend cmd => some (.request cmd.appData)
  | .emitVerdict accepted _ _ => some (.tell accepted)
  | .transportSend m => some (.send m.data)
  | .proxyEmit d => some (.hand d)
  | _ => none

/-- ... an event of its router, if its connection has number `k` ... -/
def RouterEvent.session (c : ClientId) (k : Nat) : RouterEvent → Option SessionEvent
  | .register id => if id = c then some .openConnection else none
  | .conn k' e => if k' = k then e.session else none
  | _ => none

/-- ... an event of the hub ... -/
def HubEvent.session (c : ClientId) : HubEvent → Option SessionEvent
  | .createClient _ id _ => if id = c then some .allocate else none
  | .reqAttach m _ _ => if m.clientId = c then some .attach else none
  | _ => none

/-- ... something a datagram makes the UDP handler send to the hub ... -/
def Forward.session : Forward → Option SessionEvent
  | .verdict v => if v.verdict then some .accept else none
  | .message _ appData => some (.receive appData)
  | .close _ => none

/-- ... and an event of the UDP handler. -/
def UdpEvent.session (c : ClientId) : UdpEvent → Option SessionEvent
  | .connectFails m _ => if m.clientId = c then some .refuse else none
  | .register m _ => if m.clientId = c then some .register else none
  | .connectSend m _ => if m.clientId = c then some (.ask m.appData) else none
  | .messageSend m _ => if m.clientId = c then some (.deliver m.data) else none
  | .closeSend m _ => if m.clientId = c then some .close else none
  | .closeDelete m => if m.clientId = c then some .unlist else none
  | .closerWrite clientId _ => if clientId = c then some .unlist else none
  | .datagramForward _ _ f => if f.clientId = c then f.session else none
  | _ => none

/-- What an event of the deployment is for the session of client `c`, whose connection is number `k`
of the router `name`. -/
def DeploymentEvent.session (c : ClientId) (name : String) (k : Nat) :
    DeploymentEvent → Option SessionEvent
  | .cancel => none
  | .hub e => e.session c
  | .router name' e => if name' = name then e.session c k else none
  | .udp e => e.session c

/-- Which events show as which. -/
inductive Shows (c : ClientId) (name : String) (k : Nat) : SessionEvent → DeploymentEvent → Prop
  | allocate {name' t} : Shows c name k .allocate (.hub (.createClient name' c t))
  | openConnection : Shows c name k .openConnection (.router name (.register c))
  | request {cmd} : Shows c name k (.request cmd.appData) (.router name (.conn k (.openSend cmd)))
  | tell {accepted reason appData} : Shows c name k (.tell accepted)
      (.router name (.conn k (.emitVerdict accepted reason appData)))
  | attach {m t dest} : m.clientId = c → Shows c name k .attach (.hub (.reqAttach m t dest))
  | refuse {m err} : m.clientId = c → Shows c name k .refuse (.udp (.connectFails m err))
  | register {m addr} : m.clientId = c → Shows c name k .register (.udp (.register m addr))
  | ask {m addr} : m.clientId = c → Shows c name k (.ask m.appData) (.udp (.connectSend m addr))
  | close {m addr} : m.clientId = c → Shows c name k .close (.udp (.closeSend m addr))
  | closeDelete {m} : m.clientId = c → Shows c name k .unlist (.udp (.closeDelete m))
  | closerWrite {addr} : Shows c name k .unlist (.udp (.closerWrite c addr))
  | accept {src d v} : v.clientId = c → v.verdict = true →
      Shows c name k .accept (.udp (.datagramForward src d (.verdict v)))
  | send {m} : Shows c name k (.send m.data) (.router name (.conn k (.transportSend m)))
  | deliver {m addr} : m.clientId = c →
      Shows c name k (.deliver m.data) (.udp (.messageSend m addr))
  | receive {src d appData} : Shows c name k (.receive appData)
      (.udp (.datagramForward src d (.message c appData)))
  | hand {d} : Shows c name k (.hand d) (.router name (.conn k (.proxyEmit d)))

theorem shows_iff {c : ClientId} {name : String} {k : Nat} {x : SessionEvent}
    {e : DeploymentEvent} : e.session c name k = some x ↔ Shows c name k x e := by
  constructor
  · intro h
    cases e with
    | cancel => cases h
    | hub e =>
      cases e <;> simp only [DeploymentEvent.session, HubEvent.session,
        Option.ite_none_right_eq_some, reduceCtorEq] at h
      all_goals
        obtain ⟨rfl, ⟨⟩⟩ := h
        constructor <;> rfl
    | router name' e =>
      cases e <;> simp only [DeploymentEvent.session, RouterEvent.session,
        Option.ite_none_right_eq_some, reduceCtorEq, and_false] at h
      case register id =>
        obtain ⟨rfl, rfl, ⟨⟩⟩ := h
        constructor
      case conn k' e =>
        obtain ⟨rfl, rfl, h⟩ := h
        cases e <;> cases h <;> constructor
    | udp e =>
      cases e <;> simp only [DeploymentEvent.session, UdpEvent.session,
        Option.ite_none_right_eq_some, reduceCtorEq] at h
      case datagramForward src d f =>
        obtain ⟨rfl, h⟩ := h
        cases f with
        | verdict v =>
          obtain ⟨hv, ⟨⟩⟩ := Option.ite_none_right_eq_some.mp h
          exact .accept rfl hv
        | message => cases h; exact .receive
        | close => cases h
      all_goals
        obtain ⟨rfl, ⟨⟩⟩ := h
        constructor <;> rfl
  · intro h
    cases h <;> simp_all [DeploymentEvent.session, HubEvent.session, RouterEvent.session,
      UdpEvent.session, ConnectionEvent.session, Forward.session, Forward.clientId]

/-- The registry, as the session sees it. -/
theorem Udp.registered_next {u : Udp} (e : UdpEvent) (c : ClientId) :
    (u.next e).registered c = Session.listedAfter (u.registered c) (e.session c) := by
  cases e
  case register m addr =>
    simp only [UdpEvent.session]
    split
    · next hc => simp [Udp.next, registered, address, hc, Session.listedAfter]
    · next hc => simp [Udp.next, registered, address, Ne.symm hc, Session.listedAfter]
  case closeDelete m =>
    simp only [UdpEvent.session]
    split
    · next hc => simp [Udp.next, registered, address, hc, Session.listedAfter]
    · next hc => simp [Udp.next, registered, address, Ne.symm hc, Session.listedAfter]
  case closerWrite c' addr =>
    simp only [UdpEvent.session]
    split
    · next hc => simp [Udp.next, registered, address, hc, Session.listedAfter]
    · next hc => simp [Udp.next, registered, address, Ne.symm hc, Session.listedAfter]
  case datagramForward src d f =>
    have hsame : (u.next (.datagramForward src d f)).registered c = u.registered c := rfl
    rw [hsame]
    simp only [UdpEvent.session]
    split
    · cases f with
      | verdict v => cases hv : v.verdict <;> simp [Forward.session, Session.listedAfter, hv]
      | message => rfl
      | close => rfl
    · rfl
  case connectFails | connectSend | messageSend | closeSend =>
    simp only [UdpEvent.session]
    split <;> rfl
  all_goals rfl

namespace Deployment
open HubEvent RouterEvent
variable {cfg : DeploymentConfig} {s s₁ : Deployment} {tr tr₁ : List DeploymentEvent}
  {e : DeploymentEvent} {name name' : String} {c : ClientId} {k k' : Nat} {x : SessionEvent}

/-- The history of the session of client `c`. -/
def sessionHistory (c : ClientId) (name : String) (k : Nat) (tr : List DeploymentEvent) :
    List SessionEvent :=
  tr.filterMap (DeploymentEvent.session c name k)

theorem sessionHistory_snoc (hs : Shows c name k x e) :
    sessionHistory c name k (tr ++ [e]) = sessionHistory c name k tr ++ [x] :=
  filterMap_snoc_some (shows_iff.mpr hs)

theorem mem_sessionHistory :
    x ∈ sessionHistory c name k tr ↔ ∃ e ∈ tr, Shows c name k x e := by
  simp [sessionHistory, List.mem_filterMap, shows_iff]

/-! ## The data of a session -/

/-- The data of one kind of event. -/
theorem sessionHistory_data {f : SessionEvent → Option (Option Bytes)}
    {g : DeploymentEvent → Option (Option Bytes)} (mk : Option Bytes → SessionEvent)
    (hf : ∀ x d, f x = some d ↔ x = mk d) (hg : ∀ e d, g e = some d ↔ Shows c name k (mk d) e) :
    (sessionHistory c name k tr).filterMap f = tr.filterMap g := by
  rw [sessionHistory, List.filterMap_filterMap]
  congr 1
  funext e
  ext d
  rw [hg, ← shows_iff, Option.bind_eq_some_iff]
  constructor
  · rintro ⟨x, hx, hd⟩
    rwa [(hf x d).mp hd] at hx
  · exact fun hx => ⟨mk d, hx, (hf _ d).mpr rfl⟩

theorem sent_eq (c : ClientId) (name : String) (k : Nat) (tr : List DeploymentEvent) :
    (sessionHistory c name k tr).filterMap SessionEvent.sentData =
    (connectionTrace k (routerHistory name tr)).filterMap ConnectionEvent.sentData := by
  rw [List.filterMap_filterMap, List.filterMap_filterMap]
  refine sessionHistory_data .send (fun x d => ?_) fun e d => ?_
  · cases x <;> simp [SessionEvent.sentData]
  rw [← Option.bind_assoc, Option.bind_eq_some_iff]
  constructor
  · rintro ⟨e', hp, hd⟩
    cases e' <;> cases hd
    rw [(connPart_eq_some rfl).mp hp]
    exact .send
  · rintro ⟨⟩
    exact ⟨_, (connPart_eq_some rfl).mpr rfl, rfl⟩

theorem handed_eq (c : ClientId) (name : String) (k : Nat) (tr : List DeploymentEvent) :
    (sessionHistory c name k tr).filterMap SessionEvent.handedData =
    handedData name k tr := by
  rw [handedData, List.filterMap_filterMap, List.filterMap_filterMap]
  refine sessionHistory_data .hand (fun x d => ?_) fun e d => ?_
  · cases x <;> simp [SessionEvent.handedData]
  rw [← Option.bind_assoc, Option.bind_eq_some_iff]
  constructor
  · rintro ⟨e', hp, hd⟩
    cases e' <;> cases hd
    rw [(connPart_eq_some rfl).mp hp]
    exact .hand
  · rintro ⟨⟩
    exact ⟨_, (connPart_eq_some rfl).mpr rfl, rfl⟩

theorem delivered_eq (c : ClientId) (name : String) (k : Nat) (tr : List DeploymentEvent) :
    (sessionHistory c name k tr).filterMap SessionEvent.deliveredData =
    datagramPayloads c tr := by
  rw [datagramPayloads, List.filterMap_filterMap]
  refine sessionHistory_data .deliver (fun x d => ?_) fun e d => ?_
  · cases x <;> simp [SessionEvent.deliveredData]
  rw [Option.bind_eq_some_iff]
  constructor
  · rintro ⟨e', hp, hd⟩
    cases e' <;> simp [UdpEvent.clientDataOut, UdpEvent.enqueued, OutgoingMessage.clientData,
      Udp.connectionRequest, Udp.clientMessage, Udp.closeConnection] at hd
    obtain ⟨hc, rfl⟩ := hd
    rw [(udpPart_eq_some (by simp)).mp hp]
    exact .deliver hc
  · rintro (_ | _)
    next hc =>
    exact ⟨_, rfl, by simp [UdpEvent.clientDataOut, UdpEvent.enqueued, OutgoingMessage.clientData,
      Udp.clientMessage, hc]⟩

theorem received_eq (c : ClientId) (name : String) (k : Nat) (tr : List DeploymentEvent) :
    (sessionHistory c name k tr).filterMap SessionEvent.receivedData =
    receivedData c tr := by
  rw [receivedData, List.filterMap_filterMap]
  refine sessionHistory_data .receive (fun x d => ?_) fun e d => ?_
  · cases x <;> simp [SessionEvent.receivedData]
  rw [Option.bind_eq_some_iff]
  constructor
  · rintro ⟨e', hp, hd⟩
    cases e'
    case datagramForward src dg f =>
      cases f
      case message id appData =>
        obtain ⟨rfl, ⟨⟩⟩ := Option.ite_none_right_eq_some.mp hd
        rw [(udpPart_eq_some (by simp)).mp hp]
        exact .receive
      all_goals cases hd
    all_goals cases hd
  · rintro ⟨⟩
    exact ⟨_, rfl, if_pos rfl⟩

/-! ## What came before -/

theorem Homed.later (hk : Homed tr₁ c name k) (hp : tr₁ <+: tr) : Homed tr c name k := by
  obtain ⟨tr₂, rfl⟩ := hp
  exact hk.mono

theorem newIds_lt_before (hlt : (newIds tr).length < 2 ^ 32) (hp : tr₁ <+: tr) :
    (newIds tr₁).length < 2 ^ 32 :=
  ((hp.sublist.filterMap _).filterMap _).length_le.trans_lt hlt

/-- An event of a client's connection happens when the client has it. -/
theorem home_of_conn {e : ConnectionEvent} (hk : Homed tr c name k) (h₁ : Run cfg tr₁ s₁)
    (hp : tr₁ <+: tr) (he : (automaton cfg).enabled s₁ (.router name (.conn k e))) :
    Homed tr₁ c name k ∧ ∃ conn : Connection, conn.enabled (cfg.router name) e ∧
      (Connection.automaton (cfg.router name)).Run (.opened c false)
        (connectionTrace k (routerHistory name tr₁)) conn := by
  obtain ⟨conn, hconn, hen, hrun⟩ := conn_of_enabled h₁ he
  have hid : Homed tr₁ conn.clientId name k := by
    unfold Homed
    rw [Router.registeredIds_getElem? (router_run h₁ name) k, hconn]
    rfl
  obtain rfl : conn.clientId = c := Option.some.inj ((hid.later hp).symm.trans hk)
  exact ⟨hid, conn, hen, hrun⟩

theorem openConnection_of_homed (hk : Homed tr c name k) :
    .openConnection ∈ sessionHistory c name k tr := by
  obtain ⟨e, he, hid⟩ := List.mem_filterMap.mp (List.mem_of_getElem? hk)
  cases e <;> cases hid
  exact mem_sessionHistory.mpr ⟨_, of_routerHistory he (by simp), .openConnection⟩

theorem requested_of_request {a : Option Bytes} (ha : .request a ∈ sessionHistory c name k tr) :
    a ∈ (connectionTrace k (routerHistory name tr)).filterMap ConnectionEvent.requested := by
  obtain ⟨e, he, ⟨⟩⟩ := mem_sessionHistory.mp ha
  exact List.mem_filterMap.mpr ⟨_, mem_connection he, rfl⟩

theorem request_of_requested {a : Option Bytes} (h : Run cfg tr s)
    (ha : a ∈ (connectionTrace k (routerHistory name tr)).filterMap ConnectionEvent.requested) :
    .request a ∈ sessionHistory c name k tr := by
  obtain ⟨e, he, hreq⟩ := List.mem_filterMap.mp ha
  cases e <;> cases hreq
  exact mem_sessionHistory.mpr ⟨_, conn_of_mem h he rfl, .request⟩

/-- The open command of a client, made before something else. -/
theorem request_of_requests {a : Option Bytes} (h : Run cfg tr s)
    (hlt : (newIds tr).length < 2 ^ 32) (hk : Homed tr c name k) (h₁ : Run cfg tr₁ s₁)
    (hp : tr₁ ++ [e] <+: tr) (hno : requestedBy c e = none)
    (ha : a ∈ requests c (tr₁ ++ [e])) : .request a ∈ sessionHistory c name k tr₁ := by
  rw [requests, filterMap_snoc_none hno] at ha
  obtain ⟨e', he', ha⟩ := List.mem_filterMap.mp ha
  obtain ⟨name', k', m, rfl, -, rfl, hk'⟩ := homed_of_requestedBy h₁ he' ha
  obtain ⟨rfl, rfl⟩ := Homed.unique h hlt (hk'.of_before hp) hk
  exact mem_sessionHistory.mpr ⟨_, he', .request⟩

theorem emitted_of_tell {b : Bool} (hb : .tell b ∈ sessionHistory c name k tr) :
    ∃ reason appData, .verdict b reason appData ∈
      (connectionTrace k (routerHistory name tr)).filterMap ConnectionEvent.emitted := by
  obtain ⟨e, he, ⟨⟩⟩ := mem_sessionHistory.mp hb
  exact ⟨_, _, List.mem_filterMap.mpr ⟨_, mem_connection he, rfl⟩⟩

theorem tell_of_emitted {b : Bool} {reason : Bytes} {appData : Option Bytes} (h : Run cfg tr s)
    (hb : .verdict b reason appData ∈
      (connectionTrace k (routerHistory name tr)).filterMap ConnectionEvent.emitted) :
    .tell b ∈ sessionHistory c name k tr := by
  obtain ⟨e, he, hem⟩ := List.mem_filterMap.mp hb
  cases e <;> cases hem
  exact mem_sessionHistory.mpr ⟨_, conn_of_mem h he rfl, .tell⟩

/-- A client whose listeners run was told that it is accepted. -/
theorem tell_of_forked {conn : Connection} (h : Run cfg tr s)
    (hrun : (Connection.automaton (cfg.router name)).Run (.opened c false)
      (connectionTrace k (routerHistory name tr)) conn) (hf : conn.routing = .forked) :
    .tell true ∈ sessionHistory c name k tr := by
  have hsofar := Connection.emitted_so_far hrun
  rw [hf] at hsofar
  obtain ⟨reason, appData, ds, hds⟩ := hsofar
  have hmem : .verdict true reason appData ∈
      (connectionTrace k (routerHistory name tr)).filterMap ConnectionEvent.emitted := by simp [hds]
  exact tell_of_emitted h hmem

/-! ## Everything a session sees is possible -/

section
variable {t : Session} {m : OpenClientConnectionCommand}

theorem enabled_allocate {name' : String} {now : Timestamp}
    (ht : Session.Past (sessionHistory c name k tr₁) t) (hlt : (newIds tr).length < 2 ^ 32)
    (h₁ : Run cfg tr₁ s₁) (he : (automaton cfg).enabled s₁ (.hub (.createClient name' c now)))
    (hp : tr₁ ++ [.hub (.createClient name' c now)] <+: tr) : t.enabled .allocate := by
  refine ht.absent fun hmem => ?_
  obtain ⟨e, he', ⟨⟩⟩ := mem_sessionHistory.mp hmem
  have hn := createdIds_nodup (h₁.snoc he) (newIds_lt_before hlt hp)
  rw [hubHistory_snoc] at hn
  exact not_before_of_nodup (f := createdId) (a := c) rfl hn
    (List.mem_filterMap.mpr ⟨_, mem_hubHistory he', rfl⟩)

theorem enabled_openConnection (ht : Session.Past (sessionHistory c name k tr₁) t)
    (hlt : (newIds tr).length < 2 ^ 32) (h₁ : Run cfg tr₁ s₁)
    (he : (automaton cfg).enabled s₁ (.router name (.register c)))
    (hp : tr₁ ++ [.router name (.register c)] <+: tr) : t.enabled .openConnection := by
  refine ht.allocated ?_ fun hmem => ?_
  · -- a router registers what the hub has given it
    have hmem : c ∈ registeredIds (routerHistory name (tr₁ ++ [.router name (.register c)])) :=
      List.mem_filterMap.mpr ⟨.register c, mem_routerHistory (by simp), rfl⟩
    obtain ⟨k', hk'⟩ := List.mem_iff_getElem?.mp hmem
    obtain ⟨now, hnow⟩ := created_of_homed (h₁.snoc he) (k := k') hk'
    have hnow : .hub (.createClient name c now) ∈ tr₁ := by simpa using hnow
    exact mem_sessionHistory.mpr ⟨_, hnow, .allocate⟩
  · obtain ⟨e, he', ⟨⟩⟩ := mem_sessionHistory.mp hmem
    have hn := registeredIds_nodup (h₁.snoc he) (newIds_lt_before hlt hp) name
    rw [routerHistory_snoc] at hn
    exact not_before_of_nodup (f := idRegistered) (a := c) rfl hn
      (List.mem_filterMap.mpr ⟨_, mem_routerHistory he', rfl⟩)

theorem enabled_request (ht : Session.Past (sessionHistory c name k tr₁) t)
    (hk : Homed tr c name k) (h₁ : Run cfg tr₁ s₁)
    (he : (automaton cfg).enabled s₁ (.router name (.conn k (.openSend m))))
    (hp : tr₁ <+: tr) : t.enabled (.request m.appData) := by
  obtain ⟨hk₁, conn, hen, hrun⟩ := home_of_conn hk h₁ hp he
  have hsofar := Connection.requested_so_far hrun
  rw [show conn.routing = .openSend m from hen] at hsofar
  refine ht.opened (openConnection_of_homed hk₁) fun a ha => ?_
  have hnil : _ = [] := hsofar
  simpa [hnil] using requested_of_request ha

theorem enabled_tell {b : Bool} {reason : Bytes} {appData : Option Bytes}
    (ht : Session.Past (sessionHistory c name k tr₁) t) (hk : Homed tr c name k)
    (h₁ : Run cfg tr₁ s₁)
    (he : (automaton cfg).enabled s₁ (.router name (.conn k (.emitVerdict b reason appData))))
    (hp : tr₁ <+: tr) : t.enabled (.tell b) := by
  obtain ⟨hk₁, conn, hen, hrun⟩ := home_of_conn hk h₁ hp he
  have hsofar := Connection.requested_so_far hrun
  have hemitted := Connection.emitted_so_far hrun
  rw [hen.1] at hsofar hemitted
  obtain ⟨a, ha⟩ := hsofar
  have hnil : _ = [] := hemitted
  refine ⟨ht.requested (request_of_requested h₁ (a := a) (by simp [ha])) fun b hb => ?_, ?_⟩
  · obtain ⟨_, _, hmem⟩ := emitted_of_tell hb
    simp [hnil] at hmem
  · rintro rfl
    obtain ⟨src, d, v, hfwd, hv, hhome⟩ := datagram_before_accept h₁ he
    have hc : v.clientId = c := Option.some.inj (hhome.symm.trans hk₁)
    exact ht.accepted.mpr (mem_sessionHistory.mpr ⟨_, hfwd, .accept hc hv⟩)

theorem enabled_send {m : ClientMessage} (ht : Session.Past (sessionHistory c name k tr₁) t)
    (hk : Homed tr c name k) (h₁ : Run cfg tr₁ s₁)
    (he : (automaton cfg).enabled s₁ (.router name (.conn k (.transportSend m))))
    (hp : tr₁ <+: tr) : t.enabled (.send m.data) := by
  obtain ⟨-, conn, hen, hrun⟩ := home_of_conn hk h₁ hp he
  refine ht.told (tell_of_forked h₁ hrun ?_)
  by_contra hne
  have hl := (Connection.notStarted_iff hrun).1.mpr hne
  simp [show conn.transportListener = _ from hen] at hl

theorem enabled_hand {d : Option Bytes} (ht : Session.Past (sessionHistory c name k tr₁) t)
    (hlt : (newIds tr).length < 2 ^ 32) (hk : Homed tr c name k) (h₁ : Run cfg tr₁ s₁)
    (he : (automaton cfg).enabled s₁ (.router name (.conn k (.proxyEmit d))))
    (hp : tr₁ ++ [.router name (.conn k (.proxyEmit d))] <+: tr) : t.enabled (.hand d) := by
  obtain ⟨hk₁, conn, hen, hrun⟩ := home_of_conn hk h₁ ((List.prefix_append ..).trans hp) he
  refine ⟨ht.told (tell_of_forked h₁ hrun ?_), ?_⟩
  · by_contra hne
    have hl := (Connection.notStarted_iff hrun).2.mpr hne
    simp [hen.1] at hl
  · have hsub := handed_sublist (h₁.snoc he) (newIds_lt_before hlt hp) (hk₁.mono)
    rw [← handed_eq c, ← received_eq c name k, sessionHistory_snoc .hand]
      at hsub
    rwa [filterMap_snoc_some (f := SessionEvent.handedData) (a := d) rfl,
      filterMap_snoc_none (f := SessionEvent.receivedData) rfl, ← ht.handed, ← ht.received] at hsub

theorem enabled_attach {now : Timestamp} {dest : String} (hm : m.clientId = c)
    (ht : Session.Past (sessionHistory c name k tr₁) t) (h : Run cfg tr s)
    (hlt : (newIds tr).length < 2 ^ 32) (hk : Homed tr c name k) (h₁ : Run cfg tr₁ s₁)
    (he : (automaton cfg).enabled s₁ (.hub (.reqAttach m now dest)))
    (hp : tr₁ ++ [.hub (.reqAttach m now dest)] <+: tr) : t.enabled .attach := by
  have hone : openAttached c (.reqAttach m now dest) = some m.appData := by
    simp [openAttached, OpenClientConnectionCommand.appDataFor, hm]
  have hsub := attached_sublist (h₁.snoc he) c
  have hle := hsub.length_le.trans (requests_le_one (h₁.snoc he) (newIds_lt_before hlt hp) c)
  rw [hubHistory_snoc] at hsub hle
  refine ⟨(ht.request_eq (a := m.appData) (request_of_requests h hlt hk h₁ hp rfl ?_)).1,
    ht.idle fun hmem => ?_⟩
  · exact hsub.subset (by rw [filterMap_snoc_some hone]; simp)
  · obtain ⟨e, he', ⟨⟩⟩ := mem_sessionHistory.mp hmem
    next m' _ _ hc =>
    have hnone := not_before_of_length_le_one hone hle _ (mem_hubHistory he')
    simp [openAttached, OpenClientConnectionCommand.appDataFor, hc] at hnone

/-- Somebody was attached before. -/
theorem attach_of_attached {a : Option Bytes} (hno : e.hubPart = none)
    (ha : a ∈ (hubHistory (tr ++ [e])).filterMap (openAttached c)) :
    .attach ∈ sessionHistory c name k tr := by
  rw [hubHistory, filterMap_snoc_none hno] at ha
  obtain ⟨e', he', ha⟩ := List.mem_filterMap.mp ha
  cases e' <;> try cases ha
  case reqAttach m now dest =>
    obtain ⟨hc, -⟩ := Option.ite_none_right_eq_some.mp ha
    exact mem_sessionHistory.mpr ⟨_, of_hubHistory he' (by simp), .attach hc⟩

/-- The listener of the UDP handler resolves an open command of a client once. -/
theorem resolved_le_one (h : Run cfg tr s) (hlt : (newIds tr).length < 2 ^ 32) (c : ClientId) :
    ((udpHistory tr).filterMap (UdpEvent.openResolved c)).length ≤ 1 :=
  (((Udp.lossy_resolved (udp_run h) c).sublist.trans (udpOpenIn_attached h c)).trans
    (attached_sublist h c)).length_le.trans (requests_le_one h hlt c)

theorem enabled_refuse {err : GoError} (hm : m.clientId = c)
    (ht : Session.Past (sessionHistory c name k tr₁) t) (hlt : (newIds tr).length < 2 ^ 32)
    (h₁ : Run cfg tr₁ s₁) (he : (automaton cfg).enabled s₁ (.udp (.connectFails m err)))
    (hp : tr₁ ++ [.udp (.connectFails m err)] <+: tr) : t.enabled .refuse := by
  have hone : UdpEvent.openResolved c (.connectFails m err) = some m.appData := by
    simp [UdpEvent.openResolved, OpenClientConnectionCommand.appDataFor, hm]
  have hsub := (Udp.lossy_resolved (udp_run (h₁.snoc he)) c).sublist.trans
    (udpOpenIn_attached (h₁.snoc he) c)
  have hle := resolved_le_one (h₁.snoc he) (newIds_lt_before hlt hp) c
  rw [udpHistory_snoc] at hsub hle
  have hfirst := not_before_of_length_le_one hone hle
  refine ht.attached (attach_of_attached (a := m.appData) rfl (hsub.subset ?_)) (fun hmem => ?_)
    fun hmem => ?_
  · rw [filterMap_snoc_some hone]
    simp
  · obtain ⟨e, he', ⟨⟩⟩ := mem_sessionHistory.mp hmem
    next m' _ hc =>
    have hnone := hfirst _ (mem_udpHistory he')
    simp [UdpEvent.openResolved, OpenClientConnectionCommand.appDataFor, hc] at hnone
  · obtain ⟨e, he', ⟨⟩⟩ := mem_sessionHistory.mp hmem
    next m' _ hc =>
    have hnone := hfirst _ (Udp.connect_of_register (udp_run h₁) (mem_udpHistory he'))
    simp [UdpEvent.openResolved, OpenClientConnectionCommand.appDataFor, hc] at hnone

theorem enabled_register {addr : UDPAddr} (hm : m.clientId = c)
    (ht : Session.Past (sessionHistory c name k tr₁) t) (hlt : (newIds tr).length < 2 ^ 32)
    (h₁ : Run cfg tr₁ s₁) (he : (automaton cfg).enabled s₁ (.udp (.register m addr)))
    (hp : tr₁ ++ [.udp (.register m addr)] <+: tr) : t.enabled .register := by
  have hone : UdpEvent.openRegistered c (.register m addr) = some m.appData := by
    simp [UdpEvent.openRegistered, OpenClientConnectionCommand.appDataFor, hm]
  have hsub := registered_sublist (h₁.snoc he) c
  have hle := (hsub.trans (attached_sublist (h₁.snoc he) c)).length_le.trans
    (requests_le_one (h₁.snoc he) (newIds_lt_before hlt hp) c)
  rw [udpHistory_snoc] at hsub hle
  refine ht.attached (attach_of_attached (a := m.appData) rfl (hsub.subset ?_)) (fun hmem => ?_)
    fun hmem => ?_
  · rw [filterMap_snoc_some hone]
    simp
  · -- the address was found, so it was not refused
    obtain ⟨e, he', ⟨⟩⟩ := mem_sessionHistory.mp hmem
    next m' err hc =>
    have hconnect : .connect m addr ∈ udpHistory tr₁ :=
      Udp.listener_origin_at (udp_run h₁) (enabled_udp he).1
    have hp₁ : tr₁ <+: tr := (List.prefix_append ..).trans hp
    have hfound : UdpEvent.openResolved c (.connect m addr) = some m.appData := by
      simp [UdpEvent.openResolved, OpenClientConnectionCommand.appDataFor, hm]
    have hfailed : UdpEvent.openResolved c (.connectFails m' err) = some m'.appData := by
      simp [UdpEvent.openResolved, OpenClientConnectionCommand.appDataFor, hc]
    cases eq_of_length_le_one (resolved_le_one h₁ (newIds_lt_before hlt hp₁) c) hconnect
      (mem_udpHistory he') hfound hfailed
  · obtain ⟨e, he', ⟨⟩⟩ := mem_sessionHistory.mp hmem
    next m' _ hc =>
    have hnone := not_before_of_length_le_one hone hle _ (mem_udpHistory he')
    simp [UdpEvent.openRegistered, OpenClientConnectionCommand.appDataFor, hc] at hnone

theorem enabled_ask {addr : UDPAddr} (hm : m.clientId = c)
    (ht : Session.Past (sessionHistory c name k tr₁) t) (h : Run cfg tr s)
    (hlt : (newIds tr).length < 2 ^ 32) (hk : Homed tr c name k) (h₁ : Run cfg tr₁ s₁)
    (he : (automaton cfg).enabled s₁ (.udp (.connectSend m addr)))
    (hp : tr₁ ++ [.udp (.connectSend m addr)] <+: tr) : t.enabled (.ask m.appData) := by
  have hone : UdpEvent.openOut c (.connectSend m addr) = some m.appData := by
    simp [UdpEvent.openOut, OpenClientConnectionCommand.appDataFor, hm]
  have hsub := ((asked_sublist (h₁.snoc he) c).trans (registered_sublist (h₁.snoc he) c)).trans
    (attached_sublist (h₁.snoc he) c)
  have hle := hsub.length_le.trans
    (requests_le_one (h₁.snoc he) (newIds_lt_before hlt hp) c)
  rw [asked, udpHistory_snoc] at hsub hle
  refine ⟨ht.registered ?_ fun a hmem => ?_,
    (ht.request_eq (request_of_requests h hlt hk h₁ hp rfl (hsub.subset ?_))).2⟩
  · have hpast := Udp.listener_past (udp_run h₁)
    rw [(enabled_udp he).1] at hpast
    exact mem_sessionHistory.mpr ⟨_, of_udpHistory hpast (by simp), .register hm⟩
  · obtain ⟨e, he', ⟨⟩⟩ := mem_sessionHistory.mp hmem
    next m' _ hc =>
    have hnone := not_before_of_length_le_one hone hle _ (mem_udpHistory he')
    simp [UdpEvent.openOut, OpenClientConnectionCommand.appDataFor, hc] at hnone
  · rw [filterMap_snoc_some hone]
    simp

/-- A client whose destination has a connection request and no close. -/
theorem asked_of_opened {addr : UDPAddr} (ht : Session.Past (sessionHistory c name k tr₁) t)
    (ho : Opened c addr ((udpHistory tr₁).filterMap (UdpEvent.enqueuedFor c))) :
    t.backend = .asked := by
  obtain ⟨om, hom, hreq⟩ := ho.requested
  obtain ⟨e, he, ha⟩ := List.mem_filterMap.mp (asked_of_enqueued hom hreq)
  cases e <;> try cases ha
  case connectSend m addr =>
    obtain ⟨hc, -⟩ := Option.ite_none_right_eq_some.mp ha
    refine ht.asked (a := m.appData)
      (mem_sessionHistory.mpr ⟨_, of_udpHistory he (by simp), .ask hc⟩) fun hmem => ?_
    obtain ⟨e, he', ⟨⟩⟩ := mem_sessionHistory.mp hmem
    next m' addr' hc' =>
    refine ho.not_closed (Udp.closeConnection m'.clientId addr') ?_ rfl
    exact List.mem_filterMap.mpr ⟨_, mem_udpHistory he', by simp [UdpEvent.enqueuedFor, hc']⟩

/-- What the listener is about to enqueue for a client other than a connection request, it enqueues
after the request and before the close. -/
theorem opened_of_listener (hlt : (newIds tr₁).length < 2 ^ 32) (h₁ : Run cfg tr₁ s₁)
    (c : ClientId) :
    (∀ m addr, s₁.1.udp.listener = .messageSend m addr → m.clientId = c →
      Opened c addr ((udpHistory tr₁).filterMap (UdpEvent.enqueuedFor c))) ∧
    ∀ m addr, s₁.1.udp.listener = .closeSend m addr → m.clientId = c →
      Opened c addr ((udpHistory tr₁).filterMap (UdpEvent.enqueuedFor c)) := by
  have hkeeps := Udp.keeps (udp_run h₁) (oneOpen h₁ hlt c)
  constructor
  all_goals
    intro m addr hl hc
    rw [hl] at hkeeps
    exact hkeeps.1 hc

theorem enabled_close {m : ClientCloseCommand} {addr : UDPAddr} (hm : m.clientId = c)
    (ht : Session.Past (sessionHistory c name k tr₁) t) (hlt : (newIds tr).length < 2 ^ 32)
    (h₁ : Run cfg tr₁ s₁) (he : (automaton cfg).enabled s₁ (.udp (.closeSend m addr)))
    (hp : tr₁ <+: tr) : t.enabled .close :=
  asked_of_opened ht ((opened_of_listener (newIds_lt_before hlt hp) h₁ c).2 m addr
    (enabled_udp he).1 hm)

theorem enabled_deliver {m : DestinationMessage} {addr : UDPAddr} (hm : m.clientId = c)
    (ht : Session.Past (sessionHistory c name k tr₁) t) (h : Run cfg tr s)
    (hlt : (newIds tr).length < 2 ^ 32) (hk : Homed tr c name k) (h₁ : Run cfg tr₁ s₁)
    (he : (automaton cfg).enabled s₁ (.udp (.messageSend m addr)))
    (hp : tr₁ ++ [.udp (.messageSend m addr)] <+: tr) : t.enabled (.deliver m.data) := by
  have hlt₁ := newIds_lt_before hlt ((List.prefix_append ..).trans hp)
  refine ⟨asked_of_opened ht ((opened_of_listener hlt₁ h₁ c).1 m addr (enabled_udp he).1 hm), ?_⟩
  -- somebody sent it, and that can only be the client's connection
  have hdel : _ = datagramPayloads c (tr₁ ++ [.udp (.messageSend m addr)]) :=
    delivered_eq c name k _
  rw [sessionHistory_snoc (.deliver hm),
    filterMap_snoc_some (f := SessionEvent.deliveredData) (a := m.data) rfl] at hdel
  have hsent : m.data ∈ tr₁.filterMap (sentUp c) := by
    have hup := upstream_sublist (h₁.snoc he) c
    rw [← hdel, filterMap_snoc_none (f := sentUp c) rfl] at hup
    exact hup.subset (by simp)
  obtain ⟨e, he', hd⟩ := List.mem_filterMap.mp hsent
  obtain ⟨name', k', -, -, hk'⟩ := homed_of_sentUp h₁ he' hd
  obtain ⟨rfl, rfl⟩ := Homed.unique h hlt (hk'.of_before hp) hk
  have hsub := payloads_sublist (h₁.snoc he) (newIds_lt_before hlt hp) hk'.mono
  rwa [← hdel, ← sent_eq c, sessionHistory_snoc (.deliver hm),
    filterMap_snoc_none (f := SessionEvent.sentData) rfl, ← ht.delivered, ← ht.sent] at hsub

/-- Everything a session sees is possible in it. -/
theorem enabled_session (h : Run cfg tr s) (hlt : (newIds tr).length < 2 ^ 32)
    (hk : Homed tr c name k) (h₁ : Run cfg tr₁ s₁) (he : (automaton cfg).enabled s₁ e)
    (hp : tr₁ ++ [e] <+: tr) (ht : Session.Past (sessionHistory c name k tr₁) t)
    (hlisted : s₁.1.udp.registered c = t.listed) (hs : Shows c name k x e) : t.enabled x := by
  have hp₁ : tr₁ <+: tr := (List.prefix_append ..).trans hp
  cases hs with
  | allocate => exact enabled_allocate ht hlt h₁ he hp
  | openConnection => exact enabled_openConnection ht hlt h₁ he hp
  | request => exact enabled_request ht hk h₁ he hp₁
  | tell => exact enabled_tell ht hk h₁ he hp₁
  | attach hm => exact enabled_attach hm ht h hlt hk h₁ he hp
  | refuse hm => exact enabled_refuse hm ht hlt h₁ he hp
  | register hm => exact enabled_register hm ht hlt h₁ he hp
  | ask hm => exact enabled_ask hm ht h hlt hk h₁ he hp
  | close hm => exact enabled_close hm ht hlt h₁ he hp₁
  | closeDelete => trivial
  | closerWrite => trivial
  | accept hc =>
    have hreg := registered_of_forward (enabled_udp he).2.2
    exact hlisted.symm.trans (hc ▸ hreg)
  | send => exact enabled_send ht hk h₁ he hp₁
  | deliver hm => exact enabled_deliver hm ht h hlt hk h₁ he hp
  | receive =>
    have hreg := registered_of_forward (enabled_udp he).2.2
    exact hlisted.symm.trans hreg
  | hand => exact enabled_hand ht hlt hk h₁ he hp

end

/-- The registry of the UDP handler, as a session sees it. -/
theorem registered_next (cfg : DeploymentConfig) (c : ClientId) (name : String) (k : Nat)
    (s : Deployment) (e : DeploymentEvent) :
    ((automaton cfg).next s e).1.udp.registered c =
      Session.listedAfter (s.1.udp.registered c) (e.session c name k) := by
  cases e with
  | cancel => rfl
  | udp e => exact Udp.registered_next e c
  | hub e =>
    change s.1.udp.registered c = _
    cases e <;> simp only [DeploymentEvent.session, HubEvent.session]
    case createClient | reqAttach => split <;> rfl
    all_goals rfl
  | router name' e =>
    change s.1.udp.registered c = _
    simp only [DeploymentEvent.session]
    split
    · cases e
      case register => simp only [RouterEvent.session]; split <;> rfl
      case conn k' e =>
        simp only [RouterEvent.session]
        split
        · cases e <;> rfl
        · rfl
      all_goals rfl
    · rfl

/-- In every history with fewer than `2 ^ 32` allocations, what a client with a connection and its
destination see of the hub, all its routers and the UDP handler is a history of the session
protocol, at whose end the client is listed exactly if the UDP handler has it registered. -/
theorem session_refinement (h : Run cfg tr s) (hlt : (newIds tr).length < 2 ^ 32)
    (hk : Homed tr c name k) :
    ∃ t, Session.automaton.Run {} (sessionHistory c name k tr) t ∧
      s.1.udp.registered c = t.listed := by
  refine Automaton.Run.simulates (B := Session.automaton)
    (R := fun s t => s.1.udp.registered c = t.listed) h ?_ ?_
  · rfl
  intro tr₁ s₁ e t h₁ he hp ht hlisted
  have hnext := registered_next cfg c name k s₁ e
  cases hx : e.session c name k with
  | none =>
    rw [hx] at hnext
    exact ⟨t, rfl, hnext.trans hlisted⟩
  | some x =>
    rw [hx, hlisted] at hnext
    exact ⟨t.next x, ⟨enabled_session h hlt hk h₁ he hp (Session.past ht) hlisted
      (shows_iff.mp hx), rfl⟩, hnext.trans (Session.listed_next x).symm⟩

set_option maxRecDepth 100000 in
theorem session_refinement_twoClients :
    sessionHistory 1 "WebSocket" 0 twoClients =
      [.allocate, .openConnection, .request Sample.openCommand.appData, .attach, .register,
        .ask Sample.openCommand.appData, .accept, .tell true, .send (some [0x07]),
        .deliver (some [0x07])] ∧
    ∃ t, Session.automaton.Run {} (sessionHistory 1 "WebSocket" 0 twoClients) t ∧
      t.listed = true := by
  have hrun : (automaton bothTransports).Admits (start bothTransports) twoClients := by
    decide +kernel
  have hk : Homed twoClients 1 "WebSocket" 0 := by decide +kernel
  obtain ⟨t, ht, hlisted⟩ :=
    session_refinement (Automaton.Admits.run hrun) (by decide +kernel) hk
  refine ⟨by decide +kernel, t, ht, hlisted.symm.trans ?_⟩
  decide +kernel

end Deployment
end Spanreed
