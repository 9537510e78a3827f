import Spanreed.OpenConnection
import Spanreed.UdpFacts

/-! # Causes across the components of a deployment

What must have happened in a history of the hub with all its routers and the UDP handler before an
event of one of them (`Spanreed.SystemFacts` says the same of a single router). Every client has one
home: a connection of one router, and no other router or connection ever has to do with it
(`Homed.unique`). -/

namespace Spanreed
open Flatbuffers Automata

def DeploymentEvent.udpPart : DeploymentEvent → Option UdpEvent
  | .cancel => some .cancel
  | .udp e => some e
  | _ => none

def DeploymentParts.udpComponent (cfg : DeploymentConfig) :
    Automaton.Component (automaton cfg) Udp.automaton where
  state := DeploymentParts.udp
  part := DeploymentEvent.udpPart
  enabled {s e e'} he hp := by
    cases e <;> cases hp
    · exact trivial
    · exact he.2.2
  next {s e e'} he hp := by cases e <;> cases hp <;> rfl
  frame {s e} he hp := by cases e <;> cases hp <;> rfl

namespace Deployment
open HubEvent RouterEvent

/-- The histories of a deployment. -/
abbrev Run (cfg : DeploymentConfig) (tr : List DeploymentEvent) (s : Deployment) : Prop :=
  (automaton cfg).Run (start cfg) tr s

abbrev hubHistory (tr : List DeploymentEvent) : List HubEvent :=
  tr.filterMap DeploymentEvent.hubPart

abbrev routerHistory (name : String) (tr : List DeploymentEvent) : List RouterEvent :=
  tr.filterMap (DeploymentEvent.routerPart name)

abbrev udpHistory (tr : List DeploymentEvent) : List UdpEvent :=
  tr.filterMap DeploymentEvent.udpPart

variable {cfg : DeploymentConfig} {s : Deployment} {tr tr' : List DeploymentEvent}
  {name name' : String} {c : ClientId} {k k' : Nat}

theorem udp_run (hr : Run cfg tr s) :
    Udp.automaton.Run (.start cfg.udp) (udpHistory tr) s.1.udp :=
  (DeploymentParts.udpComponent cfg).run (network_run hr)

theorem of_mem (hr : Run cfg tr s) {e : DeploymentEvent} (he : e ∈ tr) :
    ∃ tr₁ s₁, Run cfg tr₁ s₁ ∧ (automaton cfg).enabled s₁ e ∧ tr₁ ++ [e] <+: tr :=
  Automaton.Run.of_mem hr he

theorem mem_hubHistory {e : HubEvent} (he : .hub e ∈ tr) : e ∈ hubHistory tr :=
  List.mem_filterMap.mpr ⟨_, he, rfl⟩

theorem mem_routerHistory {e : RouterEvent} (he : .router name e ∈ tr) :
    e ∈ routerHistory name tr :=
  List.mem_filterMap.mpr ⟨_, he, if_pos rfl⟩

theorem mem_udpHistory {e : UdpEvent} (he : .udp e ∈ tr) : e ∈ udpHistory tr :=
  List.mem_filterMap.mpr ⟨_, he, rfl⟩

theorem hubHistory_snoc (e : HubEvent) : hubHistory (tr ++ [.hub e]) = hubHistory tr ++ [e] :=
  filterMap_snoc_some rfl

theorem routerHistory_snoc (e : RouterEvent) :
    routerHistory name (tr ++ [.router name e]) = routerHistory name tr ++ [e] :=
  filterMap_snoc_some (if_pos rfl)

theorem udpHistory_snoc (e : UdpEvent) : udpHistory (tr ++ [.udp e]) = udpHistory tr ++ [e] :=
  filterMap_snoc_some rfl

theorem of_hubHistory {e : HubEvent} (he : e ∈ hubHistory tr) (hne : e ≠ .cancel) :
    .hub e ∈ tr := by
  obtain ⟨e', he', hp⟩ := List.mem_filterMap.mp he
  cases e' <;> cases hp
  · exact (hne rfl).elim
  · exact he'

theorem of_routerHistory {e : RouterEvent} (he : e ∈ routerHistory name tr) (hne : e ≠ .cancel) :
    .router name e ∈ tr := by
  obtain ⟨e', he', hp⟩ := List.mem_filterMap.mp he
  cases e' with
  | cancel => cases hp; exact (hne rfl).elim
  | router name' e' =>
    obtain ⟨rfl, rfl⟩ := DeploymentEvent.routerPart_router.mp hp
    exact he'
  | _ => cases hp

theorem of_udpHistory {e : UdpEvent} (he : e ∈ udpHistory tr) (hne : e ≠ .cancel) :
    .udp e ∈ tr := by
  obtain ⟨e', he', hp⟩ := List.mem_filterMap.mp he
  cases e' <;> cases hp
  · exact (hne rfl).elim
  · exact he'

theorem mem_connection {e : ConnectionEvent} (he : .router name (.conn k e) ∈ tr) :
    e ∈ connectionTrace k (routerHistory name tr) :=
  List.mem_filterMap.mpr ⟨_, mem_routerHistory he, by simp [connPart]⟩

/-- Which event is an event of connection `k` of router `name`'s own. -/
theorem connPart_eq_some {e : DeploymentEvent} {e' : ConnectionEvent} (hown : e'.own = true) :
    (e.routerPart name).bind (connPart k) = some e' ↔ e = .router name (.conn k e') := by
  constructor
  · intro h
    obtain ⟨e₁, hp, hc⟩ := Option.bind_eq_some_iff.mp h
    cases e with
    | router name' e₂ =>
      obtain ⟨rfl, rfl⟩ := DeploymentEvent.routerPart_router.mp hp
      cases e₂ <;> simp only [connPart, Option.ite_none_right_eq_some, Option.some.injEq,
        reduceCtorEq] at hc
      case conn k' e₂ => rw [hc.1, hc.2]
      case cancel => cases hc; cases hown
      all_goals cases hc.2; cases hown
    | cancel => cases hp; cases hc; cases hown
    | _ => cases hp
  · rintro rfl
    simp [DeploymentEvent.routerPart, connPart]

theorem udpPart_eq_some {e : DeploymentEvent} {e' : UdpEvent} (hne : e' ≠ .cancel) :
    e.udpPart = some e' ↔ e = .udp e' := by
  constructor
  · intro h
    cases e <;> cases h
    · exact (hne rfl).elim
    · rfl
  · rintro rfl
    rfl

/-! What an event of the deployment is for its component. -/

theorem enabled_hub {e : HubEvent} (h : (automaton cfg).enabled s (.hub e)) : s.1.hub.enabled e :=
  h.1.2.2

theorem enabled_router {e : RouterEvent} (h : (automaton cfg).enabled s (.router name e)) :
    (s.1.router name).enabled e := h.1.2.2.2

theorem enabled_udp {e : UdpEvent} (h : (automaton cfg).enabled s (.udp e)) : s.1.udp.enabled e :=
  h.1.2.2

/-! ## Channels -/

/-- Who sends what on which channel. -/
inductive Sends : DeploymentEvent → (ch : Chan) → ch.Msg → Prop
  | created {name id t} : Sends (.hub (.createClient name id t)) (.nextClientId name) id
  | authClose {name k m} : Sends (.router name (.conn k (.authClose m))) .incomingClientClose m
  | openSend {name k m} : Sends (.router name (.conn k (.openSend m))) .incomingClientOpen m
  | transportSend {name k m} :
      Sends (.router name (.conn k (.transportSend m))) .incomingClientMessage m
  | transportClose {name k m} :
      Sends (.router name (.conn k (.transportClose m))) .incomingClientClose m
  | fwdClient {m name} : Sends (.hub (.fwdClientSend m name)) (.destinationMessage name) m
  | fwdDest {m name} : Sends (.hub (.fwdDestSend m name)) (.clientMessage name) m
  | verdict {v name} : Sends (.hub (.verdictSend v name)) (.clientVerdict name) v
  | req {m name} : Sends (.hub (.reqSend m name)) (.destinationOpen name) m
  | kickClient {g c r cn dn k} : Sends (.hub (.kickClientSend g c r cn dn k)) (.clientClose cn)
      (Hub.closeCommand c r)
  | kickDest {g c r dn k} : Sends (.hub (.kickDestSend g c r dn k)) (.destinationClose dn)
      (Hub.closeCommand c r)
  | reject {v} : Sends (.udp (.reject v)) .incomingDestinationVerdict v
  | udpVerdict {src v} : Sends (.udp (.sendVerdict src v)) .incomingDestinationVerdict v
  | udpMessage {src m} : Sends (.udp (.sendMessage src m)) .incomingDestinationMessage m
  | udpClose {src m} : Sends (.udp (.sendClose src m)) .incomingDestinationClose m

theorem sends_of_op {e : DeploymentEvent} {ch : Chan} {m : ch.Msg} (hop : e.op cfg = .send ch m) :
    Sends e ch m := by
  cases e with
  | cancel => cases hop
  | hub e => cases e <;> cases hop <;> constructor
  | udp e => cases e <;> cases hop <;> constructor
  | router name e =>
    cases e
    case conn k e => cases e <;> cases hop <;> constructor
    all_goals cases hop

theorem recvOn_bind {e : DeploymentEvent} {ch : Chan} {m : ch.Msg} {β : Type}
    {f : ch.Msg → Option β} (hop : e.op cfg = .recv ch m) :
    ((e.op cfg).recvOn ch).bind f = f m := by
  rw [hop, ChannelOp.recvOn_self]
  rfl

/-- A receive is preceded by the send of its message. -/
theorem sends_before (h : Run cfg tr s) {e : DeploymentEvent} {ch : Chan} {m : ch.Msg}
    (he : (automaton cfg).enabled s e) (hop : e.op cfg = .recv ch m) :
    ∃ e' ∈ tr, Sends e' ch m := by
  obtain ⟨e', hmem, hop'⟩ := send_before_recv h he hop
  exact ⟨e', hmem, sends_of_op hop'⟩

theorem routerId_from (h : Run cfg tr s) {id : ClientId}
    (he : (automaton cfg).enabled s (.router name (.nextClientId id))) :
    ∃ t, .hub (.createClient name id t) ∈ tr := by
  obtain ⟨_, hmem, ⟨⟩⟩ := sends_before h he rfl
  exact ⟨_, hmem⟩

theorem hubOpen_from (h : Run cfg tr s) {m : OpenClientConnectionCommand}
    (he : (automaton cfg).enabled s (.hub (.recvOpenClient m))) :
    ∃ name k, .router name (.conn k (.openSend m)) ∈ tr := by
  obtain ⟨_, hmem, ⟨⟩⟩ := sends_before h he rfl
  exact ⟨_, _, hmem⟩

theorem hubVerdict_from (h : Run cfg tr s) {v : OpenClientConnectionVerdict}
    (he : (automaton cfg).enabled s (.hub (.recvVerdict v))) :
    .udp (.reject v) ∈ tr ∨ ∃ src, .udp (.sendVerdict src v) ∈ tr := by
  obtain ⟨_, hmem, ⟨⟩⟩ := sends_before h he rfl
  · exact .inl hmem
  · exact .inr ⟨_, hmem⟩

theorem routerVerdict_from (h : Run cfg tr s) {v : OpenClientConnectionVerdict}
    (he : (automaton cfg).enabled s (.router name (.recvVerdict v))) :
    .hub (.verdictSend v name) ∈ tr := by
  obtain ⟨_, hmem, ⟨⟩⟩ := sends_before h he rfl
  exact hmem

theorem udpOpen_from (h : Run cfg tr s) {m : OpenClientConnectionCommand}
    (he : (automaton cfg).enabled s (.udp (.recvOpen m))) :
    .hub (.reqSend m cfg.destinationName) ∈ tr := by
  obtain ⟨_, hmem, ⟨⟩⟩ := sends_before h he rfl
  exact hmem

/-! ## The home of a client -/

/-- Connection `k` of the router of client handler `name` is the one of client `c`. -/
def Homed (tr : List DeploymentEvent) (c : ClientId) (name : String) (k : Nat) : Prop :=
  (registeredIds (routerHistory name tr))[k]? = some c

instance (tr : List DeploymentEvent) (c : ClientId) (name : String) (k : Nat) :
    Decidable (Homed tr c name k) :=
  inferInstanceAs (Decidable (_ = _))

theorem Homed.mono (h : Homed tr c name k) : Homed (tr ++ tr') c name k := by
  unfold Homed routerHistory
  rw [List.filterMap_append]
  exact Router.registeredIds_mono h

theorem Homed.of_before {e : DeploymentEvent} (h : Homed tr' c name k) (hp : tr' ++ [e] <+: tr) :
    Homed tr c name k := by
  obtain ⟨tr₂, rfl⟩ := hp
  exact h.mono.mono

theorem homed_of_speaksFor (h : Run cfg tr s) {e : RouterEvent} (he : .router name e ∈ tr)
    (hs : e.speaksFor = some (k, c)) : Homed tr c name k :=
  Router.speaksFor_registered (router_run h name) (mem_routerHistory he) hs

theorem conn_of_homed (h : Run cfg tr s) (hk : Homed tr c name k) :
    ∃ conn, (s.1.router name).conns k = some conn ∧
      (Connection.automaton (cfg.router name)).Run (.opened c false)
        (connectionTrace k (routerHistory name tr)) conn := by
  have hid := Router.registeredIds_getElem? (router_run h name) k
  rw [show (registeredIds (routerHistory name tr))[k]? = some c from hk] at hid
  obtain ⟨conn, hconn, rfl⟩ := Option.map_eq_some_iff.mp hid.symm
  exact ⟨conn, hconn, Router.connection_run (router_run h name) hconn⟩

/-- The ids a router takes are among those the hub made records for, in the same order. -/
theorem taken_sublist (h : Run cfg tr s) (name : String) :
    ((routerHistory name tr).filterMap idTaken).Sublist ((hubHistory tr).filterMap createdId) := by
  rw [List.filterMap_filterMap, List.filterMap_filterMap]
  refine network_sublist h (.nextClientId name) (f := some) (fun e _ id hid => ?_)
    fun e _ id hid => ?_
  · obtain ⟨id', hsent, hid'⟩ := Option.bind_eq_some_iff.mp hid
    cases hid'
    cases sends_of_op (ChannelOp.sentOn_eq_some hsent)
    rfl
  · cases e with
    | router name' e =>
      obtain ⟨e', hp, he'⟩ := Option.bind_eq_some_iff.mp hid
      obtain ⟨rfl, rfl⟩ := DeploymentEvent.routerPart_router.mp hp
      cases e <;> cases he'
      exact recvOn_bind rfl
    | _ => cases hid

/-- A client has a record made by the handler it is at home at. -/
theorem created_of_homed (h : Run cfg tr s) (hk : Homed tr c name k) :
    ∃ t, .hub (.createClient name c t) ∈ tr := by
  have hcount : (registeredIds (routerHistory name tr)).count c + _ ≤
      ((routerHistory name tr).filterMap idTaken).count c :=
    Router.count_registered_le (router_run h name) c
  have hpos := List.count_pos_iff.mpr (List.mem_of_getElem? hk)
  have htaken : c ∈ (routerHistory name tr).filterMap idTaken :=
    List.count_pos_iff.mp (by omega)
  obtain ⟨e, he, hid⟩ := List.mem_filterMap.mp htaken
  cases e <;> cases hid
  obtain ⟨tr₁, s₁, h₁, hen, hp⟩ := of_mem h (of_routerHistory he (by simp))
  obtain ⟨t, hmem⟩ := routerId_from h₁ hen
  exact ⟨t, hp.subset (List.mem_append_left _ hmem)⟩

theorem createdIds_nodup (h : Run cfg tr s) (hlt : (newIds tr).length < 2 ^ 32) :
    ((hubHistory tr).filterMap createdId).Nodup :=
  Hub.createdIds_nodup (hub_run h) hlt

theorem registeredIds_nodup (h : Run cfg tr s) (hlt : (newIds tr).length < 2 ^ 32)
    (name : String) : (registeredIds (routerHistory name tr)).Nodup :=
  Router.registeredIds_nodup (router_run h name)
    ((taken_sublist h name).nodup (createdIds_nodup h hlt))

/-- With fewer than `2 ^ 32` allocations, a client has one home. -/
theorem Homed.unique (h : Run cfg tr s) (hlt : (newIds tr).length < 2 ^ 32)
    (hk : Homed tr c name k) (hk' : Homed tr c name' k') : name = name' ∧ k = k' := by
  obtain ⟨t, ht⟩ := created_of_homed h hk
  obtain ⟨t', ht'⟩ := created_of_homed h hk'
  have hsame := eq_of_nodup_filterMap (createdIds_nodup h hlt) (mem_hubHistory ht)
    (mem_hubHistory ht') (a := c) rfl rfl
  cases hsame
  obtain ⟨h₁, h₁'⟩ := List.getElem?_eq_some_iff.mp hk
  obtain ⟨h₂, h₂'⟩ := List.getElem?_eq_some_iff.mp hk'
  exact ⟨rfl, (List.Nodup.getElem_inj_iff (registeredIds_nodup h hlt name)).mp (h₁'.trans h₂'.symm)⟩

/-! ## From an accepting verdict back to a datagram -/

theorem conn_of_enabled {e : ConnectionEvent} (h : Run cfg tr s)
    (he : (automaton cfg).enabled s (.router name (.conn k e))) :
    ∃ conn, (s.1.router name).conns k = some conn ∧ conn.enabled (cfg.router name) e ∧
      (Connection.automaton (cfg.router name)).Run (.opened conn.clientId false)
        (connectionTrace k (routerHistory name tr)) conn := by
  have hce := (enabled_router he).2.1
  unfold Router.ConnEnabled at hce
  split at hce
  · next conn hk =>
    rw [Router.params_eq (router_run h name)] at hce
    exact ⟨conn, hk, hce, Router.connection_run (router_run h name) hk⟩
  · exact hce.elim

/-- An event of a connection, seen in the history of the deployment. -/
theorem conn_of_mem {e : ConnectionEvent} (h : Run cfg tr s)
    (he : e ∈ connectionTrace k (routerHistory name tr)) (hown : e.own = true) :
    .router name (.conn k e) ∈ tr := by
  have hmem := Router.mem_of_connection (router_run h name) he
  rw [RouterEvent.ofConnection_of_own hown] at hmem
  exact of_routerHistory hmem (by simp)

theorem mem_of_before {e e' : DeploymentEvent} (hp : tr' ++ [e'] <+: tr) (he : e ∈ tr') : e ∈ tr :=
  hp.subset (List.mem_append_left _ he)

/-- The verdict a connection takes was pushed to it, and so is one for its own client. -/
theorem pushVerdict_before {v : OpenClientConnectionVerdict} (h : Run cfg tr s)
    (he : (automaton cfg).enabled s (.router name (.conn k (.verdictRecv v)))) :
    .router name (.pushVerdict k v) ∈ tr := by
  obtain ⟨conn, -, hen, hrun⟩ := conn_of_enabled h he
  exact of_routerHistory (Router.mem_of_connection (router_run h name)
    (Connection.pushed_before hrun hen.2)) (by simp)

/-- An accepting verdict that the dispatch loop of a router has was carried by a datagram. -/
theorem datagram_before_push {v : OpenClientConnectionVerdict} (h : Run cfg tr s)
    (hv : v.verdict = true) (he : (automaton cfg).enabled s (.router name (.pushVerdict k v))) :
    ∃ src d, .udp (.datagramForward src d (.verdict v)) ∈ tr := by
  have hrouter := Router.dispatch_origin_at (router_run h name) (enabled_router he).1
  obtain ⟨tr₁, s₁, h₁, he₁, hp₁⟩ := of_mem h (of_routerHistory hrouter (by simp))
  obtain ⟨tr₂, s₂, h₂, he₂, hp₂⟩ := of_mem h₁ (routerVerdict_from h₁ he₁)
  have hhub := Hub.origin_at (hub_run h₂) (enabled_hub he₂)
  obtain ⟨tr₃, s₃, h₃, he₃, hp₃⟩ := of_mem h₂ (of_hubHistory hhub (by simp))
  rcases hubVerdict_from h₃ he₃ with hrej | ⟨src, hsend⟩
  · obtain ⟨_, _, h₄, he₄, -⟩ := of_mem h₃ hrej
    have hfalse : v.verdict = false := Udp.listener_origin_at (udp_run h₄) (enabled_udp he₄)
    simp [hfalse] at hv
  · obtain ⟨tr₄, s₄, h₄, he₄, hp₄⟩ := of_mem h₃ hsend
    obtain ⟨d, hmem⟩ := Udp.datagrams_origin_at (udp_run h₄) (enabled_udp he₄)
    exact ⟨src, d, mem_of_before hp₁ (mem_of_before hp₂ (mem_of_before hp₃
      (mem_of_before hp₄ (of_udpHistory hmem (by simp)))))⟩

/-- A connection that accepts its client was told so by a datagram that names the client. -/
theorem datagram_before_accept {reason : Bytes} {appData : Option Bytes} (h : Run cfg tr s)
    (he : (automaton cfg).enabled s (.router name (.conn k (.emitVerdict true reason appData)))) :
    ∃ src d v, .udp (.datagramForward src d (.verdict v)) ∈ tr ∧ v.verdict = true ∧
      Homed tr v.clientId name k := by
  obtain ⟨conn, -, hen, hrun⟩ := conn_of_enabled h he
  obtain ⟨e, hmem, hacc⟩ := Connection.accepted_before hrun (by rw [hen.1]; rfl)
  cases e
  case verdictRecv v =>
    obtain ⟨tr₁, s₁, h₁, he₁, hp₁⟩ := of_mem h (conn_of_mem h hmem rfl)
    have hpush := pushVerdict_before h₁ he₁
    obtain ⟨tr₂, s₂, h₂, he₂, hp₂⟩ := of_mem h₁ hpush
    obtain ⟨src, d, hfwd⟩ := datagram_before_push h₂ hacc he₂
    exact ⟨src, d, v, mem_of_before hp₁ (mem_of_before hp₂ hfwd), hacc,
      (homed_of_speaksFor h₁ hpush rfl).of_before hp₁⟩
  all_goals exact hacc.elim

end Deployment
end Spanreed
