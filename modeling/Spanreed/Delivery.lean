import Spanreed.SystemFacts

/-! # End-to-end delivery

A client's packets cross five queues and four goroutines on their way to the destination, and as
many on the way back. Both ways the order is kept and nothing is duplicated or altered
(`upstream_delivery`, `downstream_delivery`), and as long as nothing disturbs the client
(`Undisturbed`) nothing is lost: what is not delivered yet is in a queue or in the hands of a
goroutine. -/

namespace Spanreed
open Flatbuffers Automata

/-- The application payload of a packet for the transport. -/
def Packet.payload : Packet → Option (Option Bytes)
  | .data d => some d
  | .verdict .. => none

/-- The context of connection `k` is cancelled, or a kick of client `c` begins. -/
def SystemEvent.Disturbs (c : ClientId) (k : Nat) : SystemEvent → Prop
  | .cancel => True
  | .hub e => e.Kicks c
  | .router (.conn k' e) => k' = k ∧ e.Cancels
  | _ => False

instance (c : ClientId) (k : Nat) : ∀ e : SystemEvent, Decidable (e.Disturbs c k)
  | .cancel => inferInstanceAs (Decidable True)
  | .hub e => inferInstanceAs (Decidable (e.Kicks c))
  | .udp _ => inferInstanceAs (Decidable False)
  | .router (.conn k' e) => inferInstanceAs (Decidable (k' = k ∧ e.Cancels))
  | .router .cancel | .router (.nextClientId _) | .router (.register _) | .router (.registerFails _)
  | .router (.remove _) | .router .exit | .router (.recvClose _) | .router (.recvMessage _)
  | .router (.recvVerdict _) | .router (.routeClose ..) | .router (.routeMessage ..)
  | .router (.routeVerdict ..) | .router (.noRouteClose _) | .router (.noRouteMessage _)
  | .router (.noRouteVerdict _) | .router (.pushClose ..) | .router (.pushMessage ..)
  | .router (.pushVerdict ..) => inferInstanceAs (Decidable False)

/-- Nothing has disturbed client `c` on connection `k`. -/
def Undisturbed (c : ClientId) (k : Nat) (tr : List SystemEvent) : Prop :=
  ∀ e ∈ tr, ¬e.Disturbs c k

instance (c : ClientId) (k : Nat) (tr : List SystemEvent) : Decidable (Undisturbed c k tr) :=
  inferInstanceAs (Decidable (∀ e ∈ tr, ¬e.Disturbs c k))

/-- Connection `k` is client `c`'s. -/
def IsConnection (k : Nat) (c : ClientId) (tr : List SystemEvent) : Prop :=
  (registeredIds (routerTrace tr))[k]? = some c

instance (k : Nat) (c : ClientId) (tr : List SystemEvent) : Decidable (IsConnection k c tr) :=
  inferInstanceAs (Decidable (_ = _))

/-- The packets that the transport of connection `k` put on `IncomingMessages`. -/
def packets (k : Nat) (tr : List SystemEvent) : List Slice :=
  (connectionTrace k (routerTrace tr)).filterMap ConnectionEvent.putPacket

/-- The packets handed to the transport of connection `k` on `OutgoingMessages`. -/
def handedOver (k : Nat) (tr : List SystemEvent) : List Packet :=
  (connectionTrace k (routerTrace tr)).filterMap ConnectionEvent.emitted

/-- The application payloads among them. -/
def handedPayloads (k : Nat) (tr : List SystemEvent) : List (Option Bytes) :=
  (handedOver k tr).filterMap Packet.payload

/-- The app data of the proxy messages for client `c` received while `c` was registered. -/
def receivedAppData (c : ClientId) (tr : List SystemEvent) : List (Option Bytes) :=
  (udpTrace tr).filterMap (UdpEvent.destinationDataIn c)

/-- The routing goroutine of connection `k` has consumed an accepting verdict. -/
def Accepted (k : Nat) (tr : List SystemEvent) : Prop :=
  ∃ v, .router (.conn k (.verdictRecv v)) ∈ tr ∧ v.verdict = true

/-- What of the messages for client `c` is in queues and in the hands of goroutines, oldest
first. -/
def downstreamInFlight (cfg : SystemConfig) (c : ClientId) (conn : Connection) (s : System) :
    List (Option Bytes) :=
  conn.proxyHolds ++ s.1.router.dispatchHolds c ++
    (s.2 (.clientMessage cfg.clientName)).filterMap (ClientMessage.dataFor c) ++
    (s.1.hub.pc .destination).destinationHolds c ++
    (s.2 .incomingDestinationMessage).filterMap (DestinationMessage.dataFor c) ++
    s.1.udp.datagrams.holds c

section
variable {cfg : SystemConfig} {tr tr' : List SystemEvent} {s : System} {c : ClientId} {k : Nat}

/-! ## Without a disturbance -/

namespace Undisturbed

theorem mono (hu : Undisturbed c k tr) (hp : tr' <+: tr) : Undisturbed c k tr' :=
  fun e he => hu e (hp.subset he)

theorem before {e : SystemEvent} (hu : Undisturbed c k tr) (hp : tr' ++ [e] <+: tr) :
    Undisturbed c k tr' :=
  hu.mono ((List.prefix_append tr' [e]).trans hp)

theorem not_cancel (hu : Undisturbed c k tr) : .cancel ∉ tr := fun h => hu _ h trivial

/-- No close command is sent and the record is not removed. -/
theorem no_kickStep (hu : Undisturbed c k tr) (h : System.Run cfg tr s) {e : HubEvent}
    (he : e ∈ hubTrace tr) : e.kickStep ≠ some c := by
  intro hstep
  rcases Hub.kicked_of_step h.hub he hstep with hcancel | ⟨e', he', hkicks⟩
  · exact hu.not_cancel ((System.cancel_of_mem h).2.1 hcancel)
  · have hne : e' ≠ .cancel := by rintro rfl; cases hkicks
    exact hu _ (hub_of_mem he' hne) hkicks

theorem no_removes (hu : Undisturbed c k tr) (h : System.Run cfg tr s) :
    ∀ e ∈ hubTrace tr, ¬e.Removes c :=
  fun _ he hrem => hu.no_kickStep h he (Hub.kickStep_of_removes hrem)

theorem no_cancels (hu : Undisturbed c k tr) (h : System.Run cfg tr s) :
    ∀ e ∈ connectionTrace k (routerTrace tr), ¬e.Cancels := by
  intro e he hcan
  by_cases hown : e.own = true
  · exact hu _ (System.conn_of_mem h he hown) ⟨rfl, hcan⟩
  · have hc : e = .cancel := by cases e <;> first | rfl | exact hcan.elim | exact (hown rfl).elim
    subst hc
    exact hu.not_cancel ((System.cancel_of_mem h).1 (Router.mem_of_connection h.router he))

/-- The connection is not removed from the routing map. -/
theorem no_remove (hu : Undisturbed c k tr) (h : System.Run cfg tr s) :
    .remove k ∉ routerTrace tr := by
  intro he
  obtain ⟨tr₁, s₁, h₁, he₁, hp⟩ := h.of_mem (router_of_mem he (by simp))
  have hce := (System.enabled_router he₁).2
  unfold Router.ConnEnabled at hce
  split at hce
  · next conn hk =>
    have hrun := Router.connection_run h₁.router hk
    obtain ⟨e, hmem, hcan⟩ := Connection.cancelled_before hrun (by simp [hce.1])
    exact (hu.before hp).no_cancels h₁ e hmem hcan
  · exact hce

end Undisturbed

/-! ## What came before a client's message -/

theorem IsConnection.mono (h : IsConnection k c tr) : IsConnection k c (tr ++ tr') := by
  unfold IsConnection at *
  rw [routerTrace, List.filterMap_append]
  exact Router.registeredIds_mono h

theorem IsConnection.of_before {e : SystemEvent} (h : IsConnection k c tr')
    (hp : tr' ++ [e] <+: tr) : IsConnection k c tr := by
  obtain ⟨t, rfl⟩ := hp
  exact h.mono.mono

theorem Accepted.of_before {e : SystemEvent} (h : Accepted k tr') (hp : tr' ++ [e] <+: tr) :
    Accepted k tr := by
  obtain ⟨v, hv, hacc⟩ := h
  exact ⟨v, hp.subset (List.mem_append_left _ hv), hacc⟩

/-- With distinct ids a client has one connection. -/
theorem IsConnection.unique {k' : Nat} (h : System.Run cfg tr s) (hlt : allocations tr < 2 ^ 32)
    (hk : IsConnection k c tr) (hk' : IsConnection k' c tr) : k' = k := by
  have hn := System.registeredIds_nodup h hlt
  obtain ⟨h₁, h₁'⟩ := List.getElem?_eq_some_iff.mp hk'
  obtain ⟨h₂, h₂'⟩ := List.getElem?_eq_some_iff.mp hk
  exact (List.Nodup.getElem_inj_iff hn).mp (h₁'.trans h₂'.symm)

theorem isConnection_of_speaksFor (h : System.Run cfg tr s) {e : RouterEvent}
    (he : .router e ∈ tr) (hs : e.speaksFor = some (k, c)) : IsConnection k c tr :=
  Router.speaksFor_registered h.router (mem_router he) hs

theorem conn_of_isConnection (h : System.Run cfg tr s) (hk : IsConnection k c tr) :
    ∃ conn, s.1.router.conns k = some conn ∧
      (Connection.automaton cfg.router).Run (.opened c false)
        (connectionTrace k (routerTrace tr)) conn := by
  have hid := Router.registeredIds_getElem? h.router k
  obtain ⟨conn, hconn, rfl⟩ := Option.map_eq_some_iff.mp (hid.symm.trans hk)
  exact ⟨conn, hconn, Router.connection_run h.router hconn⟩

namespace System

/-- A message for a client comes from the UDP handler, where the client is registered. -/
theorem openHistory_of_hubDestinationMessage (h : Run cfg tr s) {m : DestinationMessage}
    (hm : .recvDestinationMessage m ∈ hubTrace tr) :
    ∃ k packet cmd t addr, cmd.clientId = m.clientId ∧
      (openHistory cfg k packet cmd t addr).Sublist tr := by
  obtain ⟨tr₁, s₁, h₁, he₁, hp₁⟩ := h.of_mem (hub_of_mem hm (by simp))
  obtain ⟨src, hsend⟩ := hubDestinationMessage_from h₁ he₁
  obtain ⟨tr₂, s₂, h₂, he₂, hp₂⟩ := h₁.of_mem hsend
  obtain ⟨dg, hfwd⟩ := datagram_before_message h₂ he₂
  obtain ⟨tr₃, s₃, h₃, he₃, hp₃⟩ := h₂.of_mem hfwd
  obtain ⟨k, packet, cmd, t, addr, hid, -, hsub⟩ := openHistory_before_forward h₃ he₃
  refine ⟨k, packet, cmd, t, addr, hid, ?_⟩
  have hpre := ((List.prefix_append tr₃ _).trans hp₃).trans
    (((List.prefix_append tr₂ _).trans hp₂).trans ((List.prefix_append tr₁ _).trans hp₁))
  exact ((List.sublist_append_left _ _).trans hsub).trans hpre.sublist

theorem openHistory_of_routerMessage (h : Run cfg tr s) {m : ClientMessage}
    (hm : .recvMessage m ∈ routerTrace tr) :
    ∃ k packet cmd t addr, cmd.clientId = m.clientId ∧
      (openHistory cfg k packet cmd t addr).Sublist tr := by
  obtain ⟨tr₁, s₁, h₁, he₁, hp₁⟩ := h.of_mem (router_of_mem hm (by simp))
  obtain ⟨tr₂, s₂, h₂, he₂, hp₂⟩ := h₁.of_mem (routerMessage_from h₁ he₁)
  have ho := Hub.origin_at h₂.hub (enabled_hub he₂)
  obtain ⟨m', hm', hid⟩ := ho
  obtain ⟨k, packet, cmd, t, addr, hid', hsub⟩ := openHistory_of_hubDestinationMessage h₂ hm'
  refine ⟨k, packet, cmd, t, addr, hid'.trans hid, hsub.trans ?_⟩
  exact (((List.prefix_append tr₂ _).trans hp₂).trans
    ((List.prefix_append tr₁ _).trans hp₁)).sublist

theorem names_of_hubDestinationMessage (h : Run cfg tr s) (hu : Undisturbed c k tr)
    {m : DestinationMessage} (hm : .recvDestinationMessage m ∈ hubTrace tr) (hc : m.clientId = c) :
    ∃ dn, s.1.hub.clientStore.names c = some (cfg.clientName, dn) := by
  obtain ⟨k', packet, cmd, t, addr, hid, hsub⟩ := openHistory_of_hubDestinationMessage h hm
  have hattach : .hub (.reqAttach cmd t cfg.destinationName) ∈ tr :=
    hsub.subset (by simp [openHistory])
  obtain rfl := hid.trans hc
  obtain ⟨cn, dn, -, hnames⟩ := Hub.names_of_attached h.hub (mem_hub hattach) (hu.no_removes h)
  exact ⟨dn, (clientName_eq h).2 _ _ _ hnames ▸ hnames⟩

theorem no_dropsDestination (h : Run cfg tr s) (hu : Undisturbed c k tr) :
    ∀ e ∈ hubTrace tr, ¬e.DropsDestination c := by
  intro e he hd
  have hne : e ≠ .cancel := by rintro rfl; exact hd
  obtain ⟨tr₁, s₁, h₁, he₁, hp₁⟩ := h.of_mem (hub_of_mem he hne)
  have ho := Hub.origin h₁.hub .destination
  cases e <;> simp only [HubEvent.DropsDestination] at hd
  case fwdDestNoClient m t =>
    rw [(enabled_hub he₁).1] at ho
    obtain ⟨dn, hnames⟩ := names_of_hubDestinationMessage h₁ (hu.before hp₁) ho hd
    simp [ClientStore.names, ← hd, (enabled_hub he₁).2] at hnames
  case fwdDestNoHandler m t name =>
    rw [(enabled_hub he₁).1] at ho
    obtain ⟨tr₂, s₂, h₂, he₂, hp₂⟩ := h₁.of_mem (hub_of_mem ho.1 (by simp))
    obtain ⟨dn, hnames⟩ := ClientStore.names_of_client (enabled_hub he₂).2
    refine (enabled_hub he₁).2.2 ?_
    rw [(handlers_eq h₁).1, (clientName_eq h₂).2 _ _ _ hnames]
    simp

theorem no_routerDrops (h : Run cfg tr s) (hlt : allocations tr < 2 ^ 32)
    (hk : IsConnection k c tr) (hu : Undisturbed c k tr) :
    ∀ e ∈ routerTrace tr, ¬e.Drops c := by
  intro e he hd
  have hne : e ≠ .cancel := by rintro rfl; exact hd
  obtain ⟨tr₁, s₁, h₁, he₁, hp₁⟩ := h.of_mem (router_of_mem he hne)
  have ho := Router.dispatch_origin h₁.router
  cases e <;> simp only [RouterEvent.Drops] at hd
  case noRouteMessage m =>
    rw [(enabled_router he₁).1] at ho
    obtain ⟨k', packet, cmd, t, addr, hid, hsub⟩ := openHistory_of_routerMessage h₁ ho
    have hopen : .router (.conn k' (.openSend cmd)) ∈ tr₁ := hsub.subset (by simp [openHistory])
    have hk' : IsConnection k' c tr₁ :=
      (hid.trans hd) ▸ isConnection_of_speaksFor h₁ hopen rfl
    obtain rfl := IsConnection.unique h hlt hk (hk'.of_before hp₁)
    have hn : (registeredIds (routerTrace tr₁)).Nodup := by
      refine (registeredIds_nodup h hlt).sublist ?_
      exact (((List.prefix_append tr₁ _).trans hp₁).sublist.filterMap _).filterMap _
    have hlook := Router.lookup_of_registered h₁.router hn hk' ((hu.before hp₁).no_remove h₁)
    have hnone := (enabled_router he₁).2
    rw [hd, hlook] at hnone
    cases hnone

theorem handedPayloads_eq : handedPayloads k tr =
    (connectionTrace k (routerTrace tr)).filterMap ConnectionEvent.emittedData := by
  rw [handedPayloads, handedOver, List.filterMap_filterMap]
  congr 1
  funext e
  cases e <;> rfl

/-- From the datagrams to the dispatch loop's pushes, in order. -/
theorem downstream_lossy (h : Run cfg tr s) (c : ClientId) :
    ((routerTrace tr).filterMap (RouterEvent.dataPushed c)).Sublist (receivedAppData c tr) := by
  have h₁ := (Udp.exact_datagrams h.udp c).lossy
  have h₂ := (exact_incomingDestinationMessage h c).lossy
  have h₃ := Hub.lossy_destination h.hub c
  have h₄ := (exact_clientMessage h c).lossy
  have h₅ := Router.lossy_dispatch h.router c
  exact ((((h₁.comp h₂).comp h₃).comp h₄).comp h₅).sublist

theorem downstream_exact (h : Run cfg tr s) (hlt : allocations tr < 2 ^ 32)
    (hk : IsConnection k c tr) (hu : Undisturbed c k tr) :
    Exact (receivedAppData c tr) ((routerTrace tr).filterMap (RouterEvent.dataPushed c))
      (s.1.router.dispatchHolds c ++
        (s.2 (.clientMessage cfg.clientName)).filterMap (ClientMessage.dataFor c) ++
        (s.1.hub.pc .destination).destinationHolds c ++
        (s.2 .incomingDestinationMessage).filterMap (DestinationMessage.dataFor c) ++
        s.1.udp.datagrams.holds c) := by
  have h₁ := Udp.exact_datagrams h.udp c
  have h₂ := exact_incomingDestinationMessage h c
  have h₃ := Hub.exact_destination h.hub (no_dropsDestination h hu)
  have h₄ := exact_clientMessage h c
  have h₅ := Router.exact_dispatch h.router (no_routerDrops h hlt hk hu)
  have h₆ := (((h₁.comp h₂).comp h₃).comp h₄).comp h₅
  simpa only [receivedAppData, List.append_assoc] using h₆

/-- Downstream delivery. What is handed to the transport of client `c`'s connection `k` is
nothing, one refusing verdict, or one accepting verdict followed by payloads only; the payloads
are, in order, a subsequence of the app data received for `c` while it was registered; and as long
as nothing has disturbed the client, nothing is lost. -/
theorem downstream_delivery (h : Run cfg tr s) (hlt : allocations tr < 2 ^ 32)
    (hk : IsConnection k c tr) :
    (handedOver k tr = [] ∨
      (∃ reason appData, handedOver k tr = [.verdict false reason appData]) ∨
      ∃ reason appData, ∃ payloads : List (Option Bytes),
        handedOver k tr = .verdict true reason appData :: payloads.map Packet.data) ∧
    (handedPayloads k tr).Sublist (receivedAppData c tr) ∧
    (Undisturbed c k tr → ∃ conn, s.1.router.conns k = some conn ∧
      receivedAppData c tr = handedPayloads k tr ++ downstreamInFlight cfg c conn s) := by
  obtain ⟨conn, hconn, hrun⟩ := conn_of_isConnection h hk
  have hn := registeredIds_nodup h hlt
  have hproxy := Connection.exact_proxyListener hrun
  rw [← Router.dataPushed_eq h.router hn hk, ← handedPayloads_eq] at hproxy
  refine ⟨Connection.emitted_shape hrun, ?_, fun hu => ⟨conn, hconn, ?_⟩⟩
  · exact hproxy.lossy.sublist.trans (downstream_lossy h c)
  · have hall := (downstream_exact h hlt hk hu).comp hproxy
    simpa only [Exact, downstreamInFlight, List.append_assoc] using hall

/-- A client that is accepted, with a message in the hands of its proxy listener. -/
theorem downstream_delivery_sample :
    let tr := Sample.opened ++ Sample.asked ++ Sample.answered ++ Sample.accepted ++ Sample.sentDown
    let s := (automaton Sample.config).exec (start Sample.config) tr
    ∃ conn, s.1.router.conns 0 = some conn ∧
      [some [0x2a]] = handedPayloads 0 tr ++ downstreamInFlight Sample.config 1 conn s := by
  refine (downstream_delivery (k := 0) (c := 1) (Automaton.Admits.run ?_) ?_ ?_).2.2 ?_
  · decide +kernel
  · decide +kernel
  · decide +kernel
  · decide +kernel

end System

end
end Spanreed
