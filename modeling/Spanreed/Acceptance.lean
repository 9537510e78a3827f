import Spanreed.Delivery

/-! # Acceptance is sound

An accepting verdict for a client goes back, link by link, to a datagram that accepts the client,
to its registration with the UDP handler under an allowed host, to its attachment in the hub and
to its own first packet (`acceptance_sound`). -/

namespace Spanreed
open Flatbuffers Automata

/-- The datagram is a `DestinationMessage` with a `ConnectionVerdict` for client `c`. -/
def CarriesVerdict (d : Datagram) (c : ClientId) (accepted : Bool) : Prop :=
  ∃ parsedMsg ut, safeParseDestinationMessage d.rawMsg = .ok parsedMsg ∧
    DestinationMessageTable.msg parsedMsg = some (some ut) ∧
    DestinationMessageTable.msgType parsedMsg = some .connectionVerdict ∧
    ConnectionVerdict.clientId ut = some c ∧ ConnectionVerdict.accepted ut = some accepted

theorem carriesVerdict_of_forward {registered : ClientId → Bool} {d : Datagram}
    {v : OpenClientConnectionVerdict}
    (h : onDatagram registered d.rawMsg = some (some (.verdict v))) :
    CarriesVerdict d v.clientId v.verdict := by
  unfold onDatagram at h
  split at h
  · cases h
  next parsedMsg hparse =>
  simp only [Option.bind_eq_bind, Option.bind_eq_some_iff] at h
  obtain ⟨msg, hmsg, h⟩ := h
  cases msg with
  | none => cases h
  | some ut =>
    simp only [Option.bind_eq_some_iff] at h
    obtain ⟨msgType, htype, h⟩ := h
    cases msgType
    case connectionVerdict =>
      simp only [onReceiveVerdict, Option.bind_eq_bind, Option.bind_eq_some_iff] at h
      obtain ⟨_, -, id, hid, accepted, hacc, h⟩ := h
      split at h
      · cases h
        exact ⟨parsedMsg, ut, hparse, hmsg, htype, hid, hacc⟩
      · cases h
    case proxyMessage =>
      simp only [onReceiveProxyMessage, Option.bind_eq_bind, Option.bind_eq_some_iff] at h
      obtain ⟨_, -, id, -, h⟩ := h
      split at h <;> cases h
    case closeConnection =>
      simp only [onReceiveCloseRequest, Option.bind_eq_bind, Option.bind_eq_some_iff] at h
      obtain ⟨_, -, id, -, h⟩ := h
      split at h
      · obtain ⟨reason, -, h⟩ := Option.bind_eq_some_iff.mp h
        cases h
      · cases h
    all_goals cases h

/-- The connection string of an open command is the one in the auth message. -/
theorem Connection.openCommand_connectionString {c c' : ClientId} {authMsg : Table}
    {now now' : Timestamp} {cmd cmd' : OpenClientConnectionCommand}
    (h : openCommand c authMsg now = some cmd) (h' : openCommand c' authMsg now' = some cmd') :
    cmd.connectionString = cmd'.connectionString := by
  simp only [openCommand, Option.bind_eq_bind, Option.bind_eq_some_iff] at h h'
  obtain ⟨str, hstr, _, _, h⟩ := h
  obtain ⟨str', hstr', _, _, h'⟩ := h'
  rw [← Option.some.inj h, ← Option.some.inj h']
  exact congrArg goString (Option.some.inj (hstr.symm.trans hstr'))

/-- The host a connection string asks for may be connected to. -/
def HostAllowed (params : UdpSpanreedDestinationParams) (connectionString host : Bytes) : Prop :=
  params.resolveUdpHost connectionString = some (.ok host) ∧
    isDestinationAllowed params.allowAllDestinations params.allowlistedDestinations
      params.denylistedDestinations host = true

namespace System
variable {cfg : SystemConfig} {tr₀ tr₁ : List SystemEvent} {s : System} {c : ClientId} {k : Nat}
  {reason : Bytes} {appData : Option Bytes}

/-- If connection `k` of client `c` emits an accepting verdict, then before that, in this order:
`c`'s first packet was parsed, the hub attached `c` to the UDP handler for the connection string of
that packet, the handler found its host allowed and registered `c`, and a datagram that accepts `c`
was received while `c` was registered. In particular the host of the connection string is allowed,
whenever it is resolved. -/
theorem acceptance_sound
    (h : Run cfg (tr₀ ++ .router (.conn k (.emitVerdict true reason appData)) :: tr₁) s)
    (hlt :
      allocations (tr₀ ++ .router (.conn k (.emitVerdict true reason appData)) :: tr₁) < 2 ^ 32)
    (hk : IsConnection k c (tr₀ ++ .router (.conn k (.emitVerdict true reason appData)) :: tr₁)) :
    ∃ packet authMsg cmd t addr host src d v tr₂ tr₃ s₂,
      (packets k tr₀).head? = some packet ∧
      safeParseConnectClientMessage packet = .ok authMsg ∧
      Connection.openCommand c authMsg cmd.recvTimestamp = some cmd ∧
      HostAllowed cfg.udp cmd.connectionString host ∧
      tr₀ = tr₂ ++ .udp (.datagramForward src d (.verdict v)) :: tr₃ ∧
      [.router (.conn k (.authPacket packet)), .hub (.reqAttach cmd t cfg.destinationName),
        .udp (.connect { cmd with routeTimestamp := t } addr),
        .udp (.register { cmd with routeTimestamp := t } addr)].Sublist tr₂ ∧
      Run cfg tr₂ s₂ ∧ s₂.1.udp.registered c = true ∧ CarriesVerdict d c true ∧
      ∀ cmd' now host', Connection.openCommand c authMsg now = some cmd' →
        cfg.udp.resolveUdpHost cmd'.connectionString = some (.ok host') →
        HostAllowed cfg.udp cmd'.connectionString host' := by
  obtain ⟨s₀, h₀, he₀, -⟩ := Automaton.Run.at_event h
  obtain ⟨v, hv, hacc⟩ := verdictRecv_before h₀ he₀
  obtain ⟨trv, sv, hrv, hev, hpv⟩ := Run.of_mem h₀ hv
  obtain ⟨hpush, src, d, hfwd⟩ := datagram_before_accept hrv hacc hev
  -- the verdict is for `c`
  have hkv : IsConnection k v.clientId tr₀ :=
    (isConnection_of_speaksFor hrv hpush rfl).of_before hpv
  obtain rfl : v.clientId = c := Option.some.inj ((hkv.mono).symm.trans hk)
  -- and the datagram was forwarded while `c` was registered
  have hfwd₀ : .udp (.datagramForward src d (.verdict v)) ∈ tr₀ :=
    hpv.subset (List.mem_append_left _ hfwd)
  obtain ⟨tr₂, tr₃, rfl⟩ := List.append_of_mem hfwd₀
  obtain ⟨s₂, h₂, he₂, -⟩ := Automaton.Run.at_event h₀
  obtain ⟨k', packet, cmd, t, addr, hid, ⟨⟨authMsg, hparse, hcmd⟩, haddr⟩, hsub⟩ :=
    openHistory_before_forward h₂ he₂
  have hid : cmd.clientId = v.clientId := hid
  have hopen : .router (.conn k' (.openSend cmd)) ∈ tr₂ := hsub.subset (by simp [openHistory])
  have hk' : IsConnection k' v.clientId tr₂ := hid ▸ isConnection_of_speaksFor h₂ hopen rfl
  obtain rfl := IsConnection.unique h hlt hk hk'.mono.mono
  have hauth : .router (.conn k' (.authPacket packet)) ∈ tr₂ :=
    hsub.subset (by simp [openHistory])
  obtain ⟨conn, -, hrun⟩ := conn_of_isConnection h₀ hkv
  obtain ⟨host, hhost, hallowed, -⟩ := UdpSpanreedDestinationParams.connectAddress_ok haddr
  rw [hid] at hcmd
  refine ⟨packet, authMsg, cmd, t, addr, host, src, d, v, tr₂, tr₃, s₂,
    Connection.first_packet hrun (mem_connection (List.mem_append_left _ hauth)), hparse, hcmd,
    ⟨hhost, hallowed⟩, rfl, ?_, h₂, registered_of_forward (enabled_udp he₂).2.2,
    hacc ▸ carriesVerdict_of_forward (enabled_udp he₂).2.2, ?_⟩
  · refine List.Sublist.trans ?_ hsub
    simp [openHistory]
  · intro cmd' now host' hcmd' hhost'
    refine ⟨hhost', ?_⟩
    rw [← Connection.openCommand_connectionString hcmd hcmd', hhost] at hhost'
    cases hhost'
    exact hallowed

theorem acceptance_sound_sample :
    let tr₀ := Sample.opened ++ Sample.asked ++ Sample.answered ++ Sample.pushed ++
      [.router (.conn 0 (.verdictRecv Sample.verdict))]
    ∃ packet authMsg cmd t addr host src d v tr₂ tr₃ s₂,
      (packets 0 tr₀).head? = some packet ∧
      safeParseConnectClientMessage packet = .ok authMsg ∧
      Connection.openCommand 1 authMsg cmd.recvTimestamp = some cmd ∧
      HostAllowed Sample.config.udp cmd.connectionString host ∧
      tr₀ = tr₂ ++ .udp (.datagramForward src d (.verdict v)) :: tr₃ ∧
      [.router (.conn 0 (.authPacket packet)), .hub (.reqAttach cmd t "UdpDestination"),
        .udp (.connect { cmd with routeTimestamp := t } addr),
        .udp (.register { cmd with routeTimestamp := t } addr)].Sublist tr₂ ∧
      Run Sample.config tr₂ s₂ ∧ s₂.1.udp.registered 1 = true ∧ CarriesVerdict d 1 true ∧
      ∀ cmd' now host', Connection.openCommand 1 authMsg now = some cmd' →
        Sample.config.udp.resolveUdpHost cmd'.connectionString = some (.ok host') →
        HostAllowed Sample.config.udp cmd'.connectionString host' := by
  intro tr₀
  have hrun : (automaton Sample.config).Admits (start Sample.config)
      (tr₀ ++ [.router (.conn 0 (.emitVerdict true [] none))]) := by decide +kernel
  refine acceptance_sound (Automaton.Admits.run hrun) ?_ ?_
  · decide +kernel
  · decide +kernel

end System
end Spanreed
