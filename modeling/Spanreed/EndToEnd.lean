import Spanreed.Opening
import Spanreed.WireFormat

/-! # From the client's bytes to the destination's

What a destination reads from the datagrams written for a client, in terms of what the client's
transport has put (`destination_reads`): the two ends of the proxy, with everything between them
gone. -/

namespace Spanreed
open Flatbuffers Automata

namespace Deployment
variable {cfg : DeploymentConfig} {s : Deployment} {tr : List DeploymentEvent} {name : String}
  {c : ClientId} {k : Nat}

/-- What a destination reads, and where, of the datagrams enqueued for client `c`, if `finish`
builds them. -/
def destinationReads (finish : List (Option Cell) → Bytes) (c : ClientId)
    (tr : List DeploymentEvent) : List (UDPAddr × Option (Option ProxyDestinationMessage)) :=
  ((udpHistory tr).filterMap (UdpEvent.enqueuedFor c)).map fun m =>
    (m.addr, readProxyDestinationMessage (.ofBytes (finish m.payload.fields)))

theorem bytes_ofBytes (b : Bytes) : (Slice.ofBytes b).bytes = b := by
  simp [Slice.ofBytes, Slice.bytes]

theorem destinationReads_eq {finish : List (Option Cell) → Bytes}
    (hfinish : ∀ m ∈ (udpHistory tr).filterMap (UdpEvent.enqueuedFor c),
      Finished (finish m.payload.fields) m.payload.fields) : destinationReads finish c tr =
      ((udpHistory tr).filterMap (UdpEvent.enqueuedFor c)).map fun m =>
        (m.addr, some (some m.payload)) := by
  refine List.map_congr_left fun m hm => ?_
  have hread : readProxyDestinationMessage (.ofBytes (finish m.payload.fields)) =
      some (some m.payload) :=
    proxyDestinationMessage_read_back (by rw [bytes_ofBytes]; exact hfinish m hm)
  rw [hread]

/-- The payloads of the client messages among the datagrams for a client. -/
theorem datagramPayloads_eq (c : ClientId) (tr : List DeploymentEvent) : datagramPayloads c tr =
    ((udpHistory tr).filterMap (UdpEvent.enqueuedFor c)).filterMap
      (OutgoingMessage.clientData c) := by
  unfold datagramPayloads
  generalize udpHistory tr = l
  rw [List.filterMap_filterMap]
  congr 1
  funext e
  rw [UdpEvent.enqueuedFor_eq, UdpEvent.clientDataOut]
  cases e.enqueued with
  | none => rfl
  | some m =>
    by_cases hc : m.payload.clientId = c
    · simp [Option.filter, hc]
    · simp [Option.filter, hc, OutgoingMessage.clientData]

theorem payloads_of_opened {addr : UDPAddr} {l : List OutgoingMessage} {appData : Option Bytes}
    {messages : List (Option Bytes)}
    (hl : l = ⟨addr, ⟨.proxyDestConnectionRequest, c, appData⟩⟩ ::
      messages.map fun data => ⟨addr, ⟨.proxyDestClientMessage, c, data⟩⟩) :
    l.filterMap (OutgoingMessage.clientData c) = messages := by
  subst hl
  rw [List.filterMap_cons_none (by simp [OutgoingMessage.clientData]), List.filterMap_map]
  exact (List.filterMap_congr fun d _ => by simp [OutgoingMessage.clientData]).trans
    List.filterMap_some

/-- The app data of a client's request is that of its first packet. -/
theorem requests_appData (h : Run cfg tr s) (hlt : (newIds tr).length < 2 ^ 32)
    (hk : Homed tr c name k) {packet : Slice}
    (hpacket : (transportPackets name k tr).head? = some packet)
    {connectionString appData : Option Bytes}
    (hfirst : IsConnectClientMessage packet.bytes connectionString appData) {a : Option Bytes}
    (ha : a ∈ requests c tr) : a = appData := by
  obtain ⟨name', k', packet', authMsg', cmd, hk', hpacket', hparse', hcmd, rfl⟩ :=
    requests_from h ha
  obtain ⟨rfl, rfl⟩ := hk'.unique h hlt hk
  obtain rfl : packet' = packet := Option.some.inj (hpacket'.symm.trans hpacket)
  obtain ⟨authMsg, hparse, hread⟩ := connectClientMessage_read hfirst c cmd.recvTimestamp
  cases hparse.symm.trans hparse'
  exact congrArg OpenClientConnectionCommand.appData (Option.some.inj (hcmd.symm.trans hread))

/-- In every history with fewer than `2 ^ 32` allocations, for a client whose first packet is a
`ConnectClientMessage`: if the builder has built the datagrams enqueued for it, its destination
reads nothing from them, or a connection request of this client with the app data of that packet,
then messages of this client whose data are, in order, a subsequence of the packets its transport
has put after the first, then at most a close of this client, and all of it arrives at one
address. -/
theorem destination_reads (h : Run cfg tr s) (hlt : (newIds tr).length < 2 ^ 32)
    (hk : Homed tr c name k) {packet : Slice}
    (hpacket : (transportPackets name k tr).head? = some packet)
    {connectionString appData : Option Bytes}
    (hfirst : IsConnectClientMessage packet.bytes connectionString appData)
    {finish : List (Option Cell) → Bytes}
    (hfinish : ∀ m ∈ (udpHistory tr).filterMap (UdpEvent.enqueuedFor c),
      Finished (finish m.payload.fields) m.payload.fields) :
    destinationReads finish c tr = [] ∨
    ∃ (addr : UDPAddr) (messages : List (Option Bytes)),
      messages.Sublist ((transportPackets name k tr).tail.map payload) ∧
      ∃ closes : List ProxyDestinationMessage,
        (closes = [] ∨ closes = [⟨.proxyDestCloseConnection, c, none⟩]) ∧
        destinationReads finish c tr =
          (⟨.proxyDestConnectionRequest, c, appData⟩ ::
            (messages.map (fun data => ⟨.proxyDestClientMessage, c, data⟩) ++ closes)).map
              fun m => (addr, some (some m)) := by
  rw [destinationReads_eq hfinish]
  obtain ⟨conn, -, hrun⟩ := conn_of_homed h hk
  have hsub := (payloads_sublist h hlt hk).trans (Connection.sublist_puts hrun)
  rw [datagramPayloads_eq] at hsub
  have hasked : ∀ m ∈ (udpHistory tr).filterMap (UdpEvent.enqueuedFor c),
      m.payload.innerMessage = .proxyDestConnectionRequest → m.payload.appData = appData := by
    intro m hm hreq
    have hmem := (((asked_sublist h c).trans (registered_sublist h c)).trans
      (attached_sublist h c)).subset (asked_of_enqueued hm hreq)
    exact requests_appData h hlt hk hpacket hfirst hmem
  have hany := (Udp.keeps (udp_run h) (oneOpen h hlt c)).any
  generalize (udpHistory tr).filterMap (UdpEvent.enqueuedFor c) = l at hany hsub hasked ⊢
  rcases hany with rfl | ⟨addr, ⟨appData', messages, hl⟩ | ⟨l', ⟨appData', messages, hl'⟩, hl⟩⟩
  · exact .inl rfl
  · obtain rfl : appData' = appData := hasked ⟨addr, ⟨.proxyDestConnectionRequest, c, appData'⟩⟩
      (by simp [hl]) rfl
    rw [payloads_of_opened hl] at hsub
    refine .inr ⟨addr, messages, hsub, [], .inl rfl, ?_⟩
    rw [hl]
    simp [Function.comp_def]
  · obtain rfl : appData' = appData := hasked ⟨addr, ⟨.proxyDestConnectionRequest, c, appData'⟩⟩
      (by simp [hl, hl']) rfl
    rw [hl, List.filterMap_append, payloads_of_opened hl', List.filterMap_cons_none
      (by simp [OutgoingMessage.clientData]), List.filterMap_nil, List.append_nil] at hsub
    refine .inr ⟨addr, messages, hsub, [⟨.proxyDestCloseConnection, c, none⟩], .inr rfl, ?_⟩
    rw [hl, hl']
    simp [Function.comp_def]

/-- The bytes the builder gives for the two datagrams of `twoClients`. -/
def builtTwoClients (fields : List (Option Cell)) : Bytes :=
  if fields = (Udp.connectionRequest Sample.openCommand Sample.addr).payload.fields then
    [0x0c, 0, 0, 0, 0x08, 0, 0x0a, 0, 0x09, 0, 0x04, 0, 0x08, 0, 0, 0, 0x0c, 0, 0, 0, 0, 0x01, 0x06,
      0, 0x08, 0, 0x04, 0, 0x06, 0, 0, 0, 0x01, 0, 0, 0]
  else
    [0x10, 0, 0, 0, 0, 0, 0x0a, 0, 0x10, 0, 0x0f, 0, 0x08, 0, 0x04, 0, 0x0a, 0, 0, 0, 0x0c, 0, 0, 0,
      0x14, 0, 0, 0, 0, 0, 0, 0x02, 0x01, 0, 0, 0, 0x07, 0, 0x06, 0, 0x08, 0, 0x04, 0, 0x06, 0, 0,
      0, 0x01, 0, 0, 0]

set_option maxRecDepth 100000 in
theorem destination_reads_twoClients :
    (∃ (addr : UDPAddr) (messages : List (Option Bytes)),
      messages.Sublist ((transportPackets "WebSocket" 0 twoClients).tail.map payload) ∧
      ∃ closes : List ProxyDestinationMessage,
        (closes = [] ∨ closes = [⟨.proxyDestCloseConnection, 1, none⟩]) ∧
        destinationReads builtTwoClients 1 twoClients =
          (⟨.proxyDestConnectionRequest, 1, none⟩ ::
            (messages.map (fun data => ⟨.proxyDestClientMessage, 1, data⟩) ++ closes)).map
              fun m => (addr, some (some m))) ∧
    (destinationReads builtTwoClients 1 twoClients).length = 2 := by
  have hrun : (automaton bothTransports).Admits (start bothTransports) twoClients := by
    decide +kernel
  have hk : Homed twoClients 1 "WebSocket" 0 := by decide +kernel
  have hlength : (destinationReads builtTwoClients 1 twoClients).length = 2 := by decide +kernel
  have hpacket : (transportPackets "WebSocket" 0 twoClients).head? = some Sample.authPacket := by
    decide +kernel
  have hfirst : IsConnectClientMessage Sample.authPacket.bytes
      (some Sample.openCommand.connectionString) none :=
    ⟨[bytesCell (some Sample.openCommand.connectionString), none], by decide +kernel, rfl, rfl⟩
  have hbuilt : ∀ m ∈ (udpHistory twoClients).filterMap (UdpEvent.enqueuedFor 1),
      Finished (builtTwoClients m.payload.fields) m.payload.fields := by decide +kernel
  have hreads := destination_reads (Automaton.Admits.run hrun) (by decide +kernel) hk hpacket
    hfirst hbuilt
  refine ⟨hreads.resolve_left fun hnil => ?_, hlength⟩
  simp [hnil] at hlength

end Deployment
end Spanreed
