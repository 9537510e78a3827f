import Spanreed.HelloSystem

/-! # The example client

`connectWebsocket` and `connectWebtransport` of `examples/hello-spanreed/client/src/Connection.ts`
as an automaton, and the whole way from them through the proxy to the example server
(`connect_end_to_end`): when the promise of a user resolves, the server has the user under the name
that was given here, also if the datagrams of WebTransport are lost or come in another order. -/

namespace Spanreed
open Flatbuffers Automata

/-- The `ClientMessage` that is the app data of a user's first packet. -/
def userConnectFields (userName : Bytes) : List (Option Cell) :=
  [some (.leaf (.byte 1)), some (.table [some (.bytes userName)])]

/-- The `ConnectClientMessage` that is a user's first packet. -/
def connectClientFields (backendAddress appData : Bytes) : List (Option Cell) :=
  [bytesCell (some backendAddress), bytesCell (some appData)]

/-- `accepted` of the generated `ConnectClientVerdict`: `none` if it would be read from outside the
packet. -/
def verdictAccepted (packet : Slice) : Option Bool := do
  let t ← getRoot packet
  let accepted ← t.field 4 t.getByte 0
  pure (accepted != 0)

/-- What the builder `finish` is asked to build for a user. -/
def connectPayload (finish : List (Option Cell) → Bytes) (backendAddress userName : Bytes) :
    Bytes :=
  finish (connectClientFields backendAddress (finish (userConnectFields userName)))

/-! ## The promise -/

inductive ConnectPc
  | connecting
  | awaitingVerdict
  | resolved
  | rejected
deriving DecidableEq

structure HelloClient where
  pc : ConnectPc
  sent : List Bytes
  /-- `ws.close()` was called -/
  closed : Bool
deriving DecidableEq

inductive HelloClientEvent
  /-- `onopen`, or `wt.ready` -/
  | ready
  /-- `onerror`, or `wt.closed` before `wt.ready` -/
  | fails
  | message (packet : Slice) (accepted : Bool)
  /-- `onclose`, or the reader is done -/
  | closes

namespace HelloClient

def start : HelloClient := ⟨.connecting, [], false⟩

def enabled (s : HelloClient) : HelloClientEvent → Prop
  | .ready | .fails => s.pc = .connecting
  -- where the packet is too short for what is read, the outcome is left open
  | .message packet accepted => s.pc = .awaitingVerdict ∧
      (verdictAccepted packet).getD accepted = accepted
  | .closes => s.pc = .awaitingVerdict

def next (payload : Bytes) (closesOnReject : Bool) (s : HelloClient) :
    HelloClientEvent → HelloClient
  | .ready => { s with pc := .awaitingVerdict, sent := s.sent ++ [payload] }
  | .fails => { s with pc := .rejected }
  | .message _ true => { s with pc := .resolved }
  | .message _ false | .closes => { s with pc := .rejected, closed := closesOnReject }

def connect (payload : Bytes) (closesOnReject : Bool) :
    Automaton HelloClient HelloClientEvent where
  enabled := enabled
  next := next payload closesOnReject

def connectWebsocket (payload : Bytes) : Automaton HelloClient HelloClientEvent :=
  connect payload true

def connectWebtransport (payload : Bytes) : Automaton HelloClient HelloClientEvent :=
  connect payload false

variable {payload : Bytes} {closesOnReject : Bool} {tr : List HelloClientEvent} {s : HelloClient}

instance (s : HelloClient) : ∀ e, Decidable (s.enabled e)
  | .ready | .fails | .closes => inferInstanceAs (Decidable (_ = _))
  | .message .. => inferInstanceAs (Decidable (_ ∧ _))

instance (s : HelloClient) (e : HelloClientEvent) :
    Decidable ((connect payload closesOnReject).enabled s e) :=
  inferInstanceAs (Decidable (s.enabled e))

/-- The client sends nothing but its first packet. -/
theorem sent_payload (h : (connect payload closesOnReject).Run start tr s) :
    ∀ b ∈ s.sent, b = payload := by
  refine h.invariant (I := fun s => ∀ b ∈ s.sent, b = payload) (by simp [start]) ?_
  intro s e hs he
  cases e with
  | ready =>
    intro b hb
    rcases List.mem_append.mp hb with hb | hb
    · exact hs b hb
    · exact List.mem_singleton.mp hb
  | message packet accepted => cases accepted <;> exact hs
  | _ => exact hs

/-- The promise resolves by a packet that is no refusal. -/
theorem message_of_resolved (h : (connect payload closesOnReject).Run start tr s)
    (hc : s.pc = .resolved) :
    ∃ packet, .message packet true ∈ tr ∧ verdictAccepted packet ≠ some false := by
  induction h with
  | nil => cases hc
  | @snoc tr s e hr he ih =>
    cases e with
    | message packet accepted =>
      cases accepted with
      | true =>
        refine ⟨packet, by simp, fun hfalse => ?_⟩
        have hacc := he.2
        simp [hfalse] at hacc
      | false => cases hc
    | _ => cases hc

end HelloClient

/-! ## What is read at the other end -/

/-- The server reads the name that the client has written. -/
theorem userConnect_read {appData userName : Bytes}
    (h : Finished appData (userConnectFields userName)) :
    readClientMessage (.ofBytes appData) = some (.userConnectMessage (some userName)) := by
  have hbytes : (Slice.ofBytes appData).bytes = appData := Deployment.bytes_ofBytes appData
  generalize Slice.ofBytes appData = buf at hbytes ⊢
  obtain ⟨pos, hroot, htable⟩ := h.getRoot hbytes
  have htype : ClientMessageTable.userMessageType (TableAt.read buf pos) = some 1 :=
    htable.byte_field (i := 0) (o := some (.byte 1)) hbytes (by decide) cell_leaf rfl
      (.inl rfl : IsByte 0 1 _)
  obtain ⟨e, pos', hoff, hne, hunion, hut⟩ :=
    htable.union_field (i := 1) (x := [some (.bytes userName)]) hbytes (by decide) rfl
  obtain ⟨str, hstr, hname⟩ := hut.bytes_field (i := 0) (b := some userName) hbytes (by decide)
    leaf_leaf (by simp)
  have hmsg : ClientMessageTable.userMessage (TableAt.read buf pos) =
      some (some (TableAt.read buf pos')) := by
    have hoff : (TableAt.read buf pos).offset 6 = some e := hoff
    simp [ClientMessageTable.userMessage, hoff, hne, hunion]
  have hstr : UserConnectMessage.name (TableAt.read buf pos') = some str := hstr
  simp [readClientMessage, hroot, htype, hmsg, hstr, hname]

/-- The client reads the verdict that the proxy has written. -/
theorem verdictAccepted_read {accepted : Bool} {reason : Bytes} {appData : Option Bytes}
    {packet : Slice} (h : Finished packet.bytes (createVerdictMsg accepted reason appData)) :
    verdictAccepted packet = some accepted := by
  obtain ⟨pos, hroot, htable⟩ := h.getRoot rfl
  have hbyte : IsByte 0 (if accepted then 1 else 0) (prependBoolSlot accepted false) := by
    cases accepted
    · exact .inr ⟨rfl, rfl⟩
    · exact .inl rfl
  have hacc : (TableAt.read packet pos).field 4 (TableAt.read packet pos).getByte 0 =
      some (if accepted then 1 else 0) :=
    htable.byte_field (i := 0) rfl (by decide) cell_leaf rfl hbyte
  cases accepted <;> simp [verdictAccepted, hroot, hacc]

/-! ## The whole way -/

/-- The bytes of a packet for the client. -/
def Packet.bytes (finish : List (Option Cell) → Bytes) : Packet → Bytes
  | .verdict accepted reason appData => finish (createVerdictMsg accepted reason appData)
  | .data d => d.getD []

/-- The packets handed to the transport of connection `k` of router `name`. -/
def handedPackets (name : String) (k : Nat) (tr : List DeploymentEvent) : List Packet :=
  (connectionTrace k (Deployment.routerHistory name tr)).filterMap ConnectionEvent.emitted

namespace HelloSystem
variable {cfg : HelloConfig} {tr : List HelloEvent} {s : HelloSystem} {c : ClientId}
  {name : String} {k : Nat} {finish : List (Option Cell) → Bytes}

/-- A client that is handed anything but a refusal is accepted. -/
theorem accepted_of_handed (h : Run cfg tr s)
    (hk : Deployment.Homed (proxyHistory tr) c name k) {p : Packet}
    (hp : p ∈ handedPackets name k (proxyHistory tr))
    (hne : ∀ reason appData, p ≠ .verdict false reason appData) : ∃ reason appData,
      .router name (.conn k (.emitVerdict true reason appData)) ∈ proxyHistory tr := by
  obtain ⟨conn, -, hrun⟩ := Deployment.conn_of_homed (proxy_run h) hk
  rcases Connection.emitted_shape hrun with hnil | ⟨reason, appData, hrefused⟩ |
    ⟨reason, appData, ds, hshape⟩
  · rw [handedPackets, hnil] at hp
    cases hp
  · rw [handedPackets, hrefused, List.mem_singleton] at hp
    exact (hne reason appData hp).elim
  · have hmem : Packet.verdict true reason appData ∈
        handedPackets name k (proxyHistory tr) := by simp [handedPackets, hshape]
    obtain ⟨e, he, hem⟩ := List.mem_filterMap.mp hmem
    cases e <;> cases hem
    exact ⟨reason, appData, Deployment.conn_of_mem (proxy_run h) he rfl⟩

/-- From the promise to the table of the server. The first packet of a connection of the proxy is
the one that the client has sent for a user, and what the client gets are packets that were handed
to the transport of this connection, any of them and in any order. If the promise resolves, the
server has inserted the client under the name of the user. -/
theorem connect_end_to_end (h : Run cfg tr s) (hbuilt : Built cfg s)
    (hlt : (Deployment.newIds (proxyHistory tr)).length < 2 ^ 32)
    (hk : Deployment.Homed (proxyHistory tr) c name k)
    (hverify : ∀ appData, cfg.server.clientMessage appData = none ∨
      cfg.server.clientMessage appData = readClientMessage (.ofBytes appData))
    {backendAddress userName : Bytes}
    (huser : Finished (finish (userConnectFields userName)) (userConnectFields userName))
    (hfirst : Finished (connectPayload finish backendAddress userName)
      (connectClientFields backendAddress (finish (userConnectFields userName))))
    (hverdicts : ∀ accepted reason appData,
      .verdict accepted reason appData ∈ handedPackets name k (proxyHistory tr) →
      Finished (finish (createVerdictMsg accepted reason appData))
        (createVerdictMsg accepted reason appData))
    {closesOnReject : Bool} {ctr : List HelloClientEvent} {client : HelloClient}
    (hclient : (HelloClient.connect (connectPayload finish backendAddress userName)
      closesOnReject).Run .start ctr client)
    (hput : ∀ packet ∈ (Deployment.transportPackets name k (proxyHistory tr)).head?,
      packet.bytes ∈ client.sent)
    (hgot : ∀ packet accepted, .message packet accepted ∈ ctr →
      ∃ p ∈ handedPackets name k (proxyHistory tr), packet.bytes = p.bytes finish)
    (hresolved : client.pc = .resolved) :
    ∃ now, .server (.insert cfg.proxyAddr c userName now) ∈ tr := by
  -- what the client has got is no refusal
  obtain ⟨packet, hmsg, hnot⟩ := HelloClient.message_of_resolved hclient hresolved
  obtain ⟨p, hp, hbytes⟩ := hgot packet true hmsg
  have hne : ∀ reason appData, p ≠ .verdict false reason appData := by
    rintro reason appData rfl
    have hfin := hverdicts false reason appData hp
    rw [show finish (createVerdictMsg false reason appData) = packet.bytes from hbytes.symm] at hfin
    exact hnot (verdictAccepted_read hfin)
  obtain ⟨reason, appData, hacc⟩ := accepted_of_handed h hk hp hne
  obtain ⟨userName', now, hins⟩ := inserted_of_accepted h hbuilt hk hacc
  -- the request that the server has answered carries the app data of the first packet
  obtain ⟨data, hreq, hdata⟩ := requested_of_inserted h hins
  obtain ⟨name', k', first, authMsg, cmd, hk', hhead, hparse, hcmd, happ⟩ :=
    Deployment.requests_from (proxy_run h) hreq
  obtain ⟨rfl, rfl⟩ := hk'.unique (proxy_run h) hlt hk
  have hsent := HelloClient.sent_payload hclient _ (hput first hhead)
  have hconnect : IsConnectClientMessage first.bytes (some backendAddress)
      (some (finish (userConnectFields userName))) := ⟨_, hsent ▸ hfirst, rfl, rfl⟩
  obtain ⟨authMsg', hparse', hread⟩ := connectClientMessage_read hconnect c cmd.recvTimestamp
  cases hparse.symm.trans hparse'
  have hcmd := Option.some.inj (hcmd.symm.trans hread)
  obtain rfl : finish (userConnectFields userName) = data := by
    rw [hcmd] at happ
    exact Option.some.inj happ
  -- and it is read there as it was meant
  rcases hverify (finish (userConnectFields userName)) with hno | hyes
  · rw [hno] at hdata
    cases hdata
  · rw [hyes, userConnect_read huser] at hdata
    cases hdata
    exact ⟨now, of_serverHistory hins⟩

/-- The bytes the builders give for what the client of `ann` and the proxy write in `annJoins`. -/
def annFinish (fields : List (Option Cell)) : Bytes :=
  if fields = userConnectFields (ascii "ann") then Sample.userMessage 1 (ascii "ann")
  else if fields = createVerdictMsg true [] none then
    [0x0c, 0, 0, 0, 0, 0, 0x06, 0, 0x08, 0, 0x07, 0, 0x06, 0, 0, 0, 0, 0, 0, 0x01]
  else annPacket.bytes

/-- The client of `ann` gets her verdict. -/
def annConnects : List HelloClientEvent :=
  [.ready, .message (.ofBytes (annFinish (createVerdictMsg true [] none))) true]

set_option maxRecDepth 100000 in
theorem connect_end_to_end_annJoins :
    ∃ now, .server (.insert Sample.proxyAddr 1 (ascii "ann") now) ∈ annJoins := by
  have hclient : (HelloClient.connect (connectPayload annFinish (ascii "udp:a") (ascii "ann"))
      true).Admits .start annConnects := by decide +kernel
  have hhanded : handedPackets "WebSocket" 0 (proxyHistory annJoins) = [.verdict true [] none] := by
    decide +kernel
  have hhead : (Deployment.transportPackets "WebSocket" 0 (proxyHistory annJoins)).head? =
      some annPacket := by decide +kernel
  refine @connect_end_to_end _ _ _ 1 "WebSocket" 0 annFinish (Automaton.Admits.run admits_annJoins)
    built_annJoins (by decide +kernel) (by decide +kernel) (fun appData => .inr rfl)
    (ascii "udp:a") (ascii "ann") (by decide +kernel) (by decide +kernel) ?_ true annConnects _
    (Automaton.Admits.run hclient) ?_ ?_ rfl
  · intro accepted reason appData hp
    rw [hhanded, List.mem_singleton] at hp
    cases hp
    decide +kernel
  · intro packet hpacket
    rw [hhead] at hpacket
    cases hpacket
    decide +kernel
  · intro packet accepted hmsg
    rw [hhanded]
    refine ⟨_, List.mem_singleton_self _, ?_⟩
    simp only [annConnects, List.mem_cons, reduceCtorEq, HelloClientEvent.message.injEq,
      List.not_mem_nil, or_false, false_or] at hmsg
    rw [hmsg.1]
    exact Deployment.bytes_ofBytes _

end HelloSystem
end Spanreed
