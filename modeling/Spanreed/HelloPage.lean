import Spanreed.HelloClient

/-! # The page of the example client

The message handlers of `examples/hello-spanreed/client/src/DemoPage.tsx`, and what they show of
what the server has sent: a chat that a page shows under a name was sent by the user who has joined
under this name, over a connection of this user's own (`page_authentic`).

A float is its bits here. -/

namespace Spanreed
open Flatbuffers Automata

/-! ## What the server writes -/

def Color.value : Color → UInt8
  | .red => 0
  | .green => 1
  | .blue => 2
  | .indigo => 3
  | .fireOrange => 4

/-- The fields of the struct `Dot`. -/
def Dot.fields (dot : Dot) : List (Nat × Scalar) :=
  [(0, .uint32 dot.x.toBits), (4, .uint32 dot.y.toBits), (8, .uint32 dot.radius.toBits),
    (12, .byte dot.color.value)]

/-- What the builder is asked to build for a `ServerMessage`. -/
def ServerMessage.fields : ServerMessage → List (Option Cell)
  | .serverChatMessage user text =>
    [some (.leaf (.byte 1)), some (.table [some (.bytes user), some (.bytes text)])]
  | .serverGameStateMessage dots =>
    [some (.leaf (.byte 2)), some (.table [some (.structs 16 (dots.map Dot.fields))])]

/-! ## What the page reads -/

namespace ServerMessageTable

def messageType (t : Table) : Option UInt8 := t.field 4 t.getByte 0

def message (t : Table) : Option (Option Table) := do
  let o := (← t.offset 6).toUInt32
  if o ≠ 0 then (t.union o).map some else pure none

end ServerMessageTable

def ServerChatMessage.user (t : Table) : Option (Option Slice) := t.bytesField 4
def ServerChatMessage.text (t : Table) : Option (Option Slice) := t.bytesField 6

def ServerGameStateMessage.dotsLength (t : Table) : Option UInt32 := t.field 4 t.vectorLen 0

def ServerGameStateMessage.dots (t : Table) (index : UInt32) : Option (Option Table) :=
  t.field 4 (fun off => (t.vector off).map fun vec => some ⟨t.bytes, vec + index * 16⟩) none

namespace DotStruct

def x (t : Table) : Option UInt32 := t.getUint32 t.pos
def y (t : Table) : Option UInt32 := t.getUint32 (t.pos + 4)
def radius (t : Table) : Option UInt32 := t.getUint32 (t.pos + 8)
def color (t : Table) : Option UInt8 := t.getByte (t.pos + 12)

end DotStruct

def mapColor (color : UInt8) : Bytes :=
  match color with
  | 2 => [70, 194, 219]
  | 4 => [246, 206, 29]
  | 1 => [168, 224, 157]
  | 3 => [167, 83, 255]
  | _ => [229, 47, 15]

structure PageDot where
  x : UInt32
  y : UInt32
  radius : UInt32
  color : Bytes
deriving DecidableEq

inductive LogLevel
  | debug
  | info
  | warning
  | error
  | userChat
deriving DecidableEq

/-- What the handlers have logged, and the dots of the last game state. -/
structure DemoPage where
  lines : List (Bytes × LogLevel)
  dots : Option (List PageDot)
deriving DecidableEq

/-- How a connection is closed: a WebSocket, a WebTransport session, or one with an error. -/
inductive PageClosing
  | websocket
  | webtransport
  | webtransportError (e : Bytes)

inductive PageEvent
  | message (data : Slice)
  /-- a WebSocket message that is no `ArrayBuffer` -/
  | text
  | close (how : PageClosing)

def wrapLogFn (name msg : Bytes) : Bytes := ascii "[" ++ name ++ ascii "] " ++ msg

/-- The line of a chat. -/
def chatLine (user text : Bytes) : Bytes := ascii "[" ++ user ++ ascii "]: " ++ text

namespace DemoPage

def start : DemoPage := ⟨[], none⟩

/-- The loop over the dots of a game state, from `dotIdx` on. -/
def readDots (gameState : Table) (dotIdx : Nat) : Nat → Option (List PageDot)
  | 0 => pure []
  | n + 1 => do
    let dot ← ServerGameStateMessage.dots gameState (.ofNat dotIdx)
    match dot with
    | none => readDots gameState (dotIdx + 1) n
    | some dot =>
      let color := mapColor (← DotStruct.color dot)
      let radius ← DotStruct.radius dot
      let x ← DotStruct.x dot
      let y ← DotStruct.y dot
      let gameDots ← readDots gameState (dotIdx + 1) n
      pure (⟨x, y, radius, color⟩ :: gameDots)

/-- `log` of the page -/
def log (page : DemoPage) (msg : Bytes) (level : LogLevel) : DemoPage :=
  { page with lines := page.lines ++ [(wrapLogFn (ascii "DemoPage") msg, level)] }

/-- `onmessage` of a WebSocket, and one round of the loop over the datagrams of WebTransport. A null
table makes it throw, which is `none`, as is a read outside the message. -/
def onmessage (page : DemoPage) (data : Slice) : Option DemoPage := do
  let serverMessage ← getRoot data
  match ← ServerMessageTable.messageType serverMessage with
  | 1 =>
    let gameMessage ← (← ServerMessageTable.message serverMessage)
    let user ← ServerChatMessage.user gameMessage
    let text ← ServerChatMessage.text gameMessage
    let line := chatLine ((user.map Slice.bytes).getD (ascii "null"))
      ((text.map Slice.bytes).getD (ascii "null"))
    pure { page with lines := page.lines ++ [(line, .userChat)] }
  | 2 =>
    let gameState ← (← ServerMessageTable.message serverMessage)
    let dotsCt ← ServerGameStateMessage.dotsLength gameState
    let gameDots ← readDots gameState 0 dotsCt.toNat
    pure { page with dots := some gameDots }
  | _ => pure (page.log (ascii "Unexpected server message type, cannot process") .warning)

def logClosing (page : DemoPage) : PageClosing → DemoPage
  | .websocket => page.log (ascii "Spanreed connection is closing!") .info
  | .webtransport => page.log (ascii "Spanreed connection is closing naturally") .info
  | .webtransportError e => page.log (ascii "Spanreed connection closed with error: " ++ e) .error

/-- A handler that throws has changed nothing. A page without a connection shows no dots. -/
def next (page : DemoPage) : PageEvent → DemoPage
  | .message data => (page.onmessage data).getD page
  | .text => page.log (ascii "Non-ArrayBuffer for websocket message!") .warning
  | .close how => { page.logClosing how with dots := none }

/-! ## What the page shows -/

variable {page : DemoPage} {data : Slice} {msg : ServerMessage}

/-- A dot of the server, as the page draws it. -/
def draw (dot : Dot) : PageDot :=
  ⟨dot.x.toBits, dot.y.toBits, dot.radius.toBits, mapColor dot.color.value⟩

/-- The page after a message of the server. -/
def shows (page : DemoPage) : ServerMessage → DemoPage
  | .serverChatMessage user text =>
    { page with lines := page.lines ++ [(chatLine user text, .userChat)] }
  | .serverGameStateMessage dots => { page with dots := some (dots.map draw) }

theorem readDot_eq {b : Slice} {buf : Bytes} {p : Nat} {dot : Dot} (hs : b.bytes = buf)
    (hshort : buf.length < 2 ^ 31)
    (hat : ∀ field ∈ dot.fields, field.2.At buf (p + field.1)) :
    DotStruct.x ⟨b, UInt32.ofNat p⟩ = some dot.x.toBits ∧
    DotStruct.y ⟨b, UInt32.ofNat p⟩ = some dot.y.toBits ∧
    DotStruct.radius ⟨b, UInt32.ofNat p⟩ = some dot.radius.toBits ∧
    DotStruct.color ⟨b, UInt32.ofNat p⟩ = some dot.color.value := by
  have hs' : (⟨b, UInt32.ofNat p⟩ : Table).bytes.bytes = buf := hs
  refine ⟨?_, ?_, ?_, ?_⟩
  · exact Table.getUint32_of_at hs' hshort (hat (0, .uint32 dot.x.toBits) (by simp [Dot.fields]))
  · rw [DotStruct.y, show (4 : UInt32) = UInt32.ofNat 4 from rfl, ← UInt32.ofNat_add]
    exact Table.getUint32_of_at hs' hshort (hat (4, .uint32 dot.y.toBits) (by simp [Dot.fields]))
  · rw [DotStruct.radius, show (8 : UInt32) = UInt32.ofNat 8 from rfl, ← UInt32.ofNat_add]
    exact Table.getUint32_of_at hs' hshort
      (hat (8, .uint32 dot.radius.toBits) (by simp [Dot.fields]))
  · rw [DotStruct.color, show (12 : UInt32) = UInt32.ofNat 12 from rfl, ← UInt32.ofNat_add]
    exact Table.getByte_of_at hs' hshort (hat (12, .byte dot.color.value) (by simp [Dot.fields]))

/-- The loop reads every dot at its place. -/
theorem readDots_eq {t : Table} {buf : Bytes} {vec : Nat} (hs : t.bytes.bytes = buf)
    (hshort : buf.length < 2 ^ 31)
    (hdots : ∀ index, ServerGameStateMessage.dots t index =
      some (some ⟨t.bytes, UInt32.ofNat vec + index * 16⟩)) {dots : List Dot} {i : Nat}
    (hat : ∀ item ∈ (dots.map Dot.fields).zipIdx i, ∀ field ∈ item.1,
      field.2.At buf (vec + 16 * item.2 + field.1)) :
    readDots t i dots.length = some (dots.map draw) := by
  induction dots generalizing i with
  | nil => rfl
  | cons dot dots ih =>
    rw [List.map_cons, List.zipIdx_cons] at hat
    have hrest := ih (i := i + 1) fun item hitem => hat item (List.mem_cons_of_mem _ hitem)
    have hplace : UInt32.ofNat vec + UInt32.ofNat i * 16 = UInt32.ofNat (vec + 16 * i) := by
      rw [UInt32.ofNat_add, UInt32.ofNat_mul, mul_comm]
      rfl
    have hdot := hdots (.ofNat i)
    have hread := readDot_eq hs hshort (hat (dot.fields, i) List.mem_cons_self)
    rw [hplace] at hdot
    generalize UInt32.ofNat (vec + 16 * i) = q at hdot hread
    obtain ⟨hx, hy, hradius, hcolor⟩ := hread
    simp [readDots, hdot, hx, hy, hradius, hcolor, hrest, draw]

theorem message_eq {pos : Nat} {x : List (Option Leaf)} {o : Option Cell}
    (h : TableAt (Cell.At data.bytes) data.bytes pos [o, some (.table x)]) :
    ∃ pos', ServerMessageTable.message (TableAt.read data pos) =
        some (some (TableAt.read data pos')) ∧
      TableAt (Leaf.At data.bytes) data.bytes pos' x := by
  obtain ⟨e, pos', hoff, hne, hunion, hut⟩ := h.union_field (i := 1) rfl (by decide) rfl
  have hoff : (TableAt.read data pos).offset 6 = some e := hoff
  exact ⟨pos', by simp [ServerMessageTable.message, hoff, hne, hunion], hut⟩

/-- The page shows what the server has written. -/
theorem onmessage_eq (h : Finished data.bytes msg.fields) :
    page.onmessage data = some (page.shows msg) := by
  obtain ⟨pos, hroot, htable⟩ := h.getRoot rfl
  cases msg with
  | serverChatMessage user text =>
    have htype : ServerMessageTable.messageType (TableAt.read data pos) = some 1 :=
      htable.byte_field (i := 0) (o := some (.byte 1)) rfl (by decide) cell_leaf rfl
        (.inl rfl : IsByte 0 1 _)
    obtain ⟨pos', hmsg, hut⟩ := message_eq htable
    obtain ⟨u, hu, huser⟩ := hut.bytes_field (i := 0) (b := some user) rfl (by decide)
      leaf_leaf (by simp)
    obtain ⟨t, ht, htext⟩ := hut.bytes_field (i := 1) (b := some text) rfl (by decide)
      leaf_leaf (by simp)
    have hu : ServerChatMessage.user (TableAt.read data pos') = some u := hu
    have ht : ServerChatMessage.text (TableAt.read data pos') = some t := ht
    simp [onmessage, hroot, htype, hmsg, hu, ht, huser, htext, shows]
  | serverGameStateMessage dots =>
    have htype : ServerMessageTable.messageType (TableAt.read data pos) = some 2 :=
      htable.byte_field (i := 0) (o := some (.byte 2)) rfl (by decide) cell_leaf rfl
        (.inl rfl : IsByte 0 2 _)
    obtain ⟨pos', hmsg, hut⟩ := message_eq htable
    obtain ⟨⟨n, hn, hlen⟩, vec, hvec, hat⟩ :=
      hut.structs_field (i := 0) rfl (by decide) leaf_leaf rfl
    have hn : ServerGameStateMessage.dotsLength (TableAt.read data pos') = some n := hn
    have hdots := readDots_eq (t := TableAt.read data pos') rfl hut.short
      (fun index => hvec _ _) hat
    rw [List.length_map] at hlen
    simp [onmessage, hroot, htype, hmsg, hn, hlen, hdots, shows]

/-! ## Whole histories of a page -/

/-- All that a page shows comes from messages with `P`. -/
structure Shown (P : ServerMessage → Prop) (page : DemoPage) : Prop where
  chats : ∀ line, (line, LogLevel.userChat) ∈ page.lines →
    ∃ user text, P (.serverChatMessage user text) ∧ line = chatLine user text
  dots : ∀ dots, page.dots = some dots →
    ∃ ds, P (.serverGameStateMessage ds) ∧ dots = ds.map draw

section
variable {P : ServerMessage → Prop}

theorem Shown.log (h : Shown P page) {line : Bytes} {level : LogLevel} (hne : level ≠ .userChat) :
    Shown P (page.log line level) := by
  refine ⟨fun line' hline => ?_, h.dots⟩
  rcases List.mem_append.mp hline with hline | hline
  · exact h.chats line' hline
  · cases List.mem_singleton.mp hline
    exact (hne rfl).elim

theorem Shown.shows (h : Shown P page) (hmsg : P msg) : Shown P (page.shows msg) := by
  cases msg with
  | serverChatMessage user text =>
    refine ⟨fun line hline => ?_, h.dots⟩
    rcases List.mem_append.mp hline with hline | hline
    · exact h.chats line hline
    · cases List.mem_singleton.mp hline
      exact ⟨user, text, hmsg, rfl⟩
  | serverGameStateMessage ds =>
    refine ⟨h.chats, fun dots hdots => ?_⟩
    cases hdots
    exact ⟨ds, hmsg, rfl⟩

theorem Shown.next (h : Shown P page) {e : PageEvent}
    (hgot : ∀ data, e = .message data → ∃ msg, P msg ∧ Finished data.bytes msg.fields) :
    Shown P (page.next e) := by
  cases e with
  | message data =>
    obtain ⟨msg, hmsg, hfin⟩ := hgot data rfl
    rw [DemoPage.next, onmessage_eq hfin]
    exact h.shows hmsg
  | text => exact h.log (by decide)
  | close how =>
    refine ⟨?_, fun dots hdots => by cases hdots⟩
    cases how <;> exact (h.log (by decide)).chats

theorem shown {events : List PageEvent}
    (hgot : ∀ data, .message data ∈ events → ∃ msg, P msg ∧ Finished data.bytes msg.fields) :
    Shown P (events.foldl DemoPage.next .start) := by
  have hstart : Shown P .start := ⟨by simp [start], by simp [start]⟩
  generalize DemoPage.start = page at hstart
  induction events generalizing page with
  | nil => exact hstart
  | cons e events ih =>
    have hnext := hstart.next fun data he => hgot data (he ▸ List.mem_cons_self)
    exact ih (fun data hdata => hgot data (List.mem_cons_of_mem _ hdata)) _ hnext

end
end DemoPage

/-! ## Who has said what -/

namespace HelloSystem
variable {cfg : HelloConfig} {tr : List HelloEvent} {s : HelloSystem} {c : ClientId}
  {name : String} {k : Nat}

/-- The first packet of connection `k` of router `name` has opened it for `c` with app data that
give the name of the user. -/
def JoinsAs (cfg : HelloConfig) (tr : List HelloEvent) (c : ClientId) (name : String) (k : Nat)
    (userName : Bytes) : Prop :=
  ∃ packet authMsg cmd data,
    (Deployment.transportPackets name k (proxyHistory tr)).head? = some packet ∧
    safeParseConnectClientMessage packet = .ok authMsg ∧
    Connection.openCommand c authMsg cmd.recvTimestamp = some cmd ∧ cmd.appData = some data ∧
    cfg.server.clientMessage data = some (.userConnectMessage (some userName))

theorem joinsAs_of_inserted (h : Run cfg tr s) {src : SockaddrIn} {userName : Bytes} {now : UInt64}
    (he : .insert src c userName now ∈ serverHistory tr) :
    ∃ name k, Deployment.Homed (proxyHistory tr) c name k ∧ JoinsAs cfg tr c name k userName := by
  obtain ⟨data, hreq, hdata⟩ := requested_of_inserted h he
  obtain ⟨name, k, packet, authMsg, cmd, hk, hpacket, hparse, hcmd, happ⟩ :=
    Deployment.requests_from (proxy_run h) hreq
  exact ⟨name, k, hk, packet, authMsg, cmd, data, hpacket, hparse, hcmd, happ, hdata⟩

/-- The page of a client, in every history of the whole system with fewer than `2 ^ 32` allocations.
The page gets messages that were handed to the transport of its connection, any of them, in any
order and any number of times. Every chat it shows under a name was a packet of a client whose own
connection was opened under this name; and the dots it shows are those of a game state that the
server has sent to this client. -/
theorem page_authentic (h : Run cfg tr s) (hbuilt : Built cfg s)
    (hlt : (Deployment.newIds (proxyHistory tr)).length < 2 ^ 32)
    (hk : Deployment.Homed (proxyHistory tr) c name k)
    (hserver : ∀ x ∈ s.server.sent, ∀ msg ∈ x.appData,
      Finished (cfg.finishServerMessage msg) msg.fields)
    {events : List PageEvent}
    (hgot : ∀ data, .message data ∈ events →
      some data.bytes ∈ Deployment.handedData name k (proxyHistory tr)) :
    (∀ line, (line, LogLevel.userChat) ∈ (events.foldl DemoPage.next .start).lines →
      ∃ user text c' name' k', line = chatLine user text ∧
        Deployment.Homed (proxyHistory tr) c' name' k' ∧ JoinsAs cfg tr c' name' k' user ∧
        ∃ packet ∈ (Deployment.transportPackets name' k' (proxyHistory tr)).tail,
          cfg.server.clientMessage packet.bytes = some (.userChatMessage (some text))) ∧
    ∀ dots, (events.foldl DemoPage.next .start).dots = some dots →
      ∃ x ∈ s.server.sent, ∃ ds, x.addr = cfg.proxyAddr ∧ x.msg = .proxyMessage c ∧
        x.appData = some (.serverGameStateMessage ds) ∧ dots = ds.map DemoPage.draw := by
  have hshown : DemoPage.Shown (fun msg => ∃ x ∈ s.server.sent, x.addr = cfg.proxyAddr ∧
      x.msg = .proxyMessage c ∧ x.appData = some msg) (events.foldl DemoPage.next .start) := by
    refine DemoPage.shown fun data hdata => ?_
    obtain ⟨x, hx, haddr, hmsg, hd⟩ := sent_of_handed h hbuilt hlt hk (hgot data hdata)
    obtain ⟨msg, happ, hbytes⟩ := Option.map_eq_some_iff.mp hd.symm
    exact ⟨msg, ⟨x, hx, haddr, hmsg, happ⟩, hbytes ▸ hserver x hx msg happ⟩
  constructor
  · intro line hline
    obtain ⟨user, text, ⟨x, hx, -, -, happ⟩, rfl⟩ := hshown.chats line hline
    obtain ⟨c', src, now, data, hins, henq, hread⟩ :=
      HelloServer.said_of_sent (server_run h) hx happ
    obtain ⟨name', k', hk', hjoins⟩ := joinsAs_of_inserted h hins
    obtain ⟨packet, hpacket, hdata⟩ := List.mem_map.mp (packet_of_enqueued h hlt hk' henq)
    cases hdata
    exact ⟨user, text, c', name', k', rfl, hk', hjoins, packet, hpacket, hread⟩
  · intro dots hdots
    obtain ⟨ds, ⟨x, hx, haddr, hmsg, happ⟩, rfl⟩ := hshown.dots dots hdots
    exact ⟨x, hx, ds, haddr, hmsg, happ, rfl⟩

/-- The bytes the builder gives for the `ServerMessage` with the chat `hey` of `ann`. -/
def heyBytes : Bytes :=
  [0x0c, 0, 0, 0, 0x08, 0, 0x0c, 0, 0x07, 0, 0x08, 0, 0x08, 0, 0, 0, 0, 0, 0, 0x01, 0x0c, 0, 0, 0,
    0x08, 0, 0x0c, 0, 0x04, 0, 0x08, 0, 0x08, 0, 0, 0, 0x10, 0, 0, 0, 0x04, 0, 0, 0, 0x03, 0, 0, 0,
    0x68, 0x65, 0x79, 0, 0x03, 0, 0, 0, 0x61, 0x6e, 0x6e, 0]

/-- The datagram with this message for client 1. -/
def heyDatagram : Datagram where
  bytes := [0x10, 0, 0, 0, 0, 0, 0x0a, 0, 0x10, 0, 0x07, 0, 0x08, 0, 0x0c, 0, 0x0a, 0, 0, 0, 0, 0,
    0, 0x01, 0x50, 0, 0, 0, 0x04, 0, 0, 0, 0x3c, 0, 0, 0] ++ heyBytes ++
    [0, 0, 0x06, 0, 0x08, 0, 0x04, 0, 0x06, 0, 0, 0, 0x01, 0, 0, 0]
  len_le := by decide

def chatConfig : HelloConfig :=
  { helloConfig with
    finishServerMessage := fun _ => heyBytes
    finishDestinationMessage := fun msg _ =>
      match msg with
      | .connectionVerdict .. => annVerdict.bytes
      | _ => heyDatagram.bytes }

/-- `ann` sends `hey`, which the proxy writes to the server. -/
def annSays : List DeploymentEvent :=
  let packet : Slice := .ofBytes Sample.helloChat.buffer
  let m : ClientMessage := ⟨1, 0, 0, some Sample.helloChat.buffer⟩
  let dm : DestinationMessage := ⟨1, 0, 0, some Sample.helloChat.buffer⟩
  [.router "WebSocket" (.conn 0 (.put packet)),
    .router "WebSocket" (.conn 0 (.transportPacket packet)),
    .router "WebSocket" (.conn 0 (.transportNow m)),
    .router "WebSocket" (.conn 0 (.transportSend m)), .hub (.recvClientMessage m), .hub (.fwdClientNow m), .hub (.fwdClientName m 0 "UdpDestination"),
    .hub (.fwdClientLookup m 0 "UdpDestination"), .hub (.fwdClientSend dm "UdpDestination"),
    .udp (.recvMessage dm), .udp (.messageLookup dm Sample.addr),
    .udp (.messageSend dm Sample.addr), .udp (.senderTake (Udp.clientMessage dm Sample.addr)),
    .udp (.senderWrite (Udp.clientMessage dm Sample.addr))]

/-- The server sends it to all its clients, that is to `ann`. -/
def serverSays : List HelloServerEvent :=
  [.recvfrom Sample.proxyAddr
      (some ⟨some .proxyDestClientMessage, some 1, some Sample.helloChat.buffer⟩),
    .messageKnown 1 Sample.helloChat.buffer, .enqueue 1 Sample.helloChat.buffer, .frame 1000,
    .dequeue Sample.helloChat, .handle Sample.helloChat Sample.ann 25,
    .snapshot (ascii "ann") (ascii "hey") [Sample.ann],
    .broadcast (ascii "ann") (ascii "hey") Sample.ann []]

/-- The datagram of the server reaches the connection of `ann`. -/
def annHears : List DeploymentEvent :=
  let dm : DestinationMessage := ⟨1, 0, 0, some heyBytes⟩
  let m : ClientMessage := ⟨1, 0, 0, some heyBytes⟩
  [.udp (.readFromUDP Sample.addr heyDatagram),
    .udp (.datagramForward Sample.addr heyDatagram (.message 1 (some heyBytes))),
    .udp (.messageNow Sample.addr dm), .udp (.sendMessage Sample.addr dm),
    .hub (.recvDestinationMessage dm), .hub (.fwdDestNow dm), .hub (.fwdDestName dm 0 "WebSocket"),
    .hub (.fwdDestLookup dm 0 "WebSocket"), .hub (.fwdDestSend m "WebSocket"),
    .router "WebSocket" (.recvMessage m), .router "WebSocket" (.routeMessage m 0),
    .router "WebSocket" (.pushMessage 0 m), .router "WebSocket" (.conn 0 (.proxyMessage m)),
    .router "WebSocket" (.conn 0 (.proxyEmit (some heyBytes)))]

def annChats : List HelloEvent :=
  annJoins ++ annSays.map .proxy ++ serverSays.map .server ++ annHears.map .proxy

set_option maxRecDepth 100000 in
theorem admits_annChats : (automaton chatConfig).Admits (start chatConfig) annChats := by
  decide +kernel

/-- All the server has sent is its verdict about `ann` and her chat. -/
theorem sent_annChats :
    ((automaton chatConfig).exec (start chatConfig) annChats).server.sent =
      [HelloServer.verdict Sample.proxyAddr 1 true, ⟨Sample.proxyAddr, .proxyMessage 1,
        some (.serverChatMessage (ascii "ann") (ascii "hey"))⟩] := by
  rw [(server_run (Automaton.Admits.run admits_annChats)).eq_exec,
    show serverHistory annChats = [Sample.helloRequest 1 (ascii "ann"),
      .vacant Sample.proxyAddr 1 (ascii "ann"), .insert Sample.proxyAddr 1 (ascii "ann") 100] ++
      serverSays from rfl]
  rfl

theorem built_annChats :
    Built chatConfig ((automaton chatConfig).exec (start chatConfig) annChats) := by
  intro x hx
  rw [sent_annChats, List.mem_pair] at hx
  rcases hx with rfl | rfl
  · exact ⟨[some (.leaf (.byte 2)), some (.table [some (.uint32 1), some (.byte 1)]), none],
      [some (.uint32 1), some (.byte 1)], by decide +kernel, rfl, rfl,
      ⟨⟨_, rfl, .inl rfl⟩, ⟨_, rfl, .inl rfl⟩⟩, rfl⟩
  · exact ⟨[some (.leaf (.byte 1)), some (.table [some (.uint32 1)]), bytesCell (some heyBytes)],
      [some (.uint32 1)], by decide +kernel, rfl, rfl, ⟨_, rfl, .inl rfl⟩, rfl⟩

set_option maxRecDepth 100000 in
theorem page_authentic_annChats :
    ∃ user text c' name' k', chatLine (ascii "ann") (ascii "hey") = chatLine user text ∧
      Deployment.Homed (proxyHistory annChats) c' name' k' ∧
      JoinsAs chatConfig annChats c' name' k' user ∧
      ∃ packet ∈ (Deployment.transportPackets name' k' (proxyHistory annChats)).tail,
        chatConfig.server.clientMessage packet.bytes = some (.userChatMessage (some text)) := by
  refine (@page_authentic _ _ _ 1 "WebSocket" 0 (Automaton.Admits.run admits_annChats)
    built_annChats (by decide +kernel) (by decide +kernel) ?_ [.message (.ofBytes heyBytes)] ?_).1
    _ ?_
  · intro x hx msg hmsg
    rw [sent_annChats, List.mem_pair] at hx
    rcases hx with rfl | rfl
    · cases hmsg
    · cases hmsg
      decide +kernel
  · intro data hdata
    cases List.mem_singleton.mp hdata
    decide +kernel
  · decide +kernel

end HelloSystem
end Spanreed
