import Spanreed.WireFormat

/-! # The example server

`examples/hello-spanreed/server/main.cc`, the destination that comes with the proxy, as an
automaton: the receiving thread and the main loop, with the table `gConnectedClients` and the queue
`gClientMessageQueue` between them. A thread takes `gMutConnectedClients` for one look into the
table or one change of it at a time, and each of these is an event; the two threads interleave in
any order.

A datagram comes as the verified accessors of `ProxyDestinationMessage` give it, and a parameter
says what those of `ClientMessage` give for its app data. A use of a table, a vector or a string
that is absent ends the process (`alive`). `sent` is what `sendto` has been given. -/

namespace Spanreed
open Flatbuffers Automata

structure SockaddrIn where
  sinFamily : UInt16
  sinPort : UInt16
  sinAddr : UInt32
deriving DecidableEq

def cmpAddr (a b : SockaddrIn) : Bool :=
  if a.sinPort ≠ b.sinPort then false
  else if a.sinFamily ≠ b.sinFamily then false
  else if a.sinAddr ≠ b.sinAddr then false
  else true

theorem cmpAddr_iff {a b : SockaddrIn} : cmpAddr a b = true ↔ a = b := by
  cases a
  cases b
  simp only [cmpAddr, SockaddrIn.mk.injEq]
  split
  · simp_all
  · split
    · simp_all
    · simp_all

inductive Color
  | red
  | green
  | blue
  | indigo
  | fireOrange
deriving DecidableEq

/-- `get_client_color`, with its static counter `next_color`. -/
def getClientColor (nextColor : Nat) : Nat × Color :=
  (nextColor + 1, match (nextColor + 1) % 5 with
    | 0 => .blue
    | 1 => .fireOrange
    | 2 => .green
    | 3 => .indigo
    | _ => .red)

structure ConnectedClient where
  spanreedClientAddr : SockaddrIn
  spanreedClientId : ClientId
  lastSendTime : UInt64
  lastRotateColorsTime : UInt64
  clientName : Bytes
  dotColor : Color
deriving DecidableEq

/-- A `ClientMessage` that has passed the verifier. -/
inductive UserMessage
  | userConnectMessage (name : Option Bytes)
  | userClickMessage (x y : Float32)
  | userChatMessage (text : Option Bytes)
  | other

namespace ClientMessageTable

def userMessageType (t : Table) : Option UInt8 := t.field 4 t.getByte 0

def userMessage (t : Table) : Option (Option Table) := do
  let o := (← t.offset 6).toUInt32
  if o ≠ 0 then (t.union o).map some else pure none

end ClientMessageTable

def UserConnectMessage.name (t : Table) : Option (Option Slice) := t.bytesField 4
def UserClickMessage.x (t : Table) : Option Float32 := (t.field 4 t.getUint32 0).map .ofBits
def UserClickMessage.y (t : Table) : Option Float32 := (t.field 6 t.getUint32 0).map .ofBits
def UserChatMessage.text (t : Table) : Option (Option Slice) := t.bytesField 4

/-- A `ClientMessage`, read with the generated accessors. -/
def readClientMessage (buf : Slice) : Option UserMessage := do
  let t ← getRoot buf
  match ← ClientMessageTable.userMessageType t, ← ClientMessageTable.userMessage t with
  | 1, some msg => pure (.userConnectMessage ((← UserConnectMessage.name msg).map Slice.bytes))
  | 2, some msg => pure (.userClickMessage (← UserClickMessage.x msg) (← UserClickMessage.y msg))
  | 3, some msg => pure (.userChatMessage ((← UserChatMessage.text msg).map Slice.bytes))
  | _, _ => pure .other

/-- `msg` of a `QueuedClientMessage` is read from its buffer. -/
structure QueuedClientMessage where
  clientId : ClientId
  buffer : Bytes
deriving DecidableEq

structure DrawnDot where
  x : Float32
  y : Float32
  t : Float32
  radius : Float32
  color : Color

structure Dot where
  x : Float32
  y : Float32
  radius : Float32
  color : Color

inductive ServerMessage
  | serverChatMessage (user text : Bytes)
  | serverGameStateMessage (dots : List Dot)

/-- A `DestinationMessage` and where it goes. -/
structure SentDatagram where
  addr : SockaddrIn
  msg : DestinationContent
  appData : Option ServerMessage

/-- A `ProxyDestinationMessage` that has passed the verifier. The type is `none` if it is no member
of the union, the client is `none` if the table of the union is absent. -/
structure VerifiedMessage where
  innerMessageType : Option ProxyDestInnerMsg
  clientId : Option ClientId
  appData : Option Bytes
deriving DecidableEq

structure HelloServerParams where
  /-- `VerifyClientMessageBuffer`, and what the accessors of `ClientMessage` then give -/
  clientMessage : Bytes → Option UserMessage

def kClientSendFrequencyUs : UInt64 := 50000
def kClientRotateColorFrequencyUs : UInt64 := 8000000

/-! ## The receiving thread -/

inductive RecvPc
  | recv
  | exited
  | request (src : SockaddrIn) (clientId : ClientId) (name : Bytes)
  | insert (src : SockaddrIn) (clientId : ClientId) (name : Bytes)
  | close (src : SockaddrIn) (clientId : ClientId)
  | erase (src : SockaddrIn) (clientId : ClientId)
  | message (clientId : ClientId) (appData : Bytes)
  | enqueue (clientId : ClientId) (appData : Bytes)
deriving DecidableEq

namespace HelloServerParams
variable (params : HelloServerParams)

/-- `connection_request` before it looks into the table: `none` is a crash. -/
def connectionRequest (src : SockaddrIn) (request : Option ClientId) (appData : Bytes) :
    Option RecvPc :=
  match params.clientMessage appData with
  | some (.userConnectMessage name) => do
    let name ← name
    let clientId ← request
    pure (.request src clientId name)
  | _ => pure .recv

/-- `handle_recv_message` before a handler looks into the table: `none` is a crash. A datagram that
does not pass the verifier is `none`. -/
def handleRecvMessage (src : SockaddrIn) : Option VerifiedMessage → Option RecvPc
  | none => pure .recv
  | some msg =>
    match msg.innerMessageType with
    | some .proxyDestConnectionRequest => do
      let appData ← msg.appData
      params.connectionRequest src msg.clientId appData
    | some .proxyDestCloseConnection => do
      let clientId ← msg.clientId
      pure (.close src clientId)
    | some .proxyDestClientMessage => do
      let appData ← msg.appData
      let clientId ← msg.clientId
      pure (.message clientId appData)
    | none => pure .recv

end HelloServerParams

/-! ## The main loop -/

inductive MainPc
  | frame
  | drain
  | handle (msg : QueuedClientMessage)
  | chat (user text : Bytes)
  | broadcast (user text : Bytes) (targets : List ConnectedClient)
  | update
deriving DecidableEq

abbrev ConnectedClients := AList fun _ : ClientId => ConnectedClient

/-- `insert` of `std::unordered_map`, which keeps the entry of an id that has one. -/
def ConnectedClients.insertNew (clients : ConnectedClients) (clientId : ClientId)
    (client : ConnectedClient) : ConnectedClients :=
  if clientId ∈ clients then clients else AList.insert clientId client clients

namespace ConnectedClients
variable {clients : ConnectedClients} {clientId c : ClientId} {client : ConnectedClient}

theorem insertNew_of_notMem (h : clientId ∉ clients) :
    clients.insertNew clientId client = AList.insert clientId client clients := if_neg h

theorem lookup_insertNew_ne (h : c ≠ clientId) :
    (clients.insertNew clientId client).lookup c = clients.lookup c := by
  rw [insertNew]
  split
  · rfl
  · rw [AList.lookup_insert_ne h]

end ConnectedClients

/-- The color of a client that has had it for long enough. -/
def ConnectedClient.rotateColors (now : UInt64) (nextColor : Nat) (client : ConnectedClient) :
    Nat × ConnectedClient :=
  if now - client.lastRotateColorsTime ≥ kClientRotateColorFrequencyUs then
    ((getClientColor nextColor).1, { client with
      lastRotateColorsTime := now
      dotColor := (getClientColor nextColor).2 })
  else (nextColor, client)

/-- It is time to send the client a game state. The difference is one of unsigned numbers. -/
def ConnectedClient.due (now : UInt64) (client : ConnectedClient) : Bool :=
  now - client.lastSendTime ≥ kClientSendFrequencyUs

/-- What the loop over the clients changes. -/
structure ClientPass where
  clients : ConnectedClients
  nextColor : Nat
  sent : List SentDatagram

/-- One round of the loop over the clients. -/
def ClientPass.visit (now : UInt64) (gameState : ServerMessage) (p : ClientPass)
    (clientId : ClientId) : ClientPass :=
  match p.clients.lookup clientId with
  | none => p
  | some client =>
    let (nextColor, client) := client.rotateColors now p.nextColor
    if client.due now then
      { clients := p.clients.insert clientId { client with lastSendTime := now }
        nextColor := nextColor
        sent := p.sent ++
          [⟨client.spanreedClientAddr, .proxyMessage client.spanreedClientId, some gameState⟩] }
    else { p with clients := p.clients.insert clientId client, nextColor := nextColor }

structure HelloServer where
  params : HelloServerParams
  alive : Bool
  clients : ConnectedClients
  queue : List QueuedClientMessage
  nextColor : Nat
  dots : List DrawnDot
  lastFrameTime : UInt64
  thisFrameTime : UInt64
  i : Nat
  recvThread : RecvPc
  mainLoop : MainPc
  sent : List SentDatagram

inductive HelloServerEvent
  -- the receiving thread
  | recvfrom (src : SockaddrIn) (msg : Option VerifiedMessage)
  | recvFails
  | refuse (src : SockaddrIn) (clientId : ClientId) (name : Bytes)
  | vacant (src : SockaddrIn) (clientId : ClientId) (name : Bytes)
  | insert (src : SockaddrIn) (clientId : ClientId) (name : Bytes) (now : UInt64)
  | closeSkip (src : SockaddrIn) (clientId : ClientId)
  | closeOwn (src : SockaddrIn) (clientId : ClientId)
  | erase (src : SockaddrIn) (clientId : ClientId)
  | messageSkip (clientId : ClientId) (appData : Bytes)
  | messageKnown (clientId : ClientId) (appData : Bytes)
  | enqueue (clientId : ClientId) (appData : Bytes)
  -- the main loop
  | frame (now : UInt64)
  | dequeue (msg : QueuedClientMessage)
  | drained
  | handleUnknown (msg : QueuedClientMessage)
  | handle (msg : QueuedClientMessage) (client : ConnectedClient) (radius : Float32)
  | snapshot (user text : Bytes) (targets : List ConnectedClient)
  | broadcast (user text : Bytes) (target : ConnectedClient) (rest : List ConnectedClient)
  | broadcasted (user text : Bytes)
  | update (order : List ClientId)

namespace HelloServer

def start (params : HelloServerParams) (now : UInt64) : HelloServer where
  params := params
  alive := true
  clients := ∅
  queue := []
  nextColor := 0
  dots := []
  lastFrameTime := now
  thisFrameTime := now
  i := 0
  recvThread := .recv
  mainLoop := .frame
  sent := []

variable (s : HelloServer)

/-- A client is turned away if its id is taken or the server is full. -/
def TurnsAway (clientId : ClientId) : Prop := clientId ∈ s.clients ∨ s.clients.keys.length > 20

instance (clientId : ClientId) : Decidable (s.TurnsAway clientId) :=
  inferInstanceAs (Decidable (_ ∨ _))

/-- The entry of `clientId` was made for a request from `src`. -/
def Owns (src : SockaddrIn) (clientId : ClientId) : Prop :=
  ∃ client ∈ s.clients.lookup clientId, cmpAddr src client.spanreedClientAddr = true

instance (src : SockaddrIn) (clientId : ClientId) : Decidable (s.Owns src clientId) :=
  inferInstanceAs (Decidable (∃ _ ∈ s.clients.lookup clientId, _))

def verdict (src : SockaddrIn) (clientId : ClientId) (accepted : Bool) : SentDatagram :=
  ⟨src, .connectionVerdict clientId accepted, none⟩

def newClient (src : SockaddrIn) (clientId : ClientId) (name : Bytes) (now : UInt64) :
    ConnectedClient where
  spanreedClientAddr := src
  spanreedClientId := clientId
  lastSendTime := now
  lastRotateColorsTime := 0
  clientName := name
  dotColor := (getClientColor s.nextColor).2

/-- The dots that are left after `dt_s`. -/
def age (now : UInt64) : List DrawnDot :=
  let dt := (now - s.lastFrameTime).toInt64.toFloat32 / 1000000
  (s.dots.map fun dot => { dot with t := dot.t - dt }).filter fun dot => !(dot.t ≤ 0)

def gameState : ServerMessage :=
  .serverGameStateMessage (s.dots.map fun dot => ⟨dot.x, dot.y, dot.radius, dot.color⟩)

/-- The loop over the clients, in the order in which the table gives them. -/
def pass (order : List ClientId) : ClientPass :=
  order.foldl (.visit s.thisFrameTime s.gameState) ⟨s.clients, s.nextColor, []⟩

def enabled (e : HelloServerEvent) : Prop :=
  s.alive ∧ match e with
  | .recvfrom _ _ | .recvFails => s.recvThread = .recv
  | .refuse src clientId name => s.recvThread = .request src clientId name ∧ s.TurnsAway clientId
  | .vacant src clientId name => s.recvThread = .request src clientId name ∧ ¬s.TurnsAway clientId
  | .insert src clientId name _ => s.recvThread = .insert src clientId name
  | .closeSkip src clientId => s.recvThread = .close src clientId ∧ ¬s.Owns src clientId
  | .closeOwn src clientId => s.recvThread = .close src clientId ∧ s.Owns src clientId
  | .erase src clientId => s.recvThread = .erase src clientId
  | .messageSkip clientId appData => s.recvThread = .message clientId appData ∧
      (clientId ∉ s.clients ∨ (s.params.clientMessage appData).isNone)
  | .messageKnown clientId appData => s.recvThread = .message clientId appData ∧
      clientId ∈ s.clients ∧ (s.params.clientMessage appData).isSome
  | .enqueue clientId appData => s.recvThread = .enqueue clientId appData
  | .frame _ => s.mainLoop = .frame
  | .dequeue msg => s.mainLoop = .drain ∧ s.i < 25 ∧ s.queue.head? = some msg
  | .drained => s.mainLoop = .drain ∧ (¬s.i < 25 ∨ s.queue = [])
  | .handleUnknown msg => s.mainLoop = .handle msg ∧ s.clients.lookup msg.clientId = none
  | .handle msg client _ => s.mainLoop = .handle msg ∧
      s.clients.lookup msg.clientId = some client
  | .snapshot user text targets => s.mainLoop = .chat user text ∧
      targets.Perm (s.clients.entries.map Sigma.snd)
  | .broadcast user text target rest => s.mainLoop = .broadcast user text (target :: rest)
  | .broadcasted user text => s.mainLoop = .broadcast user text []
  | .update order => s.mainLoop = .update ∧ order.Perm s.clients.keys

def next : HelloServerEvent → HelloServer
  | .recvfrom src msg =>
    match s.params.handleRecvMessage src msg with
    | none => { s with alive := false }
    | some pc => { s with recvThread := pc }
  | .recvFails => { s with recvThread := .exited }
  | .refuse src clientId _ => { s with
      recvThread := .recv
      sent := s.sent ++ [verdict src clientId false] }
  | .vacant src clientId name => { s with recvThread := .insert src clientId name }
  | .insert src clientId name now => { s with
      clients := s.clients.insertNew clientId (s.newClient src clientId name now)
      nextColor := (getClientColor s.nextColor).1
      recvThread := .recv
      sent := s.sent ++ [verdict src clientId true] }
  | .closeSkip _ _ => { s with recvThread := .recv }
  | .closeOwn src clientId => { s with recvThread := .erase src clientId }
  | .erase _ clientId => { s with clients := s.clients.erase clientId, recvThread := .recv }
  | .messageSkip _ _ => { s with recvThread := .recv }
  | .messageKnown clientId appData => { s with recvThread := .enqueue clientId appData }
  | .enqueue clientId appData => { s with
      queue := s.queue ++ [⟨clientId, appData⟩]
      recvThread := .recv }
  | .frame now => { s with
      lastFrameTime := now
      thisFrameTime := now
      dots := s.age now
      i := 0
      mainLoop := .drain }
  | .dequeue msg => { s with queue := s.queue.tail, mainLoop := .handle msg }
  | .drained => { s with mainLoop := .update }
  | .handleUnknown _ => { s with i := s.i + 1, mainLoop := .drain }
  | .handle msg client radius =>
    match s.params.clientMessage msg.buffer with
    | some (.userClickMessage x y) => { s with
        dots := s.dots ++ [⟨x, y, 5, radius, client.dotColor⟩]
        i := s.i + 1
        mainLoop := .drain }
    | some (.userChatMessage none) => { s with alive := false }
    | some (.userChatMessage (some text)) => { s with mainLoop := .chat client.clientName text }
    | _ => { s with i := s.i + 1, mainLoop := .drain }
  | .snapshot user text targets => { s with mainLoop := .broadcast user text targets }
  | .broadcast user text target rest => { s with
      mainLoop := .broadcast user text rest
      sent := s.sent ++ [⟨target.spanreedClientAddr, .proxyMessage target.spanreedClientId,
        some (.serverChatMessage user text)⟩] }
  | .broadcasted _ _ => { s with i := s.i + 1, mainLoop := .drain }
  | .update order => { s with
      clients := (s.pass order).clients
      nextColor := (s.pass order).nextColor
      mainLoop := .frame
      sent := s.sent ++ (s.pass order).sent }

def automaton : Automaton HelloServer HelloServerEvent where
  enabled := enabled
  next := next

instance : ∀ e, Decidable (s.enabled e) := by
  intro e
  cases e <;> dsimp only [enabled] <;> infer_instance

instance : ∀ s e, Decidable (automaton.enabled s e) :=
  fun s e => inferInstanceAs (Decidable (s.enabled e))

end HelloServer

/-! ## A history -/

namespace Sample

/-- A server that takes every `ClientMessage` as it is. -/
def helloParams : HelloServerParams := ⟨fun appData => readClientMessage (.ofBytes appData)⟩

/-- A finished `ClientMessage` with the member `tag` of the union, which has a string of three
letters. -/
def userMessage (tag : UInt8) (text : Bytes) : Bytes :=
  [0x0c, 0, 0, 0, 0x08, 0, 0x0a, 0, 0x09, 0, 0x04, 0, 0x08, 0, 0, 0, 0x0c, 0, 0, 0, 0, tag, 0x06, 0,
    0x08, 0, 0x04, 0, 0x06, 0, 0, 0, 0x04, 0, 0, 0, 0x03, 0, 0, 0] ++ text ++ [0]

/-- The address of the proxy, as the server sees it. -/
def proxyAddr : SockaddrIn := ⟨2, 0x3175, 0x0100007f⟩

def helloRequest (c : ClientId) (name : Bytes) : HelloServerEvent :=
  .recvfrom proxyAddr (some ⟨some .proxyDestConnectionRequest, some c, some (userMessage 1 name)⟩)

def helloChat : QueuedClientMessage := ⟨1, userMessage 3 (ascii "hey")⟩

def ann : ConnectedClient := ⟨proxyAddr, 1, 100, 0, ascii "ann", .fireOrange⟩
def bob : ConnectedClient := ⟨proxyAddr, 2, 2000, 0, ascii "bob", .green⟩

/-- Client 1 is admitted, client 2 while the main loop is in a frame that has begun before, and a
second request for client 2 is refused. Client 1 chats with both and is closed. -/
def helloRun : List HelloServerEvent := [
  helloRequest 1 (ascii "ann"), .vacant proxyAddr 1 (ascii "ann"),
  .insert proxyAddr 1 (ascii "ann") 100, .frame 1000,
  helloRequest 2 (ascii "bob"), .vacant proxyAddr 2 (ascii "bob"),
  .insert proxyAddr 2 (ascii "bob") 2000,
  helloRequest 2 (ascii "eve"), .refuse proxyAddr 2 (ascii "eve"),
  .recvfrom proxyAddr (some ⟨some .proxyDestClientMessage, some 1, some helloChat.buffer⟩),
  .messageKnown 1 helloChat.buffer, .enqueue 1 helloChat.buffer,
  .dequeue helloChat, .handle helloChat ann 25, .snapshot (ascii "ann") (ascii "hey") [bob, ann],
  .broadcast (ascii "ann") (ascii "hey") bob [ann], .broadcast (ascii "ann") (ascii "hey") ann [],
  .broadcasted (ascii "ann") (ascii "hey"), .drained, .update [2, 1],
  .recvfrom proxyAddr (some ⟨some .proxyDestCloseConnection, some 1, none⟩),
  .closeOwn proxyAddr 1, .erase proxyAddr 1]

end Sample
end Spanreed
