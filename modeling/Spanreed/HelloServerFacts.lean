import Spanreed.HelloServer
import Spanreed.Lib.Pipeline

/-! # Runs of the example server

Who is connected is a matter of the history (`admission`), and every connection request that the
server has taken up is answered once and in turn (`verdicts_in_order`). -/

namespace Spanreed
open Flatbuffers Automata

/-! ## The loop over the clients -/

/-- Who a client is. The loop over the clients does not change it. -/
def ConnectedClient.identity (client : ConnectedClient) : SockaddrIn × ClientId × Bytes :=
  (client.spanreedClientAddr, client.spanreedClientId, client.clientName)

/-- Every client stands under its own id. -/
def ConnectedClients.Own (clients : ConnectedClients) : Prop :=
  ∀ clientId client, clients.lookup clientId = some client → client.spanreedClientId = clientId

/-- The datagram is a game state for client `c`. -/
def SentDatagram.isGameState (c : ClientId) (x : SentDatagram) : Bool :=
  match x.msg, x.appData with
  | .proxyMessage clientId, some (.serverGameStateMessage _) => clientId == c
  | _, _ => false

/-- The datagram is a verdict: where it goes, about whom, and what it says. -/
def SentDatagram.verdictTo (x : SentDatagram) : Option (SockaddrIn × ClientId × Bool) :=
  match x.msg with
  | .connectionVerdict clientId accepted => some (x.addr, clientId, accepted)
  | _ => none

/-- The text of a chat for client `c`. -/
def SentDatagram.chatTo (c : ClientId) (x : SentDatagram) : Option Bytes :=
  match x.msg, x.appData with
  | .proxyMessage clientId, some (.serverChatMessage _ text) =>
    if clientId = c then some text else none
  | _, _ => none

namespace ClientPass
variable {now : UInt64} {gameState : ServerMessage} {p : ClientPass} {c c' : ClientId}
  {client : ConnectedClient} {n : Nat}

theorem rotateColors_identity : (client.rotateColors now n).2.identity = client.identity := by
  unfold ConnectedClient.rotateColors
  split <;> rfl

theorem rotateColors_lastSendTime :
    (client.rotateColors now n).2.lastSendTime = client.lastSendTime := by
  unfold ConnectedClient.rotateColors
  split <;> rfl

theorem rotateColors_due : (client.rotateColors now n).2.due now = client.due now := by
  rw [ConnectedClient.due, ConnectedClient.due, rotateColors_lastSendTime]

/-- What a round makes of the client it is about. -/
def visited (now : UInt64) (n : Nat) (client : ConnectedClient) : ConnectedClient :=
  if client.due now then { (client.rotateColors now n).2 with lastSendTime := now }
  else (client.rotateColors now n).2

/-- What a round sends. -/
def visitSends (now : UInt64) (gameState : ServerMessage) (client : ConnectedClient) :
    List SentDatagram :=
  if client.due now then
    [⟨client.spanreedClientAddr, .proxyMessage client.spanreedClientId, some gameState⟩]
  else []

theorem visited_identity : (visited now n client).identity = client.identity := by
  unfold visited
  split
  · exact rotateColors_identity
  · exact rotateColors_identity

theorem visited_lastSendTime : (visited now n client).lastSendTime =
    if client.due now then now else client.lastSendTime := by
  unfold visited
  split
  · rfl
  · exact rotateColors_lastSendTime

theorem visit_of_mem (h : p.clients.lookup c = some client) : p.visit now gameState c =
    ⟨p.clients.insert c (visited now p.nextColor client), (client.rotateColors now p.nextColor).1,
      p.sent ++ visitSends now gameState client⟩ := by
  have hid : (client.rotateColors now p.nextColor).2.identity = client.identity :=
    rotateColors_identity
  simp only [ConnectedClient.identity, Prod.mk.injEq] at hid
  simp only [visit, h, rotateColors_due, visited, visitSends]
  split <;> simp [hid]

theorem visit_of_notMem (h : p.clients.lookup c = none) : p.visit now gameState c = p := by
  simp only [visit, h]

/-- A round keeps who the clients are. -/
theorem visit_identity : ((p.visit now gameState c).clients.lookup c').map
    ConnectedClient.identity = (p.clients.lookup c').map ConnectedClient.identity := by
  cases h : p.clients.lookup c with
  | none => rw [visit_of_notMem h]
  | some client =>
    rw [visit_of_mem h]
    by_cases hc : c' = c
    · subst hc
      simp [h, visited_identity]
    · rw [AList.lookup_insert_ne hc]

theorem visit_lookup_of_ne (hc : c' ≠ c) :
    (p.visit now gameState c).clients.lookup c' = p.clients.lookup c' := by
  cases h : p.clients.lookup c with
  | none => rw [visit_of_notMem h]
  | some client => rw [visit_of_mem h, AList.lookup_insert_ne hc]

theorem visit_keys : (p.visit now gameState c).clients.keys.Perm p.clients.keys := by
  cases h : p.clients.lookup c with
  | none => rw [visit_of_notMem h]
  | some client =>
    have hmem : c ∈ p.clients.keys := AList.mem_keys.mp (AList.lookup_isSome.mp (by simp [h]))
    rw [visit_of_mem h, AList.keys_insert]
    exact (List.perm_cons_erase hmem).symm

section
variable {order : List ClientId}

/-- The loop. -/
abbrev visits (now : UInt64) (gameState : ServerMessage) (p : ClientPass)
    (order : List ClientId) : ClientPass :=
  order.foldl (.visit now gameState) p

theorem visits_identity : ((visits now gameState p order).clients.lookup c').map
    ConnectedClient.identity = (p.clients.lookup c').map ConnectedClient.identity := by
  induction order generalizing p with
  | nil => rfl
  | cons c order ih => exact ih.trans visit_identity

theorem visits_keys : (visits now gameState p order).clients.keys.Perm p.clients.keys := by
  induction order generalizing p with
  | nil => exact List.Perm.refl _
  | cons c order ih => exact ih.trans visit_keys

theorem visits_lookup_of_notMem (hc : c' ∉ order) :
    (visits now gameState p order).clients.lookup c' = p.clients.lookup c' := by
  induction order generalizing p with
  | nil => rfl
  | cons c order ih =>
    rw [List.mem_cons, not_or] at hc
    exact (ih hc.2).trans (visit_lookup_of_ne hc.1)

/-- What the loop sends, it sends to clients of the table. -/
theorem visits_sent {x : SentDatagram} (hx : x ∈ (visits now gameState p order).sent) :
    x ∈ p.sent ∨ ∃ c client, p.clients.lookup c = some client ∧ x.addr = client.spanreedClientAddr ∧
      x.msg = .proxyMessage client.spanreedClientId ∧ x.appData = some gameState := by
  induction order generalizing p with
  | nil => exact .inl hx
  | cons c order ih =>
    cases h : p.clients.lookup c with
    | none =>
      rw [visits, List.foldl_cons, visit_of_notMem h] at hx
      exact ih hx
    | some client =>
      rcases ih hx with hx | ⟨c', client', h', haddr, hmsg, hdata⟩
      · rw [visit_of_mem h, List.mem_append] at hx
        refine hx.imp id fun hx => ?_
        unfold visitSends at hx
        split at hx
        · rw [List.mem_singleton] at hx
          exact ⟨c, client, h, by simp [hx]⟩
        · cases hx
      · -- the client was the same before this round
        have hid := @visit_identity now gameState p c c'
        rw [h', Option.map_some] at hid
        obtain ⟨client₀, h₀, hid₀⟩ := Option.map_eq_some_iff.mp hid.symm
        simp only [ConnectedClient.identity, Prod.mk.injEq] at hid₀
        exact .inr ⟨c', client₀, h₀, haddr.trans hid₀.1.symm, by rw [hmsg, hid₀.2.1], hdata⟩

end
end ClientPass

/-! ## Who is connected -/

/-- The message a position of the receiving thread is about, as it was taken from its datagram. -/
def RecvPc.origin : RecvPc → Option RecvPc
  | .recv | .exited => none
  | .request src clientId name | .insert src clientId name => some (.request src clientId name)
  | .close src clientId | .erase src clientId => some (.close src clientId)
  | .message clientId appData | .enqueue clientId appData => some (.message clientId appData)

theorem HelloServerParams.connectionRequest_eq {params : HelloServerParams} {src : SockaddrIn}
    {request : Option ClientId} {appData : Bytes} {pc : RecvPc}
    (h : params.connectionRequest src request appData = some pc) :
    pc = .recv ∨ ∃ clientId name, request = some clientId ∧
      params.clientMessage appData = some (.userConnectMessage (some name)) ∧
      pc = .request src clientId name := by
  unfold connectionRequest at h
  split at h
  · next hmsg =>
    simp only [Option.bind_eq_bind, Option.bind_eq_some_iff, Option.pure_def, Option.some.injEq]
      at h
    obtain ⟨name, rfl, clientId, hid, rfl⟩ := h
    exact .inr ⟨clientId, name, hid, hmsg, rfl⟩
  · cases h
    exact .inl rfl

/-- What a datagram that does no harm makes the receiving thread do. -/
theorem HelloServerParams.handleRecvMessage_eq {params : HelloServerParams} {src : SockaddrIn}
    {msg : Option VerifiedMessage} {pc : RecvPc}
    (h : params.handleRecvMessage src msg = some pc) :
    pc = .recv ∨
    (∃ clientId appData name, msg = some ⟨some .proxyDestConnectionRequest, some clientId,
      some appData⟩ ∧ params.clientMessage appData = some (.userConnectMessage (some name)) ∧
      pc = .request src clientId name) ∨
    (∃ clientId appData, msg = some ⟨some .proxyDestCloseConnection, some clientId, appData⟩ ∧
      pc = .close src clientId) ∨
    ∃ clientId appData, msg = some ⟨some .proxyDestClientMessage, some clientId, some appData⟩ ∧
      pc = .message clientId appData := by
  obtain _ | ⟨innerMessageType, request, appData⟩ := msg
  · cases h
    exact .inl rfl
  obtain _ | _ | _ | _ := innerMessageType
  · cases h
    exact .inl rfl
  · obtain ⟨appData, rfl, h⟩ := Option.bind_eq_some_iff.mp h
    rcases connectionRequest_eq h with rfl | ⟨clientId, name, rfl, hmsg, rfl⟩
    · exact .inl rfl
    · exact .inr (.inl ⟨clientId, appData, name, rfl, hmsg, rfl⟩)
  · obtain ⟨appData, rfl, h⟩ := Option.bind_eq_some_iff.mp h
    obtain ⟨clientId, rfl, h⟩ := Option.bind_eq_some_iff.mp h
    cases h
    exact .inr (.inr (.inr ⟨clientId, appData, rfl, rfl⟩))
  · obtain ⟨clientId, rfl, h⟩ := Option.bind_eq_some_iff.mp h
    cases h
    exact .inr (.inr (.inl ⟨clientId, appData, rfl, rfl⟩))

namespace HelloServerEvent

/-- Who holds the place of client `c` after the event: where the request came from, and the name. -/
def holds (c : ClientId) (holder : Option (SockaddrIn × Bytes)) :
    HelloServerEvent → Option (SockaddrIn × Bytes)
  | .insert src clientId name _ => if clientId = c then some (src, name) else holder
  | .erase _ clientId => if clientId = c then none else holder
  | _ => holder

/-- The clients that are connected after the event. -/
def connects (l : List ClientId) : HelloServerEvent → List ClientId
  | .insert _ clientId _ _ => clientId :: l
  | .erase _ clientId => l.erase clientId
  | _ => l

end HelloServerEvent

namespace HelloServer
open HelloServerEvent
variable {params : HelloServerParams} {t₀ : UInt64} {tr tr' : List HelloServerEvent}
  {s : HelloServer} {e : HelloServerEvent} {c : ClientId}

/-- The histories of the server. -/
abbrev Run (params : HelloServerParams) (t₀ : UInt64) (tr : List HelloServerEvent)
    (s : HelloServer) : Prop :=
  automaton.Run (start params t₀) tr s

/-- Who holds the place of client `c`. -/
def holder (c : ClientId) (tr : List HelloServerEvent) : Option (SockaddrIn × Bytes) :=
  tr.foldl (holds c) none

/-- The clients that are connected. -/
def connected (tr : List HelloServerEvent) : List ClientId := tr.foldl connects []

theorem holder_snoc : holder c (tr ++ [e]) = e.holds c (holder c tr) := by
  simp [holder]

theorem connected_snoc : connected (tr ++ [e]) = e.connects (connected tr) := by
  simp [connected]

theorem of_prefix (h : Run params t₀ tr s) (hp : tr' ++ [e] <+: tr) :
    ∃ s', Run params t₀ tr' s' ∧ s'.enabled e := by
  obtain ⟨tr₂, rfl⟩ := hp
  rw [List.append_assoc] at h
  obtain ⟨s', h', he, -⟩ := h.at_event
  exact ⟨s', h', he⟩

/-- The parameters stay. -/
theorem params_next : (s.next e).params = s.params := by
  cases e <;> try rfl
  all_goals
    simp only [next]
    split <;> rfl

theorem params_eq (h : Run params t₀ tr s) : s.params = params :=
  h.invariant (I := fun s => s.params = params) rfl fun _ _ hs _ => params_next.trans hs

/-- A datagram that ends the process leaves the receiving thread where it is. -/
theorem recvThread_recvfrom {src : SockaddrIn} {msg : Option VerifiedMessage} :
    (s.next (.recvfrom src msg)).recvThread =
      (s.params.handleRecvMessage src msg).getD s.recvThread := by
  simp only [next]
  split
  · next h => rw [h, Option.getD_none]
  · next pc h => rw [h, Option.getD_some]

/-- The events that change the table. -/
def Touches : HelloServerEvent → Prop
  | .insert .. | .erase .. | .update _ => True
  | _ => False

theorem clients_next (h : ¬Touches e) : (s.next e).clients = s.clients := by
  cases e <;> first | rfl | exact (h trivial).elim | skip
  all_goals
    simp only [next]
    split <;> rfl

theorem owns_iff {src : SockaddrIn} : s.Owns src c ↔
    ∃ x, (s.clients.lookup c).map ConnectedClient.identity = some x ∧ x.1 = src := by
  simp only [Owns, cmpAddr_iff, Option.mem_def, Option.map_eq_some_iff]
  constructor
  · rintro ⟨client, hclient, rfl⟩
    exact ⟨_, ⟨client, hclient, rfl⟩, rfl⟩
  · rintro ⟨_, ⟨client, hclient, rfl⟩, rfl⟩
    exact ⟨client, hclient, rfl⟩

/-- What holds between a look of the receiving thread into the table and the change it makes. -/
structure Sound (s : HelloServer) : Prop where
  full : s.clients.keys.length ≤ 21
  inserts : ∀ src clientId name, s.recvThread = .insert src clientId name →
    ¬s.TurnsAway clientId
  erases : ∀ src clientId, s.recvThread = .erase src clientId → s.Owns src clientId

/-- The main loop and the receiving thread share only the table. -/
theorem Sound.of_same {s' : HelloServer} (hs : Sound s)
    (hkeys : s'.clients.keys.Perm s.clients.keys)
    (hid : ∀ c, (s'.clients.lookup c).map ConnectedClient.identity =
      (s.clients.lookup c).map ConnectedClient.identity)
    (hpc : s'.recvThread = s.recvThread) : Sound s' where
  full := hkeys.length_eq.trans_le hs.full
  inserts src clientId name h := by
    have := hs.inserts src clientId name (hpc.symm.trans h)
    simpa [TurnsAway, AList.mem_keys, hkeys.mem_iff, hkeys.length_eq] using this
  erases src clientId h := by
    have := hs.erases src clientId (hpc.symm.trans h)
    rwa [owns_iff, hid, ← owns_iff]

theorem Sound.of_clients {s' : HelloServer} (hs : Sound s) (hclients : s'.clients = s.clients)
    (hpc : s'.recvThread = s.recvThread) : Sound s' :=
  hs.of_same (by rw [hclients]) (fun c => by rw [hclients]) hpc

/-- The receiving thread goes to a position at which it knows nothing of the table. -/
theorem Sound.of_idle {s' : HelloServer} (hfull : s'.clients.keys.length ≤ 21)
    (hinsert : ∀ src clientId name, s'.recvThread ≠ .insert src clientId name)
    (herase : ∀ src clientId, s'.recvThread ≠ .erase src clientId) : Sound s' :=
  ⟨hfull, fun src clientId name h => (hinsert src clientId name h).elim,
    fun src clientId h => (herase src clientId h).elim⟩

theorem Sound.next (hs : Sound s) (he : s.enabled e) : Sound (s.next e) := by
  have hpc := he.2
  cases e
  case recvfrom src msg =>
    simp only [HelloServer.next]
    split
    · exact hs.of_clients rfl rfl
    · next pc h =>
      refine .of_idle hs.full ?_ ?_
      all_goals
        rcases HelloServerParams.handleRecvMessage_eq h with rfl | ⟨_, _, _, -, -, rfl⟩ |
          ⟨_, _, -, rfl⟩ | ⟨_, _, -, rfl⟩
        all_goals simp
  case recvFails | refuse | closeSkip | messageSkip | messageKnown | enqueue =>
    exact .of_idle hs.full (by simp [HelloServer.next]) (by simp [HelloServer.next])
  case vacant src clientId name =>
    refine ⟨hs.full, fun src' clientId' name' h => ?_, fun src' clientId' h => by cases h⟩
    cases h
    exact hpc.2
  case closeOwn src clientId =>
    refine ⟨hs.full, fun src' clientId' name' h => (by cases h), fun src' clientId' h => ?_⟩
    cases h
    exact hpc.2
  case insert src clientId name now =>
    have haway := hs.inserts src clientId name hpc
    simp only [TurnsAway, not_or, not_lt] at haway
    refine .of_idle ?_ (by simp [HelloServer.next]) (by simp [HelloServer.next])
    simp only [HelloServer.next, ConnectedClients.insertNew_of_notMem haway.1, AList.keys_insert,
      List.length_cons]
    have := List.length_erase_le (a := clientId) (l := s.clients.keys)
    omega
  case erase src clientId =>
    refine .of_idle ?_ (by simp [HelloServer.next]) (by simp [HelloServer.next])
    simp only [HelloServer.next, AList.keys_erase]
    exact List.length_erase_le.trans hs.full
  case update order =>
    exact hs.of_same ClientPass.visits_keys (fun c => ClientPass.visits_identity) rfl
  case handle msg client radius =>
    simp only [HelloServer.next]
    split <;> exact hs.of_clients rfl rfl
  all_goals exact hs.of_clients rfl rfl

theorem sound (h : Run params t₀ tr s) : Sound s :=
  h.invariant (I := Sound) ⟨Nat.zero_le _, nofun, nofun⟩ fun _ _ => Sound.next

/-- Only the receiving thread inserts, so that it finds the id free as it has found it before. -/
theorem notMem_of_insert {src : SockaddrIn} {name : Bytes} (h : Run params t₀ tr s)
    (hpc : s.recvThread = .insert src c name) : c ∉ s.clients := by
  have haway := (sound h).inserts src c name hpc
  rw [TurnsAway, not_or] at haway
  exact haway.1

/-- The table is what the history says it is. -/
theorem lookup_holder (h : Run params t₀ tr s) (c : ClientId) :
    (s.clients.lookup c).map ConnectedClient.identity =
      (holder c tr).map fun x => (x.1, c, x.2) := by
  induction h with
  | nil => rfl
  | @snoc tr s e hr he ih =>
    rw [holder_snoc, show automaton.next s e = s.next e from rfl]
    cases e
    case insert src clientId name now =>
      simp only [holds, next]
      by_cases hc : clientId = c
      · subst hc
        rw [ConnectedClients.insertNew_of_notMem (notMem_of_insert hr he.2), AList.lookup_insert]
        simp [ConnectedClient.identity, newClient]
      · rw [ConnectedClients.lookup_insertNew_ne (Ne.symm hc), if_neg hc]
        exact ih
    case erase src clientId =>
      simp only [holds, next]
      by_cases hc : clientId = c
      · subst hc
        simp
      · rw [AList.lookup_erase_ne (Ne.symm hc), if_neg hc]
        exact ih
    case update order => exact ClientPass.visits_identity.trans ih
    all_goals
      rw [clients_next (by simp [Touches])]
      exact ih

theorem own (h : Run params t₀ tr s) : ConnectedClients.Own s.clients := by
  intro c client hc
  have hid := lookup_holder h c
  rw [hc, Option.map_some] at hid
  obtain ⟨x, -, hx⟩ := Option.map_eq_some_iff.mp hid.symm
  exact (congrArg (fun x => x.2.1) hx).symm

theorem keys_connected (h : Run params t₀ tr s) : s.clients.keys.Perm (connected tr) := by
  induction h with
  | nil => exact List.Perm.refl _
  | @snoc tr s e hr he ih =>
    rw [connected_snoc, show automaton.next s e = s.next e from rfl]
    cases e
    case insert src clientId name now =>
      have hfree := notMem_of_insert hr he.2
      rw [connects, next, ConnectedClients.insertNew_of_notMem hfree, AList.keys_insert,
        List.erase_of_not_mem (mt AList.mem_keys.mpr hfree)]
      exact ih.cons clientId
    case erase src clientId =>
      simp only [connects, next, AList.keys_erase]
      exact ih.erase clientId
    case update order => exact ClientPass.visits_keys.trans ih
    all_goals
      rw [clients_next (by simp [Touches])]
      exact ih

theorem turnsAway_iff (h : Run params t₀ tr s) :
    s.TurnsAway c ↔ c ∈ connected tr ∨ (connected tr).length > 20 := by
  rw [TurnsAway, AList.mem_keys, (keys_connected h).mem_iff, (keys_connected h).length_eq]

/-- What the receiving thread is at has come in a datagram. -/
theorem received (h : Run params t₀ tr s) {pc : RecvPc} (hpc : s.recvThread.origin = some pc) :
    ∃ src msg, .recvfrom src msg ∈ tr ∧ params.handleRecvMessage src msg = some pc := by
  induction h generalizing pc with
  | nil => cases hpc
  | @snoc tr s e hr he ih =>
    have hat := he.2
    have before : s.recvThread.origin = some pc → ∃ src msg, .recvfrom src msg ∈ tr ++ [e] ∧
        params.handleRecvMessage src msg = some pc := by
      intro hpc
      obtain ⟨src, msg, hmem, hmsg⟩ := ih hpc
      exact ⟨src, msg, List.mem_append_left _ hmem, hmsg⟩
    rw [show automaton.next s e = s.next e from rfl] at hpc
    cases e
    case recvfrom src msg =>
      simp only [next] at hpc
      split at hpc
      · exact before hpc
      · next pc' h =>
        rw [params_eq hr] at h
        refine ⟨src, msg, by simp, h.trans (congrArg some ?_)⟩
        rcases HelloServerParams.handleRecvMessage_eq h with rfl | ⟨_, _, _, -, -, rfl⟩ |
          ⟨_, _, -, rfl⟩ | ⟨_, _, -, rfl⟩
        all_goals cases hpc
        all_goals rfl
    case recvFails | refuse | insert | closeSkip | erase | messageSkip | enqueue => cases hpc
    case vacant | closeOwn | messageKnown =>
      refine before ?_
      rw [hat.1]
      exact hpc
    case handle msg client radius =>
      simp only [next] at hpc
      split at hpc <;> exact before hpc
    all_goals exact before hpc

/-- A connection request for client `c` has come from `src`, from a user with this name. -/
def Requested (params : HelloServerParams) (tr : List HelloServerEvent) (src : SockaddrIn)
    (c : ClientId) (name : Bytes) : Prop :=
  ∃ appData, .recvfrom src (some ⟨some .proxyDestConnectionRequest, some c, some appData⟩) ∈ tr ∧
    params.clientMessage appData = some (.userConnectMessage (some name))

/-- A close for client `c` has come from `src`. -/
def Closed (tr : List HelloServerEvent) (src : SockaddrIn) (c : ClientId) : Prop :=
  ∃ appData, .recvfrom src (some ⟨some .proxyDestCloseConnection, some c, appData⟩) ∈ tr

theorem requested {src : SockaddrIn} {name : Bytes} (h : Run params t₀ tr s)
    (hpc : s.recvThread.origin = some (.request src c name)) :
    Requested params tr src c name := by
  obtain ⟨src', msg, hmem, hmsg⟩ := received h hpc
  rcases HelloServerParams.handleRecvMessage_eq hmsg with h | ⟨c', appData, name', rfl, happ, h⟩ |
    ⟨_, _, -, h⟩ | ⟨_, _, -, h⟩
  all_goals cases h
  exact ⟨appData, hmem, happ⟩

theorem closed {src : SockaddrIn} (h : Run params t₀ tr s)
    (hpc : s.recvThread.origin = some (.close src c)) : Closed tr src c := by
  obtain ⟨src', msg, hmem, hmsg⟩ := received h hpc
  rcases HelloServerParams.handleRecvMessage_eq hmsg with h | ⟨_, _, _, -, -, h⟩ |
    ⟨c', appData, rfl, h⟩ | ⟨_, _, -, h⟩
  all_goals cases h
  exact ⟨appData, hmem⟩

theorem inserts_free {src : SockaddrIn} {name : Bytes} {now : UInt64} (h : Run params t₀ tr s)
    (hp : tr' ++ [.insert src c name now] <+: tr) :
    c ∉ connected tr' ∧ (connected tr').length ≤ 20 ∧ Requested params tr' src c name := by
  obtain ⟨s', h', he⟩ := of_prefix h hp
  have haway := (sound h').inserts src c name he.2
  rw [turnsAway_iff h', not_or, not_lt] at haway
  exact ⟨haway.1, haway.2, requested h' (by rw [he.2]; rfl)⟩

theorem refuses_full {src : SockaddrIn} {name : Bytes} (h : Run params t₀ tr s)
    (hp : tr' ++ [.refuse src c name] <+: tr) :
    (c ∈ connected tr' ∨ 20 < (connected tr').length) ∧ Requested params tr' src c name := by
  obtain ⟨s', h', he⟩ := of_prefix h hp
  exact ⟨(turnsAway_iff h').mp he.2.2, requested h' (by rw [he.2.1]; rfl)⟩

theorem erases_own {src : SockaddrIn} (h : Run params t₀ tr s)
    (hp : tr' ++ [.erase src c] <+: tr) :
    (∃ name, holder c tr' = some (src, name)) ∧ Closed tr' src c := by
  obtain ⟨s', h', he⟩ := of_prefix h hp
  obtain ⟨x, hx, rfl⟩ := owns_iff.mp ((sound h').erases src c he.2)
  rw [lookup_holder h'] at hx
  obtain ⟨y, hy, rfl⟩ := Option.map_eq_some_iff.mp hx
  exact ⟨⟨y.2, hy⟩, closed h' (by rw [he.2]; rfl)⟩

/-- Who is connected, in every history and whatever the two threads do in between. The table holds
the clients that were inserted and not erased since, each with the address and the name of its
request, and never more than 21. A client is inserted exactly when its request finds its id free and
at most 20 clients, and refused exactly when it does not; and it leaves only when a close comes from
the address its request has come from. -/
theorem admission (h : Run params t₀ tr s) :
    (∀ c, (s.clients.lookup c).map ConnectedClient.identity =
      (holder c tr).map fun x => (x.1, c, x.2)) ∧
    s.clients.keys.Perm (connected tr) ∧ (connected tr).length ≤ 21 ∧
    (∀ tr' src c name now, tr' ++ [.insert src c name now] <+: tr →
      c ∉ connected tr' ∧ (connected tr').length ≤ 20 ∧ Requested params tr' src c name) ∧
    (∀ tr' src c name, tr' ++ [.refuse src c name] <+: tr →
      (c ∈ connected tr' ∨ 20 < (connected tr').length) ∧ Requested params tr' src c name) ∧
    ∀ tr' src c, tr' ++ [.erase src c] <+: tr →
      (∃ name, holder c tr' = some (src, name)) ∧ Closed tr' src c := by
  refine ⟨lookup_holder h, keys_connected h, ?_, fun tr' src c name now => inserts_free h,
    fun tr' src c name => refuses_full h, fun tr' src c => erases_own h⟩
  rw [← (keys_connected h).length_eq]
  exact (sound h).full

set_option maxRecDepth 100000 in
theorem admission_helloRun :
    connected Sample.helloRun = [2] ∧ (connected Sample.helloRun).length ≤ 21 ∧
    ((automaton.exec (start Sample.helloParams 0) Sample.helloRun).clients.lookup 2).map
      ConnectedClient.identity = some (Sample.proxyAddr, 2, ascii "bob") ∧
    ∀ tr' src c, tr' ++ [.erase src c] <+: Sample.helloRun →
      (∃ name, holder c tr' = some (src, name)) ∧ Closed tr' src c := by
  have hrun : automaton.Admits (start Sample.helloParams 0) Sample.helloRun := by decide +kernel
  have h := admission (Automaton.Admits.run hrun)
  exact ⟨by decide +kernel, h.2.2.1, (h.1 2).trans (by decide +kernel), h.2.2.2.2.2⟩

/-! ## Verdicts -/

/-- What an event sends. -/
def sends (s : HelloServer) : HelloServerEvent → List SentDatagram
  | .refuse src clientId _ => [verdict src clientId false]
  | .insert src clientId _ _ => [verdict src clientId true]
  | .broadcast user text target _ =>
    [⟨target.spanreedClientAddr, .proxyMessage target.spanreedClientId,
      some (.serverChatMessage user text)⟩]
  | .update order => (s.pass order).sent
  | _ => []

theorem sent_next : (s.next e).sent = s.sent ++ s.sends e := by
  cases e <;> try simp [next, sends]
  all_goals split <;> rfl

/-- What shows of the datagrams is what shows of the events that send them. -/
theorem sent_filterMap {β : Type} {f : SentDatagram → Option β} {g : HelloServerEvent → Option β}
    (h : Run params t₀ tr s)
    (hstep : ∀ (s : HelloServer) e, (s.sends e).filterMap f = (g e).toList) :
    s.sent.filterMap f = tr.filterMap g := by
  induction h with
  | nil => rfl
  | @snoc tr s e hr he ih =>
    rw [show automaton.next s e = s.next e from rfl, sent_next, List.filterMap_append,
      List.filterMap_append, ih, hstep]
    cases hg : g e <;> simp [hg]

/-- What the loop over the clients sends. -/
theorem pass_sent {order : List ClientId} {x : SentDatagram} (hx : x ∈ (s.pass order).sent) :
    ∃ c client, s.clients.lookup c = some client ∧ x.addr = client.spanreedClientAddr ∧
      x.msg = .proxyMessage client.spanreedClientId ∧ x.appData = some s.gameState :=
  (ClientPass.visits_sent hx).resolve_left List.not_mem_nil

/-- The request of a datagram: where it comes from, and for whom. -/
def requestOf (params : HelloServerParams) : HelloServerEvent → Option (SockaddrIn × ClientId)
  | .recvfrom src msg =>
    match params.handleRecvMessage src msg with
    | some (.request src clientId _) => some (src, clientId)
    | _ => none
  | _ => none

/-- The event is the answer to a request. -/
def answered : HelloServerEvent → Option (SockaddrIn × ClientId × Bool)
  | .refuse src clientId _ => some (src, clientId, false)
  | .insert src clientId _ _ => some (src, clientId, true)
  | _ => none

/-- The request the receiving thread has not answered yet. -/
def pending : RecvPc → List (SockaddrIn × ClientId)
  | .request src clientId _ | .insert src clientId _ => [(src, clientId)]
  | _ => []

theorem sent_verdicts (h : Run params t₀ tr s) :
    s.sent.filterMap SentDatagram.verdictTo = tr.filterMap answered := by
  refine sent_filterMap h fun s e => ?_
  cases e <;> try rfl
  case update order =>
    refine List.filterMap_eq_nil_iff.mpr fun x hx => ?_
    obtain ⟨c, client, -, -, hmsg, -⟩ := pass_sent hx
    simp [SentDatagram.verdictTo, hmsg]

/-- Every connection request that names its user is answered, with one verdict that goes where the
request has come from, and requests are answered in the order in which they have come; the verdict
accepts exactly when the client is inserted. Only the request the receiving thread is at has no
answer yet. -/
theorem verdicts_in_order (h : Run params t₀ tr s) :
    s.sent.filterMap SentDatagram.verdictTo = tr.filterMap answered ∧
    tr.filterMap (requestOf params) =
      (tr.filterMap answered).map (fun x => (x.1, x.2.1)) ++ pending s.recvThread := by
  refine ⟨sent_verdicts h, ?_⟩
  rw [List.map_filterMap]
  refine h.exact (p := fun _ => True) (k := fun s => pending s.recvThread) rfl ?_ fun _ _ => trivial
  intro tr s e hr he _
  have hat := he.2
  rw [show automaton.next s e = s.next e from rfl]
  cases e
  case recvfrom src msg =>
    have hat : s.recvThread = .recv := hat
    simp only [recvThread_recvfrom, requestOf, answered, hat, params_eq hr]
    cases hpc : params.handleRecvMessage src msg with
    | none => rfl
    | some pc =>
      rcases HelloServerParams.handleRecvMessage_eq hpc with rfl | ⟨_, _, _, -, -, rfl⟩ |
        ⟨_, _, -, rfl⟩ | ⟨_, _, -, rfl⟩
      all_goals rfl
  case handle msg client radius =>
    simp only [next, requestOf, answered]
    split <;> simp
  all_goals simp [next, requestOf, answered, pending, hat]

set_option maxRecDepth 100000 in
theorem verdicts_in_order_helloRun :
    (automaton.exec (start Sample.helloParams 0) Sample.helloRun).sent.filterMap
      SentDatagram.verdictTo = [(Sample.proxyAddr, 1, true), (Sample.proxyAddr, 2, true),
        (Sample.proxyAddr, 2, false)] ∧
    Sample.helloRun.filterMap (requestOf Sample.helloParams) =
      [(Sample.proxyAddr, 1), (Sample.proxyAddr, 2), (Sample.proxyAddr, 2)] := by
  have hrun : automaton.Admits (start Sample.helloParams 0) Sample.helloRun := by decide +kernel
  have h := verdicts_in_order (Automaton.Admits.run hrun)
  exact ⟨h.1.trans (by decide +kernel), h.2.trans (by decide +kernel)⟩

end HelloServer
end Spanreed
