import Spanreed.HelloServerFacts

/-! # What the example server sends its clients

Game states go out at a bounded rate, to the address the client was admitted from
(`game_state_rate`). Every client is sent the chats in the order in which the server has received
them, so that no two clients see them in different orders (`chats_in_order`). -/

namespace Spanreed
open Flatbuffers Automata

namespace ClientPass
variable {now : UInt64} {gameState : ServerMessage} {p : ClientPass} {c c' : ClientId}
  {client : ConnectedClient} {order : List ClientId} {dots : List Dot}

theorem own_visit (h : p.clients.Own) : (p.visit now gameState c).clients.Own := by
  intro c' client hc
  have hid := @visit_identity now gameState p c c'
  rw [hc, Option.map_some] at hid
  obtain ⟨client', hclient', hx⟩ := Option.map_eq_some_iff.mp hid.symm
  exact (congrArg (fun x => x.2.1) hx).symm.trans (h c' client' hclient')

theorem own_visits (h : p.clients.Own) : (visits now gameState p order).clients.Own := by
  induction order generalizing p with
  | nil => exact h
  | cons c order ih => exact ih (own_visit h)

/-- How many of the datagrams are game states for client `c`. -/
def gameStates (c : ClientId) (sent : List SentDatagram) : Nat :=
  sent.countP (SentDatagram.isGameState c)

theorem gameStates_append (l₁ l₂ : List SentDatagram) :
    gameStates c (l₁ ++ l₂) = gameStates c l₁ + gameStates c l₂ :=
  List.countP_append

theorem visit_gameStates (h : p.clients.Own) (hclient : p.clients.lookup c = some client) :
    gameStates c' (p.visit now (.serverGameStateMessage dots) c).sent =
      gameStates c' p.sent + if client.due now ∧ c = c' then 1 else 0 := by
  have hc := h c client hclient
  rw [visit_of_mem hclient, gameStates_append]
  congr 1
  by_cases hdue : client.due now = true
  · simp [visitSends, gameStates, hdue, SentDatagram.isGameState, hc]
  · simp [visitSends, gameStates, hdue]

theorem visit_gameStates_of_ne (h : p.clients.Own) (hc : c' ≠ c) :
    gameStates c' (p.visit now (.serverGameStateMessage dots) c).sent = gameStates c' p.sent := by
  cases hclient : p.clients.lookup c with
  | none => rw [visit_of_notMem hclient]
  | some client => rw [visit_gameStates h hclient, if_neg (fun h => hc h.2.symm), Nat.add_zero]

theorem visits_gameStates_of_notMem (h : p.clients.Own) (hc : c' ∉ order) :
    gameStates c' (visits now (.serverGameStateMessage dots) p order).sent =
      gameStates c' p.sent := by
  induction order generalizing p with
  | nil => rfl
  | cons c order ih =>
    rw [List.mem_cons, not_or] at hc
    exact (ih (own_visit h) hc.2).trans (visit_gameStates_of_ne h hc.1)

/-- What the loop does for one client: it is visited once. -/
theorem visits_client (h : p.clients.Own) (hnodup : order.Nodup) (hc : c ∈ order)
    (hclient : p.clients.lookup c = some client) :
    (∃ client', (visits now (.serverGameStateMessage dots) p order).clients.lookup c =
      some client' ∧
      client'.lastSendTime = if client.due now then now else client.lastSendTime) ∧
    gameStates c (visits now (.serverGameStateMessage dots) p order).sent =
      gameStates c p.sent + if client.due now then 1 else 0 := by
  obtain ⟨l₁, l₂, rfl⟩ := List.append_of_mem hc
  rw [List.nodup_middle, List.nodup_cons, List.mem_append, not_or] at hnodup
  rw [show visits now (.serverGameStateMessage dots) p (l₁ ++ c :: l₂) =
    visits now (.serverGameStateMessage dots)
      ((visits now (.serverGameStateMessage dots) p l₁).visit now (.serverGameStateMessage dots) c)
      l₂ by simp [visits]]
  have hclient₁ : (visits now (.serverGameStateMessage dots) p l₁).clients.lookup c =
      some client := (visits_lookup_of_notMem hnodup.1.1).trans hclient
  have hcount₁ : gameStates c (visits now (.serverGameStateMessage dots) p l₁).sent =
      gameStates c p.sent := visits_gameStates_of_notMem h hnodup.1.1
  have hown : (visits now (.serverGameStateMessage dots) p l₁).clients.Own := own_visits h
  generalize visits now (.serverGameStateMessage dots) p l₁ = p₁ at hclient₁ hcount₁ hown ⊢
  refine ⟨⟨visited now p₁.nextColor client, ?_, visited_lastSendTime⟩, ?_⟩
  · refine (visits_lookup_of_notMem hnodup.1.2).trans ?_
    rw [visit_of_mem hclient₁, AList.lookup_insert]
  · refine (visits_gameStates_of_notMem (own_visit hown) hnodup.1.2).trans ?_
    rw [visit_gameStates hown hclient₁, hcount₁]
    simp

end ClientPass

namespace HelloServer
open HelloServerEvent ClientPass
variable {params : HelloServerParams} {t₀ : UInt64} {tr : List HelloServerEvent} {s : HelloServer}
  {e : HelloServerEvent} {c : ClientId}

/-! ## Game states -/

/-- The clock does not go back between two frames. -/
def ClockForward (s : HelloServer) : HelloServerEvent → Prop
  | .frame now => s.thisFrameTime ≤ now
  | _ => True

instance (s : HelloServer) : ∀ e, Decidable (s.ClockForward e)
  | .frame _ => inferInstanceAs (Decidable (_ ≤ _))
  | .recvfrom .. | .recvFails | .refuse .. | .vacant .. | .insert .. | .closeSkip .. | .closeOwn ..
  | .erase .. | .messageSkip .. | .messageKnown .. | .enqueue .. | .dequeue _ | .drained
  | .handleUnknown _ | .handle .. | .snapshot .. | .broadcast .. | .broadcasted .. | .update _ =>
    inferInstanceAs (Decidable True)

/-- The event inserts client `c`. -/
def insertsClient (c : ClientId) : HelloServerEvent → Bool
  | .insert _ clientId _ _ => clientId == c
  | _ => false

/-- How often client `c` was inserted. -/
def insertions (c : ClientId) (tr : List HelloServerEvent) : Nat := tr.countP (insertsClient c)

theorem insertions_snoc :
    insertions c (tr ++ [e]) = insertions c tr + if insertsClient c e then 1 else 0 := by
  rw [insertions, List.countP_append, List.countP_singleton, insertions]

theorem thisFrameTime_next (h : ∀ now, e ≠ .frame now) :
    (s.next e).thisFrameTime = s.thisFrameTime := by
  cases e <;> first | rfl | exact (h _ rfl).elim | skip
  all_goals
    simp only [next]
    split <;> rfl

/-- Only the loop over the clients sends game states. -/
theorem gameStates_next (h : ∀ order, e ≠ .update order) :
    gameStates c (s.next e).sent = gameStates c s.sent := by
  rw [sent_next, gameStates_append]
  cases e <;> first | rfl | exact (h _ rfl).elim

/-- `sent` game states in the time up to `last`, after `inserted` insertions: one more has its time
already if the client was inserted after the last one, and else the entry says when that was. -/
structure Paced (c : ClientId) (inserted sent last : Nat) (s : HelloServer) : Prop where
  last_le : last ≤ s.thisFrameTime.toNat
  paid : 50000 * sent ≤ 50000 * inserted + last
  entry : ∀ client, s.clients.lookup c = some client →
    client.lastSendTime.toNat = last ∨ 50000 * (sent + 1) ≤ 50000 * inserted + last

theorem due_le {now : UInt64} {client : ConnectedClient}
    (hle : client.lastSendTime.toNat ≤ now.toNat) (hdue : client.due now = true) :
    client.lastSendTime.toNat + 50000 ≤ now.toNat := by
  have hdue : kClientSendFrequencyUs ≤ now - client.lastSendTime := by
    simpa [ConnectedClient.due] using hdue
  rw [UInt64.le_iff_toNat_le, UInt64.toNat_sub_of_le _ _ (UInt64.le_iff_toNat_le.mpr hle)] at hdue
  have : kClientSendFrequencyUs.toNat = 50000 := rfl
  omega

section
variable {inserted sent last : Nat}

theorem Paced.of_same {s' : HelloServer} (h : Paced c inserted sent last s)
    (hclients : s'.clients.lookup c = s.clients.lookup c)
    (htime : s.thisFrameTime.toNat ≤ s'.thisFrameTime.toNat) : Paced c inserted sent last s' :=
  ⟨h.last_le.trans htime, h.paid, fun client hc => h.entry client (hclients.symm.trans hc)⟩

theorem Paced.reinserted {s' : HelloServer} (h : Paced c inserted sent last s)
    (htime : s'.thisFrameTime = s.thisFrameTime) : Paced c (inserted + 1) sent last s' := by
  have := h.paid
  exact ⟨htime ▸ h.last_le, by omega, fun client hc => .inr (by omega)⟩

theorem Paced.erased {s' : HelloServer} (h : Paced c inserted sent last s)
    (hclients : s'.clients.lookup c = none) (htime : s'.thisFrameTime = s.thisFrameTime) :
    Paced c inserted sent last s' :=
  ⟨htime ▸ h.last_le, h.paid, fun client hc => by simp [hclients] at hc⟩

/-- The loop over the clients: a game state is paid for by the time since the last one, or by an
insertion. -/
theorem Paced.visited {s' : HelloServer} {client client' : ConnectedClient}
    (h : Paced c inserted sent last s) (hclient : s.clients.lookup c = some client)
    (hclient' : s'.clients.lookup c = some client')
    (htime : s'.thisFrameTime = s.thisFrameTime)
    (hlast : client'.lastSendTime =
      if client.due s.thisFrameTime then s.thisFrameTime else client.lastSendTime) :
    ∃ last', Paced c inserted (sent + if client.due s.thisFrameTime then 1 else 0) last' s' := by
  have hle := h.last_le
  have hpaid := h.paid
  have hentry := h.entry client hclient
  by_cases hdue : client.due s.thisFrameTime = true
  · rw [if_pos hdue] at hlast ⊢
    refine ⟨s.thisFrameTime.toNat, by rw [htime], ?_, fun client'' hc => .inl ?_⟩
    · rcases hentry with hentry | hentry
      · have := due_le (by omega) hdue
        omega
      · omega
    · cases hclient'.symm.trans hc
      rw [hlast]
  · rw [if_neg hdue] at hlast ⊢
    refine ⟨last, by rwa [htime], hpaid, fun client'' hc => ?_⟩
    cases hclient'.symm.trans hc
    rwa [hlast]

end

theorem Paced.update {inserted last : Nat} {order : List ClientId} (hr : Run params t₀ tr s)
    (h : Paced c inserted (gameStates c s.sent) last s) (horder : order.Perm s.clients.keys) :
    ∃ last', Paced c inserted (gameStates c (s.next (.update order)).sent) last'
      (s.next (.update order)) := by
  have hmem : c ∈ order ↔ c ∈ s.clients := by rw [horder.mem_iff, AList.mem_keys]
  rw [sent_next, gameStates_append]
  cases hclient : s.clients.lookup c with
  | none =>
    have hc : c ∉ order := by
      rw [hmem]
      exact AList.lookup_eq_none.mp hclient
    have hnone : gameStates c (s.pass order).sent = 0 := visits_gameStates_of_notMem (own hr) hc
    rw [show s.sends (.update order) = (s.pass order).sent from rfl, hnone]
    exact ⟨last, h.of_same (visits_lookup_of_notMem hc) le_rfl⟩
  | some client =>
    have hc : c ∈ order := by
      rw [hmem]
      exact AList.lookup_isSome.mp (by simp [hclient])
    have hnodup : order.Nodup := horder.nodup_iff.mpr s.clients.keys_nodup
    obtain ⟨⟨client', hclient', hlast⟩, hcount⟩ :=
      visits_client (p := ⟨s.clients, s.nextColor, []⟩) (own hr) hnodup hc hclient
    have hcount : gameStates c (s.sends (.update order)) =
        if client.due s.thisFrameTime then 1 else 0 := hcount.trans (Nat.zero_add _)
    rw [hcount]
    exact h.visited hclient hclient' rfl hlast

theorem paced (h : Run params t₀ tr s)
    (hclock : automaton.Obeys ClockForward (start params t₀) tr) (c : ClientId) :
    ∃ last, Paced c (insertions c tr) (gameStates c s.sent) last s := by
  induction h with
  | nil => exact ⟨0, Nat.zero_le _, le_rfl, fun client hc => by simp [start] at hc⟩
  | @snoc tr s e hr he ih =>
    rw [hr.obeys_snoc] at hclock
    obtain ⟨last, ih⟩ := ih hclock.1
    have hforward := hclock.2
    rw [insertions_snoc, show automaton.next s e = s.next e from rfl]
    cases e
    case update order => exact ih.update hr he.2.2
    all_goals rw [gameStates_next (by simp)]
    case insert src clientId name now =>
      by_cases hc : clientId = c
      · subst hc
        rw [if_pos (by simp [insertsClient])]
        exact ⟨last, ih.reinserted rfl⟩
      · rw [if_neg (by simp [insertsClient, hc])]
        exact ⟨last, ih.of_same (ConnectedClients.lookup_insertNew_ne (Ne.symm hc)) le_rfl⟩
    case erase src clientId =>
      by_cases hc : clientId = c
      · subst hc
        exact ⟨last, ih.erased (AList.lookup_erase ..) rfl⟩
      · exact ⟨last, ih.of_same (AList.lookup_erase_ne (Ne.symm hc)) le_rfl⟩
    case frame now => exact ⟨last, ih.of_same rfl (UInt64.le_iff_toNat_le.mp hforward)⟩
    all_goals
      refine ⟨last, ih.of_same (by rw [clients_next (by simp [Touches])]) ?_⟩
      rw [thisFrameTime_next (by simp)]

/-- A datagram with a message for client `c` goes to an address `c` was inserted from. -/
def Home (tr : List HelloServerEvent) (addr : SockaddrIn) (c : ClientId) : Prop :=
  ∃ name now, .insert addr c name now ∈ tr

theorem Home.mono {addr : SockaddrIn} (h : Home tr addr c) : Home (tr ++ [e]) addr c := by
  obtain ⟨name, now, hmem⟩ := h
  exact ⟨name, now, List.mem_append_left _ hmem⟩

/-- Who holds an id was inserted under it. -/
theorem inserted_of_holder {x : SockaddrIn × Bytes} (h : holder c tr = some x) :
    ∃ now, .insert x.1 c x.2 now ∈ tr := by
  induction tr using List.reverseRecOn with
  | nil => cases h
  | append_singleton tr e ih =>
    rw [holder_snoc] at h
    have before : holder c tr = some x → ∃ now, .insert x.1 c x.2 now ∈ tr ++ [e] := by
      intro h
      obtain ⟨now, hmem⟩ := ih h
      exact ⟨now, List.mem_append_left _ hmem⟩
    cases e
    case insert src clientId name now =>
      simp only [holds] at h
      split at h
      · next hc =>
        cases h
        subst hc
        exact ⟨now, by simp⟩
      · exact before h
    case erase src clientId =>
      simp only [holds] at h
      split at h
      · cases h
      · exact before h
    all_goals exact before h

/-- A client of the table was inserted with its address and its name. -/
theorem inserted_of_lookup (h : Run params t₀ tr s) {client : ConnectedClient}
    (hc : s.clients.lookup c = some client) :
    ∃ now, .insert client.spanreedClientAddr c client.clientName now ∈ tr := by
  have hid := lookup_holder h c
  rw [hc, Option.map_some] at hid
  obtain ⟨x, hx, hid⟩ := Option.map_eq_some_iff.mp hid.symm
  rw [← show x.1 = client.spanreedClientAddr from congrArg Prod.fst hid,
    ← show x.2 = client.clientName from congrArg (fun y => y.2.2) hid]
  exact inserted_of_holder hx

theorem home_of_lookup (h : Run params t₀ tr s) {client : ConnectedClient}
    (hc : s.clients.lookup c = some client) : Home tr client.spanreedClientAddr c :=
  ⟨_, inserted_of_lookup h hc⟩

/-- The clients a chat goes to, as far as the main loop has them in its hands. -/
def targets : MainPc → List ConnectedClient
  | .broadcast _ _ targets => targets
  | _ => []

/-- The clients of the table, in any order. -/
theorem lookup_of_target (h : Run params t₀ tr s) {l : List ConnectedClient}
    (hl : l.Perm (s.clients.entries.map Sigma.snd)) {target : ConnectedClient} (ht : target ∈ l) :
    s.clients.lookup target.spanreedClientId = some target := by
  obtain ⟨entry, hentry, rfl⟩ := List.mem_map.mp (hl.mem_iff.mp ht)
  have hlookup : s.clients.lookup entry.1 = some entry.2 :=
    AList.mem_lookup_iff.mpr hentry
  rwa [own h _ _ hlookup]

theorem targets_home (h : Run params t₀ tr s) :
    ∀ target ∈ targets s.mainLoop, Home tr target.spanreedClientAddr target.spanreedClientId := by
  induction h with
  | nil => simp [start, targets]
  | @snoc tr s e hr he ih =>
    rw [show automaton.next s e = s.next e from rfl]
    have hat := he.2
    have before : targets s.mainLoop = targets (s.next e).mainLoop →
        ∀ target ∈ targets (s.next e).mainLoop,
          Home (tr ++ [e]) target.spanreedClientAddr target.spanreedClientId := by
      intro hsame target ht
      exact (ih target (hsame ▸ ht)).mono
    cases e
    case snapshot user text l =>
      intro target ht
      exact (home_of_lookup hr (lookup_of_target hr hat.2 ht)).mono
    case broadcast user text target rest =>
      intro target' ht
      refine (ih target' ?_).mono
      rw [show s.mainLoop = _ from hat]
      exact List.mem_cons_of_mem _ ht
    case recvfrom src msg =>
      refine before ?_
      simp only [next]
      split <;> rfl
    case handle msg client radius =>
      simp only [next]
      split
      all_goals simp [targets, hat.1]
    all_goals first | exact before rfl | simp [next, targets]

theorem sent_home (h : Run params t₀ tr s) :
    ∀ x ∈ s.sent, ∀ c, x.msg = .proxyMessage c → Home tr x.addr c := by
  induction h with
  | nil => simp [start]
  | @snoc tr s e hr he ih =>
    intro x hx c hc
    rw [show automaton.next s e = s.next e from rfl, sent_next, List.mem_append] at hx
    rcases hx with hx | hx
    · exact (ih x hx c hc).mono
    · have hat := he.2
      cases e <;> simp only [sends, List.mem_singleton, List.not_mem_nil] at hx
      case refuse | insert => simp [hx, verdict] at hc
      case broadcast user text target rest =>
        rw [hx] at hc
        cases hc
        rw [hx]
        exact (targets_home hr target (by simp [show s.mainLoop = _ from hat, targets])).mono
      case update order =>
        obtain ⟨c', client, hclient, haddr, hmsg, -⟩ := pass_sent hx
        rw [own hr _ _ hclient] at hmsg
        cases hmsg.symm.trans hc
        rw [haddr]
        exact (home_of_lookup hr hclient).mono

/-- As long as the clock does not go back, a client is sent at most one game state for every 50 ms
since the server was started and one for each time it was inserted, also when it is inserted while
the main loop is in a frame that has begun before: the difference of the two times then wraps
around. Whatever the server sends for a client beside verdicts goes to an address the client was
inserted from. -/
theorem game_state_rate (h : Run params t₀ tr s)
    (hclock : automaton.Obeys ClockForward (start params t₀) tr) (c : ClientId) :
    gameStates c s.sent ≤ insertions c tr + s.thisFrameTime.toNat / 50000 ∧
    ∀ x ∈ s.sent, x.msg = .proxyMessage c → Home tr x.addr c := by
  refine ⟨?_, fun x hx hc => sent_home h x hx c hc⟩
  obtain ⟨last, hlast, hpaid, -⟩ := paced h hclock c
  omega

set_option maxRecDepth 100000 in
theorem game_state_rate_helloRun :
    gameStates 2 (automaton.exec (start Sample.helloParams 0) Sample.helloRun).sent = 1 ∧
    gameStates 2 (automaton.exec (start Sample.helloParams 0) Sample.helloRun).sent ≤
      insertions 2 Sample.helloRun + (automaton.exec (start Sample.helloParams 0)
        Sample.helloRun).thisFrameTime.toNat / 50000 := by
  have hrun : automaton.Admits (start Sample.helloParams 0) Sample.helloRun := by decide +kernel
  have hclock : automaton.Obeys ClockForward (start Sample.helloParams 0) Sample.helloRun := by
    decide +kernel
  exact ⟨by decide +kernel, (game_state_rate (Automaton.Admits.run hrun) hclock 2).1⟩

/-! ## Chats -/

/-- The text of app data that is a chat. -/
def chatText (params : HelloServerParams) (appData : Bytes) : Option Bytes :=
  match params.clientMessage appData with
  | some (.userChatMessage text) => text
  | _ => none

/-- The text of a chat that is received. -/
def chatReceived (params : HelloServerParams) : HelloServerEvent → Option Bytes
  | .recvfrom src msg =>
    match params.handleRecvMessage src msg with
    | some (.message _ appData) => chatText params appData
    | _ => none
  | _ => none

/-- The text of a chat that is sent to client `c`. -/
def chatSent (c : ClientId) : HelloServerEvent → Option Bytes
  | .broadcast _ text target _ => if target.spanreedClientId = c then some text else none
  | _ => none

/-- The chats for client `c` that the main loop has in its hands. -/
def chatsAtMain (params : HelloServerParams) (c : ClientId) : MainPc → List Bytes
  | .handle msg => (chatText params msg.buffer).toList
  | .chat _ text => [text]
  | .broadcast _ text targets =>
    if c ∈ targets.map ConnectedClient.spanreedClientId then [text] else []
  | _ => []

/-- The chat the receiving thread has in its hands. -/
def chatsAtRecv (params : HelloServerParams) : RecvPc → List Bytes
  | .message _ appData | .enqueue _ appData => (chatText params appData).toList
  | _ => []

/-- The chats that are on their way to client `c`, oldest first. -/
def chatsHeld (params : HelloServerParams) (c : ClientId) (s : HelloServer) : List Bytes :=
  chatsAtMain params c s.mainLoop ++ s.queue.filterMap (fun msg => chatText params msg.buffer) ++
    chatsAtRecv params s.recvThread

theorem sent_chats (h : Run params t₀ tr s) (c : ClientId) :
    s.sent.filterMap (SentDatagram.chatTo c) = tr.filterMap (chatSent c) := by
  refine sent_filterMap h fun s e => ?_
  cases e <;> try rfl
  case update order =>
    refine List.filterMap_eq_nil_iff.mpr fun x hx => ?_
    obtain ⟨c', client, -, -, hmsg, hdata⟩ := pass_sent hx
    simp [SentDatagram.chatTo, hmsg, hdata, gameState]

/-- A chat goes to each client at most once. -/
theorem targets_nodup (h : Run params t₀ tr s) :
    ((targets s.mainLoop).map ConnectedClient.spanreedClientId).Nodup := by
  induction h with
  | nil => simp [start, targets]
  | @snoc tr s e hr he ih =>
    rw [show automaton.next s e = s.next e from rfl]
    have hat := he.2
    cases e
    case snapshot user text l =>
      have hids : (s.clients.entries.map Sigma.snd).map ConnectedClient.spanreedClientId =
          s.clients.keys := by
        rw [List.map_map]
        refine List.map_congr_left fun entry hentry => ?_
        exact own hr _ _ (AList.mem_lookup_iff.mpr hentry)
      change (l.map ConnectedClient.spanreedClientId).Nodup
      rw [(hat.2.map _).nodup_iff, hids]
      exact s.clients.keys_nodup
    case broadcast user text target rest =>
      rw [show s.mainLoop = _ from hat] at ih
      exact (List.nodup_cons.mp ih).2
    case recvfrom src msg =>
      simp only [next]
      split <;> exact ih
    case handle msg client radius =>
      simp only [next]
      split
      all_goals simp [targets, hat.1]
    all_goals first | exact ih | simp [next, targets]

/-- One event of the server, as the chats for client `c` see it. -/
theorem chats_step (hr : Run params t₀ tr s) (he : s.enabled e) (c : ClientId) :
    ((chatSent c e).toList ++ chatsHeld params c (s.next e)).Sublist
      (chatsHeld params c s ++ (chatReceived params e).toList) := by
  have hat := he.2
  have hparams := params_eq hr
  cases e
  case recvfrom src msg =>
    have hat : s.recvThread = .recv := hat
    cases hpc : params.handleRecvMessage src msg with
    | none => simp [next, hparams, hpc, chatSent, chatReceived, chatsHeld]
    | some pc =>
      simp only [chatSent, chatReceived, chatsHeld, next, hparams, hpc, hat, chatsAtRecv,
        Option.toList_none, List.nil_append, List.append_nil]
      rcases HelloServerParams.handleRecvMessage_eq hpc with rfl | ⟨_, _, _, -, -, rfl⟩ |
        ⟨_, _, -, rfl⟩ | ⟨_, _, -, rfl⟩
      all_goals simp
  case handle msg client radius =>
    have hmain : s.mainLoop = .handle msg := hat.1
    rcases hmsg : params.clientMessage msg.buffer with _ | _ | _ | (_ | text) | _
    all_goals
      simp [chatSent, chatReceived, chatsHeld, next, hparams, hmain, hmsg, chatsAtMain, chatText]
  case snapshot user text l =>
    have hmain : s.mainLoop = .chat user text := hat.1
    simp only [chatSent, chatReceived, chatsHeld, next, hmain, chatsAtMain,
      Option.toList_none, List.nil_append, List.append_nil, List.append_assoc]
    refine List.Sublist.append_right ?_ _
    split <;> simp
  case broadcast user text target rest =>
    have hmain : s.mainLoop = .broadcast user text (target :: rest) := hat
    have hnodup := targets_nodup hr
    rw [hmain] at hnodup
    have hnot := (List.nodup_cons.mp hnodup).1
    simp only [chatSent, chatReceived, chatsHeld, next, hmain, chatsAtMain,
      Option.toList_none, List.append_nil, List.append_assoc, List.map_cons, List.mem_cons]
    by_cases hc : target.spanreedClientId = c
    · subst hc
      simp [hnot]
    · simp [hc, Ne.symm hc]
  case dequeue msg =>
    obtain ⟨rest, hrest⟩ : ∃ rest, s.queue = msg :: rest := by
      cases hq : s.queue with
      | nil => simp [hq] at hat
      | cons msg' rest =>
        obtain rfl : msg' = msg := by simpa [hq] using hat.2.2
        exact ⟨rest, rfl⟩
    have hmain : s.mainLoop = .drain := hat.1
    cases htext : chatText params msg.buffer <;>
      simp [chatSent, chatReceived, chatsHeld, next, hmain, chatsAtMain, hrest, htext]
  case enqueue clientId appData =>
    have hpc : s.recvThread = .enqueue clientId appData := hat
    cases htext : chatText params appData <;>
      simp [chatSent, chatReceived, chatsHeld, next, hpc, chatsAtRecv, htext]
  all_goals simp [chatSent, chatReceived, chatsHeld, next, chatsAtMain, chatsAtRecv, hat]

/-- The chats sent to a client are, in order and each at most once, chats that the server has
received. So all clients see the chats in one order, that of their arrival. -/
theorem chats_in_order (h : Run params t₀ tr s) (c : ClientId) :
    (s.sent.filterMap (SentDatagram.chatTo c)).Sublist (tr.filterMap (chatReceived params)) := by
  rw [sent_chats h]
  have hstage : Lossy (tr.filterMap (chatReceived params)) (tr.filterMap (chatSent c))
      (chatsHeld params c s) :=
    h.lossy (k := chatsHeld params c) rfl fun tr s e hr he => chats_step hr he c
  exact hstage.sublist

set_option maxRecDepth 100000 in
theorem chats_in_order_helloRun :
    (automaton.exec (start Sample.helloParams 0) Sample.helloRun).sent.filterMap
      (SentDatagram.chatTo 2) = [ascii "hey"] ∧
    ((automaton.exec (start Sample.helloParams 0) Sample.helloRun).sent.filterMap
      (SentDatagram.chatTo 2)).Sublist
        (Sample.helloRun.filterMap (chatReceived Sample.helloParams)) := by
  have hrun : automaton.Admits (start Sample.helloParams 0) Sample.helloRun := by decide +kernel
  exact ⟨by decide +kernel, chats_in_order (Automaton.Admits.run hrun) 2⟩

/-! ## What the queue holds -/

/-- What is handled was put into the queue before. -/
theorem enqueued_of_queued (h : Run params t₀ tr s) {msg : QueuedClientMessage}
    (hmsg : msg ∈ s.queue ∨ s.mainLoop = .handle msg) :
    .enqueue msg.clientId msg.buffer ∈ tr := by
  induction h with
  | nil => simp [start] at hmsg
  | @snoc tr s e hr he ih =>
    rw [show automaton.next s e = s.next e from rfl] at hmsg
    have hat := he.2
    cases e
    case enqueue clientId appData =>
      simp only [next, List.mem_append, List.mem_singleton] at hmsg
      rcases hmsg with (hmsg | rfl) | hmsg
      · exact List.mem_append_left _ (ih (.inl hmsg))
      · simp
      · exact List.mem_append_left _ (ih (.inr hmsg))
    case dequeue msg' =>
      refine List.mem_append_left _ (ih (.inl ?_))
      simp only [next, MainPc.handle.injEq] at hmsg
      rcases hmsg with hmsg | rfl
      · exact List.mem_of_mem_tail hmsg
      · exact List.mem_of_mem_head? hat.2.2
    case recvfrom src msg' =>
      simp only [next] at hmsg
      split at hmsg <;> exact List.mem_append_left _ (ih hmsg)
    case handle msg' client radius =>
      refine List.mem_append_left _ (ih ?_)
      simp only [next] at hmsg
      split at hmsg
      all_goals
        rcases hmsg with hmsg | hmsg
        · exact .inl hmsg
        · first | exact .inr hmsg | cases hmsg
    all_goals
      refine List.mem_append_left _ (ih ?_)
      rcases hmsg with hmsg | hmsg
      · exact .inl hmsg
      · first | exact .inr hmsg | cases hmsg

/-- The text has come in a message of a client that was inserted under the name `user`. -/
def Said (params : HelloServerParams) (tr : List HelloServerEvent) (user text : Bytes) : Prop :=
  ∃ c src now data, .insert src c user now ∈ tr ∧ .enqueue c data ∈ tr ∧
    params.clientMessage data = some (.userChatMessage (some text))

theorem Said.mono {user text : Bytes} (h : Said params tr user text) :
    Said params (tr ++ [e]) user text := by
  obtain ⟨c, src, now, data, hins, henq, hread⟩ := h
  exact ⟨c, src, now, data, List.mem_append_left _ hins, List.mem_append_left _ henq, hread⟩

/-- The chat that the main loop sends. -/
def chatOf : MainPc → Option (Bytes × Bytes)
  | .chat user text | .broadcast user text _ => some (user, text)
  | _ => none

/-- The main loop sends a chat under the name of the client whose message it has handled. -/
theorem said_of_chatOf (h : Run params t₀ tr s) {user text : Bytes}
    (hchat : chatOf s.mainLoop = some (user, text)) : Said params tr user text := by
  induction h with
  | nil => cases hchat
  | @snoc tr s e hr he ih =>
    rw [show automaton.next s e = s.next e from rfl] at hchat
    have hat := he.2
    cases e
    case recvfrom src msg =>
      simp only [next] at hchat
      split at hchat <;> exact (ih hchat).mono
    case handle msg client radius =>
      have henq := enqueued_of_queued hr (.inr hat.1)
      obtain ⟨now, hins⟩ := inserted_of_lookup hr hat.2
      simp only [next, params_eq hr] at hchat
      split at hchat
      all_goals try (simp only [chatOf, hat.1, reduceCtorEq] at hchat)
      next hread =>
        cases hchat
        exact Said.mono ⟨msg.clientId, _, now, msg.buffer, hins, henq, hread⟩
    case snapshot user' text' l =>
      cases hchat
      exact (ih (by rw [hat.1]; rfl)).mono
    case broadcast user' text' target rest =>
      cases hchat
      exact (ih (by rw [show s.mainLoop = _ from hat]; rfl)).mono
    all_goals first | exact (ih hchat).mono | cases hchat

/-- A chat that is sent was said by a client, under whose name it is sent. -/
theorem said_of_sent (h : Run params t₀ tr s) {x : SentDatagram} (hx : x ∈ s.sent)
    {user text : Bytes} (hchat : x.appData = some (.serverChatMessage user text)) :
    Said params tr user text := by
  induction h with
  | nil => cases hx
  | @snoc tr s e hr he ih =>
    rw [show automaton.next s e = s.next e from rfl, sent_next, List.mem_append] at hx
    rcases hx with hx | hx
    · exact (ih hx).mono
    · have hat := he.2
      cases e <;> simp only [sends, List.mem_singleton, List.not_mem_nil] at hx
      case refuse | insert => simp [hx, verdict] at hchat
      case broadcast user' text' target rest =>
        rw [hx] at hchat
        cases hchat
        exact (said_of_chatOf hr (by rw [show s.mainLoop = _ from hat]; rfl)).mono
      case update order =>
        obtain ⟨-, -, -, -, -, hdata⟩ := pass_sent hx
        rw [hdata] at hchat
        cases hchat

/-! ## The end of the process -/

/-- The process ends only by a datagram that lacks what a handler uses, or by a chat without a
text. -/
theorem cause_of_death (h : Run params t₀ tr s) (hdead : s.alive = false) :
    (∃ src msg, .recvfrom src msg ∈ tr ∧ params.handleRecvMessage src msg = none) ∨
    ∃ clientId appData, .enqueue clientId appData ∈ tr ∧
      params.clientMessage appData = some (.userChatMessage none) := by
  induction h with
  | nil => cases hdead
  | @snoc tr s e hr he ih =>
    have halive : s.alive = true := he.1
    have hparams := params_eq hr
    rw [show automaton.next s e = s.next e from rfl] at hdead
    cases e
    case recvfrom src msg =>
      cases hpc : params.handleRecvMessage src msg with
      | none => exact .inl ⟨src, msg, by simp, hpc⟩
      | some pc => simp [next, hparams, hpc, halive] at hdead
    case handle msg client radius =>
      have hmsg := enqueued_of_queued hr (.inr he.2.1)
      refine .inr ⟨msg.clientId, msg.buffer, List.mem_append_left _ hmsg, ?_⟩
      rcases hread : params.clientMessage msg.buffer with _ | _ | _ | (_ | text) | _
      all_goals simp [next, hparams, hread, halive] at hdead
      rfl
    all_goals simp [next, halive] at hdead

end HelloServer
end Spanreed
