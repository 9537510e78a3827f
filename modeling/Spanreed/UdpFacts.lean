import Spanreed.Udp
import Spanreed.Lib.Pipeline

/-! # What the UDP handler does with commands and datagrams

Facts about every history of the UDP handler: each point a goroutine can be at has its history
behind it (`listener_origin`, `datagrams_origin`), a client is registered from its open command
until it is closed (`address_register`, `registered_of_register`), and both directions keep the
order of a client's messages (`exact_listener`, `exact_sender`, `exact_datagrams`). -/

namespace Spanreed
open Flatbuffers Automata

/-- The payload of a client message datagram of client `c`. -/
def OutgoingMessage.clientData (c : ClientId) (m : OutgoingMessage) : Option (Option Bytes) :=
  if m.payload.innerMessage = .proxyDestClientMessage ∧ m.payload.clientId = c then
    some m.payload.appData
  else none

namespace UdpEvent

/-- A datagram put on `outgoingMessages`. -/
def enqueued : UdpEvent → Option OutgoingMessage
  | .connectSend m addr => some (Udp.connectionRequest m addr)
  | .messageSend m addr => some (Udp.clientMessage m addr)
  | .closeSend m addr => some (Udp.closeConnection m.clientId addr)
  | _ => none

/-- An open command for client `c` taken from the hub. -/
def openedFor (c : ClientId) : UdpEvent → Option OpenClientConnectionCommand
  | .recvOpen m => if m.clientId = c then some m else none
  | _ => none

/-- A datagram taken from `outgoingMessages` and written to the socket. -/
def sent : UdpEvent → Option OutgoingMessage
  | .senderWrite m => some m
  | _ => none

/-- A datagram written to the socket, by the sender or by the closing goroutine. -/
def written : UdpEvent → Option OutgoingMessage
  | .senderWrite m => some m
  | .closerWrite clientId addr => some (Udp.closeConnection clientId addr)
  | _ => none

/-- The payload of a message of client `c` from the hub. -/
def clientDataIn (c : ClientId) : UdpEvent → Option (Option Bytes)
  | .recvMessage m => m.dataFor c
  | _ => none

/-- The payload of a client message datagram of client `c` put on `outgoingMessages`. -/
def clientDataOut (c : ClientId) (e : UdpEvent) : Option (Option Bytes) :=
  e.enqueued.bind (OutgoingMessage.clientData c)

/-- The app data of a proxy message for client `c` received while `c` is registered. -/
def destinationDataIn (c : ClientId) : UdpEvent → Option (Option Bytes)
  | .datagramForward _ _ (.message id d) => if id = c then some d else none
  | _ => none

/-- The payload of a message for client `c` for the hub. -/
def destinationDataOut (c : ClientId) : UdpEvent → Option (Option Bytes)
  | .sendMessage _ m => m.dataFor c
  | _ => none

/-- A message of client `c` is dropped. -/
def Drops (c : ClientId) : UdpEvent → Prop
  | .messageUnknown m => m.clientId = c
  | _ => False

/-- An event after which client `c` may be gone from the registry. -/
def Unregisters (c : ClientId) : UdpEvent → Prop
  | .closeDelete m => m.clientId = c
  | .closerWrite c' _ => c' = c
  | _ => False

end UdpEvent

/-- What the listener has in its hands of client `c`'s messages. -/
def ListenerPc.holds (c : ClientId) : ListenerPc → List (Option Bytes)
  | .messageLookup m | .messageSend m _ => (m.dataFor c).toList
  | _ => []

/-- What the sender has in its hands. -/
def SenderPc.holds : SenderPc → List OutgoingMessage
  | .write m => [m]
  | _ => []

/-- What the datagram listener has in its hands of the messages for client `c`. -/
def DatagramPc.holds (c : ClientId) : DatagramPc → List (Option Bytes)
  | .messageNow _ id d => if id = c then [d] else []
  | .sendMessage _ m => (m.dataFor c).toList
  | _ => []

/-- An address comes from an open command whose destination is allowed. -/
theorem contains_iff {s : Bytes} {list : List Bytes} : contains s list = true ↔ s ∈ list := by
  simp [contains]

theorem isDestinationAllowed_eq_true {allowAll : Bool} {allowlist denylist : List Bytes}
    {s : Bytes} : isDestinationAllowed allowAll allowlist denylist s = true ↔
      s ∉ denylist ∧ (allowAll = true ∨ s ∈ allowlist) := by
  unfold isDestinationAllowed
  rw [← @contains_iff s denylist, ← @contains_iff s allowlist]
  cases contains s denylist <;> cases allowAll <;> simp

theorem UdpSpanreedDestinationParams.connectAddress_ok {params : UdpSpanreedDestinationParams}
    {s : Bytes} {addr : UDPAddr} (h : params.connectAddress s = some (.ok addr)) :
    ∃ host, params.resolveUdpHost s = some (.ok host) ∧
      isDestinationAllowed params.allowAllDestinations params.allowlistedDestinations
        params.denylistedDestinations host = true ∧
      params.resolveUDPAddr host = .ok addr := by
  unfold connectAddress at h
  obtain ⟨res, hres, h⟩ := Option.bind_eq_some_iff.mp h
  cases res with
  | error err => cases Option.some.inj h
  | ok host =>
    simp only at h
    split at h
    · cases Option.some.inj h
    · next hallowed =>
      exact ⟨host, hres, by simpa using hallowed, Option.some.inj h⟩

/-- Only a registered client's datagrams are forwarded. -/
theorem registered_of_forward {registered : ClientId → Bool} {rawMsg : Slice} {f : Forward}
    (h : onDatagram registered rawMsg = some (some f)) : registered f.clientId = true := by
  unfold onDatagram at h
  split at h
  · cases h
  simp only [Option.bind_eq_bind, Option.bind_eq_some_iff] at h
  obtain ⟨msg, -, h⟩ := h
  cases msg with
  | none => cases h
  | some ut =>
    simp only [Option.bind_eq_some_iff] at h
    obtain ⟨msgType, -, h⟩ := h
    cases msgType
    case connectionVerdict =>
      simp only [onReceiveVerdict, Option.bind_eq_bind, Option.bind_eq_some_iff] at h
      obtain ⟨_, -, id, -, accepted, -, h⟩ := h
      split at h
      · next hreg => cases h; exact hreg
      · cases h
    case proxyMessage =>
      simp only [onReceiveProxyMessage, Option.bind_eq_bind, Option.bind_eq_some_iff] at h
      obtain ⟨_, -, id, -, h⟩ := h
      split at h
      · next hreg => cases h; exact hreg
      · cases h
    case closeConnection =>
      simp only [onReceiveCloseRequest, Option.bind_eq_bind, Option.bind_eq_some_iff] at h
      obtain ⟨_, -, id, -, h⟩ := h
      split at h
      · next hreg =>
        obtain ⟨reason, -, h⟩ := Option.bind_eq_some_iff.mp h
        cases h
        exact hreg
      · cases h
    all_goals cases h

namespace Udp
open UdpEvent

section
variable {params : UdpSpanreedDestinationParams} {tr : List UdpEvent} {u : Udp} {c : ClientId}
  {m m₁ m₂ : OpenClientConnectionCommand} {addr : UDPAddr} {e : UdpEvent}

theorem params_eq (h : automaton.Run (start params) tr u) : u.params = params := by
  refine h.invariant (I := fun u => u.params = params) rfl ?_
  intro u e ih _
  cases e <;> exact ih

/-! ## What came before -/

/-- An address in use for a client comes from its registration. -/
def Resolved (tr : List UdpEvent) (c : ClientId) (addr : UDPAddr) : Prop :=
  ∃ m, .register m addr ∈ tr ∧ m.clientId = c

theorem Resolved.mono {tr' : List UdpEvent} {addr : UDPAddr} (h : Resolved tr c addr) :
    Resolved (tr ++ tr') c addr := by
  obtain ⟨m, hm, hc⟩ := h
  exact ⟨m, List.mem_append_left _ hm, hc⟩

theorem address_register (h : automaton.Run (start params) tr u) {addr : UDPAddr}
    (ha : u.address c = some addr) : Resolved tr c addr := by
  induction h with
  | nil => simp [address, start] at ha
  | @snoc tr u e hr he ih =>
    cases e
    case register m addr' =>
      simp only [automaton, next, address] at ha
      by_cases hc : c = m.clientId
      · subst hc
        rw [AList.lookup_insert] at ha
        cases ha
        exact ⟨m, by simp, rfl⟩
      · rw [AList.lookup_insert_ne hc] at ha
        exact (ih ha).mono
    case closeDelete m =>
      simp only [automaton, next, address] at ha
      by_cases hc : c = m.clientId
      · rw [hc, AList.lookup_erase] at ha
        cases ha
      · rw [AList.lookup_erase_ne hc] at ha
        exact (ih ha).mono
    case closerWrite c' addr' =>
      simp only [automaton, next, address] at ha
      by_cases hc : c = c'
      · rw [hc, AList.lookup_erase] at ha
        cases ha
      · rw [AList.lookup_erase_ne hc] at ha
        exact (ih ha).mono
    all_goals exact (ih ha).mono

/-- What has happened before the listener is at this point. -/
def ListenerOrigin (tr : List UdpEvent) : ListenerPc → Prop
  | .select => True
  | .exited => .cancel ∈ tr
  | .connect m => .recvOpen m ∈ tr
  | .register m addr | .connectSend m addr => .connect m addr ∈ tr
  | .reject v => v.verdict = false
  | .closeLookup m | .closeSend m _ | .closeDelete m => .recvClose m ∈ tr
  | .messageLookup m => .recvMessage m ∈ tr
  | .messageSend m addr => .recvMessage m ∈ tr ∧ Resolved tr m.clientId addr

theorem ListenerOrigin.mono {tr' : List UdpEvent} {pc : ListenerPc} (h : ListenerOrigin tr pc) :
    ListenerOrigin (tr ++ tr') pc := by
  cases pc
  case messageSend => exact ⟨List.mem_append_left _ h.1, h.2.mono⟩
  case reject => exact h
  case select => trivial
  all_goals exact List.mem_append_left _ h

theorem cancel_of_done (h : automaton.Run (start params) tr u) (hd : u.done = true) :
    .cancel ∈ tr := by
  induction h with
  | nil => cases hd
  | @snoc tr u e _ _ ih =>
    cases e
    case cancel => simp
    all_goals exact List.mem_append_left _ (ih hd)

/-- The closing goroutine waits for the shutdown context. -/
theorem cancel_of_closer (h : automaton.Run (start params) tr u) (hc : u.closer ≠ .wait) :
    .cancel ∈ tr := by
  induction h with
  | nil => exact (hc rfl).elim
  | @snoc tr u e hr he ih =>
    cases e
    case closerLock => exact List.mem_append_left _ (cancel_of_done hr he.2.1)
    case closerClose => exact List.mem_append_left _ (ih (by simp [he.1]))
    all_goals exact List.mem_append_left _ (ih hc)

theorem listener_origin (h : automaton.Run (start params) tr u) :
    ListenerOrigin tr u.listener := by
  induction h with
  | nil => trivial
  | @snoc tr u e hr he ih =>
    have hmem : e ∈ tr ++ [e] := by simp
    have stay : ∀ {pc}, u.listener = pc → ListenerOrigin (tr ++ [e]) pc :=
      fun hl => hl ▸ ih.mono
    cases e
    case exitListener => exact List.mem_append_left _ (cancel_of_done hr he.2)
    case register m addr =>
      have hm := stay he.1
      exact hm
    case connectFails | connectSend | reject | closeUnknown | closeDelete | messageUnknown
        | messageSend => trivial
    case recvOpen | recvClose | recvMessage | connect => exact hmem
    case closeLookup | closeSend =>
      have hm := stay he.1
      exact hm
    case messageLookup m addr =>
      have hm := stay he.1
      exact ⟨hm, (address_register hr he.2.2).mono⟩
    all_goals exact ih.mono

theorem listener_origin_at (h : automaton.Run (start params) tr u) {pc : ListenerPc}
    (hl : u.listener = pc) : ListenerOrigin tr pc :=
  hl ▸ listener_origin h

/-- What the listener itself did before it is at this point. -/
def ListenerPast (tr : List UdpEvent) : ListenerPc → Prop
  | .connectSend m addr => .register m addr ∈ tr
  | .closeSend m addr => .closeLookup m addr ∈ tr
  | .closeDelete m => ∃ addr, .closeSend m addr ∈ tr
  | _ => True

theorem ListenerPast.mono {tr' : List UdpEvent} {pc : ListenerPc} (h : ListenerPast tr pc) :
    ListenerPast (tr ++ tr') pc := by
  cases pc
  case connectSend | closeSend => exact List.mem_append_left _ h
  case closeDelete =>
    obtain ⟨addr, hm⟩ := h
    exact ⟨addr, List.mem_append_left _ hm⟩
  all_goals trivial

theorem listener_past (h : automaton.Run (start params) tr u) : ListenerPast tr u.listener := by
  induction h with
  | nil => trivial
  | @snoc tr u e hr he ih =>
    have hmem : e ∈ tr ++ [e] := by simp
    cases e
    case register | closeLookup => exact hmem
    case closeSend m addr => exact ⟨addr, hmem⟩
    case exitListener | recvOpen | recvClose | recvMessage | connect | connectFails | connectSend
        | reject | closeUnknown | closeDelete | messageLookup | messageUnknown | messageSend =>
      trivial
    all_goals exact ih.mono

theorem connect_of_register (h : automaton.Run (start params) tr u)
    (hm : .register m addr ∈ tr) : .connect m addr ∈ tr := by
  obtain ⟨tr₁, u₁, h₁, hen, hpre⟩ := h.of_mem hm
  have horigin := listener_origin_at h₁ hen.1
  exact hpre.subset (List.mem_append_left _ horigin)

theorem register_of_connectSend (h : automaton.Run (start params) tr u)
    (hm : .connectSend m addr ∈ tr) : .register m addr ∈ tr := by
  obtain ⟨tr₁, u₁, h₁, hen, hpre⟩ := h.of_mem hm
  have hpast := listener_past h₁
  rw [hen.1] at hpast
  exact hpre.subset (List.mem_append_left _ hpast)

/-- A client that is registered was resolved from an open command of its own. -/
theorem resolved_of_register (h : automaton.Run (start params) tr u)
    (hm : .register m addr ∈ tr) :
    .recvOpen m ∈ tr ∧ params.connectAddress m.connectionString = some (.ok addr) := by
  obtain ⟨tr₁, u₁, h₁, hen, hpre⟩ := h.of_mem (connect_of_register h hm)
  have horigin := listener_origin_at h₁ hen.1
  refine ⟨hpre.subset (List.mem_append_left _ horigin), ?_⟩
  rw [← params_eq h₁]
  exact hen.2

/-- What is enqueued goes to an address that the client was registered with. -/
theorem resolved_of_enqueued (hr : automaton.Run (start params) tr u) (he : u.enabled e)
    {m : OutgoingMessage} (hm : e.enqueued = some m) :
    Resolved tr m.payload.clientId m.addr := by
  cases e <;> simp only [enqueued, reduceCtorEq, Option.some.injEq] at hm
  all_goals subst hm
  case connectSend m addr =>
    have hpast := listener_past hr
    rw [he.1] at hpast
    exact ⟨m, hpast, rfl⟩
  case closeSend m addr =>
    have hpast := listener_past hr
    rw [he.1] at hpast
    obtain ⟨tr₁, u₁, hr₁, he₁, hp⟩ := hr.of_mem hpast
    obtain ⟨m', hreg, hc⟩ := address_register hr₁ he₁.2.2
    exact ⟨m', hp.subset (List.mem_append_left _ hreg), hc⟩
  case messageSend m addr => exact (listener_origin_at hr he.1).2

/-- What has happened before the datagram listener is at this point. -/
def DatagramsOrigin (tr : List UdpEvent) : DatagramPc → Prop
  | .messageNow src id d => ∃ dg, .datagramForward src dg (.message id d) ∈ tr
  | .sendMessage src m => ∃ dg, .datagramForward src dg (.message m.clientId m.data) ∈ tr
  | .sendVerdict src v => ∃ dg, .datagramForward src dg (.verdict v) ∈ tr
  | .sendClose src m => ∃ dg, .datagramForward src dg (.close m) ∈ tr
  | _ => True

theorem DatagramsOrigin.mono {tr' : List UdpEvent} {pc : DatagramPc} (h : DatagramsOrigin tr pc) :
    DatagramsOrigin (tr ++ tr') pc := by
  cases pc
  case messageNow | sendMessage | sendVerdict | sendClose =>
    obtain ⟨dg, hm⟩ := h
    exact ⟨dg, List.mem_append_left _ hm⟩
  all_goals trivial

theorem datagrams_origin (h : automaton.Run (start params) tr u) :
    DatagramsOrigin tr u.datagrams := by
  induction h with
  | nil => trivial
  | @snoc tr u e hr he ih =>
    cases e
    case datagramForward src dg f => cases f <;> exact ⟨dg, by simp⟩
    case messageNow src m =>
      rw [he.1] at ih
      exact ih.mono
    case readFromUDP | datagramSkip | sendVerdict | sendMessage | sendClose | exitDatagrams =>
      trivial
    all_goals exact ih.mono

theorem datagrams_origin_at (h : automaton.Run (start params) tr u) {pc : DatagramPc}
    (hd : u.datagrams = pc) : DatagramsOrigin tr pc :=
  hd ▸ datagrams_origin h

/-- What is forwarded to the hub for a client comes after its registration. -/
theorem register_before_forward (h : automaton.Run (start params) tr u) {src : UDPAddr}
    {dg : Datagram} {f : Forward} (he : u.enabled (.datagramForward src dg f)) :
    ∃ addr, u.address f.clientId = some addr ∧ Resolved tr f.clientId addr := by
  have hreg := registered_of_forward he.2.2
  obtain ⟨addr, ha⟩ := Option.isSome_iff_exists.mp hreg
  exact ⟨addr, ha, address_register h ha⟩

/-- A registered client stays registered until it is closed. -/
theorem registered_of_register (h : automaton.Run (start params) tr u)
    {m : OpenClientConnectionCommand} {addr : UDPAddr} (hm : .register m addr ∈ tr)
    (hno : ∀ e ∈ tr, ¬e.Unregisters m.clientId) : u.address m.clientId ≠ none := by
  induction h with
  | nil => cases hm
  | @snoc tr u e hr he ih =>
    have hno' : ∀ e ∈ tr, ¬e.Unregisters m.clientId :=
      fun e he => hno e (List.mem_append_left _ he)
    have hlast : ¬e.Unregisters m.clientId := hno e (by simp)
    have hold : (∀ m' addr', e ≠ .register m' addr') → u.address m.clientId ≠ none := by
      intro hne
      rcases List.mem_append.mp hm with hm | hm
      · exact ih hm hno'
      · exact (hne m addr (List.mem_singleton.mp hm).symm).elim
    cases e
    case register m' addr' =>
      simp only [automaton, next, address]
      by_cases hc : m.clientId = m'.clientId
      · rw [hc, AList.lookup_insert]
        simp
      · rw [AList.lookup_insert_ne hc]
        rcases List.mem_append.mp hm with hm | hm
        · exact ih hm hno'
        · cases List.mem_singleton.mp hm
          exact (hc rfl).elim
    case closeDelete m' =>
      have hc : m.clientId ≠ m'.clientId := fun hc => hlast hc.symm
      simp only [automaton, next, address, AList.lookup_erase_ne hc]
      exact hold (by simp)
    case closerWrite c' addr' =>
      have hc : m.clientId ≠ c' := fun hc => hlast hc.symm
      simp only [automaton, next, address, AList.lookup_erase_ne hc]
      exact hold (by simp)
    all_goals exact hold (by simp)

/-- At most one open command for client `c` was taken. -/
def OneOpen (c : ClientId) (tr : List UdpEvent) : Prop :=
  (tr.filterMap (openedFor c)).length ≤ 1

theorem OneOpen.of_sublist {tr' : List UdpEvent} (h : OneOpen c tr) (hs : tr'.Sublist tr) :
    OneOpen c tr' :=
  (hs.filterMap _).length_le.trans h

theorem OneOpen.unique (h : OneOpen c tr) (h₁ : .recvOpen m₁ ∈ tr) (h₂ : .recvOpen m₂ ∈ tr)
    (hc₁ : m₁.clientId = c) (hc₂ : m₂.clientId = c) : m₁ = m₂ := by
  have hmem : ∀ {m : OpenClientConnectionCommand}, .recvOpen m ∈ tr → m.clientId = c →
      m ∈ tr.filterMap (openedFor c) := fun hm hc =>
    List.mem_filterMap.mpr ⟨_, hm, by simp [openedFor, hc]⟩
  obtain ⟨a, ha⟩ := List.length_eq_one_iff.mp
    (Nat.le_antisymm h (List.length_pos_of_mem (hmem h₁ hc₁)))
  have e₁ := hmem h₁ hc₁
  have e₂ := hmem h₂ hc₂
  rw [ha, List.mem_singleton] at e₁ e₂
  rw [e₁, e₂]

/-- It is not taken a second time. -/
theorem OneOpen.not_again (h : OneOpen c (tr ++ [.recvOpen m₂])) (h₁ : .recvOpen m₁ ∈ tr)
    (hc₁ : m₁.clientId = c) : m₂.clientId ≠ c := by
  intro hc₂
  unfold OneOpen at h
  rw [filterMap_snoc_some (a := m₂) (by simp [openedFor, hc₂]), List.length_append,
    List.length_singleton] at h
  have hpos := List.length_pos_of_mem (List.mem_filterMap.mpr
    ⟨_, h₁, show openedFor c (.recvOpen m₁) = some m₁ by simp [openedFor, hc₁]⟩)
  omega

/-! ## Messages -/

theorem listener_step {e : UdpEvent} (he : u.enabled e) (hd : ¬e.Drops c) :
    (clientDataOut c e).toList ++ (u.next e).listener.holds c =
      u.listener.holds c ++ (clientDataIn c e).toList := by
  cases e
  case messageUnknown m =>
    have hne : m.clientId ≠ c := hd
    simp [next, ListenerPc.holds, clientDataIn, clientDataOut, enqueued, he.1,
      DestinationMessage.dataFor, hne]
  case messageSend m addr =>
    simp [next, ListenerPc.holds, clientDataIn, clientDataOut, enqueued, he.1,
      DestinationMessage.dataFor, clientMessage, OutgoingMessage.clientData]
  case connectSend | closeSend =>
    simp [next, ListenerPc.holds, clientDataIn, clientDataOut, enqueued, he.1, connectionRequest,
      closeConnection, OutgoingMessage.clientData]
  case recvOpen | recvClose | recvMessage | reject =>
    simp only [enabled] at he
    simp [next, ListenerPc.holds, clientDataIn, clientDataOut, enqueued, he]
  case exitListener | connect | connectFails | register | closeLookup | closeUnknown | closeDelete
      | messageLookup =>
    simp [next, ListenerPc.holds, clientDataIn, clientDataOut, enqueued, he.1]
  all_goals simp [next, clientDataIn, clientDataOut, enqueued]

/-- The listener keeps the order of a client's messages ... -/
theorem lossy_listener (h : automaton.Run (start params) tr u) (c : ClientId) :
    Lossy (tr.filterMap (clientDataIn c)) (tr.filterMap (clientDataOut c))
      (u.listener.holds c) := by
  refine h.lossy (k := fun u => u.listener.holds c) rfl ?_
  intro _ u e _ he
  by_cases hd : e.Drops c
  · cases e <;> first | exact List.nil_sublist _ | exact hd.elim
  · exact listener_step he hd ▸ List.Sublist.refl _

/-- The sender writes what was enqueued, in order. -/
theorem exact_sender (h : automaton.Run (start params) tr u) :
    Exact (tr.filterMap enqueued) (tr.filterMap UdpEvent.sent)
      (u.sender.holds ++ u.outgoingMessages) := by
  refine h.exact (p := fun _ => True) (k := fun u => u.sender.holds ++ u.outgoingMessages) rfl ?_
    fun _ _ => trivial
  intro _ u e _ he _
  cases e
  case senderTake m =>
    obtain ⟨rest, hrest⟩ := List.head?_eq_some_iff.mp he.2
    simp [automaton, next, SenderPc.holds, UdpEvent.sent, enqueued, he.1, hrest]
  case senderWrite m =>
    have hm : u.sender = .write m := he
    simp [automaton, next, SenderPc.holds, UdpEvent.sent, enqueued, hm]
  case exitSender => simp [automaton, next, SenderPc.holds, UdpEvent.sent, enqueued, he.1]
  all_goals simp [automaton, next, UdpEvent.sent, enqueued]

/-- The datagram listener hands every message for a registered client to the hub, in order. -/
theorem exact_datagrams (h : automaton.Run (start params) tr u) (c : ClientId) :
    Exact (tr.filterMap (destinationDataIn c)) (tr.filterMap (destinationDataOut c))
      (u.datagrams.holds c) := by
  refine h.exact (p := fun _ => True) (k := fun u => u.datagrams.holds c) rfl ?_ fun _ _ => trivial
  intro _ u e _ he _
  cases e
  case datagramForward src dg f =>
    cases f
    case message id d =>
      by_cases hc : id = c <;>
        simp [automaton, next, DatagramPc.holds, destinationDataIn, destinationDataOut, he.1,
          Forward.pc, hc]
    all_goals
      simp [automaton, next, DatagramPc.holds, destinationDataIn, destinationDataOut, he.1,
        Forward.pc]
  case messageNow src m =>
    by_cases hc : m.clientId = c <;>
      simp [automaton, next, DatagramPc.holds, destinationDataIn, destinationDataOut, he.1,
        DestinationMessage.dataFor, hc]
  case sendVerdict | sendMessage | sendClose =>
    simp only [automaton, enabled] at he
    simp [automaton, next, DatagramPc.holds, destinationDataIn, destinationDataOut, he]
  case readFromUDP | datagramSkip | exitDatagrams =>
    simp [automaton, next, DatagramPc.holds, destinationDataIn, destinationDataOut, he.1]
  all_goals simp [automaton, next, destinationDataIn, destinationDataOut]

end
end Udp
end Spanreed
