import Spanreed.System
import Spanreed.UdpFacts

/-! # What a destination sees of a client

The listener enqueues a connection request when it registers a client, messages while the client
is registered and a close when it takes the client out, all to the address of the registration.
`Udp.Keeps` says for each point of the listener how far it has got with client `c`; a client that is
opened once therefore goes through one request, its messages and one close
(`wire_protocol`). -/

namespace Spanreed
open Flatbuffers Automata

namespace UdpEvent

/-- A datagram put on `outgoingMessages` for a command about client `c`. -/
def enqueuedFor (c : ClientId) : UdpEvent → Option OutgoingMessage
  | .connectSend m addr => if m.clientId = c then some (Udp.connectionRequest m addr) else none
  | .messageSend m addr => if m.clientId = c then some (Udp.clientMessage m addr) else none
  | .closeSend m addr =>
    if m.clientId = c then some (Udp.closeConnection m.clientId addr) else none
  | _ => none

/-- A datagram for client `c` written to the socket by the sender. -/
def sentFor (c : ClientId) (e : UdpEvent) : Option OutgoingMessage :=
  e.sent.filter fun m => m.payload.clientId = c

theorem enqueuedFor_eq {c : ClientId} {e : UdpEvent} :
    e.enqueuedFor c = e.enqueued.filter fun m => m.payload.clientId = c := by
  cases e
  case connectSend m addr | messageSend m addr | closeSend m addr =>
    by_cases hc : m.clientId = c <;>
      simp [enqueuedFor, enqueued, Udp.connectionRequest, Udp.clientMessage, Udp.closeConnection,
        Option.filter, hc]
  all_goals rfl

end UdpEvent

/-- A connection request for client `c` and some messages of its, to one address. -/
def Opened (c : ClientId) (addr : UDPAddr) (l : List OutgoingMessage) : Prop :=
  ∃ (appData : Option Bytes) (messages : List (Option Bytes)),
    l = ⟨addr, ⟨.proxyDestConnectionRequest, c, appData⟩⟩ ::
      messages.map fun data => ⟨addr, ⟨.proxyDestClientMessage, c, data⟩⟩

/-- The same, and a close to the same address. -/
def Closed (c : ClientId) (addr : UDPAddr) (l : List OutgoingMessage) : Prop :=
  ∃ l', Opened c addr l' ∧ l = l' ++ [⟨addr, ⟨.proxyDestCloseConnection, c, none⟩⟩]

section
variable {c : ClientId} {addr addr' : UDPAddr} {l : List OutgoingMessage}

theorem not_opened_nil : ¬Opened c addr [] := by
  rintro ⟨appData, messages, h⟩
  cases h

theorem Opened.message (h : Opened c addr l) (data : Option Bytes) :
    Opened c addr (l ++ [⟨addr, ⟨.proxyDestClientMessage, c, data⟩⟩]) := by
  obtain ⟨appData, messages, rfl⟩ := h
  exact ⟨appData, messages ++ [data], by simp⟩

theorem Opened.addr_eq (h : Opened c addr l) (h' : Opened c addr' l) : addr = addr' := by
  obtain ⟨appData, messages, rfl⟩ := h
  obtain ⟨appData', messages', h'⟩ := h'
  cases (List.cons.inj h').1
  rfl

theorem Opened.requested (h : Opened c addr l) :
    ∃ m ∈ l, m.payload.innerMessage = .proxyDestConnectionRequest := by
  obtain ⟨appData, messages, rfl⟩ := h
  exact ⟨_, List.mem_cons_self .., rfl⟩

theorem Opened.not_closed (h : Opened c addr l) :
    ∀ m ∈ l, m.payload.innerMessage ≠ .proxyDestCloseConnection := by
  obtain ⟨appData, messages, rfl⟩ := h
  simp

theorem Closed.closed (h : Closed c addr l) :
    ∃ m ∈ l, m.payload.innerMessage = .proxyDestCloseConnection := by
  obtain ⟨l', -, rfl⟩ := h
  exact ⟨_, List.mem_append_right _ (List.mem_singleton_self _), rfl⟩

end

namespace Udp
open UdpEvent

/-- Between two commands about client `c`: the client is registered exactly as long as its
messages are enqueued, until the closing goroutine begins. -/
structure Settled (c : ClientId) (l : List OutgoingMessage) (address : Option UDPAddr)
    (calm : Prop) : Prop where
  opened : ∀ addr, address = some addr → Opened c addr l
  address : calm → ∀ addr, Opened c addr l → address = some addr
  any : l = [] ∨ ∃ addr, Opened c addr l ∨ Closed c addr l

/-- How far the listener has got with client `c`, if it enqueued `l` for it. -/
def Keeps (c : ClientId) (l : List OutgoingMessage) (address : Option UDPAddr) (calm : Prop) :
    ListenerPc → Prop
  | .connect m | .register m _ =>
    (m.clientId = c → l = [] ∧ address = none) ∧ Settled c l address calm
  | .connectSend m addr =>
    if m.clientId = c then l = [] ∧ (calm → address = some addr) ∧
      ∀ addr', address = some addr' → addr' = addr
    else Settled c l address calm
  | .closeSend m addr | .messageSend m addr =>
    (m.clientId = c → Opened c addr l) ∧ Settled c l address calm
  | .closeDelete m =>
    if m.clientId = c then ∃ addr, Closed c addr l else Settled c l address calm
  | _ => Settled c l address calm

section
variable {params : UdpSpanreedDestinationParams} {tr : List UdpEvent} {u : Udp} {c : ClientId}
  {l : List OutgoingMessage} {address : Option UDPAddr} {calm calm' : Prop} {pc : ListenerPc}
  {e : UdpEvent}

theorem Settled.calmer (h : Settled c l address calm) (hcalm : calm' → calm) :
    Settled c l address calm' :=
  ⟨h.opened, fun hc => h.address (hcalm hc), h.any⟩

/-- The closing goroutine takes a client out. -/
theorem Settled.closer (h : Settled c l address calm) (hcalm : ¬calm') :
    Settled c l none calm' :=
  ⟨fun _ ha => (Option.some_ne_none _ ha.symm).elim, fun hc => (hcalm hc).elim, h.any⟩

theorem settled_nil (hcalm : address = none) : Settled c [] address calm :=
  ⟨by simp [hcalm], fun _ addr ho => (not_opened_nil ho).elim, .inl rfl⟩

theorem Settled.of_opened {addr : UDPAddr} (ho : Opened c addr l)
    (honly : ∀ addr', address = some addr' → addr' = addr) (haddr : calm → address = some addr) :
    Settled c l address calm where
  opened addr' ha := by
    cases honly addr' ha
    exact ho
  address hcalm addr' ho' := by
    cases ho.addr_eq ho'
    exact haddr hcalm
  any := .inr ⟨addr, .inl ho⟩

theorem Settled.of_closed {addr : UDPAddr} (h : Closed c addr l) : Settled c l none calm where
  opened _ ha := (Option.some_ne_none _ ha.symm).elim
  address _ addr' ho := by
    obtain ⟨m, hm, hclose⟩ := h.closed
    exact (ho.not_closed m hm hclose).elim
  any := .inr ⟨addr, .inr h⟩

theorem Keeps.calmer (h : Keeps c l address calm pc) (hcalm : calm' → calm) :
    Keeps c l address calm' pc := by
  cases pc
  case connect | register | closeSend | messageSend => exact ⟨h.1, h.2.calmer hcalm⟩
  case connectSend m addr =>
    simp only [Keeps] at h ⊢
    split at h
    · next hc =>
      rw [if_pos hc]
      exact ⟨h.1, fun hc => h.2.1 (hcalm hc), h.2.2⟩
    · next hc =>
      rw [if_neg hc]
      exact h.calmer hcalm
  case closeDelete m =>
    simp only [Keeps] at h ⊢
    split at h
    · next hc => rwa [if_pos hc]
    · next hc =>
      rw [if_neg hc]
      exact h.calmer hcalm
  all_goals exact Settled.calmer h hcalm

theorem Keeps.closer (h : Keeps c l address calm pc) (hcalm : ¬calm') :
    Keeps c l none calm' pc := by
  cases pc
  case connect | register => exact ⟨fun hc => ⟨(h.1 hc).1, rfl⟩, h.2.closer hcalm⟩
  case closeSend | messageSend => exact ⟨h.1, h.2.closer hcalm⟩
  case connectSend m addr =>
    simp only [Keeps] at h ⊢
    split at h
    · next hc =>
      rw [if_pos hc]
      exact ⟨h.1, fun hc => (hcalm hc).elim, by simp⟩
    · next hc =>
      rw [if_neg hc]
      exact h.closer hcalm
  case closeDelete m =>
    simp only [Keeps] at h ⊢
    split at h
    · next hc => rwa [if_pos hc]
    · next hc =>
      rw [if_neg hc]
      exact h.closer hcalm
  all_goals exact Settled.closer h hcalm

/-- Wherever the listener is, what it enqueued for the client is in order. -/
theorem Keeps.any (h : Keeps c l address calm pc) :
    l = [] ∨ ∃ addr, Opened c addr l ∨ Closed c addr l := by
  cases pc
  case connect | register | closeSend | messageSend => exact h.2.any
  case connectSend m addr =>
    simp only [Keeps] at h
    split at h
    · exact .inl h.1
    · exact h.any
  case closeDelete m =>
    simp only [Keeps] at h
    split at h
    · obtain ⟨addr, hclosed⟩ := h
      exact .inr ⟨addr, .inr hclosed⟩
    · exact h.any
  all_goals exact Settled.any h

/-- The listener has enqueued a connection request. -/
theorem Keeps.connectSend {m : OpenClientConnectionCommand} {addr : UDPAddr}
    (h : Keeps c l address calm (.connectSend m addr)) :
    Settled c (l ++ ((UdpEvent.connectSend m addr).enqueuedFor c).toList) address calm := by
  simp only [enqueuedFor, Keeps] at h ⊢
  split at h
  · next hc =>
    obtain ⟨rfl, haddr, honly⟩ := h
    rw [if_pos hc]
    have ho : Opened c addr [connectionRequest m addr] := ⟨m.appData, [], by
      simp [connectionRequest, hc]⟩
    exact .of_opened ho honly haddr
  · next hc =>
    rw [if_neg hc, Option.toList_none, List.append_nil]
    exact h

/-- The listener has enqueued a message. -/
theorem Keeps.messageSend {m : DestinationMessage} {addr : UDPAddr}
    (h : Keeps c l address calm (.messageSend m addr)) :
    Settled c (l ++ ((UdpEvent.messageSend m addr).enqueuedFor c).toList) address calm := by
  simp only [enqueuedFor]
  split
  · next hc =>
    have ho := h.1 hc
    have hm : clientMessage m addr = ⟨addr, ⟨.proxyDestClientMessage, c, m.data⟩⟩ := by
      simp [clientMessage, hc]
    rw [hm]
    exact .of_opened (ho.message m.data) (fun addr' ha => (h.2.opened addr' ha).addr_eq ho)
      fun hcalm => h.2.address hcalm addr ho
  · rw [Option.toList_none, List.append_nil]
    exact h.2

/-- The listener has enqueued a close. -/
theorem Keeps.closeSend {m : ClientCloseCommand} {addr : UDPAddr}
    (h : Keeps c l address calm (.closeSend m addr)) :
    Keeps c (l ++ ((UdpEvent.closeSend m addr).enqueuedFor c).toList) address calm
      (.closeDelete m) := by
  simp only [enqueuedFor, Keeps]
  split
  · next hc => exact ⟨addr, l, h.1 hc, by simp [closeConnection, hc]⟩
  · rw [Option.toList_none, List.append_nil]
    exact h.2

/-- The listener has registered a client. -/
theorem Keeps.register {m : OpenClientConnectionCommand} {addr : UDPAddr}
    (h : Keeps c l (u.address c) calm (.register m addr)) :
    Keeps c l ((u.next (.register m addr)).address c) calm (.connectSend m addr) := by
  simp only [next, Udp.address, Keeps]
  split
  · next hc =>
    subst hc
    rw [AList.lookup_insert]
    exact ⟨(h.1 rfl).1, fun _ => rfl, fun addr' ha => (Option.some.inj ha).symm⟩
  · next hc =>
    rw [AList.lookup_insert_ne fun hc' => hc hc'.symm]
    exact h.2

/-- The listener has taken a client out. -/
theorem Keeps.closeDelete {m : ClientCloseCommand}
    (h : Keeps c l (u.address c) calm (.closeDelete m)) :
    Settled c l ((u.next (.closeDelete m)).address c) calm := by
  simp only [next, Udp.address, Keeps] at h ⊢
  split at h
  · next hc =>
    obtain ⟨addr, hclosed⟩ := h
    subst hc
    rw [AList.lookup_erase]
    exact .of_closed hclosed
  · next hc =>
    rw [AList.lookup_erase_ne fun hc' => hc hc'.symm]
    exact h

/-- The closing goroutine has taken a client out. -/
theorem Keeps.closerWrite {c' : ClientId} {addr : UDPAddr}
    (h : Keeps c l (u.address c) calm pc) (hcalm : ¬calm') :
    Keeps c l ((u.next (.closerWrite c' addr)).address c) calm' pc := by
  by_cases hc : c = c'
  · subst hc
    rw [show (u.next (.closerWrite c addr)).address c = none from AList.lookup_erase ..]
    exact h.closer hcalm
  · rw [show (u.next (.closerWrite c' addr)).address c = u.address c from
      AList.lookup_erase_ne hc]
    exact h.calmer fun hc => (hcalm hc).elim

/-- A step keeps the order, if an open command for the client is the first one. -/
theorem Keeps.next (h : Keeps c l (u.address c) (u.closer = .wait) u.listener) (he : u.enabled e)
    (hfirst : ∀ m, e = .recvOpen m → m.clientId = c → l = [] ∧ u.address c = none) :
    Keeps c (l ++ (e.enqueuedFor c).toList) ((u.next e).address c) ((u.next e).closer = .wait)
      (u.next e).listener := by
  cases e
  case connectSend m addr =>
    rw [he.1] at h
    exact h.connectSend
  case messageSend m addr =>
    rw [he.1] at h
    exact h.messageSend
  case closeSend m addr =>
    rw [he.1] at h
    exact h.closeSend
  -- nothing is enqueued from here on
  all_goals simp only [enqueuedFor, Option.toList_none, List.append_nil]
  case exitListener | recvClose | recvMessage | reject | messageUnknown | closeUnknown =>
    have hs : Settled c l (u.address c) (u.closer = .wait) := by
      simp only [enabled] at he
      simpa [he, Keeps] using h
    exact hs
  case recvOpen m =>
    rw [show u.listener = _ from he] at h
    exact ⟨hfirst m rfl, h⟩
  case connect m addr =>
    rw [he.1] at h
    exact h
  case connectFails m err =>
    rw [he.1] at h
    exact h.2
  case register m addr =>
    rw [he.1] at h
    exact h.register
  case closeLookup m addr | messageLookup m addr =>
    rw [he.1] at h
    have hs : Settled c l (u.address c) (u.closer = .wait) := h
    exact ⟨fun hc => hs.opened addr (hc ▸ he.2.2), hs⟩
  case closeDelete m =>
    rw [he.1] at h
    exact h.closeDelete
  case closerLock | closerClose => exact h.calmer (by simp [Udp.next])
  case closerWrite c' addr => exact h.closerWrite (by simp [Udp.next, he.1])
  all_goals exact h

/-- A client that was never opened is not registered, and nothing was enqueued for it. -/
theorem nothing_before_open (hr : automaton.Run (start params) tr u)
    (hno : ∀ m, .recvOpen m ∈ tr → m.clientId ≠ c) :
    tr.filterMap (enqueuedFor c) = [] ∧ u.address c = none := by
  have hopened : ∀ {tr₁ u₁ addr}, automaton.Run (start params) tr₁ u₁ → tr₁ <+: tr →
      ¬Resolved tr₁ c addr := by
    rintro tr₁ u₁ addr hr₁ hp ⟨m, hreg, hc⟩
    exact hno m (hp.subset (resolved_of_register hr₁ hreg).1) hc
  constructor
  · rw [List.filterMap_eq_nil_iff]
    intro e he
    obtain ⟨tr₁, u₁, hr₁, hen, hp⟩ := hr.of_mem he
    cases hm : e.enqueuedFor c with
    | none => rfl
    | some m =>
      rw [enqueuedFor_eq, Option.filter_eq_some_iff, decide_eq_true_eq] at hm
      have hres := resolved_of_enqueued hr₁ hen hm.1
      rw [hm.2] at hres
      exact (hopened hr₁ ((List.prefix_append _ _).trans hp) hres).elim
  · by_contra ha
    obtain ⟨addr, ha⟩ := Option.ne_none_iff_exists'.mp ha
    exact hopened hr List.prefix_rfl (address_register hr ha)

/-- What the listener does along a run in which the client is opened once. -/
theorem keeps (hr : automaton.Run (start params) tr u) (hone : OneOpen c tr) :
    Keeps c (tr.filterMap (enqueuedFor c)) (u.address c) (u.closer = .wait) u.listener := by
  induction hr with
  | nil => exact settled_nil rfl
  | @snoc tr u e hr he ih =>
    have hlist : (tr ++ [e]).filterMap (enqueuedFor c) =
        tr.filterMap (enqueuedFor c) ++ (e.enqueuedFor c).toList := by
      cases hq : e.enqueuedFor c with
      | none => rw [filterMap_snoc_none hq, Option.toList_none, List.append_nil]
      | some m => rw [filterMap_snoc_some hq, Option.toList_some]
    rw [hlist]
    refine (ih (hone.of_sublist (List.sublist_append_left _ _))).next he ?_
    rintro m rfl hc
    refine nothing_before_open hr fun m' hm' hc' => ?_
    exact hone.not_again hm' hc' hc

/-- For a client that is opened once the listener enqueues nothing, or a connection request, then
messages, then at most one close, all for this client and to one address, and the sender writes
them in this order. Until shutdown, the client is registered between two commands exactly if its
request was enqueued and its close was not. -/
theorem wire_protocol (hr : automaton.Run (start params) tr u) (hone : OneOpen c tr) :
    (tr.filterMap (enqueuedFor c) = [] ∨
      ∃ addr, Opened c addr (tr.filterMap (enqueuedFor c)) ∨
        Closed c addr (tr.filterMap (enqueuedFor c))) ∧
    (.cancel ∉ tr → u.listener = .select → (u.registered c = true ↔
      (∃ m ∈ tr.filterMap (enqueuedFor c),
        m.payload.innerMessage = .proxyDestConnectionRequest) ∧
      ∀ m ∈ tr.filterMap (enqueuedFor c),
        m.payload.innerMessage ≠ .proxyDestCloseConnection)) ∧
    tr.filterMap (sentFor c) <+: tr.filterMap (enqueuedFor c) := by
  have hkeeps := keeps hr hone
  refine ⟨hkeeps.any, ?_, ?_⟩
  · intro hcancel hselect
    rw [hselect] at hkeeps
    have hs : Settled c _ (u.address c) (u.closer = .wait) := hkeeps
    have hwait : u.closer = .wait := by
      by_contra hne
      exact hcancel (cancel_of_closer hr hne)
    constructor
    · intro hreg
      obtain ⟨addr, ha⟩ := Option.isSome_iff_exists.mp hreg
      exact ⟨(hs.opened addr ha).requested, (hs.opened addr ha).not_closed⟩
    · rintro ⟨⟨m, hm, -⟩, hnot⟩
      rcases hs.any with hnil | ⟨addr, hopen | hclosed⟩
      · rw [hnil] at hm
        cases hm
      · simp [registered, hs.address hwait addr hopen]
      · obtain ⟨m', hm', hclose⟩ := hclosed.closed
        exact (hnot m' hm' hclose).elim
  · have hexact := (exact_sender hr).filterMap
      (Option.guard fun m : OutgoingMessage => m.payload.clientId = c)
    have hsent : tr.filterMap (sentFor c) = (tr.filterMap UdpEvent.sent).filterMap
        (Option.guard fun m : OutgoingMessage => m.payload.clientId = c) := by
      rw [List.filterMap_filterMap]
      congr 1
      funext e
      unfold sentFor
      cases e.sent <;> rfl
    have henqueued : tr.filterMap (enqueuedFor c) = (tr.filterMap enqueued).filterMap
        (Option.guard fun m : OutgoingMessage => m.payload.clientId = c) := by
      rw [List.filterMap_filterMap]
      congr 1
      funext e
      rw [enqueuedFor_eq]
      cases e.enqueued <;> rfl
    rw [hsent, henqueued, show List.filterMap _ (tr.filterMap enqueued) = _ from hexact]
    exact List.prefix_append _ _

end

/-- Client 1 is opened, sends a message and is closed; the sender is behind by one datagram. -/
def exchanged : List UdpEvent :=
  let message : DestinationMessage := ⟨1, 0, 0, some [42]⟩
  let close : ClientCloseCommand := ⟨1, [], none, none⟩
  [.recvOpen Sample.openCommand, .connect Sample.openCommand Sample.addr,
    .register Sample.openCommand Sample.addr, .connectSend Sample.openCommand Sample.addr,
    .recvMessage message, .messageLookup message Sample.addr,
    .senderTake (connectionRequest Sample.openCommand Sample.addr),
    .messageSend message Sample.addr,
    .senderWrite (connectionRequest Sample.openCommand Sample.addr), .recvClose close,
    .closeLookup close Sample.addr, .closeSend close Sample.addr, .closeDelete close,
    .senderTake (clientMessage message Sample.addr),
    .senderWrite (clientMessage message Sample.addr)]

theorem wire_protocol_exchanged :
    ((automaton.exec (start Sample.config.udp) exchanged).registered 1 = true ↔
      (∃ m ∈ exchanged.filterMap (enqueuedFor 1),
        m.payload.innerMessage = .proxyDestConnectionRequest) ∧
      ∀ m ∈ exchanged.filterMap (enqueuedFor 1),
        m.payload.innerMessage ≠ .proxyDestCloseConnection) ∧
    exchanged.filterMap (sentFor 1) <+: exchanged.filterMap (enqueuedFor 1) := by
  have hr : automaton.Run (start Sample.config.udp) exchanged _ :=
    Automaton.Admits.run (by decide +kernel)
  have hwire := wire_protocol (c := 1) hr (by unfold OneOpen; decide +kernel)
  exact ⟨hwire.2.1 (by decide) (by decide +kernel), hwire.2.2⟩

end Udp
end Spanreed
