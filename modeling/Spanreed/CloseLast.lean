import Spanreed.System
import Spanreed.UdpFacts

/-! # The last datagram of a client

At shutdown the closing goroutine writes its closes straight to the socket, while the listener and
the sender go on and `outgoingMessages` may still hold datagrams. So a connection request can follow
the close of its client (`request_after_close`), and a close in the queue can be lost. While the
closing goroutine finds nothing on its way (`Udp.Orderly`), the close of a client is its last
datagram, and no client that was asked for is left without one (`close_last`). -/

namespace Spanreed
open Flatbuffers Automata

namespace OutgoingMessage

def IsRequest (m : OutgoingMessage) : Prop :=
  m.payload.innerMessage = .proxyDestConnectionRequest

def IsClose (m : OutgoingMessage) : Prop := m.payload.innerMessage = .proxyDestCloseConnection

instance (m : OutgoingMessage) : Decidable m.IsRequest := inferInstanceAs (Decidable (_ = _))
instance (m : OutgoingMessage) : Decidable m.IsClose := inferInstanceAs (Decidable (_ = _))

/-- If the first is a close, the second is about another client. -/
def LastWord (m m' : OutgoingMessage) : Prop :=
  m.IsClose → m'.payload.clientId ≠ m.payload.clientId

/-- The client is asked for in these datagrams. -/
def RequestedIn (l : List OutgoingMessage) (c : ClientId) : Prop :=
  ∃ m ∈ l, m.IsRequest ∧ m.payload.clientId = c

/-- The client is closed in these datagrams. -/
def ClosedIn (l : List OutgoingMessage) (c : ClientId) : Prop :=
  ∃ m ∈ l, m.IsClose ∧ m.payload.clientId = c

variable {l l₁ l₂ : List OutgoingMessage} {m : OutgoingMessage} {c : ClientId}

theorem ClosedIn.mono (h : ClosedIn l₁ c) (hsub : l₁ ⊆ l₂) : ClosedIn l₂ c := by
  obtain ⟨m, hm, hclose⟩ := h
  exact ⟨m, hsub hm, hclose⟩

theorem closedIn_snoc :
    ClosedIn (l ++ [m]) c ↔ ClosedIn l c ∨ m.IsClose ∧ m.payload.clientId = c := by
  simp [ClosedIn, or_and_right, exists_or]

/-- A datagram that comes in between. -/
theorem closedIn_insert : ClosedIn (l₁ ++ [m] ++ l₂) c ↔
    ClosedIn (l₁ ++ l₂) c ∨ m.IsClose ∧ m.payload.clientId = c := by
  simp only [ClosedIn, List.mem_append, List.mem_singleton, or_and_right, exists_or,
    exists_eq_left]
  exact or_right_comm

theorem requestedIn_insert : RequestedIn (l₁ ++ [m] ++ l₂) c ↔
    RequestedIn (l₁ ++ l₂) c ∨ m.IsRequest ∧ m.payload.clientId = c := by
  simp only [RequestedIn, List.mem_append, List.mem_singleton, or_and_right, exists_or,
    exists_eq_left]
  exact or_right_comm

theorem requestedIn_snoc :
    RequestedIn (l ++ [m]) c ↔ RequestedIn l c ∨ m.IsRequest ∧ m.payload.clientId = c := by
  simp [RequestedIn, or_and_right, exists_or]

/-- A datagram about a client that is not closed may come last. -/
theorem lastWord_snoc (h : l.Pairwise LastWord) (hm : ¬ClosedIn l m.payload.clientId) :
    (l ++ [m]).Pairwise LastWord := by
  refine List.pairwise_append.mpr ⟨h, List.pairwise_singleton _ _, ?_⟩
  intro m₁ hm₁ m₂ hm₂ hclose hc
  rw [List.mem_singleton.mp hm₂] at hc
  exact hm ⟨m₁, hm₁, hclose, hc.symm⟩

/-- A datagram about a client of which nothing comes later may come in between. -/
theorem lastWord_insert (h : (l₁ ++ l₂).Pairwise LastWord) (hm : ¬ClosedIn l₁ m.payload.clientId)
    (hlater : ∀ m' ∈ l₂, m'.payload.clientId ≠ m.payload.clientId) :
    (l₁ ++ [m] ++ l₂).Pairwise LastWord := by
  obtain ⟨h₁, h₂, h₁₂⟩ := List.pairwise_append.mp h
  refine List.pairwise_append.mpr ⟨lastWord_snoc h₁ hm, h₂, ?_⟩
  intro m₁ hm₁ m₂ hm₂
  rcases List.mem_append.mp hm₁ with hm₁ | hm₁
  · exact h₁₂ m₁ hm₁ m₂ hm₂
  · rw [List.mem_singleton.mp hm₁]
    exact fun _ => hlater m₂ hm₂

end OutgoingMessage

namespace ListenerPc

/-- The listener is about to enqueue a datagram for client `c`. -/
def Sends (c : ClientId) : ListenerPc → Prop
  | .connectSend m _ => m.clientId = c
  | .messageSend m _ => m.clientId = c
  | .closeSend m _ => m.clientId = c
  | _ => False

/-- The listener has enqueued the close of client `c` and is about to take it out. -/
def Deletes (c : ClientId) : ListenerPc → Prop
  | .closeDelete m => m.clientId = c
  | _ => False

instance (c : ClientId) : ∀ pc, Decidable (Sends c pc) := by
  intro pc
  cases pc <;> dsimp only [Sends] <;> infer_instance

instance (c : ClientId) : ∀ pc, Decidable (Deletes c pc) := by
  intro pc
  cases pc <;> dsimp only [Deletes] <;> infer_instance

end ListenerPc

namespace Udp
open UdpEvent OutgoingMessage

/-- What an event puts on the wire. -/
def emits (u : Udp) (e : UdpEvent) : Option OutgoingMessage :=
  if u.connClosed then none else e.written

/-- What a run puts on the wire. -/
def wire (u : Udp) : List UdpEvent → List OutgoingMessage
  | [] => []
  | e :: tr => (u.emits e).toList ++ wire (u.next e) tr

/-- `Start` has returned. -/
def Returned (u : Udp) : Prop :=
  u.listener = .exited ∧ u.datagrams = .exited ∧ u.sender = .exited ∧ u.closer = .returned

/-- The datagrams that the sender has yet to write. -/
def inFlight (u : Udp) : List OutgoingMessage := u.sender.holds ++ u.outgoingMessages

/-- A datagram for client `c` is on its way, or its close was enqueued and it is not taken out. -/
def Pending (u : Udp) (c : ClientId) : Prop :=
  (∃ m ∈ u.inFlight, m.payload.clientId = c) ∨ u.listener.Sends c ∨ u.listener.Deletes c

instance (u : Udp) (c : ClientId) : Decidable (u.Pending c) := inferInstanceAs (Decidable (_ ∨ _))

/-- The step does not overtake a datagram: a client is closed at shutdown when none of its
datagrams is on its way, the socket is closed when no close is, and while the socket is open a
client is not registered again after its close. -/
def Orderly (tr : List UdpEvent) (u : Udp) : UdpEvent → Prop
  | .closerWrite c _ => ¬u.Pending c
  | .closerClose => ∀ m ∈ u.inFlight, ¬m.IsClose
  | .register m _ => u.connClosed = false → ∀ m' addr, .closeSend m' addr ∈ tr →
      m'.clientId ≠ m.clientId
  | _ => True

/-- A datagram for client `c` may still be enqueued. -/
def Live (u : Udp) (c : ClientId) : Prop :=
  u.registered c = true ∧ ¬u.listener.Deletes c ∨ u.listener.Sends c

/-- What holds while the socket is open, if `l` was written or is to be written. -/
structure Consistent (tr : List UdpEvent) (l : List OutgoingMessage) (u : Udp) : Prop where
  ordered : l.Pairwise LastWord
  quiet : ∀ c, ClosedIn l c → ¬u.Live c
  known : ∀ c, RequestedIn l c → u.registered c = true ∨ ClosedIn l c
  connecting : ∀ m addr, u.listener = .connectSend m addr → u.registered m.clientId = true
  deleting : ∀ m, u.listener = .closeDelete m → ClosedIn l m.clientId
  origin : ∀ c, ClosedIn l c →
    (∃ m addr, .closeSend m addr ∈ tr ∧ m.clientId = c) ∨ u.closer ≠ .wait

section
variable {params : UdpSpanreedDestinationParams} {tr tr₁ tr₂ : List UdpEvent} {u : Udp}
  {c : ClientId} {l : List OutgoingMessage} {e : UdpEvent}

theorem wire_snoc : wire u (tr ++ [e]) = wire u tr ++ ((automaton.exec u tr).emits e).toList := by
  induction tr generalizing u with
  | nil => simp [wire, Automaton.exec]
  | cons e' tr ih =>
    rw [List.cons_append, wire, wire, ih, List.append_assoc]
    rfl

/-- The socket is closed when the closing goroutine returns. -/
theorem connClosed_iff (hr : automaton.Run (start params) tr u) :
    u.connClosed = true ↔ u.closer = .returned := by
  refine hr.invariant (I := fun u => u.connClosed = true ↔ u.closer = .returned)
    (by simp [start]) ?_
  intro u e ih he
  cases e
  case closerLock =>
    have hwait : u.closer = .wait := he.1
    simpa [automaton, next, hwait] using ih
  case closerClose => simp [automaton, next]
  all_goals exact ih

/-- What is on its way stays in order. -/
theorem emits_inFlight (he : u.enabled e) (hopen : u.connClosed = false)
    (hne : ∀ c addr, e ≠ .closerWrite c addr) :
    (u.emits e).toList ++ (u.next e).inFlight = u.inFlight ++ e.enqueued.toList := by
  cases e
  case closerWrite c addr => exact (hne c addr rfl).elim
  case senderTake m =>
    obtain ⟨rest, hrest⟩ := List.head?_eq_some_iff.mp he.2
    simp [emits, inFlight, next, written, enqueued, SenderPc.holds, he.1, hrest]
  case senderWrite m =>
    have hm : u.sender = .write m := he
    simp [emits, inFlight, next, written, enqueued, SenderPc.holds, hm, hopen]
  case exitSender => simp [emits, inFlight, next, written, enqueued, SenderPc.holds, he.1]
  all_goals simp [emits, inFlight, next, written, enqueued]

theorem Consistent.origin_snoc (h : Consistent tr l u) (hc : ClosedIn l c) :
    (∃ m addr, .closeSend m addr ∈ tr ++ [e] ∧ m.clientId = c) ∨ u.closer ≠ .wait := by
  rcases h.origin c hc with ⟨m, addr, hm, hid⟩ | hwait
  · exact .inl ⟨m, addr, List.mem_append_left _ hm, hid⟩
  · exact .inr hwait

/-- A step that enqueues nothing, registers nobody and takes nobody out. -/
theorem Consistent.frame (h : Consistent tr l u) {u' : Udp}
    (hreg : ∀ c, u'.registered c = u.registered c) (hlive : ∀ c, u'.Live c → u.Live c)
    (hconnecting : ∀ m addr, u'.listener = .connectSend m addr → u.listener = .connectSend m addr)
    (hdeleting : ∀ m, u'.listener = .closeDelete m → u.listener = .closeDelete m)
    (hcloser : u'.closer = .wait → u.closer = .wait) : Consistent (tr ++ [e]) l u' where
  ordered := h.ordered
  quiet c hc hl := h.quiet c hc (hlive c hl)
  known c hc := by rw [hreg]; exact h.known c hc
  connecting m addr hm := by rw [hreg]; exact h.connecting m addr (hconnecting m addr hm)
  deleting m hm := h.deleting m (hdeleting m hm)
  origin c hc := (h.origin_snoc hc).imp_right fun hwait hw => hwait (hcloser hw)

/-- The listener enqueues a connection request or a message. -/
theorem Consistent.enqueue (h : Consistent tr l u) {m : OutgoingMessage} {u' : Udp}
    (hsends : u.listener.Sends m.payload.clientId) (hclose : ¬m.IsClose)
    (hrequest : m.IsRequest → u.registered m.payload.clientId = true)
    (hreg : ∀ c, u'.registered c = u.registered c) (hselect : u'.listener = .select)
    (hdeletes : ∀ c, ¬u.listener.Deletes c) (hcloser : u'.closer = u.closer) :
    Consistent (tr ++ [e]) (l ++ [m]) u' where
  ordered := lastWord_snoc h.ordered fun hc => h.quiet _ hc (.inr hsends)
  quiet c hc hl := by
    rcases closedIn_snoc.mp hc with hc | ⟨hm, -⟩
    · rcases hl with ⟨hr, -⟩ | hl
      · exact h.quiet c hc (.inl ⟨hreg c ▸ hr, hdeletes c⟩)
      · rw [hselect] at hl
        exact hl.elim
    · exact hclose hm
  known c hc := by
    rw [hreg]
    rcases requestedIn_snoc.mp hc with hc | ⟨hm, rfl⟩
    · rcases h.known c hc with hr | hc
      · exact .inl hr
      · exact .inr (closedIn_snoc.mpr (.inl hc))
    · exact .inl (hrequest hm)
  connecting m addr hm := by
    rw [hselect] at hm
    cases hm
  deleting m hm := by
    rw [hselect] at hm
    cases hm
  origin c hc := by
    rcases closedIn_snoc.mp hc with hc | ⟨hm, -⟩
    · rw [hcloser]
      exact h.origin_snoc hc
    · exact (hclose hm).elim

theorem registered_insert {m : OpenClientConnectionCommand} {addr : UDPAddr} :
    (u.next (.register m addr)).registered c = true ↔
      c = m.clientId ∨ u.registered c = true := by
  simp only [registered, address, next]
  by_cases hc : c = m.clientId
  · rw [hc, AList.lookup_insert]
    simp
  · rw [AList.lookup_insert_ne hc]
    simp [hc]

theorem registered_delete {m : ClientCloseCommand} :
    (u.next (.closeDelete m)).registered c = true ↔
      c ≠ m.clientId ∧ u.registered c = true := by
  simp only [registered, address, next]
  by_cases hc : c = m.clientId
  · rw [hc, AList.lookup_erase]
    simp
  · rw [AList.lookup_erase_ne hc]
    simp [hc]

theorem Consistent.register (h : Consistent tr l u) {m : OpenClientConnectionCommand}
    {addr : UDPAddr} (he : u.enabled (.register m addr)) (hcloser : u.closer = .wait)
    (hnew : ∀ m' addr, .closeSend m' addr ∈ tr → m'.clientId ≠ m.clientId) :
    Consistent (tr ++ [.register m addr]) l (u.next (.register m addr)) where
  ordered := h.ordered
  quiet c hc hl := by
    have hne : c ≠ m.clientId := by
      rcases h.origin c hc with ⟨m', addr', hm', rfl⟩ | hwait
      · exact hnew m' addr' hm'
      · exact (hwait hcloser).elim
    rcases hl with ⟨hr, -⟩ | hl
    · refine h.quiet c hc (.inl ⟨(registered_insert.mp hr).resolve_left hne, ?_⟩)
      rw [he.1]
      exact id
    · exact hne (show m.clientId = c from hl).symm
  known c hc := by
    rcases h.known c hc with hr | hc
    · exact .inl (registered_insert.mpr (.inr hr))
    · exact .inr hc
  connecting m' addr' hm := by
    cases hm
    exact registered_insert.mpr (.inl rfl)
  deleting m' hm := by cases hm
  origin c hc := h.origin_snoc hc

theorem Consistent.closeSend (h : Consistent tr l u) {m : ClientCloseCommand} {addr : UDPAddr}
    (he : u.enabled (.closeSend m addr)) :
    Consistent (tr ++ [.closeSend m addr]) (l ++ [closeConnection m.clientId addr])
      (u.next (.closeSend m addr)) where
  ordered := by
    refine lastWord_snoc h.ordered fun hc => h.quiet _ hc (.inr ?_)
    rw [he.1]
    rfl
  quiet c hc hl := by
    rcases hl with ⟨hr, hne⟩ | hl
    · rcases closedIn_snoc.mp hc with hc | ⟨-, hid⟩
      · refine h.quiet c hc (.inl ⟨hr, ?_⟩)
        rw [he.1]
        exact id
      · exact hne hid
    · exact hl
  known c hc := by
    rcases requestedIn_snoc.mp hc with hc | ⟨hm, -⟩
    · rcases h.known c hc with hr | hc
      · exact .inl hr
      · exact .inr (closedIn_snoc.mpr (.inl hc))
    · cases hm
  connecting m' addr' hm := by cases hm
  deleting m' hm := by
    cases hm
    exact closedIn_snoc.mpr (.inr ⟨rfl, rfl⟩)
  origin c hc := by
    rcases closedIn_snoc.mp hc with hc | ⟨-, hid⟩
    · exact h.origin_snoc hc
    · exact .inl ⟨m, addr, by simp, hid⟩

theorem Consistent.closeDelete (h : Consistent tr l u) {m : ClientCloseCommand}
    (he : u.enabled (.closeDelete m)) :
    Consistent (tr ++ [.closeDelete m]) l (u.next (.closeDelete m)) where
  ordered := h.ordered
  quiet c hc hl := by
    rcases hl with ⟨hr, -⟩ | hl
    · obtain ⟨hne, hr⟩ := registered_delete.mp hr
      refine h.quiet c hc (.inl ⟨hr, ?_⟩)
      rw [he.1]
      exact fun hid => hne hid.symm
    · exact hl
  known c hc := by
    by_cases hid : c = m.clientId
    · exact .inr (hid ▸ h.deleting m he.1)
    · rcases h.known c hc with hr | hc
      · exact .inl (registered_delete.mpr ⟨hid, hr⟩)
      · exact .inr hc
  connecting m' addr' hm := by cases hm
  deleting m' hm := by cases hm
  origin c hc := h.origin_snoc hc

/-- The closing goroutine closes a client of which nothing is on its way. -/
theorem Consistent.closerWrite {l₁ l₂ : List OutgoingMessage} (h : Consistent tr (l₁ ++ l₂) u)
    {addr : UDPAddr} (he : u.enabled (.closerWrite c addr))
    (hlater : ∀ m ∈ l₂, m.payload.clientId ≠ c)
    (hsends : ¬u.listener.Sends c) (hdeletes : ¬u.listener.Deletes c) :
    Consistent (tr ++ [.closerWrite c addr]) (l₁ ++ [closeConnection c addr] ++ l₂)
      (u.next (.closerWrite c addr)) := by
  have hlive : u.Live c := .inl ⟨by simp [registered, he.2], hdeletes⟩
  have hreg : ∀ {c'}, c' ≠ c →
      (u.next (.closerWrite c addr)).registered c' = u.registered c' := fun hne => by
    simp only [registered, address, next, AList.lookup_erase_ne hne]
  have hgone : (u.next (.closerWrite c addr)).registered c = false := by
    simp [registered, address, next]
  refine ⟨?_, ?_, ?_, ?_, ?_, ?_⟩
  · refine lastWord_insert h.ordered (fun hc => h.quiet c ?_ hlive) hlater
    exact hc.mono (List.subset_append_left _ _)
  · intro c' hc' hl
    by_cases hne : c' = c
    · subst hne
      rcases hl with ⟨hr, -⟩ | hl
      · rw [hgone] at hr
        cases hr
      · exact hsends hl
    · have hold := (closedIn_insert.mp hc').resolve_right fun hnew => hne hnew.2.symm
      refine h.quiet c' hold ?_
      rcases hl with ⟨hr, hd⟩ | hl
      · exact .inl ⟨hreg hne ▸ hr, hd⟩
      · exact .inr hl
  · intro c' hc'
    have hold := (requestedIn_insert.mp hc').resolve_right fun hnew => by cases hnew.1
    by_cases hne : c' = c
    · exact .inr (closedIn_insert.mpr (.inr ⟨rfl, hne.symm⟩))
    · rw [hreg hne]
      exact (h.known c' hold).imp_right fun hclosed => closedIn_insert.mpr (.inl hclosed)
  · intro m addr' hm
    have hne : m.clientId ≠ c := by
      intro hid
      rw [show u.listener = _ from hm] at hsends
      exact hsends hid
    rw [hreg hne]
    exact h.connecting m addr' hm
  · intro m hm
    exact closedIn_insert.mpr (.inl (h.deleting m hm))
  · intro c' hc'
    exact .inr (by simp [next, he.1])

/-- A step of the listener, of the sender or of the datagram listener, or the closing goroutine
takes its lock. -/
theorem Consistent.next (h : Consistent tr l u) (he : u.enabled e) (hcloser : u.closer ≠ .returned)
    (hopen : u.connClosed = false) (ho : u.Orderly tr e)
    (hne : ∀ c addr, e ≠ .closerWrite c addr) :
    Consistent (tr ++ [e]) (l ++ e.enqueued.toList) (u.next e) := by
  cases e
  case closerWrite c addr => exact (hne c addr rfl).elim
  case register m addr =>
    have hwait : u.closer = .wait := by
      cases hc : u.closer
      case wait => rfl
      case closing => exact (he.2.1 hc).elim
      case returned => exact (hcloser hc).elim
    simp only [enqueued, Option.toList_none, List.append_nil]
    exact h.register he hwait (ho hopen)
  case connectSend m addr =>
    refine h.enqueue ?_ (by simp [IsClose, connectionRequest])
      (fun _ => h.connecting m addr he.1) (fun _ => rfl) rfl ?_ rfl
    · rw [he.1]
      rfl
    · rw [he.1]
      exact fun _ => id
  case messageSend m addr =>
    refine h.enqueue ?_ (by simp [IsClose, clientMessage]) (by simp [IsRequest, clientMessage])
      (fun _ => rfl) rfl ?_ rfl
    · rw [he.1]
      rfl
    · rw [he.1]
      exact fun _ => id
  case closeSend m addr => exact h.closeSend he
  case closeDelete m =>
    simp only [enqueued, Option.toList_none, List.append_nil]
    exact h.closeDelete he
  all_goals simp only [enqueued, Option.toList_none, List.append_nil]
  case closeLookup m addr | messageLookup m addr =>
    have hreg : u.registered m.clientId = true := by simp [registered, he.2.2]
    refine h.frame (fun _ => rfl) (fun c hl => ?_) (by simp [Udp.next]) (by simp [Udp.next]) id
    simp only [Live, he.1, ListenerPc.Deletes, not_false_eq_true, and_true, ListenerPc.Sends,
      or_false]
    rcases hl with ⟨hr, -⟩ | hl
    · exact hr
    · exact (show m.clientId = c from hl) ▸ hreg
  case exitListener | recvOpen | recvClose | recvMessage | connect | connectFails | reject
      | closeUnknown | messageUnknown =>
    simp only [enabled] at he
    refine h.frame (fun _ => rfl) (fun c hl => ?_) (by simp [Udp.next]) (by simp [Udp.next]) id
    rcases hl with ⟨hr, -⟩ | hl
    · exact .inl ⟨hr, by simp [he, ListenerPc.Deletes]⟩
    · exact hl.elim
  case closerLock | closerClose =>
    exact h.frame (fun _ => rfl) (fun _ => id) (fun _ _ => id) (fun _ => id) (by simp [Udp.next])
  all_goals exact h.frame (fun _ => rfl) (fun _ => id) (fun _ _ => id) (fun _ => id) id

/-- How the socket is left. -/
theorem Consistent.closerClose {l₁ l₂ : List OutgoingMessage} (h : Consistent tr (l₁ ++ l₂) u)
    (he : u.enabled .closerClose) (hno : ∀ m ∈ l₂, ¬m.IsClose) (hc : RequestedIn l₁ c) :
    ClosedIn l₁ c := by
  obtain ⟨m, hm, hrequest⟩ := hc
  rcases h.known c ⟨m, List.mem_append_left _ hm, hrequest⟩ with hr | ⟨m', hm', hclose, hid⟩
  · simp [registered, address, AList.lookup, he.2] at hr
  · rcases List.mem_append.mp hm' with hm' | hm'
    · exact ⟨m', hm', hclose, hid⟩
    · exact (hno m' hm' hclose).elim

/-- What an orderly run keeps: while the socket is open what was written and what is on its way is
consistent, and once it is closed nobody who was asked for is left. -/
structure Ordered (tr : List UdpEvent) (l : List OutgoingMessage) (u : Udp) : Prop where
  lastWord : l.Pairwise LastWord
  opened : u.connClosed = false → Consistent tr (l ++ u.inFlight) u
  closed : u.connClosed = true → ∀ c, RequestedIn l c → ClosedIn l c

theorem Ordered.next (h : Ordered tr l u) (he : u.enabled e)
    (hclosed : u.connClosed = true ↔ u.closer = .returned) (ho : u.Orderly tr e) :
    Ordered (tr ++ [e]) (l ++ (u.emits e).toList) (u.next e) := by
  cases hopen : u.connClosed with
  | true =>
    have hemits : u.emits e = none := by simp [emits, hopen]
    have hstays : (u.next e).connClosed = true := by
      cases e
      case closerClose => rfl
      all_goals exact hopen
    rw [hemits, Option.toList_none, List.append_nil]
    exact ⟨h.lastWord, by simp [hstays], fun _ => h.closed hopen⟩
  | false =>
    have hcons := h.opened hopen
    have hreturned : u.closer ≠ .returned := fun hret => by simp [hclosed.mpr hret] at hopen
    have hafter : Consistent (tr ++ [e]) (l ++ (u.emits e).toList ++ (u.next e).inFlight)
        (u.next e) := by
      by_cases hwrite : ∃ c addr, e = .closerWrite c addr
      · obtain ⟨c, addr, rfl⟩ := hwrite
        have hpending : ¬u.Pending c := ho
        have hemits : u.emits (.closerWrite c addr) = some (closeConnection c addr) := by
          simp [emits, hopen, written]
        rw [hemits]
        refine hcons.closerWrite he (fun m hm hid => hpending (.inl ⟨m, hm, hid⟩))
          (fun hs => hpending (.inr (.inl hs))) fun hd => hpending (.inr (.inr hd))
      · have hwrite : ∀ c addr, e ≠ .closerWrite c addr :=
          fun c addr heq => hwrite ⟨c, addr, heq⟩
        rw [List.append_assoc, emits_inFlight he hopen hwrite, ← List.append_assoc]
        exact hcons.next he hreturned hopen ho hwrite
    refine ⟨(List.pairwise_append.mp hafter.ordered).1, fun _ => hafter, fun hclosed c hc => ?_⟩
    cases e
    case closerClose =>
      have hemits : u.emits .closerClose = none := by simp [emits, written]
      rw [hemits, Option.toList_none, List.append_nil] at hc ⊢
      exact hcons.closerClose he ho hc
    all_goals exact absurd (hopen.symm.trans hclosed) (by simp)

/-- In a run whose steps are all orderly nothing follows the close of a client on the wire, and
when `Start` returns every client that was asked for was closed. -/
theorem close_last (hr : automaton.Run (start params) tr u)
    (horderly : ∀ tr₁ e, tr₁ ++ [e] <+: tr →
      (automaton.exec (start params) tr₁).Orderly tr₁ e) :
    (wire (start params) tr).Pairwise LastWord ∧
      (u.Returned → ∀ c, RequestedIn (wire (start params) tr) c →
        ClosedIn (wire (start params) tr) c) := by
  suffices hord : Ordered tr (wire (start params) tr) u by
    refine ⟨hord.lastWord, fun hret => hord.closed ?_⟩
    exact (connClosed_iff hr).mpr hret.2.2.2
  induction hr with
  | nil =>
    refine ⟨.nil, fun _ => ⟨.nil, ?_, ?_, ?_, ?_, ?_⟩, ?_⟩ <;>
      simp [wire, inFlight, start, SenderPc.holds, ClosedIn, RequestedIn]
  | @snoc tr u e hr he ih =>
    rw [wire_snoc, ← hr.eq_exec]
    refine (ih fun tr₁ e hp => horderly tr₁ e (hp.trans (List.prefix_append _ _))).next he
      (connClosed_iff hr) ?_
    rw [hr.eq_exec]
    exact horderly tr e List.prefix_rfl

end

/-- Client 1 is opened and its request is taken from the queue. -/
def requestTaken : List UdpEvent := [
  .recvOpen Sample.openCommand, .connect Sample.openCommand Sample.addr,
  .register Sample.openCommand Sample.addr, .connectSend Sample.openCommand Sample.addr,
  .senderTake (connectionRequest Sample.openCommand Sample.addr)]

/-- The goroutines return after shutdown. -/
def returns : List UdpEvent := [.closerClose, .exitListener, .exitSender, .exitDatagrams]

/-- The request is written before shutdown. -/
def closedInOrder : List UdpEvent :=
  requestTaken ++ [.senderWrite (connectionRequest Sample.openCommand Sample.addr), .cancel,
    .closerLock, .closerWrite 1 Sample.addr] ++ returns

theorem close_last_closedInOrder :
    ClosedIn (wire (start Sample.config.udp) closedInOrder) 1 := by
  have hr : automaton.Run (start Sample.config.udp) closedInOrder _ :=
    Automaton.Admits.run (by decide +kernel)
  refine (close_last hr ?_).2 (by unfold Returned; decide +kernel) 1
    ⟨connectionRequest Sample.openCommand Sample.addr, by decide +kernel, rfl, rfl⟩
  simp only [closedInOrder, requestTaken, returns, List.cons_append, List.nil_append,
    forall_snoc_prefix_cons, forall_snoc_prefix_nil, Orderly, true_and, and_true]
  refine ⟨?_, ?_, ?_⟩
  · simp
  · decide +kernel
  · decide +kernel

/-- Shutdown strikes while the sender has the request in its hands. -/
def requestOvertaken : List UdpEvent :=
  requestTaken ++ [.cancel, .closerLock, .closerWrite 1 Sample.addr,
    .senderWrite (connectionRequest Sample.openCommand Sample.addr)] ++ returns

/-- Client 1 is closed by the hub, and shutdown strikes while its close is in the queue. -/
def closeLost : List UdpEvent :=
  let close : ClientCloseCommand := ⟨1, [], none, none⟩
  requestTaken ++ [.senderWrite (connectionRequest Sample.openCommand Sample.addr),
    .recvClose close, .closeLookup close Sample.addr, .closeSend close Sample.addr,
    .closeDelete close, .cancel, .closerLock] ++ returns

/-- A connection request can follow the close of its client on the wire, and a client that was
asked for can be left without a close. -/
theorem request_after_close :
    (¬∀ params tr u, automaton.Run (start params) tr u → .cancel ∈ tr →
      (wire (start params) tr).Pairwise LastWord) ∧
    ¬∀ params tr u, automaton.Run (start params) tr u → .cancel ∈ tr → u.Returned →
      ∀ c, RequestedIn (wire (start params) tr) c → ClosedIn (wire (start params) tr) c := by
  constructor
  · intro hall
    have hr : automaton.Run (start Sample.config.udp) requestOvertaken _ :=
      Automaton.Admits.run (by decide +kernel)
    have hwire : wire (start Sample.config.udp) requestOvertaken =
        [closeConnection 1 Sample.addr, connectionRequest Sample.openCommand Sample.addr] := by
      decide +kernel
    have hlast := hall _ _ _ hr (by decide)
    rw [hwire, List.pairwise_pair] at hlast
    exact hlast rfl rfl
  · intro hall
    have hr : automaton.Run (start Sample.config.udp) closeLost _ :=
      Automaton.Admits.run (by decide +kernel)
    have hwire : wire (start Sample.config.udp) closeLost =
        [connectionRequest Sample.openCommand Sample.addr] := by
      decide +kernel
    have hclosed := hall _ _ _ hr (by decide) (by unfold Returned; decide +kernel) 1
    rw [hwire] at hclosed
    obtain ⟨m, hm, hclose, -⟩ := hclosed ⟨_, List.mem_singleton_self _, rfl, rfl⟩
    rw [List.mem_singleton.mp hm] at hclose
    cases hclose

end Udp
end Spanreed
