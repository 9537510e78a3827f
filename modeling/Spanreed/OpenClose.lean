import Spanreed.System
import Spanreed.UdpFacts

/-! # Open and close commands that overtake each other

The hub sends open and close commands on different channels, and the `select` of the UDP handler's
listener may take a close before the open it belongs to. Such a close finds nobody and is dropped;
`open_close_respected_iff` says when a client is nevertheless gone in the end. -/

namespace Spanreed
open Flatbuffers Automata

namespace UdpEvent

/-- The listener looks up the client of a close command for client `c`. -/
def LooksUpClose (c : ClientId) : UdpEvent → Prop
  | .closeLookup m _ | .closeUnknown m => m.clientId = c
  | _ => False

end UdpEvent

/-- The listener is busy with the open command `m`. -/
def ListenerPc.Opening (m : OpenClientConnectionCommand) : ListenerPc → Prop
  | .connect m' | .register m' _ | .connectSend m' _ => m' = m
  | _ => False

namespace Udp
open UdpEvent

section
variable {params : UdpSpanreedDestinationParams} {tr : List UdpEvent} {u : Udp} {c : ClientId}
  {m m₁ m₂ : OpenClientConnectionCommand} {m' : ClientCloseCommand} {addr : UDPAddr}

/-- An open command that was taken is being carried out, was refused or has led to a request. -/
theorem open_handled (h : automaton.Run (start params) tr u) (hm : .recvOpen m ∈ tr) :
    u.listener.Opening m ∨ (∃ err, params.connectAddress m.connectionString = some (.error err)) ∨
      ∃ addr, .connectSend m addr ∈ tr := by
  induction h with
  | nil => cases hm
  | @snoc tr u e hr he ih =>
    have hold : (∀ m, e ≠ .recvOpen m) → u.listener.Opening m ∨
        (∃ err, params.connectAddress m.connectionString = some (.error err)) ∨
        ∃ addr, .connectSend m addr ∈ tr ++ [e] := by
      intro hne
      rcases List.mem_append.mp hm with hm | hm
      · rcases ih hm with hm | hm | ⟨addr, hm⟩
        · exact .inl hm
        · exact .inr (.inl hm)
        · exact .inr (.inr ⟨addr, List.mem_append_left _ hm⟩)
      · exact (hne m (List.mem_singleton.mp hm).symm).elim
    cases e
    case recvOpen m₁ =>
      rcases List.mem_append.mp hm with hm | hm
      · rcases ih hm with hm | hm | ⟨addr, hm⟩
        · rw [show u.listener = _ from he] at hm
          exact hm.elim
        · exact .inr (.inl hm)
        · exact .inr (.inr ⟨addr, List.mem_append_left _ hm⟩)
      · cases List.mem_singleton.mp hm
        exact .inl rfl
    case connect m₁ addr | register m₁ addr =>
      rcases hold (by simp) with hm | hm
      · rw [he.1] at hm
        exact .inl hm
      · exact .inr hm
    case connectFails m₁ err =>
      rcases hold (by simp) with hm | hm
      · rw [he.1] at hm
        obtain rfl : m₁ = m := hm
        exact .inr (.inl ⟨err, params_eq hr ▸ he.2⟩)
      · exact .inr hm
    case connectSend m₁ addr =>
      rcases hold (by simp) with hm | hm
      · rw [he.1] at hm
        obtain rfl : m₁ = m := hm
        exact .inr (.inr ⟨addr, by simp⟩)
      · exact .inr hm
    case exitListener | recvClose | recvMessage | reject | closeLookup | closeUnknown | closeSend
        | closeDelete | messageLookup | messageUnknown | messageSend =>
      -- the listener was busy with something else
      have hne : ¬u.listener.Opening m := by
        simp only [automaton, enabled] at he
        simp [he, ListenerPc.Opening]
      exact .inr ((hold (by simp)).resolve_left hne)
    all_goals exact hold (by simp)

/-- A close command that finds its client registered comes after the client's request. -/
theorem connectSend_of_lookup (h : automaton.Run (start params) tr u)
    (he : u.enabled (.closeLookup m' addr)) :
    ∃ m addr, m.clientId = m'.clientId ∧ .connectSend m addr ∈ tr := by
  obtain ⟨m, hreg, hc⟩ := address_register h he.2.2
  obtain ⟨hopen, hok⟩ := resolved_of_register h hreg
  rcases open_handled h hopen with hbusy | ⟨err, herr⟩ | ⟨addr, hsend⟩
  · rw [he.1] at hbusy
    exact hbusy.elim
  · rw [hok] at herr
    cases herr
  · exact ⟨m, addr, hc, hsend⟩

/-- A client is taken out by a close command after both datagrams were enqueued. -/
theorem sends_before_delete (h : automaton.Run (start params) tr u)
    (hm : .closeDelete m' ∈ tr) :
    ∃ m addr addr', m.clientId = m'.clientId ∧
      [.connectSend m addr, .closeSend m' addr'].Sublist tr := by
  obtain ⟨tr₁, u₁, h₁, hen₁, hpre₁⟩ := h.of_mem hm
  have hpast₁ := listener_past h₁
  rw [hen₁.1] at hpast₁
  obtain ⟨addr', hsend⟩ := hpast₁
  obtain ⟨tr₂, u₂, h₂, hen₂, hpre₂⟩ := h₁.of_mem hsend
  have hpast₂ := listener_past h₂
  rw [hen₂.1] at hpast₂
  obtain ⟨tr₃, u₃, h₃, hen₃, hpre₃⟩ := h₂.of_mem hpast₂
  obtain ⟨m, addr, hc, hreq⟩ := connectSend_of_lookup h₃ hen₃
  have hreq : .connectSend m addr ∈ tr₂ := hpre₃.subset (List.mem_append_left _ hreq)
  have hpre : tr₂ ++ [.closeSend m' addr'] <+: tr :=
    (hpre₂.trans (List.prefix_append _ _)).trans hpre₁
  exact ⟨m, addr, addr', hc, sublist_snoc (List.singleton_sublist.mpr hreq) hpre⟩

/-- A close command that found its client is carried out. -/
theorem lookup_handled (h : automaton.Run (start params) tr u)
    (hm : .closeLookup m' addr ∈ tr) :
    u.listener = .closeSend m' addr ∨ u.listener = .closeDelete m' ∨ .closeDelete m' ∈ tr := by
  induction h with
  | nil => cases hm
  | @snoc tr u e hr he ih =>
    by_cases hlast : e = .closeLookup m' addr
    · subst hlast
      exact .inl rfl
    have hm : .closeLookup m' addr ∈ tr := by
      rcases List.mem_append.mp hm with hm | hm
      · exact hm
      · exact (hlast (List.mem_singleton.mp hm).symm).elim
    rcases ih hm with hl | hl | hdel
    · cases e <;> simp only [automaton, enabled, hl, reduceCtorEq, false_and] at he
      case closeSend =>
        cases he.1
        exact .inr (.inl rfl)
      all_goals exact .inl hl
    · cases e <;> simp only [automaton, enabled, hl, reduceCtorEq, false_and] at he
      case closeDelete =>
        cases he.1
        exact .inr (.inr (by simp))
      all_goals exact .inr (.inl hl)
    · exact .inr (.inr (List.mem_append_left _ hdel))

/-- A client that was taken out had been opened. -/
theorem opened_of_unregisters (h : automaton.Run (start params) tr u) {e : UdpEvent}
    (he : e ∈ tr) (hun : e.Unregisters c) : ∃ m, m.clientId = c ∧ .recvOpen m ∈ tr := by
  cases e <;> simp only [Unregisters] at hun
  case closeDelete m' =>
    obtain ⟨m, addr, addr', hc, hsub⟩ := sends_before_delete h he
    have hreg := register_of_connectSend h (hsub.subset (List.mem_cons_self ..))
    exact ⟨m, hc.trans hun, (resolved_of_register h hreg).1⟩
  case closerWrite c' addr =>
    obtain ⟨tr₁, u₁, h₁, hen, hpre⟩ := h.of_mem he
    obtain ⟨m, hreg, hc⟩ := address_register h₁ hen.2
    exact ⟨m, hc.trans hun,
      hpre.subset (List.mem_append_left _ (resolved_of_register h₁ hreg).1)⟩

/-- The listener is about to register client `c`. -/
def Registering (u : Udp) (c : ClientId) : Prop :=
  ∃ m, m.clientId = c ∧ (u.listener = .connect m ∨ ∃ addr, u.listener = .register m addr)

/-- Only the open command starts a registration. -/
theorem Registering.before {e : UdpEvent} (he : u.enabled e) (h : (u.next e).Registering c) :
    u.Registering c ∨ ∃ m, e = .recvOpen m ∧ m.clientId = c := by
  obtain ⟨m, hc, h⟩ := h
  cases e
  case recvOpen m₁ =>
    rcases h with h | ⟨addr, h⟩
    · cases h
      exact .inr ⟨m, rfl, hc⟩
    · cases h
  case connect m₁ addr =>
    rcases h with h | ⟨addr, h⟩
    · cases h
    · cases h
      exact .inl ⟨m, hc, .inl he.1⟩
  case exitListener | recvClose | recvMessage | connectFails | register | connectSend | reject
      | closeLookup | closeUnknown | closeSend | closeDelete | messageLookup | messageUnknown
      | messageSend =>
    rcases h with h | ⟨addr, h⟩ <;> cases h
  all_goals exact .inl ⟨m, hc, h⟩

/-- A client that is not registered stays so unless it is being registered. -/
theorem address_next_none {e : UdpEvent} (h : u.address c = none)
    (hreg : ∀ m addr, e = .register m addr → m.clientId ≠ c) : (u.next e).address c = none := by
  cases e
  case register m addr =>
    have hne : c ≠ m.clientId := fun hc => hreg m addr rfl hc.symm
    simpa [next, address, AList.lookup_insert_ne hne] using h
  case closeDelete m =>
    by_cases hc : c = m.clientId
    · subst hc; exact AList.lookup_erase _ _
    · simpa [next, address, AList.lookup_erase_ne hc] using h
  case closerWrite c' addr =>
    by_cases hc : c = c'
    · subst hc; exact AList.lookup_erase _ _
    · simpa [next, address, AList.lookup_erase_ne hc] using h
  all_goals exact h

/-- A client that is being registered is not registered. -/
theorem free_of_registering (h : automaton.Run (start params) tr u) (hone : OneOpen c tr)
    (hreg : u.Registering c) : u.address c = none := by
  induction h with
  | nil => rfl
  | @snoc tr u e hr he ih =>
    have ih := ih (hone.of_sublist (List.sublist_append_left _ _))
    have hlast : ∀ m addr, e = .register m addr → m.clientId ≠ c := by
      rintro m addr rfl
      obtain ⟨m₁, -, h | ⟨addr, h⟩⟩ := hreg <;> cases h
    rcases hreg.before he with hreg | ⟨m, rfl, hc⟩
    · exact address_next_none (ih hreg) hlast
    · by_contra hne
      obtain ⟨addr, ha⟩ := Option.ne_none_iff_exists'.mp hne
      obtain ⟨m₁, hm₁, hc₁⟩ := address_register hr ha
      exact hone.not_again (resolved_of_register hr hm₁).1 hc₁ hc

/-- A client that was taken out does not come back. -/
theorem gone_of_unregisters (h : automaton.Run (start params) tr u) (hone : OneOpen c tr)
    {e : UdpEvent} (he : e ∈ tr) (hun : e.Unregisters c) :
    u.address c = none ∧ ¬u.Registering c := by
  induction h with
  | nil => cases he
  | @snoc tr u e' hr hen ih =>
    have hone' := hone.of_sublist (List.sublist_append_left tr [e'])
    rcases List.mem_append.mp he with hold | he
    · obtain ⟨hnone, hfree⟩ := ih hone' hold
      constructor
      · refine address_next_none hnone ?_
        rintro m addr rfl hc
        exact hfree ⟨m, hc, .inr ⟨addr, hen.1⟩⟩
      · intro hreg
        rcases hreg.before hen with hreg | ⟨m, rfl, hc⟩
        · exact hfree hreg
        · obtain ⟨m₁, hc₁, hm₁⟩ := opened_of_unregisters hr hold hun
          exact hone.not_again hm₁ hc₁ hc
    · cases List.mem_singleton.mp he
      cases e <;> simp only [Unregisters] at hun
      case closeDelete m =>
        subst hun
        refine ⟨by simp [automaton, next, address], ?_⟩
        rintro ⟨m₁, -, h | ⟨addr, h⟩⟩ <;> cases h
      case closerWrite c' addr =>
        subst hun
        refine ⟨by simp [automaton, next, address], fun hreg => ?_⟩
        have hnone := free_of_registering hr hone' hreg
        rw [hen.2] at hnone
        cases hnone

/-! ## When the client is gone -/

/-- The datagram is a connection request for client `c`. -/
def Requests (c : ClientId) (o : OutgoingMessage) : Prop :=
  o.payload.innerMessage = .proxyDestConnectionRequest ∧ o.payload.clientId = c

/-- The datagram tells the destination that client `c` is closed. -/
def Closes (c : ClientId) (o : OutgoingMessage) : Prop :=
  o.payload.innerMessage = .proxyDestCloseConnection ∧ o.payload.clientId = c

/-- Client `c` is not registered, and a connection request for it is followed by a close. -/
def Gone (c : ClientId) (tr : List UdpEvent) (u : Udp) : Prop :=
  u.address c = none ∧
    ∀ o ∈ tr.filterMap enqueued, Requests c o →
      ∃ o', Closes c o' ∧ [o, o'].Sublist (tr.filterMap enqueued)

/-- A close command for client `c` was looked up after the open command `m` was taken and before
the closing goroutine of a shutdown took the client out. -/
def ClosedAfterOpen (c : ClientId) (m : OpenClientConnectionCommand) (tr : List UdpEvent) : Prop :=
  ∃ tr₁ e, tr₁ ++ [e] <+: tr ∧ .recvOpen m ∈ tr₁ ∧ e.LooksUpClose c ∧
    ∀ addr, .closerWrite c addr ∉ tr₁

theorem connectSend_of_requests {o : OutgoingMessage} (ho : o ∈ tr.filterMap enqueued)
    (hc : Requests c o) :
    ∃ m addr, m.clientId = c ∧ .connectSend m addr ∈ tr ∧ o = connectionRequest m addr := by
  obtain ⟨e, he, heq⟩ := List.mem_filterMap.mp ho
  cases e <;> simp only [enqueued, Option.some.injEq, reduceCtorEq] at heq
  case connectSend m addr =>
    subst heq
    exact ⟨m, addr, hc.2, he, rfl⟩
  all_goals
    subst heq
    cases hc.1

theorem closeSend_of_closes {o : OutgoingMessage} (ho : o ∈ tr.filterMap enqueued)
    (hc : Closes c o) : ∃ m' addr, m'.clientId = c ∧ .closeSend m' addr ∈ tr := by
  obtain ⟨e, he, heq⟩ := List.mem_filterMap.mp ho
  cases e <;> simp only [enqueued, Option.some.injEq, reduceCtorEq] at heq
  case closeSend m' addr =>
    subst heq
    exact ⟨m', addr, hc.2, he⟩
  all_goals
    subst heq
    cases hc.1

/-- The open command of a client with a connection request is the one that was taken. -/
theorem resolved_of_connectSend (h : automaton.Run (start params) tr u) (hone : OneOpen c tr)
    (hm : .recvOpen m ∈ tr) (hc : m.clientId = c) (hsend : .connectSend m₁ addr ∈ tr)
    (hc₁ : m₁.clientId = c) :
    m₁ = m ∧ params.connectAddress m.connectionString = some (.ok addr) := by
  obtain ⟨hm₁, hok⟩ := resolved_of_register h (register_of_connectSend h hsend)
  obtain rfl := hone.unique hm₁ hm hc₁ hc
  exact ⟨rfl, hok⟩

/-- A client whose open command is refused is never there. -/
theorem gone_of_refused (h : automaton.Run (start params) tr u) (hone : OneOpen c tr)
    (hm : .recvOpen m ∈ tr) (hc : m.clientId = c) {err : GoError}
    (herr : params.connectAddress m.connectionString = some (.error err)) : Gone c tr u := by
  constructor
  · by_contra hne
    obtain ⟨addr, ha⟩ := Option.ne_none_iff_exists'.mp hne
    obtain ⟨m₁, hreg, hc₁⟩ := address_register h ha
    obtain ⟨hm₁, hok⟩ := resolved_of_register h hreg
    obtain rfl := hone.unique hm₁ hm hc₁ hc
    rw [hok] at herr
    cases herr
  · intro o ho hreq
    obtain ⟨m₁, addr, hc₁, hsend, -⟩ := connectSend_of_requests ho hreq
    obtain ⟨rfl, hok⟩ := resolved_of_connectSend h hone hm hc hsend hc₁
    rw [hok] at herr
    cases herr

/-- A close command that was carried out leaves nothing behind. -/
theorem gone_of_delete (h : automaton.Run (start params) tr u) (hone : OneOpen c tr)
    (hm : .recvOpen m ∈ tr) (hc : m.clientId = c) (hdel : .closeDelete m' ∈ tr)
    (hc' : m'.clientId = c) : Gone c tr u := by
  refine ⟨(gone_of_unregisters h hone hdel hc').1, ?_⟩
  intro o ho hreq
  obtain ⟨m₁, addr, hc₁, hsend, rfl⟩ := connectSend_of_requests ho hreq
  obtain ⟨m₂, addr₂, addr', hc₂, hsub⟩ := sends_before_delete h hdel
  obtain ⟨rfl, hok₁⟩ := resolved_of_connectSend h hone hm hc hsend hc₁
  obtain ⟨rfl, hok₂⟩ := resolved_of_connectSend h hone hm hc
    (hsub.subset (List.mem_cons_self ..)) (hc₂.trans hc')
  rw [hok₁] at hok₂
  cases hok₂
  exact ⟨closeConnection m'.clientId addr', ⟨rfl, hc'⟩, hsub.filterMap enqueued⟩

/-- Once the listener is done with the open command, the client is gone exactly if the command was
refused or a close command was looked up after it. -/
theorem gone_iff (h : automaton.Run (start params) tr u) (hone : OneOpen c tr)
    (hm : .recvOpen m ∈ tr) (hc : m.clientId = c)
    (hidle : u.listener = .select ∨ u.listener = .exited) :
    Gone c tr u ↔ (∃ err, params.connectAddress m.connectionString = some (.error err)) ∨
      ClosedAfterOpen c m tr := by
  constructor
  · rintro ⟨-, hclosed⟩
    rcases open_handled h hm with hbusy | herr | ⟨addr, hsend⟩
    · rcases hidle with hl | hl <;> rw [hl] at hbusy <;> exact hbusy.elim
    · exact .inl herr
    refine .inr ?_
    obtain ⟨o', hcl, hsub⟩ := hclosed (connectionRequest m addr)
      (List.mem_filterMap.mpr ⟨_, hsend, rfl⟩) ⟨rfl, hc⟩
    obtain ⟨m', addr', hc', hclose⟩ := closeSend_of_closes (hsub.subset (by simp)) hcl
    obtain ⟨tr₂, u₂, h₂, hen₂, hpre₂⟩ := h.of_mem hclose
    have hpast := listener_past h₂
    rw [hen₂.1] at hpast
    obtain ⟨tr₁, u₁, h₁, hen₁, hpre₁⟩ := h₂.of_mem hpast
    have hpre : tr₁ ++ [.closeLookup m' addr'] <+: tr :=
      (hpre₁.trans (List.prefix_append _ _)).trans hpre₂
    have hsub₁ : tr₁.Sublist tr := ((List.prefix_append _ _).trans hpre).sublist
    -- the client was registered when the close command was looked up
    obtain ⟨m₁, hreg, hc₁⟩ := address_register h₁ hen₁.2.2
    have hm₁ := (resolved_of_register h₁ hreg).1
    obtain rfl := hone.unique (hsub₁.subset hm₁) hm (hc₁.trans hc') hc
    refine ⟨tr₁, _, hpre, hm₁, hc', ?_⟩
    intro addr'' hw
    have hnone := (gone_of_unregisters h₁ (hone.of_sublist hsub₁) hw rfl).1
    rw [← hc', hen₁.2.2] at hnone
    cases hnone
  · rintro (⟨err, herr⟩ | ⟨tr₁, e, hpre, hm₁, hlook, hno⟩)
    · exact gone_of_refused h hone hm hc herr
    obtain ⟨tr₂, rfl⟩ := hpre
    rw [List.append_assoc] at h hone hm ⊢
    obtain ⟨u₁, h₁, hen, -⟩ := h.at_event
    cases e <;> simp only [LooksUpClose] at hlook
    case closeLookup m' addr =>
      have hmem : .closeLookup m' addr ∈ tr₁ ++ ([.closeLookup m' addr] ++ tr₂) := by simp
      rcases lookup_handled h hmem with hl | hl | hdel
      · rcases hidle with hi | hi <;> rw [hi] at hl <;> cases hl
      · rcases hidle with hi | hi <;> rw [hi] at hl <;> cases hl
      · exact gone_of_delete h hone hm hc hdel hlook
    case closeUnknown m' =>
      rcases open_handled h₁ hm₁ with hbusy | ⟨err, herr⟩ | ⟨addr, hsend⟩
      · rw [hen.1] at hbusy
        exact hbusy.elim
      · exact gone_of_refused h hone hm hc herr
      -- a client that was registered and is not there any more was closed before
      have hreg := register_of_connectSend h₁ hsend
      by_cases hun : ∃ e ∈ tr₁, e.Unregisters m.clientId
      · obtain ⟨e, he, hun⟩ := hun
        cases e <;> simp only [Unregisters] at hun
        case closeDelete m'' =>
          exact gone_of_delete h hone hm hc (List.mem_append_left _ he) (hun.trans hc)
        case closerWrite c' addr' =>
          rw [hun, hc] at he
          exact (hno addr' he).elim
      · have hthere := registered_of_register h₁ hreg fun e he hun' => hun ⟨e, he, hun'⟩
        exact (hthere (by rw [hc, ← hlook]; exact hen.2.2)).elim

end
end Udp

/-! ## The handler under the commands of a hub -/

/-- The channels on which the hub sends commands to a destination handler. -/
inductive CommandChan
  | openClientChannel
  | proxyCloseRequests
  | outgoingMessageChannel
deriving DecidableEq

abbrev CommandChan.Msg : CommandChan → Type
  | .openClientChannel => OpenClientConnectionCommand
  | .proxyCloseRequests => ClientCloseCommand
  | .outgoingMessageChannel => DestinationMessage

instance : ∀ c : CommandChan, DecidableEq c.Msg
  | .openClientChannel => inferInstanceAs (DecidableEq OpenClientConnectionCommand)
  | .proxyCloseRequests => inferInstanceAs (DecidableEq ClientCloseCommand)
  | .outgoingMessageChannel => inferInstanceAs (DecidableEq DestinationMessage)

/-- The hub sends a command, or the handler does something. -/
inductive CommandedEvent
  | sendOpen (m : OpenClientConnectionCommand)
  | sendClose (m : ClientCloseCommand)
  | sendMessage (m : DestinationMessage)
  | udp (e : UdpEvent)
deriving DecidableEq

namespace CommandedEvent

def op : CommandedEvent → ChannelOp CommandChan CommandChan.Msg
  | .sendOpen m => .send .openClientChannel m
  | .sendClose m => .send .proxyCloseRequests m
  | .sendMessage m => .send .outgoingMessageChannel m
  | .udp (.recvOpen m) => .recv .openClientChannel m
  | .udp (.recvClose m) => .recv .proxyCloseRequests m
  | .udp (.recvMessage m) => .recv .outgoingMessageChannel m
  | .udp _ => .internal

def udpPart : CommandedEvent → Option UdpEvent
  | .udp e => some e
  | _ => none

/-- An open command that the hub sends for client `c`. -/
def sentOpenFor (c : ClientId) : CommandedEvent → Option OpenClientConnectionCommand
  | .sendOpen m => if m.clientId = c then some m else none
  | _ => none

end CommandedEvent

namespace Commanded
open CommandedEvent

/-- The handler with a hub that may send any command at any time. -/
def handler : Automaton Udp CommandedEvent where
  enabled u e := ∀ e' ∈ e.udpPart, u.enabled e'
  next u e := match e.udpPart with
    | some e' => u.next e'
    | none => u

instance (u : Udp) (e : CommandedEvent) : Decidable (handler.enabled u e) := by
  unfold handler
  infer_instance

def automaton (capacity : CommandChan → Option Nat) :
    Automaton (Udp × Queues CommandChan.Msg) CommandedEvent :=
  network handler op capacity

instance (capacity : CommandChan → Option Nat) (s : Udp × Queues CommandChan.Msg)
    (e : CommandedEvent) : Decidable ((automaton capacity).enabled s e) :=
  inferInstanceAs (Decidable ((network _ _ _).enabled s e))

def start (params : UdpSpanreedDestinationParams) : Udp × Queues CommandChan.Msg :=
  (.start params, fun _ => [])

/-- What the handler does is a history of the handler. -/
def component (capacity : CommandChan → Option Nat) :
    Automaton.Component (automaton capacity) Udp.automaton where
  state := Prod.fst
  part := udpPart
  enabled he hp := he.1 _ hp
  next {s e e'} _ hp := by simp [automaton, network, handler, hp, Udp.automaton]
  frame {s e} _ hp := by simp [automaton, network, handler, hp]

variable {params : UdpSpanreedDestinationParams} {capacity : CommandChan → Option Nat}
  {tr : List CommandedEvent} {s : Udp × Queues CommandChan.Msg} {c : ClientId}
  {m : OpenClientConnectionCommand} {m' : ClientCloseCommand}

/-- The hub sent an open command and later a close command for client `c`, and only this open
command; the handler took both and is done with them. -/
structure OpenThenClose (c : ClientId) (m : OpenClientConnectionCommand) (m' : ClientCloseCommand)
    (tr : List CommandedEvent) (s : Udp × Queues CommandChan.Msg) : Prop where
  clientId_open : m.clientId = c
  clientId_close : m'.clientId = c
  sent : [.sendOpen m, .sendClose m'].Sublist tr
  one_open : (tr.filterMap (sentOpenFor c)).length ≤ 1
  opened : .udp (.recvOpen m) ∈ tr
  closed : .udp (.recvClose m') ∈ tr
  idle : s.1.listener = .select ∨ s.1.listener = .exited

/-- The handler takes no more open commands than the hub sends. -/
theorem oneOpen_of_sent (h : (automaton capacity).Run (start params) tr s)
    (hone : (tr.filterMap (sentOpenFor c)).length ≤ 1) :
    Udp.OneOpen c (tr.filterMap udpPart) := by
  have hexact : Exact (tr.filterMap (sentOpenFor c))
      (tr.filterMap fun e => e.udpPart.bind (UdpEvent.openedFor c))
      ((s.2 .openClientChannel).filterMap fun m => if m.clientId = c then some m else none) := by
    refine network_exact h .openClientChannel ?_ ?_
    · intro e hmem
      clear hmem
      cases e with
      | udp e => cases e <;> rfl
      | _ => rfl
    · intro e hmem
      clear hmem
      cases e with
      | udp e => cases e <;> rfl
      | _ => rfl
  unfold Udp.OneOpen
  rw [List.filterMap_filterMap]
  unfold Exact at hexact
  rw [hexact, List.length_append] at hone
  omega

/-- Open-then-close leaves nothing of a client exactly if its open command is refused, or a close
command for it is looked up after the open command was taken (and, in a shutdown, before the
closing goroutine took the client out): the order in which the hub sent them is not enough. -/
theorem open_close_respected_iff (h : (automaton capacity).Run (start params) tr s)
    (hoc : OpenThenClose c m m' tr s) :
    Udp.Gone c (tr.filterMap udpPart) s.1 ↔
      (∃ err, params.connectAddress m.connectionString = some (.error err)) ∨
        Udp.ClosedAfterOpen c m (tr.filterMap udpPart) :=
  Udp.gone_iff ((component capacity).run h) (oneOpen_of_sent h hoc.one_open)
    (List.mem_filterMap.mpr ⟨_, hoc.opened, rfl⟩) hoc.clientId_open hoc.idle

def closeCommand : ClientCloseCommand := Hub.closeCommand 1 none

/-- The handler takes the open command ... -/
def takesOpen : List CommandedEvent := [
  .udp (.recvOpen Sample.openCommand), .udp (.connect Sample.openCommand Sample.addr),
  .udp (.register Sample.openCommand Sample.addr),
  .udp (.connectSend Sample.openCommand Sample.addr)]

/-- ... and then the close command. -/
def inOrder : List CommandedEvent :=
  [.sendOpen Sample.openCommand, .sendClose closeCommand] ++ takesOpen ++
    [.udp (.recvClose closeCommand), .udp (.closeLookup closeCommand Sample.addr),
      .udp (.closeSend closeCommand Sample.addr), .udp (.closeDelete closeCommand)]

theorem open_close_respected_sample :
    Udp.Gone 1 (inOrder.filterMap udpPart)
      ((automaton fun _ => some 32).exec (start Sample.config.udp) inOrder).1 := by
  have hoc : OpenThenClose 1 Sample.openCommand closeCommand inOrder
      ((automaton fun _ => some 32).exec (start Sample.config.udp) inOrder) :=
    ⟨rfl, rfl, by decide, by decide, by decide, by decide, by decide +kernel⟩
  refine (open_close_respected_iff (Automaton.Admits.run (by decide +kernel)) hoc).mpr (.inr ?_)
  exact ⟨takesOpen.filterMap udpPart ++ [.recvClose closeCommand],
      .closeLookup closeCommand Sample.addr, by decide, by decide, rfl,
      by simp [takesOpen, udpPart]⟩

/-- The handler takes the close command first: client 1 stays registered. -/
theorem close_overtakes_open :
    ¬∀ (params : UdpSpanreedDestinationParams) (capacity : CommandChan → Option Nat)
      (tr : List CommandedEvent) (s : Udp × Queues CommandChan.Msg),
      (automaton capacity).Run (start params) tr s →
        ∀ c m m', OpenThenClose c m m' tr s → Udp.Gone c (tr.filterMap udpPart) s.1 := by
  intro hall
  have h := hall Sample.config.udp (fun _ => some 32)
    ([.sendOpen Sample.openCommand, .sendClose closeCommand,
      .udp (.recvClose closeCommand), .udp (.closeUnknown closeCommand)] ++ takesOpen) _
    (Automaton.Admits.run (by decide +kernel)) 1 Sample.openCommand closeCommand
    ⟨rfl, rfl, by decide, by decide, by decide, by decide, by decide +kernel⟩
  exact absurd h.1 (by decide +kernel)

end Commanded
end Spanreed
