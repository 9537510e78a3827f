import Spanreed.AuthPacket
import Spanreed.Lib.Progress

/-! # When the dispatch loop gets stuck

The dispatch loop waits for room in a channel of one connection while it holds the read lock of the
routing map, and so keeps every accepted connection from starting its listeners. `Connection.Reads`
lists the phases in which somebody will still read the channel; exactly then the send can complete
(`dispatch_completes_iff`). -/

namespace Spanreed
open Flatbuffers Automata

/-- The connection's goroutines can do this while the dispatch loop waits: everything but the step
that takes the lock of the routing map. -/
def ConnectionEvent.LockFree (e : ConnectionEvent) : Prop := e.own = true ∧ e ≠ .markConnected

/-- A step towards the transport: the verdict packet, and what the proxy listener and the writer
do. -/
def ConnectionEvent.Quiet : ConnectionEvent → Prop
  | .emitVerdict .. | .proxyCloseRequest _ | .proxyEmit _ | .proxyCloseTransport | .take _ => True
  | _ => False

theorem ConnectionEvent.Quiet.lockFree {e : ConnectionEvent} (h : e.Quiet) : e.LockFree := by
  cases e <;> first | exact False.elim h | exact ⟨rfl, by simp⟩

namespace Connection
open ConnectionEvent
variable (params : ClientConnectionRouterParams) (c : Connection)

/-- The channel the dispatch loop waits for is full. -/
def Full : DispatchPc → Prop
  | .sendClose _ _ => c.closeRequest ≠ none
  | .sendMessage _ _ => params.outgoingMessageQueueLength ≤ c.outgoingMessages.length
  | .sendVerdict _ _ => c.verdict ≠ none
  | _ => False

/-- The routing goroutine has not come to its second `select` yet, or is at it. -/
def BeforeVerdict : Prop :=
  match c.routing with
  | .awaitAuth | .openNow _ | .openSend _ | .awaitVerdict => True
  | _ => False

/-- The routing goroutine is at its second `select`, or can still get there: in the first one it
takes the oldest packet, or one that the transport still puts. -/
def ReachesVerdict : Prop :=
  match c.routing with
  | .openNow _ | .openSend _ | .awaitVerdict => True
  | .awaitAuth =>
    match c.incomingPackets with
    | packet :: _ => (safeParseConnectClientMessage packet).isOk
    | [] => c.reader = .reading
  | _ => False

/-- The proxy listener is at its `select`, or gets back to it: it is about to hand over a packet,
and there is room or a writer to make some. -/
def ProxyReads : Prop :=
  match c.proxyListener with
  | .select => True
  | .emit _ =>
    c.outgoingPackets.length < params.outgoingMessageQueueLength ∨ c.writerReturned = false
  | _ => False

/-- The transport listener is at its `select`, or gets back to it. -/
def TransportReads : Prop :=
  match c.transportListener with
  | .select | .messageNow _ | .messageSend _ => True
  | _ => False

/-- Somebody will still read the channel the dispatch loop waits for. -/
def Reads : DispatchPc → Prop
  | .sendClose _ _ => c.BeforeVerdict ∨ c.ProxyReads params ∨ c.TransportReads
  | .sendMessage _ _ => c.ProxyReads params
  | .sendVerdict _ _ => c.ReachesVerdict
  | _ => False

variable {params c} {e : ConnectionEvent}

/-- What is known of a connection that came about. -/
structure Sane (params : ClientConnectionRouterParams) (c : Connection) : Prop where
  started : c.transportListener ≠ .notStarted → c.routing = .forked
  parsed : ∀ authMsg, c.routing = .openNow authMsg →
    ∃ packet, safeParseConnectClientMessage packet = .ok authMsg
  messages_le : c.outgoingMessages.length ≤ params.outgoingMessageQueueLength
  packets_le : c.outgoingPackets.length ≤ params.outgoingMessageQueueLength

theorem lengths_le {id : ClientId} {done : Bool} {tr : List ConnectionEvent}
    (h : (automaton params).Run (opened id done) tr c) :
    c.outgoingMessages.length ≤ params.outgoingMessageQueueLength ∧
      c.outgoingPackets.length ≤ params.outgoingMessageQueueLength := by
  refine h.invariant (I := fun c =>
    c.outgoingMessages.length ≤ params.outgoingMessageQueueLength ∧
      c.outgoingPackets.length ≤ params.outgoingMessageQueueLength) (by simp [opened]) ?_
  intro c e ih he
  cases e
  case pushMessage m =>
    exact ⟨(List.length_append ..).trans_le (Nat.succ_le_of_lt he), ih.2⟩
  case emitVerdict | proxyEmit =>
    exact ⟨ih.1, (List.length_append ..).trans_le (Nat.succ_le_of_lt he.2)⟩
  case proxyMessage => exact ⟨(List.length_tail ▸ Nat.sub_le ..).trans ih.1, ih.2⟩
  case take | writeFails => exact ⟨ih.1, (List.length_tail ▸ Nat.sub_le ..).trans ih.2⟩
  all_goals exact ih

theorem sane {id : ClientId} {done : Bool} {tr : List ConnectionEvent}
    (h : (automaton params).Run (opened id done) tr c) : c.Sane params where
  started hl := by
    by_contra hr
    exact hl ((notStarted_iff h).1.mpr hr)
  parsed authMsg hr := by
    obtain ⟨packet, -, hparse⟩ := (opens_with h).1 authMsg hr
    exact ⟨packet, hparse⟩
  messages_le := (lengths_le h).1
  packets_le := (lengths_le h).2

/-! ## Nobody reads -/

theorem beforeVerdict_next (he : c.enabled params e) (h : (c.next e).BeforeVerdict) :
    c.BeforeVerdict := by
  unfold BeforeVerdict at h ⊢
  cases e
  case openNow =>
    obtain ⟨authMsg, hr, -⟩ := he
    rw [hr]
    trivial
  case authPacket | verdictDone | verdictClientClose | verdictCloseRequest | verdictRecv =>
    rw [he.1]
    trivial
  case openSend =>
    rw [show c.routing = _ from he]
    trivial
  case emitVerdict accepted _ _ => cases accepted <;> exact h.elim
  all_goals first | exact h | exact h.elim

theorem reachesVerdict_next (he : c.enabled params e)
    (hstart : c.transportListener ≠ .notStarted → c.routing = .forked)
    (h : (c.next e).ReachesVerdict) : c.ReachesVerdict := by
  unfold ReachesVerdict at h ⊢
  cases e
  case put packet =>
    simp only [next] at h
    split at h <;> simp_all only
    cases hp : c.incomingPackets with
    | nil => exact he.1
    | cons p ps => simpa [hp] using h
  case readerStops =>
    simp only [next] at h
    split at h <;> simp_all only
    cases hp : c.incomingPackets with
    | nil => exact he
    | cons p ps => simpa [hp] using h
  case clientClose =>
    simp only [next] at h
    split at h <;> simp_all only
    cases hp : c.incomingPackets with
    | nil => simp [hp] at h
    | cons p ps => simpa [hp] using h
  case authPacket packet =>
    obtain ⟨hr, hp⟩ := he
    obtain ⟨ps, hp⟩ := List.head?_eq_some_iff.mp hp
    simp only [next] at h
    simp only [hr, hp]
    cases hparse : safeParseConnectClientMessage packet with
    | ok authMsg => rfl
    | error err => simp [hparse] at h
  case openNow =>
    obtain ⟨authMsg, hr, -⟩ := he
    rw [hr]
    trivial
  case verdictDone | verdictClientClose | verdictCloseRequest | verdictRecv =>
    rw [he.1]
    trivial
  case openSend =>
    rw [show c.routing = _ from he]
    trivial
  case transportPacket =>
    have hr := hstart (by simp [he.1])
    simp [next, hr] at h
  case emitVerdict accepted _ _ => cases accepted <;> exact h.elim
  all_goals first | exact h | exact h.elim

theorem proxyReads_next (he : c.enabled params e) (hf : e ≠ .markConnected)
    (h : (c.next e).ProxyReads params) : c.ProxyReads params := by
  unfold ProxyReads at h ⊢
  cases e
  case markConnected => exact (hf rfl).elim
  case take | writeFails | takeClose =>
    -- a writer that does this has not returned
    cases hp : c.proxyListener with
    | emit d => exact .inr he.1
    | _ => simp_all [next]
  case emitVerdict =>
    -- a packet more is no more room
    cases hp : c.proxyListener with
    | emit d => exact .inl he.2
    | _ => simp_all [next]
  case proxyMessage =>
    rw [he.1]
    trivial
  case proxyEmit =>
    rw [he.1]
    exact .inl he.2
  all_goals first | exact h | exact h.elim

theorem transportReads_next (he : c.enabled params e) (hf : e ≠ .markConnected)
    (h : (c.next e).TransportReads) : c.TransportReads := by
  unfold TransportReads at h ⊢
  cases e
  case markConnected => exact (hf rfl).elim
  case transportNow =>
    obtain ⟨packet, ht, -⟩ := he
    rw [ht]
    trivial
  case transportPacket =>
    rw [he.1]
    trivial
  case transportSend =>
    rw [show c.transportListener = _ from he]
    trivial
  all_goals first | exact h | exact h.elim

/-- A full channel that nobody will read stays so, whatever the connection does. -/
theorem stuck_next {pc : DispatchPc} (he : c.enabled params e)
    (hstart : c.transportListener ≠ .notStarted → c.routing = .forked)
    (hf : e = .cancel ∨ e.LockFree) (hfull : c.Full params pc) (hno : ¬c.Reads params pc) :
    (c.next e).Full params pc ∧ ¬(c.next e).Reads params pc := by
  have hmark : e ≠ .markConnected := by
    rcases hf with rfl | hf
    · simp
    · exact hf.2
  cases pc
  case sendClose k m =>
    constructor
    · cases e
      case authCloseRequest => exact (hno (.inl (by simp [BeforeVerdict, he.1]))).elim
      case verdictCloseRequest => exact (hno (.inl (by simp [BeforeVerdict, he.1]))).elim
      case proxyCloseRequest => exact (hno (.inr (.inl (by simp [ProxyReads, he.1])))).elim
      case transportCloseRequest =>
        exact (hno (.inr (.inr (by simp [TransportReads, he.1])))).elim
      case pushClose => exact (hfull he).elim
      all_goals exact hfull
    · rintro (h | h | h)
      · exact hno (.inl (beforeVerdict_next he h))
      · exact hno (.inr (.inl (proxyReads_next he hmark h)))
      · exact hno (.inr (.inr (transportReads_next he hmark h)))
  case sendMessage k m =>
    refine ⟨?_, fun h => hno (proxyReads_next he hmark h)⟩
    cases e
    case proxyMessage => exact (hno (by simp [Reads, ProxyReads, he.1])).elim
    case pushMessage => exact (Nat.not_le.mpr he hfull).elim
    all_goals exact hfull
  case sendVerdict k v =>
    refine ⟨?_, fun h => hno (reachesVerdict_next he hstart h)⟩
    cases e
    case verdictRecv => exact (hno (by simp [Reads, ReachesVerdict, he.1])).elim
    case pushVerdict => exact (hfull he).elim
    all_goals exact hfull
  all_goals exact hfull.elim

/-! ## Somebody reads -/

/-- The connection gets to `c'` with events that satisfy `P`. -/
def Gets (params : ClientConnectionRouterParams) (P : ConnectionEvent → Prop)
    (c c' : Connection) : Prop :=
  ∃ tr, (automaton params).Run c tr c' ∧ ∀ e ∈ tr, P e

section
variable {P Q : ConnectionEvent → Prop} {c' c'' : Connection}

theorem Gets.refl : c.Gets params P c := Automaton.Reaches.refl

theorem Gets.step (e : ConnectionEvent) (he : c.enabled params e) (hP : P e)
    (h : (c.next e).Gets params P c') : c.Gets params P c' :=
  Automaton.Reaches.step (A := automaton params) he hP h

theorem Gets.mono (h : c.Gets params P c') (hPQ : ∀ e, P e → Q e) : c.Gets params Q c' :=
  Automaton.Reaches.mono h hPQ

theorem Gets.trans (h : c.Gets params P c') (h' : c'.Gets params P c'') : c.Gets params P c'' :=
  Automaton.Reaches.trans h h'

end

/-- The open command of a message that was parsed can be built. -/
theorem openCommand_of_parsed {packet : Slice} {authMsg : Table}
    (h : safeParseConnectClientMessage packet = .ok authMsg) (id : ClientId) (now : Timestamp) :
    ∃ cmd, openCommand id authMsg now = some cmd ∧ cmd.recvTimestamp = now := by
  obtain ⟨connStr, appData, hreads⟩ := safeParse_eq_ok h
  exact ⟨_, openCommand_of_reads hreads id now, rfl⟩

/-- `c'` is at its second `select`, with the channels of `c`. -/
def AtVerdict (c c' : Connection) : Prop :=
  c'.routing = .awaitVerdict ∧ c'.verdict = c.verdict ∧ c'.closeRequest = c.closeRequest

theorem gets_of_openNow {authMsg : Table} {cmd : OpenClientConnectionCommand}
    (hr : c.routing = .openNow authMsg)
    (hcmd : openCommand c.clientId authMsg cmd.recvTimestamp = some cmd) :
    ∃ c', c.Gets params LockFree c' ∧ c.AtVerdict c' := by
  refine ⟨(c.next (.openNow cmd)).next (.openSend cmd), ?_, rfl, rfl, rfl⟩
  refine .step (.openNow cmd) ⟨authMsg, hr, hcmd⟩ ⟨rfl, by simp⟩ ?_
  exact .step (.openSend cmd) rfl ⟨rfl, by simp⟩ .refl

theorem gets_of_authPacket {packet : Slice} {packets : List Slice}
    (hr : c.routing = .awaitAuth) (hp : c.incomingPackets = packet :: packets)
    (hok : (safeParseConnectClientMessage packet).isOk) :
    ∃ c', c.Gets params LockFree c' ∧ c.AtVerdict c' := by
  cases hparse : safeParseConnectClientMessage packet with
  | error err => simp [hparse, Except.isOk, Except.toBool] at hok
  | ok authMsg =>
    obtain ⟨cmd, hcmd, hnow⟩ := openCommand_of_parsed hparse c.clientId 0
    have hnext : (c.next (.authPacket packet)).routing = .openNow authMsg := by
      simp [next, hparse]
    obtain ⟨c', hgets, hat⟩ := gets_of_openNow hnext (by rw [hnow]; exact hcmd)
    exact ⟨c', .step (.authPacket packet) ⟨hr, by rw [hp]; rfl⟩ ⟨rfl, by simp⟩ hgets, hat⟩

theorem parsable_authPacket : (safeParseConnectClientMessage Sample.authPacket).isOk := by
  decide +kernel

theorem gets_awaitVerdict
    (hopen : ∀ authMsg, c.routing = .openNow authMsg →
      ∃ packet, safeParseConnectClientMessage packet = .ok authMsg)
    (h : c.ReachesVerdict) : ∃ c', c.Gets params LockFree c' ∧ c.AtVerdict c' := by
  unfold ReachesVerdict at h
  split at h
  · next authMsg hr =>
    obtain ⟨packet, hparse⟩ := hopen authMsg hr
    obtain ⟨cmd, hcmd, hnow⟩ := openCommand_of_parsed hparse c.clientId 0
    exact gets_of_openNow hr (by rw [hnow]; exact hcmd)
  · next cmd hr =>
    exact ⟨_, .step (.openSend cmd) hr ⟨rfl, by simp⟩ .refl, rfl, rfl, rfl⟩
  · next hr => exact ⟨c, .refl, hr, rfl, rfl⟩
  · next hr =>
    split at h
    · next packet packets hp => exact gets_of_authPacket hr hp h
    · next hp =>
      -- the transport puts an auth packet first
      have hput : (c.next (.put Sample.authPacket)).incomingPackets = [Sample.authPacket] := by
        simp [next, hp]
      have hroom : c.incomingPackets.length < params.incomingMessageQueueLength := by
        rw [hp]
        exact params.incoming_pos
      have hr : (c.next (.put Sample.authPacket)).routing = .awaitAuth := hr
      obtain ⟨c', hgets, hat⟩ := gets_of_authPacket hr hput parsable_authPacket
      exact ⟨c', .step (.put Sample.authPacket) ⟨h, hroom⟩ ⟨rfl, by simp⟩ hgets, hat⟩
  · exact h.elim

theorem gets_proxySelect
    (hle : c.outgoingPackets.length ≤ params.outgoingMessageQueueLength)
    (h : c.ProxyReads params) :
    ∃ c', c.Gets params Quiet c' ∧ c'.proxyListener = .select ∧
      c'.outgoingMessages = c.outgoingMessages ∧ c'.closeRequest = c.closeRequest ∧
      c'.proxyClose = c.proxyClose := by
  unfold ProxyReads at h
  split at h
  · next hp => exact ⟨c, .refl, hp, rfl, rfl, rfl⟩
  · next d hp =>
    by_cases hroom : c.outgoingPackets.length < params.outgoingMessageQueueLength
    · exact ⟨_, .step (.proxyEmit d) ⟨hp, hroom⟩ trivial .refl, rfl, rfl, rfl, rfl⟩
    -- the writer makes room
    have hw := h.resolve_left hroom
    have hpos := params.outgoing_pos
    cases hpackets : c.outgoingPackets with
    | nil => simp [hpackets] at hroom; omega
    | cons packet packets =>
      refine ⟨(c.next (.take packet)).next (.proxyEmit d), ?_, rfl, rfl, rfl, rfl⟩
      refine .step (.take packet) ⟨hw, by rw [hpackets]; rfl⟩ trivial ?_
      refine .step (.proxyEmit d) ⟨hp, ?_⟩ trivial .refl
      rw [hpackets, List.length_cons] at hle
      simp only [next, hpackets, List.tail_cons]
      omega
  · exact h.elim

theorem gets_transportSelect (h : c.TransportReads) :
    ∃ c', c.Gets params LockFree c' ∧ c'.transportListener = .select ∧
      c'.closeRequest = c.closeRequest := by
  unfold TransportReads at h
  split at h
  · next ht => exact ⟨c, .refl, ht, rfl⟩
  · next packet ht =>
    let m := clientMessage c.clientId packet 0
    refine ⟨(c.next (.transportNow m)).next (.transportSend m), ?_, rfl, rfl⟩
    refine .step (.transportNow m) ⟨packet, ht, rfl⟩ ⟨rfl, by simp⟩ ?_
    exact .step (.transportSend m) rfl ⟨rfl, by simp⟩ .refl
  · next m ht => exact ⟨_, .step (.transportSend m) ht ⟨rfl, by simp⟩ .refl, rfl, rfl⟩
  · exact h.elim

/-- If somebody reads the channel, it gets room. -/
theorem gets_room {pc : DispatchPc} (hs : c.Sane params) (hfull : c.Full params pc)
    (h : c.Reads params pc) : ∃ c', c.Gets params LockFree c' ∧ ¬c'.Full params pc := by
  cases pc
  case sendClose k m =>
    obtain ⟨m', hm'⟩ := Option.ne_none_iff_exists'.mp hfull
    rcases h with h | h | h
    · by_cases hr : c.routing = .awaitAuth
      · exact ⟨_, .step (.authCloseRequest m') ⟨hr, hm'⟩ ⟨rfl, by simp⟩ .refl, by simp [Full, next]⟩
      have hv : c.ReachesVerdict := by
        unfold BeforeVerdict at h
        unfold ReachesVerdict
        split at h <;> simp_all
      obtain ⟨c', hgets, hr', -, hclose⟩ := gets_awaitVerdict hs.parsed hv
      refine ⟨c'.next (.verdictCloseRequest m'), hgets.trans ?_, by simp [Full, next]⟩
      exact .step (.verdictCloseRequest m') ⟨hr', hclose.trans hm'⟩ ⟨rfl, by simp⟩ .refl
    · obtain ⟨c', hgets, hp, -, hclose, -⟩ := gets_proxySelect hs.packets_le h
      have hgets := hgets.mono fun _ => Quiet.lockFree
      refine ⟨c'.next (.proxyCloseRequest m'), hgets.trans ?_, by simp [Full, next]⟩
      exact .step (.proxyCloseRequest m') ⟨hp, hclose.trans hm'⟩ ⟨rfl, by simp⟩ .refl
    · obtain ⟨c', hgets, ht, hclose⟩ := gets_transportSelect h
      refine ⟨c'.next (.transportCloseRequest m'), hgets.trans ?_, by simp [Full, next]⟩
      exact .step (.transportCloseRequest m') ⟨ht, hclose.trans hm'⟩ ⟨rfl, by simp⟩ .refl
  case sendMessage k m =>
    obtain ⟨c', hgets, hp, hmsgs, -⟩ := gets_proxySelect hs.packets_le h
    have hgets := hgets.mono fun _ => Quiet.lockFree
    have hpos := params.outgoing_pos
    have hle := hs.messages_le
    simp only [Full] at hfull
    cases hm : c.outgoingMessages with
    | nil => simp [hm] at hfull; omega
    | cons m' ms =>
      refine ⟨c'.next (.proxyMessage m'), hgets.trans ?_, ?_⟩
      · exact .step (.proxyMessage m') ⟨hp, by rw [hmsgs, hm]; rfl⟩ ⟨rfl, by simp⟩ .refl
      · rw [hm, List.length_cons] at hle
        simp only [Full, next, hmsgs, hm, List.tail_cons]
        omega
  case sendVerdict k v =>
    obtain ⟨v', hv'⟩ := Option.ne_none_iff_exists'.mp hfull
    obtain ⟨c', hgets, hr', hv, -⟩ := gets_awaitVerdict hs.parsed h
    refine ⟨c'.next (.verdictRecv v'), hgets.trans ?_, by simp [Full, next]⟩
    exact .step (.verdictRecv v') ⟨hr', hv.trans hv'⟩ ⟨rfl, by simp⟩ .refl
  all_goals exact h.elim

end Connection

/-! ## The dispatch loop -/

/-- The send the dispatch loop is about to make. -/
def DispatchPc.push : DispatchPc → Option RouterEvent
  | .sendClose k m => some (.pushClose k m)
  | .sendMessage k m => some (.pushMessage k m)
  | .sendVerdict k v => some (.pushVerdict k v)
  | _ => none

/-- The connection it is about to send to. -/
def DispatchPc.recipient : DispatchPc → Option Nat
  | .sendClose k _ | .sendMessage k _ | .sendVerdict k _ => some k
  | _ => none

namespace Router
open ConnectionEvent
variable {params : ClientConnectionRouterParams} {tr : List RouterEvent} {r : Router} {k : Nat}
  {c : Connection} {e : RouterEvent}

/-- Somebody will still read the channel that the dispatch loop waits for. -/
def Reads (r : Router) : Prop :=
  ∃ k ∈ r.dispatch.recipient, ∃ c ∈ r.conns k, c.Reads r.params r.dispatch

theorem recipient_of_push (hpush : r.dispatch.push = some e) :
    ∃ k, r.dispatch.recipient = some k ∧ r.dispatch.readsConnections = true := by
  cases hd : r.dispatch <;> rw [hd] at hpush <;> cases hpush <;> exact ⟨_, rfl, rfl⟩

/-- The connection that is sent to exists. -/
theorem conns_of_recipient (h : automaton.Run (start params) tr r)
    (hk : r.dispatch.recipient = some k) : ∃ c, r.conns k = some c := by
  have htarget : ∃ id, r.dispatch.target = some (k, id) := by
    cases hd : r.dispatch <;> rw [hd] at hk <;> cases hk <;> exact ⟨_, rfl⟩
  obtain ⟨id, ht⟩ := htarget
  have hreg := target_registered h ht
  rw [registeredIds_getElem? h] at hreg
  obtain ⟨c, hc, -⟩ := Option.map_eq_some_iff.mp hreg
  exact ⟨c, hc⟩

/-- The send waits exactly as long as the channel is full. -/
theorem enabled_push_iff (hpush : r.dispatch.push = some e) (hk : r.dispatch.recipient = some k)
    (hc : r.conns k = some c) : r.enabled e ↔ ¬c.Full r.params r.dispatch := by
  cases hd : r.dispatch <;> rw [hd] at hpush hk <;> cases hpush <;> cases hk <;>
    simp [enabled, ConnEnabled, hd, hc, Connection.enabled, Connection.Full]

/-- While the dispatch loop waits, nobody can do anything but a step without the lock. -/
theorem blocked_next (hpush : r.dispatch.push = some e) (hblocked : ¬r.enabled e)
    {e' : RouterEvent} (he' : r.enabled e') :
    (r.next e').dispatch = r.dispatch ∧
      ∀ k e'', e'.connPart k = some e'' → e'' = .cancel ∨ e''.LockFree := by
  obtain ⟨_, -, hlock⟩ := recipient_of_push hpush
  have hbusy : ∀ pc, r.dispatch = pc → pc.push = some e := fun pc hd => hd ▸ hpush
  cases e'
  case cancel => exact ⟨rfl, fun _ _ hp => .inl (Option.some.inj hp).symm⟩
  case nextClientId => exact ⟨rfl, by simp [RouterEvent.connPart]⟩
  case conn k' e₁ =>
    obtain ⟨hown, -, hmark⟩ := he'
    refine ⟨rfl, fun k e'' hp => ?_⟩
    simp only [RouterEvent.connPart] at hp
    split at hp
    · cases hp
      refine .inr ⟨hown, fun heq => ?_⟩
      rw [hmark heq] at hlock
      cases hlock
    · cases hp
  case register | registerFails =>
    have hfree := he'.2.1
    rw [hlock] at hfree
    cases hfree
  case remove =>
    have hfree := he'.1
    rw [hlock] at hfree
    cases hfree
  case recvClose | recvMessage | recvVerdict =>
    have hpc := hbusy _ he'
    cases hpc
  case pushClose | pushMessage | pushVerdict =>
    have hpc := hbusy _ he'.1
    cases hpc
    exact (hblocked he').elim
  all_goals
    have hpc := hbusy _ he'.1
    cases hpc

/-- Nobody will ever read the full channel that the dispatch loop waits for. -/
structure Stuck (r : Router) (e : RouterEvent) (k : Nat) (c : Connection) : Prop where
  push : r.dispatch.push = some e
  recipient : r.dispatch.recipient = some k
  conn : r.conns k = some c
  full : c.Full r.params r.dispatch
  not_reads : ¬c.Reads r.params r.dispatch

theorem Stuck.blocked (h : r.Stuck e k c) : ¬r.enabled e :=
  fun he => (enabled_push_iff h.push h.recipient h.conn).mp he h.full

/-- This stays so. -/
theorem Stuck.next (hr : automaton.Run (start params) tr r) (h : r.Stuck e k c) {e' : RouterEvent}
    (he' : r.enabled e') : ∃ c', (r.next e').Stuck e k c' := by
  obtain ⟨hd, hfree⟩ := blocked_next h.push h.blocked he'
  have hparams : (r.next e').params = r.params := by cases e' <;> rfl
  rcases conn_step hr h.conn he' with ⟨-, hconn⟩ | ⟨e'', hp, -, hen, hconn⟩
  · exact ⟨c, hd ▸ h.push, hd ▸ h.recipient, hconn, by rw [hparams, hd]; exact h.full,
      by rw [hparams, hd]; exact h.not_reads⟩
  · have hsane := Connection.sane (connection_run hr h.conn)
    rw [← params_eq hr] at hen
    obtain ⟨hfull, hno⟩ :=
      Connection.stuck_next hen hsane.started (hfree k e'' hp) h.full h.not_reads
    exact ⟨c.next e'', hd ▸ h.push, hd ▸ h.recipient, hconn, by rw [hparams, hd]; exact hfull,
      by rw [hparams, hd]; exact hno⟩

/-- A stuck send never completes. -/
theorem Stuck.never (hr : automaton.Run (start params) tr r) (h : r.Stuck e k c)
    {tr' : List RouterEvent} {r' : Router} (hr' : automaton.Run r tr' r') :
    (∃ c', r'.Stuck e k c') ∧ e ∉ tr' := by
  induction hr' with
  | nil => exact ⟨⟨c, h⟩, by simp⟩
  | @snoc tr' r' e' hr' he' ih =>
    obtain ⟨⟨c', h'⟩, hnot⟩ := ih
    refine ⟨h'.next (hr.trans hr') he', ?_⟩
    intro hmem
    rcases List.mem_append.mp hmem with hmem | hmem
    · exact hnot hmem
    · cases List.mem_singleton.mp hmem
      exact h'.blocked he'

/-- What a connection can do without the lock it can do while the dispatch loop waits. -/
theorem run_of_gets {c' : Connection} (hk : r.conns k = some c) (h : c.Gets r.params LockFree c') :
    ∃ tr' r', automaton.Run r tr' r' ∧ r'.conns k = some c' ∧ r'.dispatch = r.dispatch ∧
      r'.params = r.params := by
  obtain ⟨tr, hr, htr⟩ := h
  induction hr with
  | nil => exact ⟨[], r, .nil, hk, rfl, rfl⟩
  | @snoc tr c' e hr he ih =>
    obtain ⟨tr', r', hr', hc', hd, hparams⟩ := ih fun e he => htr e (List.mem_append_left _ he)
    obtain ⟨hown, hmark⟩ := htr e (by simp)
    have hen : r'.enabled (.conn k e) := by
      refine ⟨hown, ?_, fun heq => (hmark heq).elim⟩
      simp only [ConnEnabled, hc', hparams]
      exact he
    have hrun : automaton.Run r (tr' ++ [.conn k e]) (automaton.next r' (.conn k e)) :=
      .snoc hr' hen
    refine ⟨_, _, hrun, ?_, hd, hparams⟩
    simp [automaton, Router.next, connNext, hc', Connection.automaton]

/-- In every reachable state in which the dispatch loop is blocked, its send can complete exactly
if somebody will still read the channel. -/
theorem dispatch_completes_iff (h : automaton.Run (start params) tr r)
    (hpush : r.dispatch.push = some e) (hblocked : ¬r.enabled e) :
    (∃ tr' r', automaton.Run r tr' r' ∧ e ∈ tr') ↔ r.Reads := by
  obtain ⟨k, hk, -⟩ := recipient_of_push hpush
  obtain ⟨c, hc⟩ := conns_of_recipient h hk
  have hfull : c.Full r.params r.dispatch := by
    by_contra hroom
    exact hblocked ((enabled_push_iff hpush hk hc).mpr hroom)
  constructor
  · rintro ⟨tr', r', hr', hmem⟩
    by_contra hno
    have hstuck : r.Stuck e k c := ⟨hpush, hk, hc, hfull, fun hreads => hno ⟨k, hk, c, hc, hreads⟩⟩
    exact (hstuck.never h hr').2 hmem
  · rintro ⟨k', hk', c', hc', hreads⟩
    rw [hk] at hk'
    cases hk'
    rw [hc] at hc'
    cases hc'
    have hsane := Connection.sane (connection_run h hc)
    rw [← params_eq h] at hsane
    obtain ⟨c'', hgets, hroom⟩ := Connection.gets_room hsane hfull hreads
    obtain ⟨tr', r', hr', hc'', hd, hparams⟩ := run_of_gets hc hgets
    have hen : r'.enabled e := by
      refine (enabled_push_iff (hd ▸ hpush) (hd ▸ hk) hc'').mpr ?_
      rw [hd, hparams]
      exact hroom
    exact ⟨_, _, hr'.snoc hen, by simp⟩

/-- A second close command comes before the first packet of client 1. -/
def closedTwice : List RouterEvent := [
  .nextClientId 1, .register 1, .recvClose (Hub.closeCommand 1 none),
  .routeClose (Hub.closeCommand 1 none) 0, .pushClose 0 (Hub.closeCommand 1 none),
  .recvClose (Hub.closeCommand 1 none), .routeClose (Hub.closeCommand 1 none) 0]

theorem dispatch_completes_sample :
    ∃ tr r, automaton.Run (automaton.exec (start Sample.config.router) closedTwice) tr r ∧
      .pushClose 0 (Hub.closeCommand 1 none) ∈ tr := by
  have hrun : automaton.Run (start Sample.config.router) closedTwice _ :=
    Automaton.Admits.run (by decide +kernel)
  refine (dispatch_completes_iff hrun rfl (by decide +kernel)).mpr ⟨0, rfl, ?_⟩
  obtain ⟨c, hc⟩ := Option.isSome_iff_exists.mp (show
    ((automaton.exec (start Sample.config.router) closedTwice).conns 0).isSome by decide +kernel)
  have hr : ((automaton.exec (start Sample.config.router) closedTwice).conns 0).map
      (·.routing) = some .awaitAuth := by decide +kernel
  rw [hc] at hr
  exact ⟨c, hc, .inl (by simp [Connection.BeforeVerdict, Option.some.inj hr])⟩

/-- The shutdown context is not cancelled, and no transport stops draining before it is closed. -/
def Orderly (tr : List RouterEvent) : Prop :=
  ∀ e ∈ tr, e ≠ .cancel ∧ ∀ k packet, e ≠ .conn k (.writeFails packet)

/-- The verdict for client 1 arrives at its connection. -/
def verdictArrives : List RouterEvent :=
  [.recvVerdict Sample.verdict, .routeVerdict Sample.verdict 0, .pushVerdict 0 Sample.verdict]

/-- Client 1 is accepted, and two more verdicts for it come from the hub. -/
def acceptedThrice : List RouterEvent :=
  [.nextClientId 1, .register 1, .conn 0 (.put Sample.authPacket),
    .conn 0 (.authPacket Sample.authPacket), .conn 0 (.openNow Sample.openCommand),
    .conn 0 (.openSend Sample.openCommand)] ++ verdictArrives ++
  [.conn 0 (.verdictRecv Sample.verdict), .conn 0 (.emitVerdict true [] none),
    .conn 0 .markConnected] ++ verdictArrives ++
  [.recvVerdict Sample.verdict, .routeVerdict Sample.verdict 0]

/-- Three verdicts for one client stop the dispatch loop for good. -/
theorem third_verdict_stops_dispatch :
    ¬∀ (params : ClientConnectionRouterParams) (tr : List RouterEvent) (r : Router),
      automaton.Run (start params) tr r → Orderly tr →
        ∀ e, r.dispatch.push = some e → ¬r.enabled e →
          ∃ tr' r', automaton.Run r tr' r' ∧ e ∈ tr' := by
  intro hall
  have hrun : automaton.Run (start Sample.config.router) acceptedThrice _ :=
    Automaton.Admits.run (by decide +kernel)
  have horderly : Orderly acceptedThrice := by
    simp [Orderly, acceptedThrice, verdictArrives]
  obtain ⟨tr', r', hr', hmem⟩ := hall _ _ _ hrun horderly (.pushVerdict 0 Sample.verdict) rfl
    (by decide +kernel)
  -- the connection has forked its listeners and reads no verdict any more
  obtain ⟨c, hc⟩ := Option.isSome_iff_exists.mp (show
    ((automaton.exec (start Sample.config.router) acceptedThrice).conns 0).isSome by
      decide +kernel)
  have hstate : ((automaton.exec (start Sample.config.router) acceptedThrice).conns 0).map
      (fun c => (c.routing, c.verdict)) = some (.forked, some Sample.verdict) := by decide +kernel
  rw [hc] at hstate
  simp only [Option.map_some, Option.some.injEq, Prod.mk.injEq] at hstate
  have hstuck : Stuck (automaton.exec (start Sample.config.router) acceptedThrice)
      (.pushVerdict 0 Sample.verdict) 0 c := by
    refine ⟨rfl, rfl, hc, ?_, ?_⟩
    · show c.verdict ≠ none
      simp [hstate.2]
    · show ¬c.ReachesVerdict
      simp [Connection.ReachesVerdict, hstate.1]
  exact (hstuck.never hrun hr').2 hmem

end Router
end Spanreed
