import Spanreed.HubNet
import Spanreed.UdpListener

/-! # Hub and UDP handler

The hub and the UDP handler, its only destination handler, before the context is cancelled, among
client handlers that put what they like into the hub's queues and take items from their own. What
the hub and the client handlers do together (`Spanreed.HubNet`) they do here too (`gets_hub`). While
the UDP handler's proxy message listener is at its `select` and its datagram listener is outside
the table of connections (`Serves`), a queue to the UDP handler can be given room. -/

namespace Spanreed
open Flatbuffers Automata

structure BackendConfig where
  hub : HubConfig
  maxConnections : Nat
  clientHandlers : List String
  destinationName : String
  matchConnectionString : Bytes → Option Bool
  udp : UdpSpanreedDestinationParams
  capacity : Capacities

structure BackendParts where
  hub : Hub
  udp : Udp

inductive BackendEvent
  | hub (e : HubEvent)
  | udp (e : UdpEvent)
  | arrive (name : String) (c : Chan) (m : c.Msg)
  | consume (c : Chan) (m : c.Msg)

def Handler.isClient : Handler → Bool
  | .client _ => true
  | .destination _ => false

/-- A client handler takes items from the channel. -/
def Chan.takenByClient (c : Chan) : Prop := c.consumer.any Handler.isClient = true

instance (c : Chan) : Decidable c.takenByClient := inferInstanceAs (Decidable (_ = _))

theorem Chan.takenByClient_of_isClient {c : Chan} (hc : c.isClient = true) : c.takenByClient := by
  cases c <;> first | rfl | cases hc

namespace BackendParts

def start (cfg : BackendConfig) : BackendParts where
  hub := .start cfg.hub cfg.maxConnections cfg.clientHandlers
    [⟨cfg.destinationName, cfg.matchConnectionString⟩]
  udp := .start cfg.udp

def enabled (cfg : BackendConfig) (s : BackendParts) : BackendEvent → Prop
  | .hub e => e.isSetup = false ∧ (∀ name ∈ e.caller, name ∈ cfg.clientHandlers) ∧ s.hub.enabled e
  | .udp e => e.isCancel = false ∧ (∀ t ∈ e.reads, t = s.hub.now) ∧ s.udp.enabled e
  | .arrive name c _ => name ∈ cfg.clientHandlers ∧ c.Accepts (.client name)
  | .consume c _ => c.takenByClient

def next (s : BackendParts) : BackendEvent → BackendParts
  | .hub e => { s with hub := s.hub.next e }
  | .udp e => { s with udp := s.udp.next e }
  | .arrive .. | .consume .. => s

def automaton (cfg : BackendConfig) : Automaton BackendParts BackendEvent where
  enabled := enabled cfg
  next := next

instance (cfg : BackendConfig) : ∀ s e, Decidable ((automaton cfg).enabled s e)
  | _, .hub _ => inferInstanceAs (Decidable (_ ∧ _ ∧ _))
  | _, .udp _ => inferInstanceAs (Decidable (_ ∧ _ ∧ _))
  | _, .arrive .. => inferInstanceAs (Decidable (_ ∧ _))
  | _, .consume c _ => inferInstanceAs (Decidable c.takenByClient)

end BackendParts

def BackendEvent.op (cfg : BackendConfig) : BackendEvent → ChannelOp Chan Chan.Msg
  | .hub e => e.op
  | .udp e => e.op cfg.destinationName
  | .arrive _ c m => .send c m
  | .consume c m => .recv c m

/-- Hub and UDP handler with their queues. -/
abbrev Backend := BackendParts × Queues Chan.Msg

namespace Backend

def start (cfg : BackendConfig) : Backend := (.start cfg, fun _ => [])

def automaton (cfg : BackendConfig) : Automaton Backend BackendEvent :=
  network (BackendParts.automaton cfg) (BackendEvent.op cfg) cfg.capacity.bound

instance (cfg : BackendConfig) (s : Backend) (e : BackendEvent) :
    Decidable ((automaton cfg).enabled s e) :=
  inferInstanceAs (Decidable ((network _ _ _).enabled s e))

/-- There is a continuation from `s` to `s'`. -/
abbrev Gets (cfg : BackendConfig) (s s' : Backend) : Prop :=
  (automaton cfg).Reaches (fun _ => True) s s'

variable {cfg : BackendConfig} {s s' : Backend} {tr : List BackendEvent}

/-! ## Reachable states -/

/-- What holds of every state that came about. -/
structure Sound (cfg : BackendConfig) (s : Backend) : Prop where
  net : HubNet.Sound cfg.capacity (s.1.hub, s.2)
  known : ∀ g, s.1.hub.Known (s.1.hub.pc g)
  handlers : s.1.hub.destinationHandlers = [cfg.destinationName]
  hubRuns : s.1.hub.done = false ∧ ∀ g, g ≠ .main → s.1.hub.pc g ≠ .exited
  udpRuns : s.1.udp.done = false ∧ s.1.udp.closer = .wait
  listener : s.1.udp.listener ≠ .exited
  sender : s.1.udp.sender ≠ .exited
  outgoing : s.1.udp.outgoingMessages.length ≤ Udp.outgoingCapacity

theorem sound_start : (start cfg).Sound cfg where
  net := ⟨Hub.sane_start .., fun _ n _ => Nat.zero_le n⟩
  known g := by cases g <;> trivial
  handlers := rfl
  hubRuns := ⟨rfl, fun g hg => by simp [start, BackendParts.start, Hub.start, hg]⟩
  udpRuns := ⟨rfl, rfl⟩
  listener := by simp [start, BackendParts.start, Udp.start]
  sender := by simp [start, BackendParts.start, Udp.start]
  outgoing := by simp [start, BackendParts.start, Udp.start]

theorem not_exited_next {h : Hub} {e : HubEvent} (hsetup : e.isSetup = false) (he : h.enabled e)
    (hr : h.done = false ∧ ∀ g, g ≠ .main → h.pc g ≠ .exited) :
    (h.next e).done = false ∧ ∀ g, g ≠ .main → (h.next e).pc g ≠ .exited := by
  have hdone : (h.next e).done = h.done := by
    cases e <;> first | rfl | cases hsetup
  refine ⟨hdone.trans hr.1, ?_⟩
  intro g hg
  by_cases hm : e.mover = some g
  · cases e <;> simp only [HubEvent.mover, Option.some.injEq, reduceCtorEq] at hm
    all_goals subst hm
    case exit => simp [Hub.enabled, hr.1] at he
    case kickRemove c r k => cases k <;> simp [Hub.next, KickReturn.resume]
    case kickAllDone => exact (hg rfl).elim
    all_goals simp [Hub.next]
  · rw [Hub.pc_next_of_ne hm]
    exact hr.2 g hg

theorem udp_next {u : Udp} {e : UdpEvent} (hcancel : e.isCancel = false) (he : u.enabled e)
    (hr : u.done = false ∧ u.closer = .wait) (hl : u.listener ≠ .exited)
    (hse : u.sender ≠ .exited) :
    ((u.next e).done = false ∧ (u.next e).closer = .wait) ∧ (u.next e).listener ≠ .exited ∧
      (u.next e).sender ≠ .exited := by
  cases e
  case cancel => cases hcancel
  case exitListener | exitSender => simp [Udp.enabled, hr.1] at he
  case closerLock => simp [Udp.enabled, hr.1] at he
  case closerWrite | closerClose => simp [Udp.enabled, hr.2] at he
  all_goals simp [Udp.next, hr, hl, hse]

theorem outgoing_next {u : Udp} {e : UdpEvent} (he : u.enabled e)
    (ho : u.outgoingMessages.length ≤ Udp.outgoingCapacity) :
    (u.next e).outgoingMessages.length ≤ Udp.outgoingCapacity := by
  cases e
  case connectSend | closeSend | messageSend =>
    have hroom : u.outgoingMessages.length < Udp.outgoingCapacity := he.2
    simpa [Udp.next] using Nat.succ_le_of_lt hroom
  case senderTake => exact (List.length_tail ▸ Nat.sub_le ..).trans ho
  all_goals exact ho

theorem Sound.next {e : BackendEvent} (hs : s.Sound cfg) (he : (automaton cfg).enabled s e) :
    ((automaton cfg).next s e).Sound cfg := by
  have hq := hs.net.queues.apply he.2
  cases e
  case hub e =>
    obtain ⟨⟨hsetup, -, hen⟩, -⟩ := he
    have hsame : (s.1.hub.next e).destinationHandlers = s.1.hub.destinationHandlers := by
      cases e <;> first | rfl | cases hsetup
    exact { hs with
      net := ⟨hs.net.hub.next hen, hq⟩
      known := Hub.known_next hs.known hen
      handlers := hsame.trans hs.handlers
      hubRuns := not_exited_next hsetup hen hs.hubRuns }
  case udp e =>
    obtain ⟨⟨hcancel, -, hen⟩, -⟩ := he
    obtain ⟨hr, hl, hse⟩ := udp_next hcancel hen hs.udpRuns hs.listener hs.sender
    exact { hs with
      net := ⟨hs.net.hub, hq⟩
      udpRuns := hr
      listener := hl
      sender := hse
      outgoing := outgoing_next hen hs.outgoing }
  case arrive => exact { hs with net := ⟨hs.net.hub, hq⟩ }
  case consume => exact { hs with net := ⟨hs.net.hub, hq⟩ }

theorem Sound.gets (hs : s.Sound cfg) (h : Gets cfg s s') : s'.Sound cfg := by
  obtain ⟨tr, hr, -⟩ := h
  exact hr.invariant (I := Sound cfg) hs fun _ _ => Sound.next

theorem sound (hr : (automaton cfg).Run (start cfg) tr s) : s.Sound cfg :=
  hr.invariant (I := Sound cfg) sound_start fun _ _ => Sound.next

/-! ## Hub and client handlers -/

/-- What the hub and its handlers do, in the presence of the UDP handler. -/
def ofHubNet : HubNetEvent → BackendEvent
  | .hub e => .hub e
  | .arrive _ c m | .consume c m => .consume c m

theorem gets_hub {h h' : Hub} {q q' : Queues Chan.Msg} {u : Udp}
    (hg : HubNet.Gets cfg.capacity Chan.takenByClient (h, q) (h', q')) :
    Gets cfg (⟨h, u⟩, q) (⟨h', u⟩, q') := by
  refine hg.map (A := automaton cfg) (f := fun s => (BackendParts.mk s.1 u, s.2)) (g := ofHubNet) ?_
  rintro ⟨h, q⟩ e huse ⟨hen, hallow⟩
  cases e
  case hub e =>
    obtain ⟨hm, -⟩ := huse
    have hsetup : e.isSetup = false ∧ e.caller = none := by
      cases e <;> first | exact ⟨rfl, rfl⟩ | exact (hm rfl).elim
    exact ⟨⟨⟨hsetup.1, by simp [hsetup.2], hen⟩, hallow⟩, trivial, rfl⟩
  case arrive => exact huse.elim
  case consume c m => exact ⟨⟨huse, hallow⟩, trivial, rfl⟩

/-! ## The UDP handler -/

variable {h : Hub} {u : Udp} {q : Queues Chan.Msg} {e : UdpEvent}

theorem udp_step (he : u.enabled e) (hcancel : e.isCancel = false)
    (hreads : ∀ t ∈ e.reads, t = h.now) (hallow : q.Allows cfg.capacity.bound
      (e.op cfg.destinationName)) :
    Gets cfg (⟨h, u⟩, q) (⟨h, u.next e⟩, q.apply (e.op cfg.destinationName)) := by
  have hen : (automaton cfg).enabled (⟨h, u⟩, q) (.udp e) := ⟨⟨hcancel, hreads, he⟩, hallow⟩
  exact .single hen trivial

/-- What the UDP handler does by itself it does here too. -/
theorem gets_udp {u' : Udp} (hreach : Udp.automaton.Reaches (UdpEvent.Alone cfg.destinationName
      h.now) u u') : Gets cfg (⟨h, u⟩, q) (⟨h, u'⟩, q) := by
  refine hreach.map (A := automaton cfg) (f := fun u => (BackendParts.mk h u, q))
    (g := BackendEvent.udp) ?_
  intro u e halone he
  obtain ⟨hop, hcancel, hreads⟩ := halone
  refine ⟨⟨⟨hcancel, hreads, he⟩, ?_⟩, trivial, ?_⟩
  · rw [BackendEvent.op, hop]
    trivial
  · simp [automaton, network, BackendParts.automaton, BackendParts.next, BackendEvent.op, hop,
      Queues.apply, Udp.automaton]

theorem Sound.able (hs : Sound cfg (⟨h, u⟩, q)) (hG : u.datagrams.readsConnections = false) :
    u.Able where
  listener := hs.listener
  sender := hs.sender
  closer := by
    have hclose : u.closer = .wait := hs.udpRuns.2
    simp [hclose]
  datagrams := hG
  outgoing := hs.outgoing

/-- The listener gets back to its `select` by itself. -/
theorem listener_returns (hs : Sound cfg (⟨h, u⟩, q)) (hquiet : u.Quiet)
    (hG : u.datagrams.readsConnections = false) :
    ∃ u', Gets cfg (⟨h, u⟩, q) (⟨h, u'⟩, q) ∧ u'.Serves := by
  obtain ⟨u', hreach, ha, hsel⟩ := Udp.listener_returns (hs.able hG) hquiet
  exact ⟨u', gets_udp hreach, hsel, ha.datagrams⟩

/-- Whoever can take items from a channel makes room in it. -/
theorem takes (ch : Chan) (hs : s.Sound cfg) (take : ch.Msg → BackendEvent)
    (htake : ∀ m, s.1.enabled cfg (take m) ∧ (take m).op cfg = .recv ch m) :
    HasRoom (cfg.capacity.bound ch) (s.2 ch).length ∨
    ∃ m q, Gets cfg s (s.1.next (take m), q) ∧ HasRoom (cfg.capacity.bound ch) (q ch).length := by
  by_cases hroom : HasRoom (cfg.capacity.bound ch) (s.2 ch).length
  · exact .inl hroom
  obtain ⟨m, rest, hq, hroom'⟩ := hs.net.queues.room_of_full (cfg.capacity.pos ch) hroom
  have hq' : s.2 ch = m :: rest := hq
  obtain ⟨he, hop⟩ := htake m
  have hen : (automaton cfg).enabled s (take m) := ⟨he, by rw [hop]; simp [Queues.Allows, hq']⟩
  refine .inr ⟨m, _, .single hen trivial, ?_⟩
  simpa [hop, Queues.apply, hq'] using hroom'

/-- A listener at its `select` makes room for an item and gets back there, if it is quiet then. -/
theorem serves (ch : Chan) (hs : Sound cfg (⟨h, u⟩, q)) (hu : u.Serves) (take : ch.Msg → UdpEvent)
    (htake : ∀ m, BackendParts.enabled cfg ⟨h, u⟩ (.udp (take m)) ∧
      (take m).op cfg.destinationName = .recv ch m)
    (hquiet : ∀ m, (u.next (take m)).Quiet ∧ (u.next (take m)).datagrams = u.datagrams) :
    ∃ u' q', Gets cfg (⟨h, u⟩, q) (⟨h, u'⟩, q') ∧ u'.Serves ∧
      HasRoom (cfg.capacity.bound ch) (q' ch).length := by
  rcases takes ch hs (fun m => .udp (take m)) htake with hroom | ⟨m, q', hreach, hroom⟩
  · exact ⟨u, q, .refl, hu, hroom⟩
  · obtain ⟨hq, hG⟩ := hquiet m
    obtain ⟨u', hreach', hserves⟩ := listener_returns (hs.gets hreach) hq (hG ▸ hu.2)
    exact ⟨u', q', hreach.trans hreach', hserves, hroom⟩

theorem serves_close (hs : Sound cfg (⟨h, u⟩, q)) (hu : u.Serves) :
    ∃ u' q', Gets cfg (⟨h, u⟩, q) (⟨h, u'⟩, q') ∧ u'.Serves ∧
      HasRoom (cfg.capacity.bound (.destinationClose cfg.destinationName))
        (q' (.destinationClose cfg.destinationName)).length :=
  serves (.destinationClose cfg.destinationName) hs hu .recvClose
    (fun m => ⟨⟨rfl, by simp [UdpEvent.reads], hu.1⟩, rfl⟩) fun m => ⟨trivial, rfl⟩

theorem serves_message (hs : Sound cfg (⟨h, u⟩, q)) (hu : u.Serves) :
    ∃ u' q', Gets cfg (⟨h, u⟩, q) (⟨h, u'⟩, q') ∧ u'.Serves ∧
      HasRoom (cfg.capacity.bound (.destinationMessage cfg.destinationName))
        (q' (.destinationMessage cfg.destinationName)).length :=
  serves (.destinationMessage cfg.destinationName) hs hu .recvMessage
    (fun m => ⟨⟨rfl, by simp [UdpEvent.reads], hu.1⟩, rfl⟩) fun m => ⟨trivial, rfl⟩

/-- A listener at its `select` makes room for an open command. It may have to refuse it then. -/
theorem serves_open (hs : Sound cfg (⟨h, u⟩, q)) (hu : u.Serves) :
    ∃ u' q', Gets cfg (⟨h, u⟩, q) (⟨h, u'⟩, q') ∧
      HasRoom (cfg.capacity.bound (.destinationOpen cfg.destinationName))
        (q' (.destinationOpen cfg.destinationName)).length := by
  rcases takes (.destinationOpen cfg.destinationName) hs (fun m => .udp (.recvOpen m))
    (fun m => ⟨⟨rfl, by simp [UdpEvent.reads], hu.1⟩, rfl⟩) with hroom | ⟨m, q', htake, hroom⟩
  · exact ⟨u, q, .refl, hroom⟩
  · exact ⟨_, q', htake, hroom⟩

end Backend
end Spanreed
