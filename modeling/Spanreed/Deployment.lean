import Spanreed.Shutdown
import Spanreed.UdpListener

/-! # Shutdown of the hub with its routers and the UDP handler

The hub, one router for each client handler and the UDP handler, which all stop when their common
context is cancelled. The routers and the UDP handler then take nothing from their queues any more,
but the hub still sends close commands, and waits for room (`second_close_waits`). `Start` returns
if each queue has room for what the hub still sends or is served by a handler that can take what
comes (`shutdown_finishes`). -/

namespace Spanreed
open Flatbuffers Automata

structure DeploymentConfig where
  hub : HubConfig
  maxConnections : Nat
  clientHandlers : List String
  router : String → ClientConnectionRouterParams
  destinationName : String
  matchConnectionString : Bytes → Option Bool
  udp : UdpSpanreedDestinationParams
  capacity : Capacities

structure DeploymentParts where
  hub : Hub
  router : String → Router
  udp : Udp

inductive DeploymentEvent
  | cancel
  | hub (e : HubEvent)
  | router (name : String) (e : RouterEvent)
  | udp (e : UdpEvent)

namespace DeploymentParts

def start (cfg : DeploymentConfig) : DeploymentParts where
  hub := .start cfg.hub cfg.maxConnections cfg.clientHandlers
    [⟨cfg.destinationName, cfg.matchConnectionString⟩]
  router name := .start (cfg.router name)
  udp := .start cfg.udp

def enabled (cfg : DeploymentConfig) (s : DeploymentParts) : DeploymentEvent → Prop
  | .cancel => True
  | .hub e => e.isSetup = false ∧ (∀ name ∈ e.caller, name ∈ cfg.clientHandlers) ∧ s.hub.enabled e
  | .router name e => name ∈ cfg.clientHandlers ∧ e.isCancel = false ∧
      (∀ t ∈ e.reads, t = s.hub.now) ∧ (s.router name).enabled e
  | .udp e => e.isCancel = false ∧ (∀ t ∈ e.reads, t = s.hub.now) ∧ s.udp.enabled e

def next (s : DeploymentParts) : DeploymentEvent → DeploymentParts
  | .cancel => ⟨s.hub.next .cancel, fun name => (s.router name).next .cancel, s.udp.next .cancel⟩
  | .hub e => { s with hub := s.hub.next e }
  | .router name e => { s with
      router := Function.update s.router name ((s.router name).next e) }
  | .udp e => { s with udp := s.udp.next e }

def automaton (cfg : DeploymentConfig) : Automaton DeploymentParts DeploymentEvent where
  enabled := enabled cfg
  next := next

instance (cfg : DeploymentConfig) : ∀ s e, Decidable ((automaton cfg).enabled s e)
  | _, .cancel => inferInstanceAs (Decidable True)
  | _, .hub _ => inferInstanceAs (Decidable (_ ∧ _ ∧ _))
  | _, .router .. => inferInstanceAs (Decidable (_ ∧ _ ∧ _ ∧ _))
  | _, .udp _ => inferInstanceAs (Decidable (_ ∧ _ ∧ _))

end DeploymentParts

def DeploymentEvent.op (cfg : DeploymentConfig) : DeploymentEvent → ChannelOp Chan Chan.Msg
  | .cancel => .internal
  | .hub e => e.op
  | .router name e => e.op name
  | .udp e => e.op cfg.destinationName

/-- Hub, routers and UDP handler with their queues. -/
abbrev Deployment := DeploymentParts × Queues Chan.Msg

/-- What an operation takes from a channel. -/
def taken : ChannelOp Chan Chan.Msg → Option Item
  | .recv ch m => some (ch, ch.client m)
  | _ => none

/-- The router does something that concerns nobody else, at time `now`. -/
def RouterEvent.Alone (name : String) (now : Timestamp) (e : RouterEvent) : Prop :=
  e.op name = .internal ∧ e.isCancel = false ∧ ∀ t ∈ e.reads, t = now

/-- There is a handler that takes from the channel. -/
def DeploymentConfig.Consumes (cfg : DeploymentConfig) (ch : Chan) : Prop :=
  match ch.consumer with
  | some (.client name) => name ∈ cfg.clientHandlers
  | some (.destination name) => name = cfg.destinationName
  | none => False

namespace Deployment

def start (cfg : DeploymentConfig) : Deployment := (.start cfg, fun _ => [])

def automaton (cfg : DeploymentConfig) : Automaton Deployment DeploymentEvent :=
  network (DeploymentParts.automaton cfg) (DeploymentEvent.op cfg) cfg.capacity.bound

instance (cfg : DeploymentConfig) (s : Deployment) (e : DeploymentEvent) :
    Decidable ((automaton cfg).enabled s e) :=
  inferInstanceAs (Decidable ((network _ _ _).enabled s e))

/-- There is a continuation from `s` to `s'`. -/
abbrev Gets (cfg : DeploymentConfig) (s s' : Deployment) : Prop :=
  (automaton cfg).Reaches (fun _ => True) s s'

/-- `Start` has returned at some time of the history, or does so in a continuation of it. -/
def Finishes (cfg : DeploymentConfig) (tr : List DeploymentEvent) : Prop :=
  ∃ tr' s, (automaton cfg).Run (start cfg) tr' s ∧ (tr' <+: tr ∨ tr <+: tr') ∧ s.1.hub.Returned

/-- What the handlers that serve the channels `served` are asked to take: what is in the queues
and what the hub still sends. -/
def demand (served : Chan → Bool) (s : Deployment) (i : Item) : Nat :=
  if served i.1 then (s.2 i.1).countP (fun m => i.1.client m = i.2) + s.1.hub.need (· = i) else 0

/-- The channels `served` are those of handlers that can take what comes, and the others have room
for what the hub still sends. -/
structure Copes (cfg : DeploymentConfig) (served : Chan → Bool) (s : Deployment) : Prop where
  consumed : ∀ ch, served ch = true → cfg.Consumes ch
  routers : ∀ name ∈ cfg.clientHandlers, Router.automaton.Meets
    (RouterEvent.Alone name s.1.hub.now) (fun e => taken (e.op name)) (s.demand served)
    (s.1.router name)
  udp : Udp.automaton.Meets (UdpEvent.Alone cfg.destinationName s.1.hub.now)
    (fun e => taken (e.op cfg.destinationName)) (s.demand served) s.1.udp
  room : ∀ ch n, served ch = false → cfg.capacity.bound ch = some n →
    (s.2 ch).length + s.1.hub.need (·.1 = ch) ≤ n

variable {cfg : DeploymentConfig} {served : Chan → Bool} {s s' : Deployment}
  {tr : List DeploymentEvent}

/-! ## Reachable states -/

/-- What holds of every state that came about. -/
structure Sound (cfg : DeploymentConfig) (s : Deployment) : Prop where
  net : HubNet.Sound cfg.capacity (s.1.hub, s.2)
  main : s.1.hub.Waits

theorem sound_start : (start cfg).Sound cfg where
  net := ⟨Hub.sane_start .., fun _ n _ => Nat.zero_le n⟩
  main hne := (hne rfl).elim

theorem Sound.next {e : DeploymentEvent} (hs : s.Sound cfg) (he : (automaton cfg).enabled s e) :
    ((automaton cfg).next s e).Sound cfg := by
  have hq := hs.net.queues.apply he.2
  cases e
  case cancel =>
    have hen : s.1.hub.enabled .cancel := trivial
    exact ⟨⟨hs.net.hub.next hen, hq⟩, Hub.waits_next hs.main hen⟩
  case hub e => exact ⟨⟨hs.net.hub.next he.1.2.2, hq⟩, Hub.waits_next hs.main he.1.2.2⟩
  case router => exact ⟨⟨hs.net.hub, hq⟩, hs.main⟩
  case udp => exact ⟨⟨hs.net.hub, hq⟩, hs.main⟩

theorem Sound.gets (hs : s.Sound cfg) (h : Gets cfg s s') : s'.Sound cfg := by
  obtain ⟨tr, hr, -⟩ := h
  exact hr.invariant (I := Sound cfg) hs fun _ _ => Sound.next

theorem sound (hr : (automaton cfg).Run (start cfg) tr s) : s.Sound cfg :=
  hr.invariant (I := Sound cfg) sound_start fun _ _ => Sound.next

/-! ## The handlers take what comes -/

theorem router_recv {ch : Chan} {name : String} (hc : ch.consumer = some (.client name))
    (m : ch.Msg) :
    ∃ e : RouterEvent, e.op name = .recv ch m ∧ e.isCancel = false ∧ e.reads = none := by
  cases ch <;> simp only [Chan.consumer, Option.some.injEq, Handler.client.injEq, reduceCtorEq]
    at hc
  all_goals subst hc
  case clientVerdict => exact ⟨.recvVerdict m, rfl, rfl, rfl⟩
  case clientMessage => exact ⟨.recvMessage m, rfl, rfl, rfl⟩
  case clientClose => exact ⟨.recvClose m, rfl, rfl, rfl⟩
  case nextClientId => exact ⟨.nextClientId m, rfl, rfl, rfl⟩

theorem udp_recv {ch : Chan} {name : String} (hc : ch.consumer = some (.destination name))
    (m : ch.Msg) :
    ∃ e : UdpEvent, e.op name = .recv ch m ∧ e.isCancel = false ∧ e.reads = none := by
  cases ch <;> simp only [Chan.consumer, Option.some.injEq, Handler.destination.injEq,
    reduceCtorEq] at hc
  all_goals subst hc
  case destinationOpen => exact ⟨.recvOpen m, rfl, rfl, rfl⟩
  case destinationMessage => exact ⟨.recvMessage m, rfl, rfl, rfl⟩
  case destinationClose => exact ⟨.recvClose m, rfl, rfl, rfl⟩

/-- An operation of a router. -/
theorem router_step {name : String} {r : Router} {e : RouterEvent}
    (hname : name ∈ cfg.clientHandlers) (he : r.enabled e) (hcancel : e.isCancel = false)
    (hreads : ∀ t ∈ e.reads, t = s.1.hub.now) (hallow : s.2.Allows cfg.capacity.bound (e.op name)) :
    Gets cfg (⟨s.1.hub, Function.update s.1.router name r, s.1.udp⟩, s.2)
      (⟨s.1.hub, Function.update s.1.router name (r.next e), s.1.udp⟩,
        s.2.apply (e.op name)) := by
  have hen : (automaton cfg).enabled
      (⟨s.1.hub, Function.update s.1.router name r, s.1.udp⟩, s.2) (.router name e) :=
    ⟨⟨hname, hcancel, hreads, by simpa using he⟩, hallow⟩
  have hnext : (automaton cfg).next
      (⟨s.1.hub, Function.update s.1.router name r, s.1.udp⟩, s.2) (.router name e) =
        (⟨s.1.hub, Function.update s.1.router name (r.next e), s.1.udp⟩,
          s.2.apply (e.op name)) := by
    simp [automaton, network, DeploymentParts.automaton, DeploymentParts.next, DeploymentEvent.op]
  exact hnext ▸ .single hen trivial

/-- A router gets somewhere by itself. -/
theorem gets_router {name : String} {r : Router} (hname : name ∈ cfg.clientHandlers)
    (h : Router.automaton.Reaches (RouterEvent.Alone name s.1.hub.now) (s.1.router name) r) :
    Gets cfg s (⟨s.1.hub, Function.update s.1.router name r, s.1.udp⟩, s.2) := by
  have hmap : Gets cfg
      (⟨s.1.hub, Function.update s.1.router name (s.1.router name), s.1.udp⟩, s.2)
      (⟨s.1.hub, Function.update s.1.router name r, s.1.udp⟩, s.2) := by
    refine h.map (A := automaton cfg) (g := DeploymentEvent.router name)
      (f := fun r => (⟨s.1.hub, Function.update s.1.router name r, s.1.udp⟩, s.2)) ?_
    rintro r e ⟨hop, hcancel, hreads⟩ he
    have hen : (Function.update s.1.router name r name).enabled e := by
      rw [Function.update_self]
      exact he
    refine ⟨⟨⟨hname, hcancel, hreads, hen⟩, ?_⟩, trivial, ?_⟩
    · rw [DeploymentEvent.op, hop]
      trivial
    · simp [automaton, network, DeploymentParts.automaton, DeploymentParts.next,
        DeploymentEvent.op, hop, Queues.apply, Router.automaton]
  rwa [Function.update_eq_self] at hmap

/-- An operation of the UDP handler. -/
theorem udp_step {u : Udp} {e : UdpEvent} (he : u.enabled e) (hcancel : e.isCancel = false)
    (hreads : ∀ t ∈ e.reads, t = s.1.hub.now)
    (hallow : s.2.Allows cfg.capacity.bound (e.op cfg.destinationName)) :
    Gets cfg (⟨s.1.hub, s.1.router, u⟩, s.2)
      (⟨s.1.hub, s.1.router, u.next e⟩, s.2.apply (e.op cfg.destinationName)) := by
  have hen : (automaton cfg).enabled (⟨s.1.hub, s.1.router, u⟩, s.2) (.udp e) :=
    ⟨⟨hcancel, hreads, he⟩, hallow⟩
  exact .single hen trivial

/-- The UDP handler gets somewhere by itself. -/
theorem gets_udp {u : Udp}
    (h : Udp.automaton.Reaches (UdpEvent.Alone cfg.destinationName s.1.hub.now) s.1.udp u) :
    Gets cfg s (⟨s.1.hub, s.1.router, u⟩, s.2) := by
  refine h.map (A := automaton cfg) (g := DeploymentEvent.udp)
    (f := fun u => (⟨s.1.hub, s.1.router, u⟩, s.2)) ?_
  rintro u e ⟨hop, hcancel, hreads⟩ he
  refine ⟨⟨⟨hcancel, hreads, he⟩, ?_⟩, trivial, ?_⟩
  · rw [DeploymentEvent.op, hop]
    trivial
  · simp [automaton, network, DeploymentParts.automaton, DeploymentParts.next,
      DeploymentEvent.op, hop, Queues.apply, Udp.automaton]

section
variable {ch : Chan} {m : ch.Msg} {rest : List ch.Msg}

/-- What is taken is not asked for any more. -/
theorem demand_recv (hq : s.2 ch = m :: rest) (hhub : s'.1.hub = s.1.hub)
    (hq' : s'.2 = s.2.apply (.recv ch m)) : s'.demand served ≤
      Function.update (s.demand served) (ch, ch.client m)
        (s.demand served (ch, ch.client m) - 1) := by
  intro i
  have htail : s'.2 ch = rest := by simp [hq', Queues.apply, hq]
  have hsame : ∀ ch', ch' ≠ ch → s'.2 ch' = s.2 ch' := by
    intro ch' hne
    simp [hq', Queues.apply, Function.update_of_ne hne]
  by_cases hi : i = (ch, ch.client m)
  · subst hi
    simp only [Function.update_self, demand, hhub, htail, hq, List.countP_cons, decide_true,
      if_true]
    split <;> omega
  · rw [Function.update_of_ne hi]
    obtain ⟨ch', c⟩ := i
    by_cases hch : ch' = ch
    · subst hch
      simp only [demand, hhub, htail, hq, List.countP_cons]
      split <;> omega
    · simp only [demand, hhub, hsame ch' hch, le_refl]

theorem demand_recv_le (hq : s.2 ch = m :: rest) (hhub : s'.1.hub = s.1.hub)
    (hq' : s'.2 = s.2.apply (.recv ch m)) : s'.demand served ≤ s.demand served :=
  (demand_recv hq hhub hq').trans (update_le_self_iff.mpr (Nat.sub_le ..))

theorem demand_pos (hserved : served ch = true) (hq : s.2 ch = m :: rest) :
    0 < s.demand served (ch, ch.client m) := by
  simp only [demand, hserved, if_true, hq, List.countP_cons, decide_true]
  omega

theorem Copes.room_recv (hs : Copes cfg served s) (hserved : served ch = true) (m : ch.Msg) :
    ∀ ch' n, served ch' = false → cfg.capacity.bound ch' = some n →
      (s.2.apply (.recv ch m) ch').length + s.1.hub.need (·.1 = ch') ≤ n := by
  intro ch' n hno hn
  have hne : ch' ≠ ch := by
    rintro rfl
    simp [hserved] at hno
  simpa [Queues.apply, Function.update_of_ne hne] using hs.room ch' n hno hn

/-- A channel that is served loses its oldest item. -/
theorem Copes.take (hs : Copes cfg served s) (hserved : served ch = true)
    (hq : s.2 ch = m :: rest) :
    ∃ s', Gets cfg s s' ∧ s'.1.hub = s.1.hub ∧ s'.2 = s.2.apply (.recv ch m) ∧
      Copes cfg served s' := by
  have hpos := demand_pos hserved hq
  have hcons := hs.consumed ch hserved
  unfold DeploymentConfig.Consumes at hcons
  cases hconsumer : ch.consumer with
  | none => simp [hconsumer] at hcons
  | some handler =>
    cases handler with
    | client name =>
      have hname : name ∈ cfg.clientHandlers := by simpa [hconsumer] using hcons
      obtain ⟨e, hop, hcancel, hreads⟩ := router_recv hconsumer m
      obtain ⟨r, hreach, htake⟩ := (hs.routers name hname).take
      obtain ⟨hen, hmeets⟩ := htake e _ (by simp [hop, taken]) hpos
      have hstep := router_step (s := s) hname hen hcancel (by simp [hreads])
        (by rw [hop]; simp [Queues.Allows, hq])
      rw [hop] at hstep
      refine ⟨_, (gets_router hname hreach).trans hstep, rfl, rfl, hs.consumed, ?_,
        hs.udp.mono (demand_recv_le hq rfl rfl), hs.room_recv hserved m⟩
      intro name' hname'
      change Router.automaton.Meets _ _ _ (Function.update s.1.router name (r.next e) name')
      by_cases hne : name' = name
      · subst hne
        rw [Function.update_self]
        exact hmeets.mono (demand_recv hq rfl rfl)
      · rw [Function.update_of_ne hne]
        exact (hs.routers name' hname').mono (demand_recv_le hq rfl rfl)
    | destination name =>
      obtain rfl : name = cfg.destinationName := by simpa [hconsumer] using hcons
      obtain ⟨e, hop, hcancel, hreads⟩ := udp_recv hconsumer m
      obtain ⟨u, hreach, htake⟩ := hs.udp.take
      obtain ⟨hen, hmeets⟩ := htake e _ (by simp [hop, taken]) hpos
      have hstep : Gets cfg (⟨s.1.hub, s.1.router, u⟩, s.2)
          (⟨s.1.hub, s.1.router, u.next e⟩, s.2.apply (e.op cfg.destinationName)) :=
        udp_step hen hcancel (by simp [hreads]) (by rw [hop]; simp [Queues.Allows, hq])
      rw [hop] at hstep
      exact ⟨_, (gets_udp hreach).trans hstep, rfl, rfl, hs.consumed,
        fun name hname => (hs.routers name hname).mono (demand_recv_le hq rfl rfl),
        hmeets.mono (demand_recv hq rfl rfl), hs.room_recv hserved m⟩

end

/-! ## Handlers that are still running -/

/-- A listener at its `select` can take all the messages and close commands that come. -/
theorem meets_messages {name : String} {now : Timestamp} {d : Item → Nat} {u : Udp} (ha : u.Able)
    (hquiet : u.Quiet) (hopen : ∀ c, d (.destinationOpen name, c) = 0) :
    Udp.automaton.Meets (UdpEvent.Alone name now) (fun e => taken (e.op name)) d u := by
  refine ⟨fun d u => u.Able ∧ u.Quiet ∧ ∀ c, d (.destinationOpen name, c) = 0,
    ⟨ha, hquiet, hopen⟩, ?_⟩
  rintro d u ⟨ha, hquiet, hopen⟩
  obtain ⟨u', hreach, ha', hsel⟩ := Udp.listener_returns ha hquiet
  refine ⟨u', hreach, ?_⟩
  intro e i hi hpos
  have hle : Function.update d i (d i - 1) ≤ d := update_le_self_iff.mpr (Nat.sub_le ..)
  have hopen' : ∀ c, Function.update d i (d i - 1) (.destinationOpen name, c) = 0 :=
    fun c => Nat.le_zero.mp ((hle _).trans (hopen c).le)
  cases e <;> simp only [UdpEvent.op, taken, Option.some.injEq, reduceCtorEq] at hi
  case recvOpen m =>
    subst hi
    simp [hopen] at hpos
  case recvClose m =>
    exact ⟨hsel, ⟨by simp [Udp.automaton, Udp.next], ha'.sender, ha'.closer, ha'.datagrams,
      ha'.outgoing⟩, trivial, hopen'⟩
  case recvMessage m =>
    exact ⟨hsel, ⟨by simp [Udp.automaton, Udp.next], ha'.sender, ha'.closer, ha'.datagrams,
      ha'.outgoing⟩, trivial, hopen'⟩

/-- The router can pass on a close command for the client. -/
def PassesClose (r : Router) (c : ClientId) : Prop :=
  ∀ k, r.connections.lookup c = some k → ∃ conn, r.conns k = some conn ∧ conn.closeRequest = none

/-- The dispatch loop of the router `name` has to take close commands only, one for each client at
most, and can pass them on. -/
structure PassesCloses (name : String) (d : Item → Nat) (r : Router) : Prop where
  closes : ∀ i, 0 < d i → i.1.consumer = some (.client name) → i.1 = .clientClose name
  one : ∀ c, d (.clientClose name, c) ≤ 1
  passes : ∀ c, 0 < d (.clientClose name, c) → PassesClose r c
  routes : ∀ c c' k, r.connections.lookup c = some k → r.connections.lookup c' = some k → c = c'

/-- What a dispatch loop has taken it passes on. -/
theorem gets_select {name : String} {now : Timestamp} {d : Item → Nat} {r : Router}
    {m : ClientCloseCommand} (hr : PassesCloses name d r) (hpc : r.dispatch = .gotClose m)
    (hm : PassesClose r m.clientId) (hd : d (.clientClose name, m.clientId) = 0) :
    ∃ r', Router.automaton.Reaches (RouterEvent.Alone name now) r r' ∧ PassesCloses name d r' ∧
      r'.dispatch = .select := by
  cases hlook : r.connections.lookup m.clientId with
  | none =>
    have he : Router.automaton.enabled r (.noRouteClose m) := ⟨hpc, hlook⟩
    exact ⟨_, .single he ⟨rfl, rfl, by simp [RouterEvent.reads]⟩,
      ⟨hr.closes, hr.one, hr.passes, hr.routes⟩, rfl⟩
  | some k =>
    obtain ⟨conn, hconn, hfree⟩ := hm k hlook
    have hroute : Router.automaton.enabled r (.routeClose m k) := ⟨hpc, hlook⟩
    have hpush : Router.automaton.enabled (r.next (.routeClose m k)) (.pushClose k m) :=
      ⟨rfl, by simpa [Router.ConnEnabled, Router.next, hconn, Connection.enabled] using hfree⟩
    refine ⟨_, (Automaton.Reaches.single hroute ⟨rfl, rfl, by simp [RouterEvent.reads]⟩).trans
      (.single hpush ⟨rfl, rfl, by simp [RouterEvent.reads]⟩),
      ⟨hr.closes, hr.one, ?_, hr.routes⟩, rfl⟩
    intro c hc k' hlook'
    -- another client has another connection
    have hne : k' ≠ k := by
      rintro rfl
      rw [hr.routes c m.clientId k' hlook' hlook] at hc
      omega
    obtain ⟨conn', hconn', hfree'⟩ := hr.passes c hc k' hlook'
    refine ⟨conn', ?_, hfree'⟩
    simpa [Router.automaton, Router.next, Router.connNext, Function.update_of_ne hne] using hconn'

theorem meets_closes {name : String} {now : Timestamp} {d : Item → Nat} {r : Router}
    (hr : PassesCloses name d r) (hsel : r.dispatch = .select) :
    Router.automaton.Meets (RouterEvent.Alone name now) (fun e => taken (e.op name)) d r := by
  refine ⟨fun d r => PassesCloses name d r ∧ (r.dispatch = .select ∨ ∃ m, r.dispatch = .gotClose m ∧
    PassesClose r m.clientId ∧ d (.clientClose name, m.clientId) = 0), ⟨hr, .inl hsel⟩, ?_⟩
  rintro d r ⟨hr, hpc⟩
  obtain ⟨r', hreach, hr', hsel'⟩ :
      ∃ r', Router.automaton.Reaches (RouterEvent.Alone name now) r r' ∧
        PassesCloses name d r' ∧ r'.dispatch = .select := by
    rcases hpc with hsel | ⟨m, hpc, hm, hd⟩
    · exact ⟨r, .refl, hr, hsel⟩
    · exact gets_select hr hpc hm hd
  refine ⟨r', hreach, ?_⟩
  intro e i hi hpos
  have hclose := hr'.closes i hpos
  have hle : Function.update d i (d i - 1) ≤ d := update_le_self_iff.mpr (Nat.sub_le ..)
  cases e <;> simp only [RouterEvent.op, taken, Option.some.injEq, reduceCtorEq] at hi
  case recvClose m =>
    subst hi
    have hone := hr'.one m.clientId
    refine ⟨hsel', ⟨fun i hi => hr'.closes i (hi.trans_le (hle i)),
      fun c => (hle _).trans (hr'.one c), fun c hc => hr'.passes c (hc.trans_le (hle _)),
      hr'.routes⟩, .inr ⟨m, rfl, hr'.passes _ hpos, ?_⟩⟩
    simp only [Chan.client, Function.update_self]
    omega
  case nextClientId | recvMessage | recvVerdict =>
    subst hi
    cases hclose rfl
  case conn k e =>
    cases e <;> simp at hi

/-! ## The hub goes on -/

/-- What the hub holds while it is shut down, together with its queues. -/
structure Ending (cfg : DeploymentConfig) (served : Chan → Bool) (s : Deployment) : Prop where
  sound : s.Sound cfg
  closing : s.1.hub.Closing
  copes : s.Copes cfg served

section
variable {e : HubEvent} {g : Goroutine} {q : Queues Chan.Msg}

theorem hub_step (he : s.1.hub.enabled e) (hm : e.mover = some g)
    (hallow : s.2.Allows cfg.capacity.bound e.op) :
    Gets cfg s (⟨s.1.hub.next e, s.1.router, s.1.udp⟩, s.2.apply e.op) := by
  have hsetup : e.isSetup = false ∧ e.caller = none := by
    cases e <;> first | exact ⟨rfl, rfl⟩ | cases hm
  have hen : (automaton cfg).enabled s (.hub e) := ⟨⟨hsetup.1, by simp [hsetup.2], he⟩, hallow⟩
  exact .single hen trivial

theorem now_of_mover {h : Hub} (hm : e.mover = some g) : (h.next e).now = h.now := by
  cases e <;> first | rfl | cases hm

theorem count_apply (hm : e.mover = some g) (hb : ¬e.Begins) (ch : Chan) (p : ch.Msg → Bool)
    (p' : Item → Bool) (hp : ∀ m, p m = p' (ch, ch.client m)) :
    (s.2.apply e.op ch).countP p ≤ (s.2 ch).countP p + e.target.toList.countP p' := by
  rcases Hub.op_of_not_begins (h := s.1.hub) hm hb with hop | ⟨ch', m, hop, -⟩
  · rw [hop]
    exact Nat.le_add_right ..
  · rw [hop, HubEvent.target_of_send hop]
    by_cases hch : ch = ch'
    · subst hch
      simp [Queues.apply, hp]
    · simp [Queues.apply, Function.update_of_ne hch]

/-- A step of the hub in good order sends what it was needed for. -/
theorem Ending.hub_next (hs : Ending cfg served s) (he : s.1.hub.enabled e)
    (hm : e.mover = some g) (ho : s.1.hub.Orderly e)
    (hallow : s.2.Allows cfg.capacity.bound e.op) :
    Ending cfg served (⟨s.1.hub.next e, s.1.router, s.1.udp⟩, s.2.apply e.op) := by
  have hneed : ∀ p, (s.1.hub.next e).need p + e.target.toList.countP p ≤ s.1.hub.need p :=
    fun p => Hub.need_next p hs.sound.net.hub.belongs he hm ho
  have hdemand : demand served (⟨s.1.hub.next e, s.1.router, s.1.udp⟩, s.2.apply e.op) ≤
      s.demand served := by
    intro i
    have hle := hneed (· = i)
    have hcount := count_apply (s := s) hm ho.begins i.1 (fun m => i.1.client m = i.2) (· = i)
      (by intro m; simp [Prod.ext_iff])
    simp only [demand]
    split
    · omega
    · exact le_rfl
  have hnow : (s.1.hub.next e).now = s.1.hub.now := now_of_mover hm
  refine ⟨hs.sound.gets (hub_step he hm hallow), hs.closing.next he hm ho.begins,
    hs.copes.consumed, ?_, ?_, ?_⟩
  · intro name hname
    rw [hnow]
    exact (hs.copes.routers name hname).mono hdemand
  · rw [hnow]
    exact hs.copes.udp.mono hdemand
  · intro ch n hno hn
    have hle := hneed (·.1 = ch)
    have hroom := hs.copes.room ch n hno hn
    have hcount := count_apply (s := s) hm ho.begins ch (fun _ => true) (·.1 = ch) (by simp)
    simp only [List.countP_true] at hcount
    change (s.2.apply e.op ch).length + (s.1.hub.next e).need (·.1 = ch) ≤ n
    omega

/-- A step of the hub in good order gets the room it needs. -/
theorem Ending.ready (hs : Ending cfg served s) (he : s.1.hub.enabled e) (hm : e.mover = some g)
    (ho : s.1.hub.Orderly e) :
    ∃ s', Gets cfg s s' ∧ s'.1.hub = s.1.hub ∧ Ending cfg served s' ∧
      s'.2.Allows cfg.capacity.bound e.op := by
  rcases Hub.op_of_not_begins (h := s.1.hub) hm ho.begins with hop | ⟨ch, m, hop, -⟩
  · exact ⟨s, .refl, rfl, hs, by rw [hop]; trivial⟩
  by_cases hroom : HasRoom (cfg.capacity.bound ch) (s.2 ch).length
  · exact ⟨s, .refl, rfl, hs, by rw [hop]; exact hroom⟩
  cases hserved : served ch with
  | true =>
    obtain ⟨m', rest, hq, hroom'⟩ := hs.sound.net.queues.room_of_full (cfg.capacity.pos ch) hroom
    obtain ⟨s', hreach, hhub, hq', hcopes⟩ := hs.copes.take hserved hq
    refine ⟨s', hreach, hhub, ⟨hs.sound.gets hreach, hhub ▸ hs.closing, hcopes⟩, ?_⟩
    rw [hop, hq']
    have hq : s.2 ch = m' :: rest := hq
    simpa [Queues.Allows, Queues.apply, hq] using hroom'
  | false =>
    -- the item was counted
    cases hcap : cfg.capacity.bound ch with
    | none => simp [hcap, HasRoom] at hroom
    | some n =>
      have hle := hs.copes.room ch n hserved hcap
      have hneed := Hub.need_next (·.1 = ch) hs.sound.net.hub.belongs he hm ho
      simp only [hcap, HasRoom, not_lt] at hroom
      simp only [HubEvent.target_of_send hop, Option.toList_some, List.countP_singleton,
        decide_true, if_true] at hneed
      omega

end

theorem Ending.returns (hs : Ending cfg served s) (hmain : s.1.hub.pc .main ≠ .exited) :
    ∃ s', Gets cfg s s' ∧ s'.1.hub.Returned := by
  refine Automaton.reaches_of_measure
    (I := fun s => Ending cfg served s ∧ s.1.hub.pc .main ≠ .exited)
    (G := fun s => s.1.hub.Returned) (f := fun s => s.1.hub.work) ?_ ⟨hs, hmain⟩
  rintro s ⟨hs, hmain⟩ -
  obtain ⟨e, g, he, hm, ho⟩ := hs.closing.exists_step hmain
  obtain ⟨s', hreach, hhub, hs', hallow⟩ := hs.ready he hm ho
  rw [← hhub] at he hmain ho ⊢
  refine ⟨_, hreach.trans (hub_step he hm hallow), ?_⟩
  by_cases hnew : (s'.1.hub.next e).pc .main = .exited
  · exact .inl (Hub.returned_next hs'.sound.net.hub hs'.closing.main he hmain hnew)
  · exact .inr ⟨⟨hs'.hub_next he hm ho hallow, hnew⟩, Hub.work_next he hm ho.begins⟩

/-- If `Start` has returned, it left the store empty when it did. -/
theorem returned_of_exited (hr : (automaton cfg).Run (start cfg) tr s)
    (hmain : s.1.hub.pc .main = .exited) :
    ∃ tr' s', (automaton cfg).Run (start cfg) tr' s' ∧ tr' <+: tr ∧ s'.1.hub.Returned := by
  induction hr with
  | nil => cases hmain
  | @snoc tr s e hr he ih =>
    by_cases hold : s.1.hub.pc .main = .exited
    · obtain ⟨tr', s', hr', hp, hret⟩ := ih hold
      exact ⟨tr', s', hr', hp.trans (List.prefix_append ..), hret⟩
    · have hs := sound hr
      refine ⟨_, _, hr.snoc he, List.prefix_rfl, ?_⟩
      cases e
      case hub e => exact Hub.returned_next hs.net.hub hs.main he.1.2.2 hold hmain
      all_goals exact (hold hmain).elim

/-- `Start` returns from every state with the context cancelled in which the request in hand does
not panic, and in which every queue has room for what the hub still sends or is served by a handler
that can take what comes. -/
theorem shutdown_finishes (served : Chan → Bool) (hr : (automaton cfg).Run (start cfg) tr s)
    (hdone : s.1.hub.done = true) (hmatch : s.1.hub.Matches) (hcopes : s.Copes cfg served) :
    Finishes cfg tr := by
  by_cases hmain : s.1.hub.pc .main = .exited
  · obtain ⟨tr', s', hr', hp, hret⟩ := returned_of_exited hr hmain
    exact ⟨tr', s', hr', .inl hp, hret⟩
  have hs := sound hr
  obtain ⟨s', ⟨tr', hr', -⟩, hret⟩ :=
    Ending.returns ⟨hs, ⟨hs.net.hub, hdone, hs.main, hmatch⟩, hcopes⟩ hmain
  exact ⟨_, s', hr.trans hr', .inr (List.prefix_append ..), hret⟩

/-! ## Two clients and a queue for one close command -/

/-- Capacities of 1, one router and the UDP handler. -/
def narrow : DeploymentConfig where
  hub := {}
  maxConnections := 512
  clientHandlers := ["WebSocket"]
  router _ := Sample.config.router
  destinationName := "UdpDestination"
  matchConnectionString := defaultUdpDestinationHandlerMatchConnectionStringFn
  udp := Sample.config.udp
  capacity := HubNet.tight

/-- Client `c` with connection `k` is opened and attached to the UDP handler. -/
def joins (c : ClientId) (k : Nat) : List DeploymentEvent :=
  let command : OpenClientConnectionCommand := { Sample.openCommand with clientId := c }
  [.hub (.getNewClientId "WebSocket" c), .hub (.callbackNow "WebSocket" c),
    .hub (.createClient "WebSocket" c 0), .router "WebSocket" (.nextClientId c),
    .router "WebSocket" (.register c), .router "WebSocket" (.conn k (.put Sample.authPacket)),
    .router "WebSocket" (.conn k (.authPacket Sample.authPacket)),
    .router "WebSocket" (.conn k (.openNow command)),
    .router "WebSocket" (.conn k (.openSend command)), .hub (.recvOpenClient command),
    .hub (.reqNow command), .hub (.reqName command 0),
    .hub (.reqMatch command 0 "UdpDestination"), .hub (.reqLookup command 0 "UdpDestination"),
    .hub (.reqAttach command 0 "UdpDestination"), .hub (.reqSend command "UdpDestination"),
    .udp (.recvOpen command), .udp (.connect command Sample.addr),
    .udp (.register command Sample.addr), .udp (.connectSend command Sample.addr)]

/-- Two clients, and the context is cancelled. -/
def cancelled : List DeploymentEvent := joins 1 0 ++ joins 2 1 ++ [.cancel]

def metadata : ClientConnectionMetadata := ⟨false, "WebSocket", "UdpDestination", 0, 0, 0⟩

/-- The dispatch loop and the goroutines of the hub return, and `Start` kicks both clients. -/
def kicksBoth : List DeploymentEvent := [
  .router "WebSocket" .exit, .hub (.exit .client), .hub (.exit .destination),
  .hub (.exit .timeout), .hub .waitGroup, .hub (.kickAllNext 1 metadata),
  .hub (.kickClientLock .main 1 (some .proxyShutdown) "WebSocket" "UdpDestination"
    .kickAllClients),
  .hub (.kickClientSend .main 1 (some .proxyShutdown) "WebSocket" "UdpDestination"
    .kickAllClients),
  .hub (.kickDestLock .main 1 (some .proxyShutdown) "UdpDestination" .kickAllClients),
  .hub (.kickDestSend .main 1 (some .proxyShutdown) "UdpDestination" .kickAllClients),
  .hub (.kickRemove .main 1 (some .proxyShutdown) .kickAllClients), .hub (.kickAllNext 2 metadata),
  .hub (.kickClientLock .main 2 (some .proxyShutdown) "WebSocket" "UdpDestination"
    .kickAllClients)]

def crowd : Deployment := (automaton narrow).exec (start narrow) cancelled

theorem run_cancelled : (automaton narrow).Run (start narrow) cancelled crowd :=
  Automaton.Admits.run (by decide +kernel)

/-- What the hub still sends if it has nothing in its hands. -/
theorem need_of_idle {h : Hub} (hidle : ∀ g, h.owed (h.pc g) = []) (p : Item → Bool) :
    h.need p = ∑ c ∈ h.clients, (h.kickOwed c).countP p := by
  simp [Hub.need, Hub.total, hidle]

theorem need_crowd (p : Item → Bool) : crowd.1.hub.need p =
    (kickCloses 1 ("WebSocket", "UdpDestination") ++
      kickCloses 2 ("WebSocket", "UdpDestination")).countP p := by
  have hclients : crowd.1.hub.clients = {1, 2} := by decide +kernel
  have hone : crowd.1.hub.kickOwed 1 = kickCloses 1 ("WebSocket", "UdpDestination") := by
    decide +kernel
  have htwo : crowd.1.hub.kickOwed 2 = kickCloses 2 ("WebSocket", "UdpDestination") := by
    decide +kernel
  rw [need_of_idle (by decide +kernel), hclients, Finset.sum_pair (by decide), hone, htwo,
    List.countP_append]

/-- The channels of the close commands. -/
def closeChannels (ch : Chan) : Bool :=
  ch = .clientClose "WebSocket" ∨ ch = .destinationClose "UdpDestination"

theorem demand_crowd (c : ClientId) :
    crowd.demand closeChannels (.clientClose "WebSocket", c) ≤ 1 := by
  have hq : crowd.2 (.clientClose "WebSocket") = [] := by decide +kernel
  simp only [demand, hq, need_crowd, List.countP_nil]
  split
  · simp only [kickCloses, clientCloses, destinationCloses]
    by_cases hc : c = 1
    · subst hc
      decide
    · by_cases hc' : c = 2
      · subst hc'
        decide
      · simp [Ne.symm hc, Ne.symm hc']
  · exact Nat.zero_le 1

theorem lookup_crowd {c : ClientId} {k : Nat}
    (hk : (crowd.1.router "WebSocket").connections.lookup c = some k) :
    c = 2 ∧ k = 1 ∨ c = 1 ∧ k = 0 := by
  have hmem := AList.mem_lookup_iff.mp hk
  have hentries : (crowd.1.router "WebSocket").connections.entries = [⟨2, 1⟩, ⟨1, 0⟩] := by
    decide +kernel
  rw [hentries] at hmem
  simpa using hmem

theorem passesCloses_crowd :
    PassesCloses "WebSocket" (crowd.demand closeChannels) (crowd.1.router "WebSocket") where
  closes := by
    intro i hpos hi
    by_contra hne
    have hno : closeChannels i.1 = false := by
      simp only [closeChannels, hne, false_or, decide_eq_false_iff_not]
      intro hdest
      rw [hdest] at hi
      cases hi
    simp [demand, hno] at hpos
  one := demand_crowd
  passes := by
    intro c _ k hk
    have hfree : ∀ k ∈ [0, 1], ((crowd.1.router "WebSocket").conns k).map (·.closeRequest) =
        some none := by decide +kernel
    have hmem : k ∈ [0, 1] := by
      rcases lookup_crowd hk with ⟨-, rfl⟩ | ⟨-, rfl⟩ <;> simp
    exact Option.map_eq_some_iff.mp (hfree k hmem)
  routes := by
    intro c c' k hk hk'
    rcases lookup_crowd hk with ⟨rfl, rfl⟩ | ⟨rfl, rfl⟩
    · rcases lookup_crowd hk' with ⟨rfl, -⟩ | ⟨-, hk⟩
      · rfl
      · cases hk
    · rcases lookup_crowd hk' with ⟨-, hk⟩ | ⟨rfl, -⟩
      · cases hk
      · rfl

/-- With its handlers still running, the hub kicks both clients. -/
theorem shutdown_finishes_cancelled : Finishes narrow cancelled := by
  have hclient : crowd.1.hub.pc .client = .select := by decide +kernel
  refine shutdown_finishes closeChannels run_cancelled (by decide +kernel)
    (by simp [Hub.Matches, hclient]) ⟨?_, ?_, ?_, ?_⟩
  · intro ch hch
    rcases of_decide_eq_true hch with rfl | rfl <;> simp [DeploymentConfig.Consumes, Chan.consumer,
      narrow]
  · intro name hname
    obtain rfl := List.mem_singleton.mp hname
    exact meets_closes passesCloses_crowd (by decide +kernel)
  · have hl : crowd.1.udp.listener = .select := by decide +kernel
    refine meets_messages ⟨?_, ?_, ?_, ?_, ?_⟩ (by simp [Udp.Quiet, hl]) fun c => rfl
    all_goals decide +kernel
  · intro ch n hno hn
    have hle := (sound run_cancelled).net.queues ch n hn
    simp only [closeChannels, decide_eq_false_iff_not, not_or] at hno
    have hzero : crowd.1.hub.need (·.1 = ch) = 0 := by
      simp [need_crowd, kickCloses, clientCloses, destinationCloses, Ne.symm hno.1, Ne.symm hno.2]
    rw [hzero]
    exact hle

/-! ## The second close command waits for ever -/

/-- `Start` waits to send a close command to a client handler whose dispatch loop has returned and
whose queue is full. -/
structure Stuck (cfg : DeploymentConfig) (name : String) (s : Deployment) : Prop where
  dispatch : (s.1.router name).dispatch = .exited
  main : ∃ c r dn k, s.1.hub.pc .main = .kickClientSend c r name dn k
  full : ¬HasRoom (cfg.capacity.bound (.clientClose name)) (s.2 (.clientClose name)).length

theorem exited_next {r : Router} {e : RouterEvent} (hd : r.dispatch = .exited) (he : r.enabled e) :
    (r.next e).dispatch = .exited := by
  cases e
  case exit => simp [Router.enabled, hd] at he
  case recvClose | recvMessage | recvVerdict => simp [Router.enabled, hd] at he
  case routeClose | routeMessage | routeVerdict | noRouteClose | noRouteMessage | noRouteVerdict
      | pushClose | pushMessage | pushVerdict => simp [Router.enabled, hd] at he
  all_goals exact hd

theorem Stuck.next {name : String} {e : DeploymentEvent} (hs : Stuck cfg name s)
    (he : (automaton cfg).enabled s e) : Stuck cfg name ((automaton cfg).next s e) := by
  obtain ⟨c, r, dn, k, hmain⟩ := hs.main
  cases e
  case cancel => exact ⟨hs.dispatch, hs.main, hs.full⟩
  case hub e =>
    refine ⟨hs.dispatch, ?_, Queues.full_apply hs.full ?_⟩
    · have hmover : e.mover ≠ some .main := by
        intro hmover
        cases e <;> simp only [HubEvent.mover, Option.some.injEq, reduceCtorEq] at hmover
        all_goals
          try subst hmover
          have hen := he.1.2.2
          simp only [Hub.enabled, hmain, reduceCtorEq, false_and, HubPc.kickClientSend.injEq] at hen
        case kickClientSend =>
          obtain ⟨rfl, rfl, rfl, rfl, rfl⟩ := hen
          exact hs.full he.2
      exact ⟨c, r, dn, k, (Hub.pc_next_of_ne hmover).trans hmain⟩
    · intro m hop
      cases e <;> simp [DeploymentEvent.op, HubEvent.op] at hop
  case router name' e =>
    refine ⟨?_, hs.main, Queues.full_apply hs.full ?_⟩
    · change (Function.update s.1.router name' ((s.1.router name').next e) name).dispatch = .exited
      by_cases hname : name = name'
      · subst hname
        rw [Function.update_self]
        exact exited_next hs.dispatch he.1.2.2.2
      · rw [Function.update_of_ne hname]
        exact hs.dispatch
    · intro m hop
      have hen := he.1.2.2.2
      cases e
      case recvClose m' =>
        simp only [DeploymentEvent.op, RouterEvent.op, ChannelOp.recv.injEq,
          Chan.clientClose.injEq] at hop
        obtain ⟨rfl, -⟩ := hop
        simp [Router.enabled, hs.dispatch] at hen
      case conn k e => cases e <;> simp [DeploymentEvent.op, RouterEvent.op] at hop
      all_goals simp [DeploymentEvent.op, RouterEvent.op] at hop
  case udp e =>
    refine ⟨hs.dispatch, hs.main, Queues.full_apply hs.full ?_⟩
    intro m hop
    cases e <;> simp [DeploymentEvent.op, UdpEvent.op] at hop

theorem not_finishes_of_stuck {name : String} (hr : (automaton cfg).Run (start cfg) tr s)
    (hs : Stuck cfg name s) : ¬Finishes cfg tr := by
  rintro ⟨tr', s', hr', hp, hret⟩
  rcases hp with ⟨tr₂, rfl⟩ | ⟨tr₂, rfl⟩
  · -- `Start` would not have come back
    obtain ⟨s₁, hr₁, hr₂⟩ := hr.split rfl
    obtain rfl := hr₁.eq_exec.trans hr'.eq_exec.symm
    have hexited : s.1.hub.pc .main = .exited := by
      refine hr₂.invariant (I := fun s => s.1.hub.pc .main = .exited) (hret.1 .main) ?_
      intro s e hs he
      cases e
      case hub e => exact Hub.exited_next hs he.1.2.2
      all_goals exact hs
    obtain ⟨c, r, dn, k, hmain⟩ := hs.main
    simp [hexited] at hmain
  · obtain ⟨s₁, hr₁, hr₂⟩ := hr'.split rfl
    obtain rfl := hr₁.eq_exec.trans hr.eq_exec.symm
    have hs' : Stuck cfg name s' := hr₂.invariant hs fun _ _ => Stuck.next
    obtain ⟨c, r, dn, k, hmain⟩ := hs'.main
    simp [hret.1 .main] at hmain

/-- The dispatch loop has returned and its queue holds the close command for client 1: `Start` waits
to send the one for client 2. -/
theorem second_close_waits : ∃ s, (automaton narrow).Run (start narrow) (cancelled ++ kicksBoth) s ∧
    s.1.hub.done = true ∧ ¬Finishes narrow (cancelled ++ kicksBoth) := by
  have hr : (automaton narrow).Run (start narrow) (cancelled ++ kicksBoth)
      ((automaton narrow).exec (start narrow) (cancelled ++ kicksBoth)) :=
    Automaton.Admits.run (by decide +kernel)
  have hstuck : Stuck narrow "WebSocket"
      ((automaton narrow).exec (start narrow) (cancelled ++ kicksBoth)) :=
    ⟨by decide +kernel, ⟨2, some .proxyShutdown, "UdpDestination", .kickAllClients,
      by decide +kernel⟩, by decide +kernel⟩
  exact ⟨_, hr, by decide +kernel, not_finishes_of_stuck hr hstuck⟩

end Deployment
end Spanreed
