import Spanreed.Delivery
import Spanreed.Dispatch
import Spanreed.Orphans

/-! # Close commands that reach nobody

Both listeners of an accepted connection read its `CloseRequest` channel, but only the proxy
listener tells the transport. A close command that the transport listener takes goes back to the
hub, which has forgotten the client by then (`transport_listener_loses_close`). As long as the
transport listener takes none, the transport can still be told (`close_notice_reaches_transport`).
-/

namespace Spanreed
open Flatbuffers Automata

/-- The routing goroutine has turned the client away. -/
def RoutingPc.Refused : RoutingPc → Prop
  | .authClose | .closeTransport | .returned => True
  | .emitVerdict accepted _ _ => accepted = false
  | _ => False

namespace Connection
open ConnectionEvent

theorem RoutingPc.Accepted.not_refused {pc : RoutingPc} (h : RoutingPc.Accepted pc) :
    ¬pc.Refused := by
  cases pc <;> simp_all [RoutingPc.Accepted, Spanreed.RoutingPc.Refused]

section
variable {params : ClientConnectionRouterParams} {id : ClientId} {done : Bool}
  {tr : List ConnectionEvent} {c : Connection} {e : ConnectionEvent}

/-! ## What came before -/

theorem refused_next (he : c.enabled params e) (h : c.routing.Refused) :
    (c.next e).routing.Refused := by
  cases e
  case emitVerdict accepted _ _ =>
    rw [he.1] at h
    obtain rfl : accepted = false := h
    trivial
  case openNow =>
    obtain ⟨authMsg, hr, -⟩ := he
    rw [hr] at h
    exact h.elim
  case openSend | markConnected =>
    rw [show c.routing = _ from he] at h
    exact h.elim
  case authDone | authClientClose | authCloseRequest | authPacket | verdictDone | verdictClientClose
      | verdictCloseRequest | verdictRecv =>
    rw [he.1] at h
    exact h.elim
  case authClose | closeTransport => trivial
  all_goals exact h

/-- The proxy listener is done with its loop. -/
def ProxyStops (c : Connection) : Prop :=
  c.proxyListener = .closeTransport ∨ c.proxyListener = .returned

theorem proxyStops_next (hnot : c.proxyListener ≠ .notStarted → c.routing = .forked)
    (he : c.enabled params e) (h : c.ProxyStops) : (c.next e).ProxyStops := by
  have hr : c.routing = .forked := hnot (by rcases h with h | h <;> simp [h])
  have hbusy : ∀ pc, c.proxyListener = pc → pc = .closeTransport ∨ pc = .returned := by
    rintro pc rfl
    exact h
  cases e
  case proxyCloseTransport => exact .inr rfl
  case markConnected =>
    rw [show c.routing = _ from he] at hr
    cases hr
  case proxyCloseRequest | proxyMessage | proxyEmit => simpa using hbusy _ he.1
  all_goals exact h

/-- A close command that the transport listener did not take is still there, has stopped the proxy
listener, or has turned the client away. -/
theorem close_pending (h : (automaton params).Run (opened id done) tr c)
    {m : ClientCloseCommand} (hclose : .pushClose m ∈ tr)
    (hnot : ∀ m, .transportCloseRequest m ∉ tr) :
    c.closeRequest ≠ none ∨ c.ProxyStops ∨ c.routing.Refused := by
  induction h with
  | nil => cases hclose
  | @snoc tr c e hr he ih =>
    by_cases hlast : e = .pushClose m
    · subst hlast
      exact .inl (by simp [automaton, next])
    have hclose : .pushClose m ∈ tr := by
      rcases List.mem_append.mp hclose with hm | hm
      · exact hm
      · exact (hlast (List.mem_singleton.mp hm).symm).elim
    have hstart : c.proxyListener ≠ .notStarted → c.routing = .forked := by
      intro hl
      by_contra hr'
      exact hl ((notStarted_iff hr).2.mpr hr')
    rcases ih hclose fun m hm => hnot m (List.mem_append_left _ hm) with hc | hstops | href
    · cases e
      case authCloseRequest | verdictCloseRequest => exact .inr (.inr (by trivial))
      case proxyCloseRequest => exact .inr (.inl (.inl rfl))
      case transportCloseRequest m' => exact (hnot m' (by simp)).elim
      case pushClose => exact (hc he).elim
      all_goals exact .inl hc
    · exact .inr (.inl (proxyStops_next hstart he hstops))
    · exact .inr (.inr (refused_next he href))

/-- A value is sent on the `ProxyInitiatedClose` channel. -/
def Notifies : ConnectionEvent → Prop
  | .closeTransport | .proxyCloseTransport => True
  | _ => False

/-- Whatever is in the channel was sent, and the proxy listener does not return without sending. -/
theorem notified_before (h : (automaton params).Run (opened id done) tr c)
    (hc : c.proxyClose = true ∨ c.proxyListener = .returned) : ∃ e ∈ tr, Notifies e := by
  induction h with
  | nil => simp [opened] at hc
  | @snoc tr c e hr he ih =>
    by_cases hlast : Notifies e
    · exact ⟨e, by simp, hlast⟩
    have hold : c.proxyClose = true ∨ c.proxyListener = .returned := by
      cases e
      case closeTransport | proxyCloseTransport => exact (hlast trivial).elim
      case takeClose => exact .inl he.2
      case markConnected | proxyCloseRequest | proxyMessage | proxyEmit =>
        exact hc.imp_right fun hp => by cases hp
      all_goals exact hc
    exact happened_append (ih hold)

/-- The connection is accepted but has not forked its listeners, and a close command waits. -/
structure Waiting (c : Connection) : Prop where
  accepted : RoutingPc.Accepted c.routing
  not_forked : c.routing ≠ .forked
  closeRequest : c.closeRequest ≠ none

/-- It waits until the routing goroutine gets the lock. -/
theorem Waiting.next (h : (automaton params).Run (opened id done) tr c) (hw : c.Waiting)
    (he : c.enabled params e) (hmark : e ≠ .markConnected) : (c.next e).Waiting := by
  obtain ⟨hacc, hnot, hclose⟩ := hw
  have hl := notStarted_iff h
  have hp := hl.2.mpr hnot
  have ht := hl.1.mpr hnot
  have hat : ∀ pc, c.routing = pc → RoutingPc.Accepted pc := fun pc hpc => hpc ▸ hacc
  cases e
  case markConnected => exact (hmark rfl).elim
  case emitVerdict accepted reason appData =>
    obtain rfl : accepted = true := hat _ he.1
    exact ⟨trivial, by simp [next], hclose⟩
  case openNow =>
    obtain ⟨authMsg, hr, -⟩ := he
    exact (hat _ hr).elim
  case openSend => exact (hat _ he).elim
  case authDone | authClientClose | authCloseRequest | authPacket | authClose | verdictDone
      | verdictClientClose | verdictCloseRequest | verdictRecv | closeTransport =>
    exact (hat _ he.1).elim
  case proxyCloseRequest | proxyMessage | proxyEmit | proxyCloseTransport =>
    have hstarted := he.1
    rw [hp] at hstarted
    cases hstarted
  case transportCloseRequest | transportPacket | transportDone | transportClientClose =>
    have hstarted := he.1
    rw [ht] at hstarted
    cases hstarted
  case pushClose => exact (hclose he).elim
  all_goals exact ⟨hacc, hnot, hclose⟩

/-- A packet that the writer takes from `OutgoingMessages`. -/
def written : ConnectionEvent → Option Packet
  | .take packet | .writeFails packet => some packet
  | _ => none

theorem exact_outgoing (h : (automaton params).Run (opened id done) tr c) :
    Exact (tr.filterMap emitted) (tr.filterMap written) c.outgoingPackets := by
  refine h.exact (p := fun _ => True) (k := outgoingPackets) rfl ?_ fun _ _ => trivial
  intro _ c e _ he _
  cases e
  case take packet | writeFails packet =>
    obtain ⟨packets, hp⟩ := List.head?_eq_some_iff.mp he.2
    simp [automaton, next, emitted, written, hp]
  all_goals simp [automaton, next, emitted, written]

/-- Nothing is handed to the transport before the verdict. -/
theorem packets_eq_nil (h : (automaton params).Run (opened id done) tr c)
    {accepted : Bool} {reason : Bytes} {appData : Option Bytes}
    (hc : c.routing = .emitVerdict accepted reason appData) : c.outgoingPackets = [] := by
  have hsofar := emitted_so_far h
  rw [hc] at hsofar
  have hexact := exact_outgoing h
  rw [show tr.filterMap emitted = [] from hsofar] at hexact
  exact (List.append_eq_nil_iff.mp hexact.symm).2

end
end Connection

/-! ## In the system -/

/-- A value is sent on the `ProxyInitiatedClose` channel of connection `k`. -/
def Notified (k : Nat) (tr : List SystemEvent) : Prop :=
  ∃ e, Connection.Notifies e ∧ .router (.conn k e) ∈ tr

theorem Notified.mono {k : Nat} {tr tr' : List SystemEvent} (h : Notified k tr) :
    Notified k (tr ++ tr') := by
  obtain ⟨e, hn, he⟩ := h
  exact ⟨e, hn, List.mem_append_left _ he⟩

theorem notified_of_connection {cfg : SystemConfig} {k : Nat} {tr : List SystemEvent} {s : System}
    (hr : System.Run cfg tr s)
    (h : ∃ e ∈ connectionTrace k (routerTrace tr), Connection.Notifies e) : Notified k tr := by
  obtain ⟨e, he, hn⟩ := h
  refine ⟨e, hn, System.conn_of_mem hr he ?_⟩
  cases e <;> first | rfl | exact False.elim hn

/-- Only the router moves. -/
def RouterOnly (tr : List SystemEvent) : Prop := ∀ e ∈ tr, ∃ e', e = .router e'

theorem RouterOnly.append {tr tr' : List SystemEvent} (h : RouterOnly tr) (h' : RouterOnly tr') :
    RouterOnly (tr ++ tr') :=
  fun e he => (List.mem_append.mp he).elim (h e) (h' e)

theorem RouterOnly.cons {tr : List SystemEvent} {e : RouterEvent} (h : RouterOnly tr) :
    RouterOnly (.router e :: tr) :=
  fun e' he => (List.mem_cons.mp he).elim (fun heq => ⟨e, heq⟩) (h e')

/-- The router allocates no client ids. -/
theorem allocations_of_routerOnly {tr tr' : List SystemEvent} (h : RouterOnly tr') :
    allocations (tr ++ tr') = allocations tr := by
  have hnil : hubTrace tr' = [] := by
    rw [hubTrace, List.filterMap_eq_nil_iff]
    intro e he
    obtain ⟨e', rfl⟩ := h e he
    rfl
  rw [allocations, hubTrace, List.filterMap_append, ← hubTrace, ← hubTrace, hnil,
    List.append_nil]
  rfl

namespace System
variable {cfg : SystemConfig} {tr : List SystemEvent} {s : System} {k : Nat} {c : Connection}

/-- Nothing outside the router keeps a connection from a step towards its transport. -/
theorem enabled_conn {e : ConnectionEvent} (hk : s.1.router.conns k = some c)
    (he : c.enabled s.1.router.params e)
    (hq : e.Quiet ∨ e = .markConnected ∧ s.1.router.dispatch.readsConnections = false) :
    (automaton cfg).enabled s (.router (.conn k e)) := by
  have hce : s.1.router.ConnEnabled k e := by
    simp only [Router.ConnEnabled, hk]
    exact he
  rcases hq with hq | ⟨rfl, hfree⟩
  · cases e <;> first
      | exact False.elim hq
      | exact ⟨⟨rfl, by simp [RouterEvent.reads], rfl, hce, by simp⟩, trivial⟩
  · exact ⟨⟨rfl, by simp [RouterEvent.reads], rfl, hce, fun _ => hfree⟩, trivial⟩

theorem conns_next_conn {e : ConnectionEvent} (hk : s.1.router.conns k = some c) :
    ((automaton cfg).next s (.router (.conn k e))).1.router.conns k = some (c.next e) := by
  simp [automaton, network, Components.automaton, Components.next, Router.next, Router.connNext, hk]

/-- Steps towards the transport, in the system. -/
theorem run_of_quiet {c' : Connection} (hk : s.1.router.conns k = some c)
    (h : c.Gets s.1.router.params ConnectionEvent.Quiet c') :
    ∃ tr' s', (automaton cfg).Run s tr' s' ∧ RouterOnly tr' ∧ s'.1.router.conns k = some c' ∧
      s'.1.router.params = s.1.router.params := by
  obtain ⟨tr, hr, htr⟩ := h
  induction hr with
  | nil => exact ⟨[], s, .nil, by simp [RouterOnly], hk, rfl⟩
  | @snoc tr c' e hr he ih =>
    obtain ⟨tr', s', hr', honly, hc', hparams⟩ := ih fun e he => htr e (List.mem_append_left _ he)
    have hen : (automaton cfg).enabled s' (.router (.conn k e)) :=
      enabled_conn hc' (hparams ▸ he) (.inl (htr e (by simp)))
    exact ⟨_, _, hr'.snoc hen, honly.append (by simp [RouterOnly]), conns_next_conn hc', hparams⟩

/-- A close command that waits for a proxy listener that reads can reach the transport. -/
theorem notice_of_reads (h : Run cfg tr s) (hk : s.1.router.conns k = some c)
    (hreads : c.ProxyReads cfg.router) (hclose : c.closeRequest ≠ none) :
    ∃ tr' s', (automaton cfg).Run s tr' s' ∧ RouterOnly tr' ∧ Notified k (tr ++ tr') := by
  have hparams := Router.params_eq h.router
  have hrun := Router.connection_run h.router hk
  by_cases hn : c.proxyClose = true
  · exact ⟨[], s, .nil, by simp [RouterOnly],
      (notified_of_connection h (Connection.notified_before hrun (.inl hn))).mono⟩
  have hn : c.proxyClose = false := by simpa using hn
  obtain ⟨m, hm⟩ := Option.ne_none_iff_exists'.mp hclose
  obtain ⟨c', hgets, hp, -, hclose', hn'⟩ :=
    Connection.gets_proxySelect (Connection.sane hrun).packets_le hreads
  have hgets : c.Gets s.1.router.params ConnectionEvent.Quiet (c'.next (.proxyCloseRequest m)) := by
    rw [hparams]
    exact hgets.trans (.step (.proxyCloseRequest m) ⟨hp, hclose'.trans hm⟩ trivial .refl)
  obtain ⟨tr', s', hr', honly, hc', -⟩ := run_of_quiet hk hgets
  have hen : (automaton cfg).enabled s' (.router (.conn k .proxyCloseTransport)) :=
    enabled_conn hc' ⟨rfl, hn'.trans hn⟩ (.inl trivial)
  exact ⟨_, _, hr'.snoc hen, honly.append (by simp [RouterOnly]), .proxyCloseTransport, trivial,
    by simp⟩

/-- An event of the system leaves a connection alone or is an event of it. -/
theorem conn_step (h : Run cfg tr s) (hk : s.1.router.conns k = some c) {e : SystemEvent}
    (he : (automaton cfg).enabled s e) :
    (∀ e', e ≠ .router (.conn k e')) ∧ ((automaton cfg).next s e).1.router.conns k = some c ∨
      ∃ e', e.routerPart = some (.ofConnection k e') ∧ c.enabled cfg.router e' ∧
        ((automaton cfg).next s e).1.router.conns k = some (c.next e') := by
  cases hpart : e.routerPart with
  | none =>
    have hsame := (Components.routerComponent cfg).frame he.1 hpart
    refine .inl ⟨?_, (congrArg (Router.conns · k) hsame).trans hk⟩
    rintro e' rfl
    cases hpart
  | some e' =>
    have hnext := congrArg (Router.conns · k) ((Components.routerComponent cfg).next he.1 hpart)
    rcases Router.conn_step h.router hk ((Components.routerComponent cfg).enabled he.1 hpart) with
      ⟨hp, hc⟩ | ⟨e'', -, rfl, hen, hc⟩
    · refine .inl ⟨?_, hnext.trans hc⟩
      rintro e'' rfl
      cases hpart
      simp [RouterEvent.connPart] at hp
    · exact .inr ⟨e'', rfl, hen, hnext.trans hc⟩

/-- The connection waits as long as the dispatch loop holds the lock. -/
theorem waiting_next (h : Run cfg tr s) (hk : s.1.router.conns k = some c) (hw : c.Waiting)
    (hlock : s.1.router.dispatch.readsConnections = true) {e : SystemEvent}
    (he : (automaton cfg).enabled s e) :
    ∃ c', ((automaton cfg).next s e).1.router.conns k = some c' ∧ c'.Waiting := by
  rcases conn_step h hk he with ⟨-, hsame⟩ | ⟨e', hpart, hen, hnext⟩
  · exact ⟨c, hsame, hw⟩
  · refine ⟨c.next e', hnext, hw.next (Router.connection_run h.router hk) hen ?_⟩
    rintro rfl
    have hen := (Components.routerComponent cfg).enabled he.1 hpart
    cases hlock.symm.trans (hen.2.2 rfl)

/-- The first time the dispatch loop gives up the lock the connection still waits. -/
theorem released (h : Run cfg tr s) (hk : s.1.router.conns k = some c) (hw : c.Waiting)
    {tr' : List SystemEvent} {s' : System} (hr : (automaton cfg).Run s tr' s')
    (hfree : s'.1.router.dispatch.readsConnections = false) :
    ∃ tr'' s'' c', (automaton cfg).Run s tr'' s'' ∧ tr'' <+: tr' ∧
      s''.1.router.dispatch.readsConnections = false ∧ s''.1.router.conns k = some c' ∧
      c'.Waiting := by
  have key : (∃ tr'' s'' c', (automaton cfg).Run s tr'' s'' ∧ tr'' <+: tr' ∧
      s''.1.router.dispatch.readsConnections = false ∧ s''.1.router.conns k = some c' ∧
      c'.Waiting) ∨ ∃ c', s'.1.router.conns k = some c' ∧ c'.Waiting := by
    clear hfree
    induction hr with
    | nil => exact .inr ⟨c, hk, hw⟩
    | @snoc tr' s' e hr he ih =>
      rcases ih with ⟨tr'', s'', c', hr'', hpre, hrest⟩ | ⟨c', hc', hw'⟩
      · exact .inl ⟨tr'', s'', c', hr'', hpre.trans (List.prefix_append _ _), hrest⟩
      · cases hlock : s'.1.router.dispatch.readsConnections with
        | false => exact .inl ⟨tr', s', c', hr, List.prefix_append _ _, hlock, hc', hw'⟩
        | true => exact .inr (waiting_next (h.trans hr) hc' hw' hlock he)
  rcases key with hkey | ⟨c', hc', hw'⟩
  · exact hkey
  · exact ⟨tr', s', c', hr, List.prefix_refl _, hfree, hc', hw'⟩

/-- A connection that gets the lock can fork its listeners and tell the transport. -/
theorem notice_of_markConnected (h : Run cfg tr s) (hk : s.1.router.conns k = some c)
    (hr : c.routing = .markConnected) (hclose : c.closeRequest ≠ none)
    (hfree : s.1.router.dispatch.readsConnections = false) :
    ∃ tr' s', (automaton cfg).Run s tr' s' ∧ RouterOnly tr' ∧ Notified k (tr ++ tr') := by
  have hen : (automaton cfg).enabled s (.router (.conn k .markConnected)) :=
    enabled_conn hk hr (.inr ⟨rfl, hfree⟩)
  obtain ⟨tr', s', hr', honly, hn⟩ :=
    notice_of_reads (h.snoc hen) (conns_next_conn hk) trivial hclose
  exact ⟨_, s', .cons hen hr', honly.cons, by simpa using hn⟩

/-- A connection that waits can tell the transport once the lock is free. -/
theorem notice_of_waiting (h : Run cfg tr s) (hk : s.1.router.conns k = some c) (hw : c.Waiting)
    (hfree : s.1.router.dispatch.readsConnections = false) :
    ∃ tr' s', (automaton cfg).Run s tr' s' ∧ RouterOnly tr' ∧ Notified k (tr ++ tr') := by
  obtain ⟨hacc, hnot, hclose⟩ := hw
  cases hr : c.routing <;> rw [hr] at hacc hnot
  case markConnected => exact notice_of_markConnected h hk hr hclose hfree
  case forked => exact (hnot rfl).elim
  case emitVerdict accepted reason appData =>
    obtain rfl : accepted = true := hacc
    have hpackets := Connection.packets_eq_nil (Router.connection_run h.router hk) hr
    have hroom : c.outgoingPackets.length < s.1.router.params.outgoingMessageQueueLength := by
      rw [hpackets]
      exact s.1.router.params.outgoing_pos
    have hen : (automaton cfg).enabled s (.router (.conn k (.emitVerdict true reason appData))) :=
      enabled_conn hk ⟨hr, hroom⟩ (.inl trivial)
    obtain ⟨tr', s', hr', honly, hn⟩ :=
      notice_of_markConnected (h.snoc hen) (conns_next_conn hk) rfl hclose hfree
    exact ⟨_, s', .cons hen hr', honly.cons, by simpa using hn⟩
  all_goals exact hacc.elim

/-- A proxy listener that has stopped has told the transport or can do so. -/
theorem notice_of_stops (h : Run cfg tr s) (hk : s.1.router.conns k = some c)
    (hstops : c.ProxyStops) :
    ∃ tr' s', (automaton cfg).Run s tr' s' ∧ RouterOnly tr' ∧ Notified k (tr ++ tr') := by
  have hrun := Router.connection_run h.router hk
  by_cases hn : c.proxyClose = true ∨ c.proxyListener = .returned
  · exact ⟨[], s, .nil, by simp [RouterOnly],
      (notified_of_connection h (Connection.notified_before hrun hn)).mono⟩
  have hfree : c.proxyClose = false := by
    cases hp : c.proxyClose with
    | false => rfl
    | true => exact (hn (.inl hp)).elim
  have hstops := hstops.resolve_right fun hp => hn (.inr hp)
  have hen : (automaton cfg).enabled s (.router (.conn k .proxyCloseTransport)) :=
    enabled_conn hk ⟨hstops, hfree⟩ (.inl trivial)
  exact ⟨_, _, .single hen, by simp [RouterOnly], .proxyCloseTransport, trivial, by simp⟩

theorem allocations_le {tr' tr'' : List SystemEvent} (hpre : tr'' <+: tr') :
    allocations (tr ++ tr'') ≤ allocations (tr ++ tr') :=
  (((hpre.sublist.append_left tr).filterMap _).filterMap _).length_le

/-- In every run in which the transport listener of connection `k` takes no close command, from
every state in which the hub's close command was put on the `CloseRequest` channel of the accepted
connection the transport can still be told: if its proxy listener is not stuck in front of a writer
that gave up, and if the dispatch loop can still finish its send in case the listeners are not
started yet. -/
theorem close_notice_reaches_transport {m : ClientCloseCommand} (h : Run cfg tr s)
    (hlt : allocations tr < 2 ^ 32) (hk : s.1.router.conns k = some c) (hacc : Accepted k tr)
    (hclose : .router (.pushClose k m) ∈ tr)
    (hnot : ∀ m, .router (.conn k (.transportCloseRequest m)) ∉ tr)
    (hwriter : ∀ d, c.proxyListener = .emit d →
      c.outgoingPackets.length < cfg.router.outgoingMessageQueueLength ∨ c.writerReturned = false)
    (hdispatch : c.routing = .forked ∨ ∃ tr' s', (automaton cfg).Run s tr' s' ∧
      allocations (tr ++ tr') < 2 ^ 32 ∧ s'.1.router.dispatch.readsConnections = false) :
    ∃ tr' s', (automaton cfg).Run s tr' s' ∧ allocations (tr ++ tr') < 2 ^ 32 ∧
      Notified k (tr ++ tr') := by
  have hrun := Router.connection_run h.router hk
  have hpushed : .pushClose m ∈ connectionTrace k (routerTrace tr) :=
    List.mem_filterMap.mpr ⟨.pushClose k m, mem_router hclose, by simp [RouterEvent.connPart]⟩
  have hrouting : Connection.RoutingPc.Accepted c.routing := by
    obtain ⟨v, hv, hverdict⟩ := hacc
    exact Connection.accepted_of_accepts hrun ⟨.verdictRecv v,
      List.mem_filterMap.mpr ⟨.conn k (.verdictRecv v), mem_router hv, by
        simp [RouterEvent.connPart]⟩, hverdict⟩
  have done : (∃ tr' s', (automaton cfg).Run s tr' s' ∧ RouterOnly tr' ∧ Notified k (tr ++ tr')) →
      ∃ tr' s', (automaton cfg).Run s tr' s' ∧ allocations (tr ++ tr') < 2 ^ 32 ∧
        Notified k (tr ++ tr') := by
    rintro ⟨tr', s', hr', honly, hn⟩
    exact ⟨tr', s', hr', by rwa [allocations_of_routerOnly honly], hn⟩
  rcases Connection.close_pending hrun hpushed fun m hm => hnot m (conn_of_mem h hm rfl) with
    hwait | hstops | hrefused
  · by_cases hforked : c.routing = .forked
    · by_cases hstops : c.ProxyStops
      · exact done (notice_of_stops h hk hstops)
      have hstarted : c.proxyListener ≠ .notStarted := fun hl =>
        (Connection.notStarted_iff hrun).2.mp hl hforked
      have hreads : c.ProxyReads cfg.router := by
        unfold Connection.ProxyReads
        cases hp : c.proxyListener with
        | notStarted => exact (hstarted hp).elim
        | select => trivial
        | emit d => exact hwriter d hp
        | closeTransport => exact (hstops (.inl hp)).elim
        | returned => exact (hstops (.inr hp)).elim
      exact done (notice_of_reads h hk hreads hwait)
    · obtain ⟨tr₁, s₁, hr₁, hlt₁, hfree₁⟩ := hdispatch.resolve_left hforked
      obtain ⟨tr₂, s₂, c₂, hr₂, hpre, hfree₂, hk₂, hw₂⟩ :=
        released h hk ⟨hrouting, hforked, hwait⟩ hr₁ hfree₁
      obtain ⟨tr₃, s₃, hr₃, honly, hn⟩ := notice_of_waiting (h.trans hr₂) hk₂ hw₂ hfree₂
      refine ⟨tr₂ ++ tr₃, s₃, hr₂.trans hr₃, ?_, by rwa [← List.append_assoc]⟩
      rw [← List.append_assoc, allocations_of_routerOnly honly]
      exact (allocations_le hpre).trans_lt hlt₁
  · exact done (notice_of_stops h hk hstops)
  · exact (hrouting.not_refused hrefused).elim

end System

/-! ## When the transport listener takes the close command -/

/-- A kick of client `c` that will not reach its client handler: it has found no record. -/
def HubPc.Harmless (c : ClientId) : HubPc → Prop
  | .kickDestName c' _ cn _ | .kickClientLookup c' _ cn _ _ => c' = c → cn = ""
  | .kickClientSend c' _ _ _ _ => c' ≠ c
  | _ => True

theorem HubPc.Resting.harmless {pc : HubPc} (h : pc.Resting) (c : ClientId) : pc.Harmless c := by
  cases pc <;> first | exact h.elim | trivial

/-- The hub has no record of client `c`, and nobody who still knows its client handler. -/
structure Hub.Forgot (c : ClientId) (h : Hub) : Prop where
  names : h.clientStore.names c = none
  harmless : ∀ g, (h.pc g).Harmless c

/-- The hub learns nothing about a client without a record except by making one. -/
theorem Hub.Forgot.next {h : Hub} {c : ClientId} {e : HubEvent} (hf : h.Forgot c)
    (he : h.enabled e) (hnew : e.createdId ≠ some c) : (h.next e).Forgot c := by
  obtain ⟨hnames, hharmless⟩ := hf
  have hget : h.clientStore.get c = none := ClientStore.names_eq_none.mp hnames
  refine ⟨?_, ?_⟩
  · rcases Hub.names_next he c with ⟨name, t, rfl, -⟩ | ⟨g, r, k, rfl, hnone⟩ |
      ⟨m, t, name, cn, dn, rfl, -, hsome, -⟩ | hsame
    · exact (hnew rfl).elim
    · exact hnone
    · rw [hnames] at hsome
      cases hsome
    · exact hsame.trans hnames
  · have move : ∀ {g pc}, pc.Harmless c → ∀ g', (Function.update h.pc g pc g').Harmless c :=
      fun hpc => Hub.forall_moved hpc hharmless
    have stay : ∀ {g pc}, h.pc g = pc → pc.Harmless c := fun hg => hg ▸ hharmless _
    cases e
    case advanceClock | cancel | createClientMessageHandler | createDestinationMessageHandler
        | getNewClientId | callbackNow | createClient | createClientFails => exact hharmless
    case kickClientName g c' r k =>
      refine move ?_
      rintro rfl
      simp [Hub.nameOrEmpty, ClientStore.getClientHandlerName, hget]
    case kickDestName g c' r cn k =>
      have hcn := stay he
      exact move hcn
    case kickClientLock g c' r cn dn k =>
      have hcn := stay he.1
      exact move fun hc => he.2.1 (hcn hc)
    case kickAllNext c' connection =>
      refine move ?_
      rintro rfl
      cases hget.symm.trans he.2
    case kickRemove g c' r k =>
      refine move ?_
      cases k <;> trivial
    all_goals exact move trivial

/-- The listeners run, and no close command is there. -/
structure Connection.Uninformed (c : Connection) : Prop where
  routing : c.routing = .forked
  closeRequest : c.closeRequest = none
  proxyListener : c.proxyListener = .select ∨ ∃ d, c.proxyListener = .emit d

/-- Without a further close command the proxy listener does not stop. -/
theorem Connection.Uninformed.next {params : ClientConnectionRouterParams} {c : Connection}
    {e : ConnectionEvent} (hu : c.Uninformed) (he : c.enabled params e)
    (hclose : ∀ m, e ≠ .pushClose m) : (c.next e).Uninformed ∧ ¬Notifies e := by
  obtain ⟨hr, hnone, hp⟩ := hu
  have hat : ∀ pc, c.routing = pc → pc = .forked := fun pc hpc => hpc.symm.trans hr
  cases e
  case pushClose m => exact (hclose m rfl).elim
  case proxyMessage m => exact ⟨⟨hr, hnone, .inr ⟨_, rfl⟩⟩, id⟩
  case proxyEmit d => exact ⟨⟨hr, hnone, .inl rfl⟩, id⟩
  case proxyCloseRequest m | transportCloseRequest m =>
    cases hnone.symm.trans he.2
  case proxyCloseTransport =>
    rcases hp with hp | ⟨d, hp⟩ <;> cases hp.symm.trans he.1
  case openNow =>
    obtain ⟨authMsg, hpc, -⟩ := he
    cases hat _ hpc
  case openSend | markConnected => cases hat _ he
  case authDone | authClientClose | authCloseRequest | authPacket | authClose | verdictDone
      | verdictClientClose | verdictCloseRequest | verdictRecv | emitVerdict | closeTransport =>
    cases hat _ he.1
  all_goals exact ⟨⟨hr, hnone, hp⟩, id⟩

/-- The dispatch loop has no close command for client `c` of connection `k` in its hands. -/
def DispatchPc.NoClose (k : Nat) (c : ClientId) : DispatchPc → Prop
  | .gotClose m => m.clientId ≠ c
  | .sendClose k' _ => k' ≠ k
  | _ => True

namespace System
variable {cfg : SystemConfig} {tr : List SystemEvent} {s : System} {k : Nat} {c : ClientId}

/-- No close command for client `c` is on its way to its connection `k`, and none will be sent. -/
structure Unnoticed (cfg : SystemConfig) (k : Nat) (c : ClientId) (s : System) : Prop where
  hub : s.1.hub.Forgot c
  queue : ∀ m ∈ s.2 (.clientClose cfg.clientName), m.clientId ≠ c
  dispatch : s.1.router.dispatch.NoClose k c
  conn : ∃ conn, s.1.router.conns k = some conn ∧ conn.Uninformed

namespace Unnoticed
variable {e : SystemEvent}

theorem hub_next (hu : Unnoticed cfg k c s) (he : (automaton cfg).enabled s e)
    (hnew : ∀ name t, e ≠ .hub (.createClient name c t)) :
    ((automaton cfg).next s e).1.hub.Forgot c := by
  cases e with
  | hub e =>
    refine hu.hub.next (enabled_hub he) ?_
    cases e <;> simp only [HubEvent.createdId, ne_eq, reduceCtorEq, not_false_eq_true,
      Option.some.injEq]
    rintro rfl
    exact hnew _ _ rfl
  | cancel => exact hu.hub.next (e := .cancel) trivial (by simp [HubEvent.createdId])
  | _ => exact hu.hub

theorem queue_next (hu : Unnoticed cfg k c s) (he : (automaton cfg).enabled s e) :
    ∀ m ∈ ((automaton cfg).next s e).2 (.clientClose cfg.clientName), m.clientId ≠ c := by
  intro m hm
  rcases Queues.mem_apply hm with hm | hop
  · exact hu.queue m hm
  · -- only a kick sends to the client handler
    cases sends_of_op hop with
    | @kickClient g _ _ _ _ _ =>
      have hharmless := hu.hub.harmless g
      rw [show s.1.hub.pc g = _ from enabled_hub he] at hharmless
      exact hharmless

theorem dispatch_next (h : Run cfg tr s) (hk : IsConnection k c tr) (hu : Unnoticed cfg k c s)
    (he : (automaton cfg).enabled s e) :
    ((automaton cfg).next s e).1.router.dispatch.NoClose k c := by
  cases e with
  | router e =>
    cases e
    case recvClose m => exact hu.queue m (List.mem_of_mem_head? he.2)
    case routeClose m k' =>
      -- a command for another client is routed to a connection of that client
      have hd : m.clientId ≠ c := by
        have hd := hu.dispatch
        rw [(enabled_router he).1] at hd
        exact hd
      rintro rfl
      have hk' := Router.lookup_registered h.router (enabled_router he).2
      exact hd (Option.some.inj (hk'.symm.trans hk))
    case exit | recvMessage | recvVerdict | routeMessage | routeVerdict | noRouteClose
        | noRouteMessage | noRouteVerdict | pushClose | pushMessage | pushVerdict => trivial
    all_goals exact hu.dispatch
  | _ => exact hu.dispatch

/-- What connection `k` does is not a close notice. -/
theorem conn_next (h : Run cfg tr s) (hu : Unnoticed cfg k c s)
    (he : (automaton cfg).enabled s e) :
    (∃ conn, ((automaton cfg).next s e).1.router.conns k = some conn ∧ conn.Uninformed) ∧
      ∀ e', e = .router (.conn k e') → ¬Connection.Notifies e' := by
  obtain ⟨conn, hconn, hun⟩ := hu.conn
  rcases conn_step h hconn he with ⟨hnot, hsame⟩ | ⟨e', hpart, hen, hnext⟩
  · exact ⟨⟨conn, hsame, hun⟩, fun e' heq => (hnot e' heq).elim⟩
  · have hclose : ∀ m, e' ≠ .pushClose m := by
      rintro m rfl
      have hpush : s.1.router.enabled (.pushClose k m) :=
        (Components.routerComponent cfg).enabled he.1 hpart
      have hd := hu.dispatch
      rw [hpush.1] at hd
      exact hd rfl
    obtain ⟨hun', hnotifies⟩ := hun.next hen hclose
    refine ⟨⟨_, hnext, hun'⟩, ?_⟩
    rintro e'' rfl hn
    cases e'' <;> first | exact False.elim hn | skip
    all_goals
      cases e' <;> cases hpart
      exact hnotifies hn

end Unnoticed

/-- The transport of a client that the hub has forgotten is never told. -/
theorem Unnoticed.never (h : Run cfg tr s) (hk : IsConnection k c tr)
    (hcreated : c ∈ (hubTrace tr).filterMap HubEvent.createdId) (hu : Unnoticed cfg k c s)
    {tr' : List SystemEvent} {s' : System} (hr : (automaton cfg).Run s tr' s')
    (hlt : allocations (tr ++ tr') < 2 ^ 32) : Unnoticed cfg k c s' ∧ ¬Notified k tr' := by
  induction hr with
  | nil => exact ⟨hu, by simp [Notified]⟩
  | @snoc tr' s' e hr he ih =>
    have hlt' : allocations (tr ++ tr') < 2 ^ 32 :=
      (allocations_le (List.prefix_append _ _)).trans_lt hlt
    obtain ⟨hu', hnot⟩ := ih hlt'
    have hrun := h.trans hr
    -- the client's id is taken
    have hnew : ∀ name t, e ≠ .hub (.createClient name c t) := by
      rintro name t rfl
      have hall : Run cfg (tr ++ tr' ++ [_]) _ := hrun.snoc he
      rw [← List.append_assoc] at hlt
      have hnodup := Hub.createdIds_nodup hall.hub hlt
      simp only [hubTrace, List.filterMap_append] at hnodup hcreated
      refine List.disjoint_of_nodup_append hnodup (List.mem_append_left _ hcreated) ?_
      simp [SystemEvent.hubPart, HubEvent.createdId]
    obtain ⟨hconn, hquiet⟩ := hu'.conn_next hrun he
    refine ⟨⟨hu'.hub_next he hnew, hu'.queue_next he, hu'.dispatch_next hrun hk.mono he, hconn⟩, ?_⟩
    rintro ⟨e', hn, hmem⟩
    rcases List.mem_append.mp hmem with hmem | hmem
    · exact hnot ⟨e', hn, hmem⟩
    · exact hquiet e' (List.mem_singleton.mp hmem).symm hn

end System

/-- Client 1 is accepted, kicked, and told so by the dispatch loop. -/
def Sample.closed : List SystemEvent :=
  Sample.opened ++ Sample.asked ++ Sample.answered ++ Sample.accepted ++ Sample.kicked ++ [
    .router (.recvClose (Hub.closeCommand 1 none)),
    .router (.routeClose (Hub.closeCommand 1 none) 0),
    .router (.pushClose 0 (Hub.closeCommand 1 none))]

namespace System

theorem close_notice_sample :
    ∃ tr' s', (automaton Sample.config).Run
        ((automaton Sample.config).exec (start Sample.config) Sample.closed) tr' s' ∧
      allocations (Sample.closed ++ tr') < 2 ^ 32 ∧ Notified 0 (Sample.closed ++ tr') := by
  have hrun : Run Sample.config Sample.closed _ := Automaton.Admits.run (by decide +kernel)
  obtain ⟨c, hc⟩ := Option.isSome_iff_exists.mp (show (((automaton Sample.config).exec
    (start Sample.config) Sample.closed).1.router.conns 0).isSome by decide +kernel)
  have hstate : (((automaton Sample.config).exec (start Sample.config)
      Sample.closed).1.router.conns 0).map (fun c => (c.routing, c.proxyListener)) =
      some (.forked, .select) := by decide +kernel
  rw [hc] at hstate
  simp only [Option.map_some, Option.some.injEq, Prod.mk.injEq] at hstate
  refine close_notice_reaches_transport (m := Hub.closeCommand 1 none) hrun (by decide +kernel) hc
    ⟨Sample.verdict, by simp [Sample.closed, Sample.accepted], rfl⟩ (by simp [Sample.closed]) ?_
    (fun d hd => ?_) (.inl hstate.1)
  · simp [Sample.closed, Sample.opened, Sample.asked, Sample.answered, Sample.accepted,
      Sample.pushed, Sample.told, Sample.kicked]
  · rw [hstate.2] at hd
    cases hd

/-- The transport listener of client 1 takes the close command: its transport is never told. -/
theorem transport_listener_loses_close :
    ¬∀ (cfg : SystemConfig) (tr : List SystemEvent) (s : System) (k : Nat),
      Run cfg tr s → allocations tr < 2 ^ 32 → Accepted k tr →
        (∃ m, .router (.pushClose k m) ∈ tr) →
          ∃ tr' s', (automaton cfg).Run s tr' s' ∧ allocations (tr ++ tr') < 2 ^ 32 ∧
            Notified k (tr ++ tr') := by
  intro hall
  let tr := Sample.closed ++
    [.router (.conn 0 (.transportCloseRequest (Hub.closeCommand 1 none)))]
  have hrun : Run Sample.config tr _ := Automaton.Admits.run (by decide +kernel)
  obtain ⟨tr', s', hr', hlt, e, hn, hmem⟩ := hall _ tr _ 0 hrun (by decide +kernel)
    ⟨Sample.verdict, by simp [tr, Sample.closed, Sample.accepted], rfl⟩
    ⟨Hub.closeCommand 1 none, by simp [tr, Sample.closed]⟩
  have hunnoticed : Unnoticed Sample.config 0 1
      ((automaton Sample.config).exec (start Sample.config) tr) := by
    obtain ⟨c, hc⟩ := Option.isSome_iff_exists.mp (show (((automaton Sample.config).exec
      (start Sample.config) tr).1.router.conns 0).isSome by decide +kernel)
    have hstate : (((automaton Sample.config).exec (start Sample.config) tr).1.router.conns 0).map
        (fun c => (c.routing, c.closeRequest, c.proxyListener)) =
        some (.forked, none, .select) := by decide +kernel
    rw [hc] at hstate
    simp only [Option.map_some, Option.some.injEq, Prod.mk.injEq] at hstate
    have hrest : ∀ g,
        (((automaton Sample.config).exec (start Sample.config) tr).1.hub.pc g).Resting := by
      decide +kernel
    exact ⟨⟨by decide +kernel, fun g => (hrest g).harmless 1⟩, by decide +kernel, trivial,
      c, hc, hstate.1, hstate.2.1, .inl hstate.2.2⟩
  have hnot := (hunnoticed.never hrun (by decide +kernel) (by decide +kernel) hr' hlt).2
  rcases List.mem_append.mp hmem with hmem | hmem
  · cases e <;> first | exact False.elim hn | skip
    all_goals
      simp [tr, Sample.closed, Sample.opened, Sample.asked, Sample.answered, Sample.accepted,
        Sample.pushed, Sample.told, Sample.kicked] at hmem
  · exact hnot ⟨e, hn, hmem⟩

end System
end Spanreed
