import Spanreed.Dispatch
import Spanreed.ConnectionEnd
import Spanreed.Lib.Progress

/-! # Loops of a connection after cancellation

Once the root context is cancelled its `Done` channel is always ready. The arms that receive from it
in the transport's writer loop and in the router's proxy listener are empty, so these loops go round
for ever (`cancelled_loop_spins`). Nothing goes round exactly if the writer has returned and the
proxy listener is not in its loop and cannot get there (`loops_end_iff`). -/

namespace Spanreed
open Flatbuffers Automata

/-- The steps of one connection's goroutines, with the empty arm of the writer. -/
inductive LoopEvent
  | conn (e : ConnectionEvent)
  | writerDone

/-- What comes from outside: the client, the dispatch loop of the router and the shutdown. -/
def ConnectionEvent.Arrives : ConnectionEvent → Prop
  | .cancel | .put _ | .pushMessage _ | .pushClose _ | .pushVerdict _ => True
  | _ => False

def LoopEvent.Arrives : LoopEvent → Prop
  | .conn e => e.Arrives
  | .writerDone => False

namespace Connection
open ConnectionEvent

/-- One connection once its context is cancelled. -/
def loops (params : ClientConnectionRouterParams) : Automaton Connection LoopEvent where
  enabled c
    | .conn e => c.enabled params e
    -- the arm of the cancelled context is empty: the loop goes round
    | .writerDone => c.writerReturned = false ∧ c.done = true
  next c
    | .conn e => c.next e
    | .writerDone => c

variable (params : ClientConnectionRouterParams) (c : Connection)

/-- The routing goroutine has taken an accepting verdict, or can still find one. -/
def MayFork : Prop :=
  c.routing = .markConnected ∨ (∃ reason appData, c.routing = .emitVerdict true reason appData) ∨
    c.ReachesVerdict ∧ ∀ v, c.verdict = some v → v.verdict = true

/-- The proxy listener is in its loop, or can still get there. -/
def ProxyLoops : Prop :=
  match c.proxyListener with
  | .notStarted => c.MayFork
  | .select => True
  | .emit _ => c.outgoingPackets.length < params.outgoingMessageQueueLength
  | .closeTransport | .returned => False

/-- Nothing of the connection goes round. -/
structure Settled : Prop where
  writer : c.writerReturned = true
  proxyListener : ¬c.ProxyLoops params
  sane : c.Sane params
  started : c.proxyListener = .notStarted ↔ c.routing ≠ .forked

variable {params c} {e : ConnectionEvent}

/-! ## Nothing goes round -/

def RoutingPc.steps : RoutingPc → Nat
  | .awaitAuth => 9
  | .openNow _ => 8
  | .openSend _ => 7
  | .awaitVerdict => 6
  | .emitVerdict .. => 5
  | .closeTransport => 4
  | .markConnected => 3
  | .authClose => 1
  | .forked | .returned => 0

def ProxyListenerPc.steps : ProxyListenerPc → Nat
  | .closeTransport => 1
  | _ => 0

def TransportListenerPc.steps : TransportListenerPc → Nat
  | .messageNow _ => 4
  | .messageSend _ => 3
  | .select => 2
  | .closeSend _ => 1
  | .notStarted | .returned => 0

def ReaderPc.steps : ReaderPc → Nat
  | .reading => 4
  | .cancelled => 2
  | .returned => 0

/-- The steps that are left when nothing goes round. -/
def steps (c : Connection) : Nat :=
  RoutingPc.steps c.routing + ProxyListenerPc.steps c.proxyListener +
    TransportListenerPc.steps c.transportListener + ReaderPc.steps c.reader +
    3 * c.incomingPackets.length + c.clientClose.toNat + (!c.removed).toNat

theorem mayFork_next (hs : c.Sane params) (he : c.enabled params e) (h : (c.next e).MayFork) :
    c.MayFork := by
  rcases h with hmark | ⟨reason, appData, hemit⟩ | ⟨hreach, hv⟩
  · cases e
    case emitVerdict accepted reason appData =>
      cases accepted
      · cases hmark
      · exact .inr (.inl ⟨reason, appData, he.1⟩)
    case authPacket =>
      simp only [next] at hmark
      split at hmark <;> cases hmark
    all_goals first | exact .inl hmark | cases hmark
  · cases e
    case verdictRecv v =>
      have haccepts : v.verdict = true := (RoutingPc.emitVerdict.inj hemit).1
      refine .inr (.inr ⟨by simp [ReachesVerdict, he.1], ?_⟩)
      intro v' hv'
      obtain rfl := Option.some.inj (he.2.symm.trans hv')
      exact haccepts
    case emitVerdict accepted _ _ => cases accepted <;> cases hemit
    case authPacket =>
      simp only [next] at hemit
      split at hemit <;> cases hemit
    all_goals first | exact .inr (.inl ⟨reason, appData, hemit⟩) | cases hemit
  · refine .inr (.inr ⟨reachesVerdict_next he hs.started hreach, ?_⟩)
    cases e
    case pushVerdict v =>
      intro v' hv'
      rw [show c.verdict = none from he] at hv'
      cases hv'
    case verdictRecv v => exact hreach.elim
    all_goals exact hv

theorem Settled.next (h : c.Settled params) (he : c.enabled params e)
    (hsane : (c.next e).Sane params)
    (hstarted : (c.next e).proxyListener = .notStarted ↔ (c.next e).routing ≠ .forked) :
    (c.next e).Settled params := by
  obtain ⟨hw, hp, hs, hst⟩ := h
  refine ⟨?_, ?_, hsane, hstarted⟩
  · cases e <;> first | exact hw | rfl
  · intro hloops
    unfold ProxyLoops at hp hloops
    have keep : (c.next e).proxyListener = c.proxyListener →
        c.outgoingPackets.length ≤ (c.next e).outgoingPackets.length → False := by
      intro hsame hle
      rw [hsame] at hloops
      cases hl : c.proxyListener <;> simp only [hl] at hp hloops
      case notStarted => exact hp (mayFork_next hs he hloops)
      case select => exact hp trivial
      case emit => exact hp (lt_of_le_of_lt hle hloops)
    cases e
    case markConnected =>
      have hr : c.routing = .markConnected := he
      rw [hst.mpr (by simp [hr])] at hp
      exact hp (.inl hr)
    case proxyMessage | proxyCloseRequest =>
      rw [he.1] at hp
      exact hp trivial
    case proxyEmit =>
      rw [he.1] at hp
      exact hp he.2
    case proxyCloseTransport => exact hloops
    case take | writeFails | takeClose => simp [enabled, hw] at he
    case emitVerdict => exact keep rfl (by simp [Connection.next])
    all_goals exact keep rfl le_rfl

/-- When nothing goes round, every step but an arrival leaves fewer. -/
theorem Settled.steps_lt (h : c.Settled params) (he : c.enabled params e) (harr : ¬e.Arrives) :
    (c.next e).steps < c.steps := by
  obtain ⟨hw, hp, hs, hst⟩ := h
  unfold steps
  cases e
  case cancel | put | pushMessage | pushClose | pushVerdict => exact (harr trivial).elim
  case take | writeFails | takeClose => simp [enabled, hw] at he
  case proxyDone | proxyCloseRequest | proxyMessage =>
    simp only [ProxyLoops, he.1] at hp
    exact (hp trivial).elim
  case proxyEmit =>
    simp only [ProxyLoops, he.1] at hp
    exact (hp he.2).elim
  case markConnected =>
    have hr : c.routing = .markConnected := he
    simp only [ProxyLoops, hst.mpr (by simp [hr])] at hp
    exact (hp (.inl hr)).elim
  case authPacket packet =>
    obtain ⟨ps, hps⟩ := List.head?_eq_some_iff.mp he.2
    simp only [Connection.next, he.1, hps, RoutingPc.steps]
    split <;> simp <;> omega
  case transportPacket packet =>
    obtain ⟨ps, hps⟩ := List.head?_eq_some_iff.mp he.2
    simp only [Connection.next, he.1, hps, TransportListenerPc.steps]
    simp
    omega
  case openNow cmd =>
    obtain ⟨authMsg, hr, -⟩ := he
    simp [Connection.next, hr, RoutingPc.steps]
  case transportNow m =>
    obtain ⟨packet, ht, -⟩ := he
    simp [Connection.next, ht, TransportListenerPc.steps]
  case emitVerdict accepted reason appData =>
    cases accepted <;> simp [Connection.next, he.1, RoutingPc.steps]
  all_goals
    simp only [enabled] at he
    simp [Connection.next, RoutingPc.steps, ProxyListenerPc.steps, TransportListenerPc.steps,
      ReaderPc.steps, he]
    try omega

section
variable {id : ClientId} {done : Bool} {tr : List ConnectionEvent}

theorem ends_of_settled (h : (automaton params).Run (opened id done) tr c)
    (hw : c.writerReturned = true) (hp : ¬c.ProxyLoops params) :
    (loops params).Ends LoopEvent.Arrives c := by
  refine Automaton.ends_of_measure (f := steps) (I := fun c =>
    ∃ tr, (automaton params).Run (opened id done) tr c ∧ c.Settled params) ?_ ?_
    ⟨tr, h, hw, hp, sane h, (notStarted_iff h).2⟩
  · rintro c e ⟨tr, hr, hset⟩ he
    cases e with
    | conn e =>
      have hr' := hr.snoc he
      exact ⟨_, hr', hset.next he (sane hr') (notStarted_iff hr').2⟩
    | writerDone => exact ⟨tr, hr, hset⟩
  · rintro c e ⟨tr, hr, hset⟩ he harr
    cases e with
    | conn e => exact hset.steps_lt he harr
    | writerDone =>
      have hw : c.writerReturned = false := he.1
      rw [hset.writer] at hw
      cases hw

/-! ## Something goes round -/

theorem done_of_cancel (h : (automaton params).Run (opened id done) tr c)
    (hc : done = true ∨ .cancel ∈ tr) : c.done = true := by
  induction h with
  | nil => simpa [opened] using hc
  | @snoc tr c e _ _ ih =>
    cases e
    case cancel | readerStops | writeFails | takeClose => rfl
    all_goals exact ih (hc.imp_right fun hmem => by simpa using hmem)

theorem loops_run {c' : Connection} (h : (automaton params).Run c tr c') :
    (loops params).Run c (tr.map .conn) c' := by
  induction h with
  | nil => exact .nil
  | snoc _ he ih =>
    rw [List.map_append]
    exact Automaton.Run.snoc ih he

/-- An accepting verdict in the hands of the routing goroutine starts the proxy listener. -/
theorem forks_of_accepted (h : (automaton params).Run (opened id done) tr c) {reason : Bytes}
    {appData : Option Bytes} (hr : c.routing = .emitVerdict true reason appData) :
    ∃ tr' c', (automaton params).Run c tr' c' ∧ c'.proxyListener = .select := by
  have hroom : c.outgoingPackets.length < params.outgoingMessageQueueLength := by
    rw [packets_eq_nil h hr]
    exact params.outgoing_pos
  refine ⟨[.emitVerdict true reason appData, .markConnected], _,
    .cons ⟨hr, hroom⟩ (.single ?_), rfl⟩
  simp [automaton, enabled, next]

theorem forks_of_mayFork (h : (automaton params).Run (opened id done) tr c) (hf : c.MayFork) :
    ∃ tr' c', (automaton params).Run c tr' c' ∧ c'.proxyListener = .select := by
  rcases hf with hmark | ⟨reason, appData, hemit⟩ | ⟨hreach, hv⟩
  · exact ⟨[.markConnected], _, .single hmark, rfl⟩
  · exact forks_of_accepted h hemit
  · obtain ⟨c₁, ⟨tr₁, hr₁, -⟩, hat, hverdict, -⟩ :
        ∃ c', c.Gets params LockFree c' ∧ c.AtVerdict c' := gets_awaitVerdict (sane h).parsed hreach
    obtain ⟨tr₂, c₂, v, hr₂, hat₂, hv₂, haccepts⟩ : ∃ tr₂ c₂ v, (automaton params).Run c₁ tr₂ c₂ ∧
        c₂.routing = .awaitVerdict ∧ c₂.verdict = some v ∧ v.verdict = true := by
      cases hv₁ : c₁.verdict with
      | none => exact ⟨[.pushVerdict Sample.verdict], _, _, .single hv₁, hat, rfl, rfl⟩
      | some v => exact ⟨[], c₁, v, .nil, hat, hv₁, hv v (hverdict ▸ hv₁)⟩
    have hr₃ : (automaton params).Run c₂ [.verdictRecv v] (c₂.next (.verdictRecv v)) :=
      .single ⟨hat₂, hv₂⟩
    have hr := (hr₁.trans hr₂).trans hr₃
    have hemit : (c₂.next (.verdictRecv v)).routing =
        .emitVerdict true (v.error.getD []) v.appData := by simp [next, haccepts]
    obtain ⟨tr', c', hr', hselect⟩ := forks_of_accepted (h.trans hr) hemit
    exact ⟨_, c', hr.trans hr', hselect⟩

theorem not_ends_of_proxyLoops (h : (automaton params).Run (opened id done) tr c)
    (hd : c.done = true) (hp : c.ProxyLoops params) :
    ¬(loops params).Ends LoopEvent.Arrives c := by
  obtain ⟨tr', c', hr', hselect⟩ :
      ∃ tr' c', (automaton params).Run c tr' c' ∧ c'.proxyListener = .select := by
    cases hl : c.proxyListener <;> simp only [ProxyLoops, hl] at hp
    case notStarted => exact forks_of_mayFork h hp
    case select => exact ⟨[], c, .nil, hl⟩
    case emit d => exact ⟨[.proxyEmit d], _, .single ⟨hl, hp⟩, rfl⟩
  have hd' : c'.done = true := hr'.invariant (I := fun c => c.done = true) hd fun c e ih _ => by
    cases e <;> first | exact ih | rfl
  have hen : (loops params).enabled c' (.conn .proxyDone) := ⟨hselect, hd'⟩
  exact Automaton.not_ends_of_run (loops_run hr') (Automaton.not_ends_of_loop hen rfl not_false)

/-- After the root context is cancelled and arrivals stop, the goroutines of a connection come to
rest exactly if the writer has returned and the proxy listener is not in its loop and cannot get
there any more. -/
theorem loops_end_iff (h : (automaton params).Run (opened id done) tr c)
    (hc : done = true ∨ .cancel ∈ tr) :
    (loops params).Ends LoopEvent.Arrives c ↔ c.writerReturned = true ∧ ¬c.ProxyLoops params := by
  have hd := done_of_cancel h hc
  constructor
  · intro hends
    refine ⟨?_, fun hp => not_ends_of_proxyLoops h hd hp hends⟩
    by_contra hw
    have hen : (loops params).enabled c .writerDone := ⟨by simpa using hw, hd⟩
    exact Automaton.not_ends_of_loop hen rfl not_false hends
  · rintro ⟨hw, hp⟩
    exact ends_of_settled h hw hp

end

/-- A client that closed while it waited for the verdict; its transport is told, then the root
context is cancelled. -/
def closedThenCancelled : List ConnectionEvent := closesWaiting ++ [.takeClose, .cancel]

theorem loops_end_closedThenCancelled :
    (loops (createClientConnectionRouter 0 0)).Ends LoopEvent.Arrives
      ((automaton (createClientConnectionRouter 0 0)).exec (opened 1 false) closedThenCancelled) := by
  have hr : (automaton (createClientConnectionRouter 0 0)).Run (opened 1 false)
      closedThenCancelled _ := Automaton.Admits.run (by decide +kernel)
  refine (loops_end_iff hr (.inr (by simp [closedThenCancelled]))).mpr ⟨rfl, ?_⟩
  rintro (hmark | ⟨reason, appData, hemit⟩ | ⟨hreach, -⟩)
  · cases hmark
  · cases hemit
  · exact hreach

/-- A client is accepted, then the root context is cancelled. -/
def acceptedThenCancelled : List ConnectionEvent := [.put Sample.authPacket,
  .authPacket Sample.authPacket, .openNow Sample.openCommand, .openSend Sample.openCommand,
  .pushVerdict Sample.verdict, .verdictRecv Sample.verdict, .emitVerdict true [] none,
  .markConnected, .cancel]

/-- Its proxy listener goes round without doing anything. -/
theorem cancelled_loop_spins :
    ¬∀ params id done tr c, (automaton params).Run (opened id done) tr c →
      done = true ∨ .cancel ∈ tr → (loops params).Ends LoopEvent.Arrives c := by
  intro hall
  have hr : (automaton (createClientConnectionRouter 0 0)).Run (opened 1 false)
      acceptedThenCancelled _ := Automaton.Admits.run (by decide +kernel)
  have hends := hall _ _ _ _ _ hr (.inr (by simp [acceptedThenCancelled]))
  have hen : (loops (createClientConnectionRouter 0 0)).enabled
      ((automaton (createClientConnectionRouter 0 0)).exec (opened 1 false) acceptedThenCancelled)
      (.conn .proxyDone) := ⟨rfl, rfl⟩
  exact Automaton.not_ends_of_loop hen rfl not_false hends

end Connection
end Spanreed
