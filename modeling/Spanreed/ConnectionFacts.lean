import Spanreed.Connection
import Spanreed.Lib.Pipeline

/-! # What one connection does with packets, messages and verdicts

Facts about every history of a connection, whatever the transport, the dispatch loop and the
scheduler do:

* upstream, the packets after the first go to the hub in order and none is dropped
  (`exact_incoming`, `exact_transportListener`, `puts_eq`);
* downstream, the messages pushed by the dispatch loop reach the transport in order and none is
  dropped (`exact_proxyListener`), after one accepting verdict (`emitted_shape`);
* what must have happened before an open command, an acceptance or a message. -/

namespace Spanreed
open Flatbuffers Automata

namespace ConnectionEvent

/-- A packet the transport puts on `IncomingMessages`. -/
def putPacket : ConnectionEvent → Option Slice
  | .put packet => some packet
  | _ => none

/-- The packet the routing goroutine takes as auth message. -/
def authTaken : ConnectionEvent → Option Slice
  | .authPacket packet => some packet
  | _ => none

/-- A packet the transport listener takes. -/
def transportTaken : ConnectionEvent → Option Slice
  | .transportPacket packet => some packet
  | _ => none

def packetTaken : ConnectionEvent → Option Slice
  | .authPacket packet | .transportPacket packet => some packet
  | _ => none

/-- The payload of a message for the hub. -/
def sentData : ConnectionEvent → Option (Option Bytes)
  | .transportSend m => some m.data
  | _ => none

/-- The payload of a message from the dispatch loop. -/
def pushedData : ConnectionEvent → Option (Option Bytes)
  | .pushMessage m => some m.data
  | _ => none

/-- A packet handed to the transport on `OutgoingMessages`. -/
def emitted : ConnectionEvent → Option Packet
  | .emitVerdict accepted reason appData => some (.verdict accepted reason appData)
  | .proxyEmit d => some (.data d)
  | _ => none

def emittedData : ConnectionEvent → Option (Option Bytes)
  | .proxyEmit d => some d
  | _ => none

/-- The routing goroutine consumes an accepting verdict. -/
def Accepts : ConnectionEvent → Prop
  | .verdictRecv v => v.verdict = true
  | _ => False

/-- The route context of the connection is cancelled. -/
def Cancels : ConnectionEvent → Prop
  | .cancel | .readerStops | .writeFails _ | .takeClose => True
  | _ => False

instance : ∀ e : ConnectionEvent, Decidable e.Cancels := by
  intro e
  cases e <;> dsimp only [Cancels] <;> infer_instance

end ConnectionEvent

/-- The payload a packet becomes. -/
def payload (packet : Slice) : Option Bytes := some packet.bytes

namespace Connection
open ConnectionEvent

/-- What the transport listener has in its hands. -/
def listenerHolds (c : Connection) : List (Option Bytes) :=
  match c.transportListener with
  | .messageNow packet => [payload packet]
  | .messageSend m => [m.data]
  | _ => []

/-- What the proxy listener has in its hands, then what the dispatch loop has pushed. -/
def proxyHolds (c : Connection) : List (Option Bytes) :=
  (match c.proxyListener with
    | .emit d => [d]
    | _ => []) ++ c.outgoingMessages.map ClientMessage.data

section
variable {params : ClientConnectionRouterParams} {id : ClientId} {done : Bool}
  {tr : List ConnectionEvent} {c : Connection}

theorem clientId_eq (h : (automaton params).Run (opened id done) tr c) : c.clientId = id := by
  refine h.invariant (I := fun c => c.clientId = id) rfl ?_
  intro c e ih _
  cases e <;> exact ih

/-! ## Upstream -/

theorem exact_incoming (h : (automaton params).Run (opened id done) tr c) :
    Exact (tr.filterMap putPacket) (tr.filterMap packetTaken) c.incomingPackets := by
  refine h.exact (p := fun _ => True) (k := incomingPackets) rfl ?_ fun _ _ => trivial
  intro _ c e _ he _
  cases e
  case authPacket packet =>
    obtain ⟨_, hq⟩ := he
    simpa [packetTaken, putPacket, automaton, next] using List.cons_head?_tail hq
  case transportPacket packet =>
    obtain ⟨_, hq⟩ := he
    simpa [packetTaken, putPacket, automaton, next] using List.cons_head?_tail hq
  all_goals simp [packetTaken, putPacket, automaton, next]

/-- The two listeners run exactly when the routing goroutine has forked them. -/
theorem notStarted_iff (h : (automaton params).Run (opened id done) tr c) :
    (c.transportListener = .notStarted ↔ c.routing ≠ .forked) ∧
      (c.proxyListener = .notStarted ↔ c.routing ≠ .forked) := by
  refine h.invariant (I := fun c => (c.transportListener = .notStarted ↔ c.routing ≠ .forked) ∧
    (c.proxyListener = .notStarted ↔ c.routing ≠ .forked)) (by simp [opened]) ?_
  intro c e ih he
  cases e <;> simp only [automaton, enabled, next] at he ⊢ <;> first | exact ih | grind

theorem exact_transportListener (h : (automaton params).Run (opened id done) tr c) :
    Exact (tr.filterMap fun e => (transportTaken e).map payload) (tr.filterMap sentData)
      c.listenerHolds := by
  refine h.exact (p := fun _ => True) (k := listenerHolds) rfl ?_ fun _ _ => trivial
  intro _ c e hr he _
  cases e <;> simp only [automaton, enabled] at he
  case markConnected =>
    have hl := (notStarted_iff hr).1.mpr (by simp [he])
    simp [automaton, next, transportTaken, sentData, listenerHolds, hl]
  case transportNow m =>
    obtain ⟨packet, hl, hm⟩ := he
    rw [hm]
    simp [automaton, next, transportTaken, sentData, listenerHolds, hl, clientMessage, payload]
  case transportDone | transportCloseRequest | transportPacket =>
    simp [automaton, next, transportTaken, sentData, listenerHolds, he.1]
  case transportSend | transportClose =>
    simp [automaton, next, transportTaken, sentData, listenerHolds, he]
  all_goals simp [automaton, next, transportTaken, sentData, listenerHolds]

theorem transportTaken_eq_nil (h : (automaton params).Run (opened id done) tr c)
    (hc : c.transportListener = .notStarted) : tr.filterMap transportTaken = [] := by
  induction h with
  | nil => rfl
  | @snoc tr c e _ he ih =>
    rw [List.filterMap_append]
    cases e <;> simp only [automaton, enabled, next, transportTaken, List.filterMap_cons,
      List.filterMap_nil, List.append_nil] at he hc ⊢ <;> first | exact ih hc | grind

/-- The routing goroutine takes at most one packet, before the transport listener takes any. -/
theorem packetTaken_eq (h : (automaton params).Run (opened id done) tr c) :
    tr.filterMap packetTaken = tr.filterMap authTaken ++ tr.filterMap transportTaken ∧
      (c.routing = .awaitAuth → tr.filterMap authTaken = []) := by
  induction h with
  | nil => simp
  | @snoc tr c e hr he ih =>
    obtain ⟨ih₁, ih₂⟩ := ih
    simp only [List.filterMap_append]
    cases e
    case authPacket packet =>
      have hquiet := transportTaken_eq_nil hr ((notStarted_iff hr).1.mpr (by simp [he.1]))
      refine ⟨?_, ?_⟩
      · simp [ih₁, hquiet, packetTaken, authTaken, transportTaken]
      · simp only [automaton, next]
        split <;> simp
    case transportPacket packet =>
      refine ⟨by simp [ih₁, packetTaken, authTaken, transportTaken], ?_⟩
      simpa [automaton, next, authTaken] using ih₂
    all_goals
      simp only [automaton, enabled, next, packetTaken, authTaken, transportTaken,
        List.filterMap_cons, List.filterMap_nil, List.append_nil] at he ⊢
      exact ⟨ih₁, by first | exact ih₂ | grind⟩

/-- Past the first phase, the routing goroutine has taken one packet. -/
theorem authTaken_eq (h : (automaton params).Run (opened id done) tr c)
    (hc : c.routing ≠ .awaitAuth ∧ c.routing ≠ .authClose ∧ c.routing ≠ .returned) :
    ∃ packet, tr.filterMap authTaken = [packet] := by
  induction h with
  | nil => simp [opened] at hc
  | @snoc tr c e hr he ih =>
    rw [List.filterMap_append]
    cases e
    case authPacket packet =>
      exact ⟨packet, by rw [(packetTaken_eq hr).2 he.1]; rfl⟩
    all_goals
      simp only [automaton, enabled, next, authTaken, List.filterMap_cons, List.filterMap_nil,
        List.append_nil] at he hc ⊢
      first | exact ih hc | (apply ih; grind)

/-- The packet taken as auth message is the first the transport put. -/
theorem first_packet (h : (automaton params).Run (opened id done) tr c) {packet : Slice}
    (hp : .authPacket packet ∈ tr) : (tr.filterMap putPacket).head? = some packet := by
  have htaken : tr.filterMap authTaken = [packet] := by
    induction h with
    | nil => cases hp
    | @snoc tr c e hr he ih =>
      rcases List.mem_append.mp hp with hold | hnew
      · cases e
        case authPacket packet' =>
          have hmem : packet ∈ tr.filterMap authTaken :=
            List.mem_filterMap.mpr ⟨.authPacket packet, hold, rfl⟩
          simp [(packetTaken_eq hr).2 he.1] at hmem
        all_goals
          rw [filterMap_snoc_none rfl]
          exact ih hold
      · obtain rfl := List.mem_singleton.mp hnew
        rw [filterMap_snoc_some (f := authTaken) rfl, (packetTaken_eq hr).2 he.1, List.nil_append]
  have hin := exact_incoming h
  unfold Exact at hin
  rw [hin, (packetTaken_eq h).1, htaken]
  rfl

/-- Past the first phase, the packets after the first are those that went to the hub, then those
the transport listener holds, then those still queued. -/
theorem puts_eq (h : (automaton params).Run (opened id done) tr c)
    (hc : c.routing ≠ .awaitAuth ∧ c.routing ≠ .authClose ∧ c.routing ≠ .returned) :
    Exact ((tr.filterMap putPacket).tail.map payload) (tr.filterMap sentData)
      (c.listenerHolds ++ c.incomingPackets.map payload) := by
  have hin := exact_incoming h
  have hl := exact_transportListener h
  obtain ⟨packet, hauth⟩ := authTaken_eq h hc
  unfold Exact at *
  rw [hin, (packetTaken_eq h).1, hauth, List.singleton_append, List.cons_append, List.tail_cons,
    List.map_append, ← List.append_assoc, ← hl, List.map_filterMap]

/-- Nothing goes to the hub before the listeners run. -/
theorem sentData_eq_nil (h : (automaton params).Run (opened id done) tr c)
    (hc : c.routing ≠ .forked) : tr.filterMap sentData = [] := by
  have hl := exact_transportListener h
  have hquiet := transportTaken_eq_nil h ((notStarted_iff h).1.mpr hc)
  rw [← List.map_filterMap, hquiet, List.map_nil] at hl
  exact (List.append_eq_nil_iff.mp hl.symm).1

/-- What goes to the hub is, in order, a subsequence of the packets after the first. -/
theorem sublist_puts (h : (automaton params).Run (opened id done) tr c) :
    (tr.filterMap sentData).Sublist ((tr.filterMap putPacket).tail.map payload) := by
  by_cases hc : c.routing = .forked
  · exact (puts_eq h (by simp [hc])).lossy.sublist
  · rw [sentData_eq_nil h hc]
    exact List.nil_sublist _

/-! ## Downstream -/

theorem exact_proxyListener (h : (automaton params).Run (opened id done) tr c) :
    Exact (tr.filterMap pushedData) (tr.filterMap emittedData) c.proxyHolds := by
  refine h.exact (p := fun _ => True) (k := proxyHolds) rfl ?_ fun _ _ => trivial
  intro _ c e hr he _
  cases e <;> simp only [automaton, enabled] at he
  case proxyMessage m =>
    obtain ⟨hl, hq⟩ := he
    cases hom : c.outgoingMessages with
    | nil => simp [hom] at hq
    | cons m' rest =>
      obtain rfl : m' = m := by simpa [hom] using hq
      simp [automaton, next, pushedData, emittedData, proxyHolds, hl, hom]
  case markConnected =>
    have hl := (notStarted_iff hr).2.mpr (by simp [he])
    simp [automaton, next, pushedData, emittedData, proxyHolds, hl]
  case proxyCloseRequest | proxyEmit | proxyCloseTransport =>
    simp [automaton, next, pushedData, emittedData, proxyHolds, he.1]
  all_goals simp [automaton, next, pushedData, emittedData, proxyHolds]

/-- What a routing goroutine has handed to the transport, by where it is. -/
def EmittedSoFar : RoutingPc → List Packet → Prop
  | .closeTransport, l | .returned, l =>
    l = [] ∨ ∃ reason appData, l = [.verdict false reason appData]
  | .markConnected, l => ∃ reason appData, l = [.verdict true reason appData]
  | .forked, l => ∃ reason appData, ∃ ds : List (Option Bytes),
    l = .verdict true reason appData :: ds.map Packet.data
  | _, l => l = []

theorem emitted_so_far (h : (automaton params).Run (opened id done) tr c) :
    EmittedSoFar c.routing (tr.filterMap emitted) := by
  induction h with
  | nil => rfl
  | @snoc tr c e hr he ih =>
    rw [List.filterMap_append]
    cases e
    case emitVerdict accepted reason appData =>
      rw [he.1] at ih
      cases accepted
      · exact .inr ⟨reason, appData, by rw [ih]; rfl⟩
      · exact ⟨reason, appData, by rw [ih]; rfl⟩
    case proxyEmit d =>
      have hf : c.routing = .forked := by
        by_contra hne
        have := (notStarted_iff hr).2.mpr hne
        simp [he.1] at this
      rw [hf] at ih
      obtain ⟨reason, appData, ds, hds⟩ := ih
      have hnext : ((automaton params).next c (.proxyEmit d)).routing = .forked := hf
      rw [hnext]
      exact ⟨reason, appData, ds ++ [d], by simp [hds, emitted]⟩
    case authPacket packet =>
      rw [he.1] at ih
      simp only [automaton, next, emitted, List.filterMap_cons, List.filterMap_nil,
        List.append_nil]
      split
      · exact ih
      · exact .inl ih
    case markConnected =>
      rw [show c.routing = .markConnected from he] at ih
      obtain ⟨reason, appData, hl⟩ := ih
      exact ⟨reason, appData, [], by
        rw [hl, List.filterMap_cons_none rfl]; rfl⟩
    all_goals
      simp only [automaton, enabled, next, emitted, List.filterMap_cons, List.filterMap_nil,
        List.append_nil] at he ⊢
      first | exact ih | grind [EmittedSoFar]

/-- What is handed to the transport is nothing, one refusing verdict, or one accepting verdict
followed by application data only. -/
theorem emitted_shape (h : (automaton params).Run (opened id done) tr c) :
    tr.filterMap emitted = [] ∨
      (∃ reason appData, tr.filterMap emitted = [.verdict false reason appData]) ∨
      ∃ reason appData, ∃ ds : List (Option Bytes),
        tr.filterMap emitted = .verdict true reason appData :: ds.map Packet.data := by
  have h := emitted_so_far h
  cases hc : c.routing <;> rw [hc] at h
  case closeTransport | returned =>
    rcases h with h | ⟨reason, appData, h⟩
    · exact .inl h
    · exact .inr (.inl ⟨reason, appData, h⟩)
  case markConnected =>
    obtain ⟨reason, appData, h⟩ := h
    exact .inr (.inr ⟨reason, appData, [], h⟩)
  case forked => exact .inr (.inr h)
  all_goals exact .inl h

/-! ## What came before -/

/-- The open command of a connection: its own id, and the fields of the first packet. -/
def OpensWith (id : ClientId) (tr : List ConnectionEvent) (cmd : OpenClientConnectionCommand) :
    Prop :=
  ∃ packet authMsg, .authPacket packet ∈ tr ∧
    safeParseConnectClientMessage packet = .ok authMsg ∧
    openCommand id authMsg cmd.recvTimestamp = some cmd

theorem OpensWith.mono {tr' : List ConnectionEvent} {cmd : OpenClientConnectionCommand}
    (h : OpensWith id tr cmd) : OpensWith id (tr ++ tr') cmd := by
  obtain ⟨packet, authMsg, hmem, hrest⟩ := h
  exact ⟨packet, authMsg, List.mem_append_left _ hmem, hrest⟩

theorem OpensWith.clientId_eq {cmd : OpenClientConnectionCommand} (h : OpensWith id tr cmd) :
    cmd.clientId = id := by
  obtain ⟨packet, authMsg, _, _, hcmd⟩ := h
  simp only [openCommand, Option.bind_eq_bind, Option.bind_eq_some_iff] at hcmd
  obtain ⟨_, _, _, _, hcmd⟩ := hcmd
  rw [← Option.some.inj hcmd]

/-- What the routing goroutine carries was read from the first packet. -/
theorem opens_with (h : (automaton params).Run (opened id done) tr c) :
    (∀ authMsg, c.routing = .openNow authMsg → ∃ packet, .authPacket packet ∈ tr ∧
      safeParseConnectClientMessage packet = .ok authMsg) ∧
    ∀ cmd, c.routing = .openSend cmd → OpensWith id tr cmd := by
  induction h with
  | nil => simp [opened]
  | @snoc tr c e hr he ih =>
    obtain ⟨ih₁, ih₂⟩ := ih
    cases e
    case authPacket packet =>
      simp only [automaton, next]
      split
      · next authMsg hp =>
        refine ⟨fun authMsg' h => ?_, by simp⟩
        cases h
        exact ⟨packet, by simp, hp⟩
      · simp
    case openNow cmd =>
      obtain ⟨authMsg, hnow, hcmd⟩ := he
      obtain ⟨packet, hmem, hparse⟩ := ih₁ authMsg hnow
      rw [clientId_eq hr] at hcmd
      refine ⟨by simp [automaton, next], fun cmd' h => ?_⟩
      cases h
      exact ⟨packet, authMsg, List.mem_append_left _ hmem, hparse, hcmd⟩
    all_goals
      simp only [automaton, enabled, next] at he ⊢
      refine ⟨fun authMsg h => ?_, fun cmd h => ?_⟩
      · first
          | exact (ih₁ authMsg h).imp fun _ h => ⟨List.mem_append_left _ h.1, h.2⟩
          | simp at h
          | split at h <;> simp at h
      · first
          | exact (ih₂ cmd h).mono
          | simp at h
          | split at h <;> simp at h

/-- What the transport listener carries has the client's own id. -/
theorem transportListener_clientId (h : (automaton params).Run (opened id done) tr c) :
    (∀ m, c.transportListener = .messageSend m → m.clientId = id) ∧
      ∀ m, c.transportListener = .closeSend m → m.clientId = id := by
  induction h with
  | nil => simp [opened]
  | @snoc tr c e hr he ih =>
    have hid := clientId_eq hr
    cases e
    case transportNow m =>
      obtain ⟨packet, _, hm⟩ := he
      refine ⟨fun m' h => ?_, by simp [automaton, next]⟩
      cases h
      rw [hm]
      exact hid
    all_goals
      simp only [automaton, next]
      first | exact ih | simp [closeCommand, hid]

/-- The routing goroutine has consumed an accepting verdict. -/
def RoutingPc.Accepted : RoutingPc → Prop
  | .emitVerdict accepted _ _ => accepted = true
  | .markConnected | .forked => True
  | _ => False

theorem accepted_before (h : (automaton params).Run (opened id done) tr c)
    (hc : RoutingPc.Accepted c.routing) : ∃ e ∈ tr, e.Accepts := by
  induction h with
  | nil => exact hc.elim
  | @snoc tr c e _ he ih =>
    cases e
    case verdictRecv v => exact ⟨.verdictRecv v, by simp, hc⟩
    case emitVerdict accepted reason appData =>
      refine happened_append (ih ?_)
      rw [he.1]
      cases accepted
      · exact hc.elim
      · rfl
    case markConnected =>
      exact happened_append (ih (by rw [show c.routing = .markConnected from he]; trivial))
    case authPacket packet =>
      simp only [automaton, next] at hc
      split at hc <;> exact hc.elim
    all_goals first
      | exact happened_append (ih hc)
      | simp [automaton, next, RoutingPc.Accepted] at hc

/-- ... and an accepted connection stays accepted. -/
theorem accepted_of_accepts (h : (automaton params).Run (opened id done) tr c)
    (ha : ∃ e ∈ tr, e.Accepts) : RoutingPc.Accepted c.routing := by
  induction h with
  | nil => simp at ha
  | @snoc tr c e _ he ih =>
    have hold : ¬e.Accepts → RoutingPc.Accepted c.routing := by
      intro hne
      obtain ⟨e', he', hacc⟩ := ha
      rcases List.mem_append.mp he' with he' | he'
      · exact ih ⟨e', he', hacc⟩
      · exact (hne (List.mem_singleton.mp he' ▸ hacc)).elim
    cases e
    case verdictRecv v =>
      by_cases hv : v.verdict = true
      · exact hv
      · have := hold hv
        rw [he.1] at this
        exact this.elim
    case emitVerdict accepted reason appData =>
      have hacc := hold fun h => h
      rw [he.1] at hacc
      simp only [automaton, next, if_pos (show accepted = true from hacc)]
      trivial
    all_goals
      have hacc := hold fun h => h
      simp only [automaton, enabled, next] at he ⊢
      first
        | exact hacc
        | trivial
        | (rw [he] at hacc; exact hacc.elim)
        | (rw [he.1] at hacc; exact hacc.elim)
        | (obtain ⟨_, he, _⟩ := he; rw [he] at hacc; exact hacc.elim)

/-- A verdict the routing goroutine finds was pushed by the dispatch loop. -/
theorem pushed_before (h : (automaton params).Run (opened id done) tr c)
    {v : OpenClientConnectionVerdict} (hv : c.verdict = some v) : .pushVerdict v ∈ tr := by
  induction h with
  | nil => simp [opened] at hv
  | @snoc tr c e _ _ ih =>
    cases e
    case pushVerdict v' => cases hv; simp
    all_goals
      simp only [automaton, next] at hv
      first | exact List.mem_append_left _ (ih hv) | cases hv

/-- The transport handler only leaves its reader loop by cancelling the route context. -/
theorem cancelled_before (h : (automaton params).Run (opened id done) tr c)
    (hc : c.reader ≠ .reading) : ∃ e ∈ tr, e.Cancels := by
  induction h with
  | nil => exact (hc rfl).elim
  | @snoc tr c e _ he ih =>
    cases e
    case readerStops => exact ⟨.readerStops, by simp, trivial⟩
    case clientClose => exact happened_append (ih (by simp [he.1]))
    all_goals exact happened_append (ih hc)

end
end Connection
end Spanreed
