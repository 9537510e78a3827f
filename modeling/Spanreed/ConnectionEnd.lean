import Spanreed.CloseNotice

/-! # Connections that end before acceptance

The routing goroutine leaves its first `select` once, and how it leaves it decides who hears of the
end of a connection that is never accepted. If it takes a packet that parses, the transport is told
and the hub is not; if the packet does not parse, nobody is told; if it gives up waiting for a
packet, the hub is told and the transport is not. -/

namespace Spanreed
open Flatbuffers Automata

namespace ConnectionEvent

/-- The first `select` of the routing goroutine is left. -/
def authExit : ConnectionEvent → Option ConnectionEvent
  | .authDone => some .authDone
  | .authClientClose => some .authClientClose
  | .authCloseRequest m => some (.authCloseRequest m)
  | .authPacket packet => some (.authPacket packet)
  | _ => none

theorem authExit_eq {e e' : ConnectionEvent} (h : e.authExit = some e') : e' = e := by
  cases e <;> simp [authExit] at h <;> exact h.symm

/-- The first `select` takes a packet that parses as an auth message. -/
def Authenticates : ConnectionEvent → Prop
  | .authPacket packet => (safeParseConnectClientMessage packet).isOk
  | _ => False

/-- The first `select` is given up without a packet. -/
def GivesUp : ConnectionEvent → Prop
  | .authDone | .authClientClose | .authCloseRequest _ => True
  | _ => False

/-- A close command for client `id` is sent on `IncomingCloseRequests`. -/
def Reports (id : ClientId) : ConnectionEvent → Prop
  | .authClose m | .transportClose m => m.clientId = id
  | _ => False

/-- The hub's close command for the connection is what an authentication phase ends with. -/
def ClosedByHub : ConnectionEvent → Prop
  | .authCloseRequest _ | .verdictCloseRequest _ => True
  | _ => False

end ConnectionEvent

namespace Connection
open ConnectionEvent

/-- Neither the transport nor the hub is told of the end of the connection. -/
def Silent (id : ClientId) (e : ConnectionEvent) : Prop := ¬Notifies e ∧ ¬e.Reports id

/-- The routing goroutine has returned; if it was accepted, its listeners are running. -/
def Ended : RoutingPc → Prop
  | .forked | .returned => True
  | _ => False

/-- How the first `select` was left and who has been told, by where the routing goroutine is. -/
def Left (id : ClientId) (tr : List ConnectionEvent) : RoutingPc → Prop
  | .awaitAuth => tr.filterMap authExit = [] ∧ ∀ e ∈ tr, Silent id e
  | .authClose => ∃ e, tr.filterMap authExit = [e] ∧ e.GivesUp ∧ ∀ e ∈ tr, Silent id e
  | .forked => True
  | .returned => ∃ e, tr.filterMap authExit = [e] ∧
      ((∃ e ∈ tr, Notifies e) ↔ e.Authenticates) ∧ ((∃ e ∈ tr, e.Reports id) ↔ e.GivesUp)
  | _ => ∃ e, tr.filterMap authExit = [e] ∧ e.Authenticates ∧ ∀ e ∈ tr, Silent id e

section
variable {params : ClientConnectionRouterParams} {id : ClientId} {done : Bool}
  {tr : List ConnectionEvent} {c : Connection} {e : ConnectionEvent}

theorem silent_snoc (h : ∀ e ∈ tr, Silent id e) (he : Silent id e) :
    ∀ e' ∈ tr ++ [e], Silent id e' := by
  intro e' he'
  rcases List.mem_append.mp he' with hold | hnew
  · exact h e' hold
  · exact List.mem_singleton.mp hnew ▸ he

theorem happened_snoc {P : ConnectionEvent → Prop} (hP : ¬P e) :
    (∃ e' ∈ tr ++ [e], P e') ↔ ∃ e' ∈ tr, P e' := by
  simp [hP, or_and_right, exists_or]

/-- Other events leave everything as it is. -/
theorem Left.snoc {pc : RoutingPc} (h : Left id tr pc) (hexit : e.authExit = none)
    (he : Silent id e) : Left id (tr ++ [e]) pc := by
  cases pc
  case forked => trivial
  case awaitAuth => exact ⟨(filterMap_snoc_none hexit).trans h.1, silent_snoc h.2 he⟩
  case returned =>
    obtain ⟨e₀, hleft, hn, hr⟩ := h
    refine ⟨e₀, (filterMap_snoc_none hexit).trans hleft, ?_, ?_⟩
    · rw [happened_snoc he.1]; exact hn
    · rw [happened_snoc he.2]; exact hr
  all_goals
    obtain ⟨e₀, hleft, hby, hsilent⟩ := h
    exact ⟨e₀, (filterMap_snoc_none hexit).trans hleft, hby, silent_snoc hsilent he⟩

theorem exits_snoc (hnil : tr.filterMap authExit = []) (he : e.authExit = some e) :
    (tr ++ [e]).filterMap authExit = [e] := by
  rw [filterMap_snoc_some he, hnil, List.nil_append]

/-- Nothing was told before the end. -/
theorem not_happened (h : ∀ e ∈ tr, Silent id e) :
    (¬∃ e ∈ tr, Notifies e) ∧ ¬∃ e ∈ tr, e.Reports id := by
  constructor
  · rintro ⟨e, he, hn⟩
    exact (h e he).1 hn
  · rintro ⟨e, he, hr⟩
    exact (h e he).2 hr

theorem left (h : (automaton params).Run (opened id done) tr c) : Left id tr c.routing := by
  induction h with
  | nil => exact ⟨rfl, by simp⟩
  | @snoc tr c e hr he ih =>
    have hlisteners := notStarted_iff hr
    -- the routing goroutine goes on without leaving a `select` or telling anybody
    have goes : ∀ {pc : RoutingPc}, c.routing = pc → e.authExit = none → Silent id e →
        Left id (tr ++ [e]) pc := fun hpc hexit hs => hpc ▸ ih.snoc hexit hs
    cases e
    case authDone | authClientClose | authCloseRequest =>
      rw [he.1] at ih
      obtain ⟨hnil, hsilent⟩ : tr.filterMap authExit = [] ∧ _ := ih
      exact ⟨_, exits_snoc hnil rfl, trivial, silent_snoc hsilent ⟨not_false, not_false⟩⟩
    case authPacket packet =>
      rw [he.1] at ih
      obtain ⟨hnil, hsilent⟩ : tr.filterMap authExit = [] ∧ _ := ih
      have hleft := exits_snoc (e := .authPacket packet) hnil rfl
      have hsilent := silent_snoc (e := .authPacket packet) hsilent ⟨not_false, not_false⟩
      simp only [automaton, next]
      split
      · next hparse =>
        exact ⟨_, hleft, by simp [Authenticates, hparse, Except.isOk, Except.toBool], hsilent⟩
      · next hparse =>
        obtain ⟨hn, hrep⟩ := not_happened hsilent
        refine ⟨_, hleft, ?_, ?_⟩
        · refine iff_of_false hn ?_
          simp [Authenticates, hparse, Except.isOk, Except.toBool]
        · exact iff_of_false hrep not_false
    case authClose m =>
      rw [he.1] at ih
      obtain ⟨e₀, hleft, hby, hsilent⟩ := ih
      obtain ⟨hn, -⟩ := not_happened hsilent
      refine ⟨e₀, (filterMap_snoc_none rfl).trans hleft, ?_, ?_⟩
      · rw [happened_snoc not_false]
        refine iff_of_false hn ?_
        cases e₀ <;> first | exact not_false | exact hby.elim
      · refine iff_of_true ⟨.authClose m, by simp, ?_⟩ hby
        exact he.2 ▸ clientId_eq hr
    case closeTransport =>
      rw [he.1] at ih
      obtain ⟨e₀, hleft, hby, hsilent⟩ := ih
      obtain ⟨-, hrep⟩ := not_happened hsilent
      refine ⟨e₀, (filterMap_snoc_none rfl).trans hleft, ?_, ?_⟩
      · exact iff_of_true ⟨.closeTransport, by simp, trivial⟩ hby
      · rw [happened_snoc not_false]
        refine iff_of_false hrep ?_
        cases e₀ <;> first | exact not_false | exact hby.elim
    case proxyCloseTransport =>
      have hforked : c.routing = .forked := by
        by_contra hf
        simp [automaton, enabled, hlisteners.2.mpr hf] at he
      simp only [automaton, next, hforked]
      trivial
    case transportClose =>
      have hforked : c.routing = .forked := by
        by_contra hf
        simp [automaton, enabled, hlisteners.1.mpr hf] at he
      simp only [automaton, next, hforked]
      trivial
    case openNow =>
      obtain ⟨authMsg, hpc, -⟩ := he
      have hleft := goes hpc rfl ⟨not_false, not_false⟩
      exact hleft
    case openSend =>
      have hleft := goes he rfl ⟨not_false, not_false⟩
      exact hleft
    case verdictDone | verdictClientClose | verdictCloseRequest | verdictRecv =>
      have hleft := goes he.1 rfl ⟨not_false, not_false⟩
      exact hleft
    case emitVerdict accepted reason appData =>
      have hleft := goes he.1 rfl ⟨not_false, not_false⟩
      cases accepted <;> exact hleft
    case markConnected => trivial
    all_goals exact ih.snoc rfl ⟨not_false, not_false⟩

/-! ## Who hears of the end -/

/-- A routing goroutine that has ended without an accepting verdict has returned. -/
theorem returned_of_ended (h : (automaton params).Run (opened id done) tr c)
    (hend : Ended c.routing) (hacc : ∀ e ∈ tr, ¬e.Accepts) : c.routing = .returned := by
  cases hpc : c.routing
  case returned => rfl
  case forked =>
    obtain ⟨e, he, ha⟩ := accepted_before h (by rw [hpc]; trivial)
    exact (hacc e he ha).elim
  all_goals
    rw [hpc] at hend
    exact hend.elim

/-- The one event by which the first `select` was left. -/
theorem exit_mem_iff {e₀ : ConnectionEvent} (hleft : tr.filterMap authExit = [e₀])
    (he : e.authExit = some e) : e ∈ tr ↔ e = e₀ := by
  constructor
  · intro hmem
    have hexit : e ∈ tr.filterMap authExit := List.mem_filterMap.mpr ⟨e, hmem, he⟩
    rw [hleft] at hexit
    exact List.mem_singleton.mp hexit
  · rintro rfl
    have hexit : e ∈ tr.filterMap authExit := by rw [hleft]; simp
    obtain ⟨e', hmem, he'⟩ := List.mem_filterMap.mp hexit
    exact authExit_eq he' ▸ hmem

/-- The hub is told of the end of a connection that is not accepted and that it did not close
itself exactly if the first `select` was left because the context was cancelled or the client had
closed. -/
theorem hub_told_iff (h : (automaton params).Run (opened id done) tr c)
    (hend : Ended c.routing) (hacc : ∀ e ∈ tr, ¬e.Accepts)
    (hhub : ∀ e ∈ tr, ¬e.ClosedByHub) :
    (∃ e ∈ tr, e.Reports id) ↔ .authDone ∈ tr ∨ .authClientClose ∈ tr := by
  have hl := left h
  rw [returned_of_ended h hend hacc] at hl
  obtain ⟨e₀, hleft, -, hr⟩ := hl
  rw [hr, exit_mem_iff hleft rfl, exit_mem_iff hleft rfl]
  constructor
  · intro hgives
    cases e₀
    case authDone => exact .inl rfl
    case authClientClose => exact .inr rfl
    case authCloseRequest m =>
      have hmem : .authCloseRequest m ∈ tr := (exit_mem_iff hleft rfl).mpr rfl
      exact (hhub _ hmem trivial).elim
    all_goals exact hgives.elim
  · rintro (rfl | rfl) <;> trivial

end

/-! ## Runs -/

/-- A client that authenticates and closes while it waits for the verdict. -/
def closesWaiting : List ConnectionEvent := [.put Sample.authPacket, .authPacket Sample.authPacket,
  .openNow Sample.openCommand, .openSend Sample.openCommand, .readerStops, .clientClose,
  .verdictClientClose, .closeTransport]

/-- A connection that is cancelled before its first packet. -/
def cancelsWaiting : List ConnectionEvent :=
  [.cancel, .authDone, .authClose (closeCommand 1 "Proxy shutdown request")]

theorem hub_told_cancelsWaiting : ∃ e ∈ cancelsWaiting, e.Reports 1 := by
  have hr : (automaton (createClientConnectionRouter 0 0)).Run (opened 1 false) cancelsWaiting _ :=
    Automaton.Admits.run (by decide +kernel)
  refine (hub_told_iff hr trivial (by simp [cancelsWaiting, Accepts])
    (by simp [cancelsWaiting, ClosedByHub])).mpr (.inl ?_)
  simp [cancelsWaiting]

def malformedPacket : Slice := .ofBytes []

/-- A client that sends one malformed packet. -/
def malformedAuth : List ConnectionEvent := [.put malformedPacket, .authPacket malformedPacket]

theorem malformed_run : ∃ c,
    (automaton (createClientConnectionRouter 0 0)).Run (opened 1 false) malformedAuth c ∧
      c.routing = .returned :=
  ⟨_, Automaton.Admits.run (by decide +kernel), by decide +kernel⟩

/-- Nor does the hub learn of it. -/
theorem malformed_hub_not_told :
    ¬∀ params id done tr c, (automaton params).Run (opened id done) tr c → Ended c.routing →
      (∀ e ∈ tr, ¬e.Accepts) → (∀ e ∈ tr, ¬e.ClosedByHub) → ∃ e ∈ tr, e.Reports id := by
  intro hall
  obtain ⟨c, hr, hpc⟩ := malformed_run
  obtain ⟨e, he, hrep⟩ := hall _ _ _ _ _ hr (by rw [hpc]; trivial)
    (by simp [malformedAuth, Accepts]) (by simp [malformedAuth, ClosedByHub])
  simp only [malformedAuth, List.mem_cons, List.not_mem_nil, or_false] at he
  rcases he with rfl | rfl <;> exact hrep

end Connection
end Spanreed
