import Spanreed.System
import Spanreed.Lib.Progress

/-! # The proxy message listener of the UDP handler

While nobody keeps the table of connections locked and the sender runs (`Udp.Able`), the listener
gets back to its `select` without the help of the hub, unless it has to refuse a client
(`listener_returns`). -/

namespace Spanreed
open Flatbuffers Automata

/-- The UDP handler does something that concerns nobody else, at time `now`. -/
def UdpEvent.Alone (name : String) (now : Timestamp) (e : UdpEvent) : Prop :=
  e.op name = .internal ∧ e.isCancel = false ∧ ∀ t ∈ e.reads, t = now

/-- The listener goes on with a message or a command it has taken. -/
def UdpEvent.returning : UdpEvent → Bool
  | .connect .. | .register .. | .connectSend .. | .closeLookup .. | .closeUnknown _
  | .closeSend .. | .closeDelete _ | .messageLookup .. | .messageUnknown _ | .messageSend .. => true
  | _ => false

namespace Udp

/-- The listener and the sender run, and the table of connections can be had. -/
structure Able (u : Udp) : Prop where
  listener : u.listener ≠ .exited
  sender : u.sender ≠ .exited
  closer : u.closer ≠ .closing
  datagrams : u.datagrams.readsConnections = false
  outgoing : u.outgoingMessages.length ≤ outgoingCapacity

/-- The listener is at its `select`, and nobody keeps it from getting back there. -/
def Serves (u : Udp) : Prop := u.listener = .select ∧ u.datagrams.readsConnections = false

/-- The listener is not about to refuse a client, nor to panic. -/
def Quiet (u : Udp) : Prop :=
  match u.listener with
  | .reject _ => False
  | .connect m => ∃ addr, u.params.connectAddress m.connectionString = some (.ok addr)
  | _ => True

def listenerSteps : ListenerPc → Nat
  | .select | .exited | .reject _ => 0
  | .connectSend .. | .closeDelete _ | .messageSend .. => 1
  | .register .. | .closeSend .. | .messageLookup _ => 2
  | .connect _ | .closeLookup _ => 3

variable {u : Udp} {e : UdpEvent} {name : String} {now : Timestamp}

/-- The UDP handler gets somewhere by itself. -/
abbrev Gets (name : String) (now : Timestamp) (u u' : Udp) : Prop :=
  automaton.Reaches (UdpEvent.Alone name now) u u'

/-- The sender makes room for the listener. -/
theorem outgoing_room (ha : u.Able) :
    ∃ u', Gets name now u u' ∧ u'.Able ∧ u'.Room ∧ u'.listener = u.listener := by
  by_cases hroom : u.Room
  · exact ⟨u, .refl, ha, hroom, rfl⟩
  have hfull : outgoingCapacity ≤ u.outgoingMessages.length := not_lt.mp hroom
  obtain ⟨m, rest, hmsgs⟩ : ∃ m rest, u.outgoingMessages = m :: rest := by
    cases hmsgs : u.outgoingMessages with
    | nil => simp [hmsgs, outgoingCapacity] at hfull
    | cons m rest => exact ⟨m, rest, rfl⟩
  have hlt : rest.length < outgoingCapacity := by
    have hle := ha.outgoing
    rw [hmsgs] at hle
    exact hle
  -- the sender takes the oldest message, once it has written what it has in its hands
  have take : ∀ {u : Udp}, u.Able → u.sender = .select → u.outgoingMessages = m :: rest →
      ∃ u', Gets name now u u' ∧ u'.Able ∧ u'.Room ∧ u'.listener = u.listener := by
    intro u ha hsel hmsgs
    have he : automaton.enabled u (.senderTake m) := ⟨hsel, by simp [hmsgs]⟩
    refine ⟨_, .single he ⟨rfl, rfl, by simp [UdpEvent.reads]⟩, ⟨ha.listener, by simp [automaton,
      next], ha.closer, ha.datagrams, ?_⟩, ?_, rfl⟩
    · simpa [automaton, next, hmsgs] using hlt.le
    · simpa [automaton, Room, next, hmsgs] using hlt
  cases hsender : u.sender with
  | exited => exact (ha.sender hsender).elim
  | select => exact take ha hsender hmsgs
  | write m' =>
    have he : automaton.enabled u (.senderWrite m') := hsender
    obtain ⟨u', hreach, ha', hroom', hl⟩ := take (u := u.next (.senderWrite m'))
      ⟨ha.listener, by simp [next], ha.closer, ha.datagrams, ha.outgoing⟩ rfl hmsgs
    exact ⟨u', .step he ⟨rfl, rfl, by simp [UdpEvent.reads]⟩ hreach, ha', hroom', hl⟩

theorem Able.next (ha : u.Able) (he : u.enabled e) (hl : e.returning = true) :
    (u.next e).Able := by
  cases e <;> cases hl
  case connectSend | closeSend | messageSend =>
    have hroom : u.outgoingMessages.length < outgoingCapacity := he.2
    exact ⟨by simp [Udp.next], ha.sender, ha.closer, ha.datagrams,
      by simpa [Udp.next] using Nat.succ_le_of_lt hroom⟩
  all_goals exact ⟨by simp [Udp.next], ha.sender, ha.closer, ha.datagrams, ha.outgoing⟩

/-- The listener gets closer to its `select`. -/
def Nearer (name : String) (now : Timestamp) (u u' : Udp) : Prop :=
  Gets name now u u' ∧ u'.Able ∧ u'.Quiet ∧ listenerSteps u'.listener < listenerSteps u.listener

theorem nearer_step (ha : u.Able) (he : u.enabled e) (hl : e.returning = true)
    (hpc : (u.next e).Quiet ∧ listenerSteps (u.next e).listener < listenerSteps u.listener) :
    ∃ u', Nearer name now u u' := by
  have halone : UdpEvent.Alone name now e := by
    cases e <;> cases hl
    all_goals exact ⟨rfl, rfl, by simp [UdpEvent.reads]⟩
  exact ⟨_, .single he halone, ha.next he hl, hpc⟩

/-- The listener gets room for a message to its destination. -/
theorem nearer_send (ha : u.Able) (hl : e.returning = true)
    (he : ∀ u' : Udp, u'.listener = u.listener → u'.Room → u'.enabled e)
    (hpc : ∀ u' : Udp, (u'.next e).Quiet ∧ listenerSteps (u'.next e).listener <
      listenerSteps u.listener) :
    ∃ u', Nearer name now u u' := by
  obtain ⟨u₁, hreach, ha₁, hroom, hsame⟩ := outgoing_room ha
  obtain ⟨u₂, hreach₂, h₂⟩ := nearer_step ha₁ (he u₁ hsame hroom) hl (hsame ▸ hpc u₁)
  exact ⟨u₂, hreach.trans hreach₂, hsame ▸ h₂⟩

theorem listener_nearer (ha : u.Able) (hquiet : u.Quiet) (hsel : u.listener ≠ .select) :
    ∃ u', Nearer name now u u' := by
  have hlock : u.Lock := ⟨ha.closer, ha.datagrams⟩
  unfold Quiet at hquiet
  cases hl : u.listener <;> simp only [hl] at hquiet
  case select => exact (hsel hl).elim
  case exited => exact (ha.listener hl).elim
  case connect m =>
    obtain ⟨addr, haddr⟩ := hquiet
    exact nearer_step (e := .connect m addr) ha ⟨hl, haddr⟩ rfl
      (by simp [Quiet, next, listenerSteps, hl])
  case register m addr =>
    exact nearer_step (e := .register m addr) ha ⟨hl, hlock⟩ rfl
      (by simp [Quiet, next, listenerSteps, hl])
  case connectSend m addr =>
    exact nearer_send (e := .connectSend m addr) ha rfl
      (fun u' hsame hroom => ⟨hsame.trans hl, hroom⟩) fun u' => by
        simp [Quiet, next, listenerSteps, hl]
  case closeLookup m =>
    cases haddr : u.address m.clientId with
    | none =>
      exact nearer_step (e := .closeUnknown m) ha ⟨hl, ha.closer, haddr⟩ rfl
        (by simp [Quiet, next, listenerSteps, hl])
    | some addr =>
      exact nearer_step (e := .closeLookup m addr) ha ⟨hl, ha.closer, haddr⟩ rfl
        (by simp [Quiet, next, listenerSteps, hl])
  case closeSend m addr =>
    exact nearer_send (e := .closeSend m addr) ha rfl
      (fun u' hsame hroom => ⟨hsame.trans hl, hroom⟩) fun u' => by
        simp [Quiet, next, listenerSteps, hl]
  case closeDelete m =>
    exact nearer_step (e := .closeDelete m) ha ⟨hl, hlock⟩ rfl
      (by simp [Quiet, next, listenerSteps, hl])
  case messageLookup m =>
    cases haddr : u.address m.clientId with
    | none =>
      exact nearer_step (e := .messageUnknown m) ha ⟨hl, ha.closer, haddr⟩ rfl
        (by simp [Quiet, next, listenerSteps, hl])
    | some addr =>
      exact nearer_step (e := .messageLookup m addr) ha ⟨hl, ha.closer, haddr⟩ rfl
        (by simp [Quiet, next, listenerSteps, hl])
  case messageSend m addr =>
    exact nearer_send (e := .messageSend m addr) ha rfl
      (fun u' hsame hroom => ⟨hsame.trans hl, hroom⟩) fun u' => by
        simp [Quiet, next, listenerSteps, hl]

/-- The listener gets back to its `select` by itself. -/
theorem listener_returns (ha : u.Able) (hquiet : u.Quiet) :
    ∃ u', Gets name now u u' ∧ u'.Able ∧ u'.listener = .select := by
  refine Automaton.reaches_of_measure (I := fun u : Udp => u.Able ∧ u.Quiet)
    (G := fun u : Udp => u.Able ∧ u.listener = .select)
    (f := fun u : Udp => listenerSteps u.listener) ?_ ⟨ha, hquiet⟩
  rintro u ⟨ha, hquiet⟩ hgoal
  obtain ⟨u', hreach, ha', hquiet', hlt⟩ :=
    listener_nearer ha hquiet fun hsel => hgoal ⟨ha, hsel⟩
  exact ⟨u', hreach, .inr ⟨⟨ha', hquiet'⟩, hlt⟩⟩

end Udp
end Spanreed
