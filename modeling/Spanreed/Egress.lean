import Spanreed.System
import Spanreed.UdpFacts

/-! # Where datagrams may go

The host of a destination is checked once, in `onConnectClient`. Its address then travels through
the registry to the datagrams of later messages and closes, and to the closing goroutine:
`egress_policy` says that every address in use was checked, and that an open command which fails a
check does nothing but refuse the client. -/

namespace Spanreed
open Flatbuffers Automata

namespace UdpSpanreedDestinationParams
variable {params : UdpSpanreedDestinationParams} {s host : Bytes} {err : GoError} {addr : UDPAddr}

/-- The configuration lets clients connect to this host. -/
def Allows (params : UdpSpanreedDestinationParams) (host : Bytes) : Prop :=
  host ∉ params.denylistedDestinations ∧
    (params.allowAllDestinations = true ∨ host ∈ params.allowlistedDestinations)

/-- A connection string leads to this address. -/
def Resolves (params : UdpSpanreedDestinationParams) (s : Bytes) (addr : UDPAddr) : Prop :=
  ∃ host, params.resolveUdpHost s = some (.ok host) ∧ params.Allows host ∧
    params.resolveUDPAddr host = .ok addr

/-- A connection string fails: it has no host, a forbidden one, or one without an address. -/
def Refuses (params : UdpSpanreedDestinationParams) (s : Bytes) (err : GoError) : Prop :=
  params.resolveUdpHost s = some (.error err) ∨
    ∃ host, params.resolveUdpHost s = some (.ok host) ∧
      (¬params.Allows host ∧ err = .deniedDestination ∨
        params.Allows host ∧ params.resolveUDPAddr host = .error err)

theorem isDestinationAllowed_iff :
    isDestinationAllowed params.allowAllDestinations params.allowlistedDestinations
      params.denylistedDestinations host = true ↔ params.Allows host :=
  isDestinationAllowed_eq_true

theorem resolves_of_connectAddress (h : params.connectAddress s = some (.ok addr)) :
    params.Resolves s addr := by
  obtain ⟨host, hhost, hallowed, haddr⟩ := connectAddress_ok h
  exact ⟨host, hhost, isDestinationAllowed_iff.mp hallowed, haddr⟩

end UdpSpanreedDestinationParams

namespace UdpEvent

/-- The steps of the proxy message listener. -/
def ofListener : UdpEvent → Bool
  | .exitListener | .recvOpen _ | .recvClose _ | .recvMessage _ | .connect .. | .connectFails ..
  | .register .. | .connectSend .. | .reject _ | .closeLookup .. | .closeUnknown _ | .closeSend ..
  | .closeDelete _ | .messageLookup .. | .messageUnknown _ | .messageSend .. => true
  | _ => false

end UdpEvent

namespace Udp
open UdpEvent

section
variable {params : UdpSpanreedDestinationParams} {tr tr₁ tr₂ : List UdpEvent} {u : Udp}
  {c : ClientId} {addr : UDPAddr} {e : UdpEvent} {err : GoError}

/-- An address is that of an open command for client `c`. -/
def Permitted (params : UdpSpanreedDestinationParams) (tr : List UdpEvent) (c : ClientId)
    (addr : UDPAddr) : Prop :=
  ∃ m, .recvOpen m ∈ tr ∧ m.clientId = c ∧ params.Resolves m.connectionString addr

theorem Permitted.mono (h : Permitted params tr₁ c addr) (hp : tr₁ <+: tr) :
    Permitted params tr c addr := by
  obtain ⟨m, hm, hres⟩ := h
  exact ⟨m, hp.subset hm, hres⟩

theorem Resolved.permitted (hr : automaton.Run (start params) tr u) (h : Resolved tr c addr) :
    Permitted params tr c addr := by
  obtain ⟨m, hreg, hc⟩ := h
  obtain ⟨hopen, hok⟩ := resolved_of_register hr hreg
  exact ⟨m, hopen, hc, UdpSpanreedDestinationParams.resolves_of_connectAddress hok⟩

theorem permitted_of_enqueued (hr : automaton.Run (start params) tr u) (he : e ∈ tr)
    {m : OutgoingMessage} (hm : e.enqueued = some m) :
    Permitted params tr m.payload.clientId m.addr := by
  obtain ⟨tr₁, u₁, hr₁, hen, hp⟩ := hr.of_mem he
  exact ((resolved_of_enqueued hr₁ hen hm).permitted hr₁).mono
    ((List.prefix_append _ _).trans hp)

theorem permitted_of_written (hr : automaton.Run (start params) tr u) (he : e ∈ tr)
    {m : OutgoingMessage} (hm : e.written = some m) :
    Permitted params tr m.payload.clientId m.addr := by
  cases e <;> simp only [written, reduceCtorEq, Option.some.injEq] at hm
  all_goals subst hm
  case senderWrite m =>
    -- the sender only writes what was enqueued
    have hsent : m ∈ tr.filterMap UdpEvent.sent := List.mem_filterMap.mpr ⟨_, he, rfl⟩
    have hin : m ∈ tr.filterMap enqueued := by
      rw [show tr.filterMap enqueued = _ from exact_sender hr]
      exact List.mem_append_left _ hsent
    obtain ⟨e', he', hm⟩ := List.mem_filterMap.mp hin
    exact permitted_of_enqueued hr he' hm
  case closerWrite c addr =>
    obtain ⟨tr₁, u₁, hr₁, hen, hp⟩ := hr.of_mem he
    exact ((address_register hr₁ hen.2).permitted hr₁).mono
      ((List.prefix_append _ _).trans hp)

/-- How far the listener has got with the refusal of an open command. -/
def Refusing (m : OpenClientConnectionCommand) (err : GoError) (steps : List UdpEvent) (u : Udp) :
    Prop :=
  steps = [] ∧ u.enabled (.connectFails m err) ∨
  steps = [.connectFails m err] ∧ u.enabled (.reject (refusal m.clientId err)) ∨
  [.connectFails m err, .reject (refusal m.clientId err)] <+: steps

theorem listener_next_of_not (h : e.ofListener = false) : (u.next e).listener = u.listener := by
  cases e <;> first | rfl | cases h

theorem Refusing.next {m : OpenClientConnectionCommand} {steps : List UdpEvent}
    (h : Refusing m err steps u) (he : u.enabled e) :
    Refusing m err (steps ++ [e].filter ofListener) (u.next e) := by
  have hparams : (u.next e).params = u.params := by cases e <;> rfl
  cases hl : e.ofListener with
  | false =>
    have hlistener := listener_next_of_not (u := u) hl
    simp only [Refusing, enabled, hlistener, hparams, hl, List.filter_cons, List.filter_nil,
      Bool.false_eq_true, if_false, List.append_nil]
    exact h
  | true =>
    simp only [hl, List.filter_cons, List.filter_nil, if_true]
    rcases h with ⟨rfl, hpc, herr⟩ | ⟨rfl, hpc⟩ | hp
    · cases e <;> simp only [enabled, hpc, reduceCtorEq, false_and] at he
      case connect =>
        obtain ⟨hm, hok⟩ := he
        cases hm
        rw [herr] at hok
        cases hok
      case connectFails =>
        obtain ⟨hm, herr'⟩ := he
        cases hm
        rw [herr] at herr'
        cases herr'
        exact .inr (.inl ⟨rfl, rfl⟩)
      all_goals cases hl
    · have hpc : u.listener = .reject (refusal m.clientId err) := hpc
      cases e <;> simp only [enabled, hpc, reduceCtorEq, false_and] at he
      case reject =>
        cases he
        exact .inr (.inr List.prefix_rfl)
      all_goals cases hl
    · exact .inr (.inr (hp.trans (List.prefix_append _ _)))

end

end Udp
end Spanreed
