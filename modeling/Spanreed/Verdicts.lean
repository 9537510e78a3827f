import Spanreed.Orphans

/-! # Verdicts and the connected flag

`forwardDestinationVerdict` marks the client connected without looking at the verdict, and it marks
whatever record the client has by then. So a refused client counts as connected and is no longer
swept by `checkForAuthTimeouts` (`refused_is_connected`). The flag means what it says in runs in
which no refusal is handed over for an unconnected client and no record is made for a client while
a verdict for it is on its way to `Connect` (`connected_only_if_accepted`). -/

namespace Spanreed
open Automata

/-- An accepting verdict for client `c` was handed to `forwardDestinationVerdict`, and no record
was made for `c` since. -/
def AcceptedSince (c : ClientId) (tr : List HubEvent) : Prop :=
  ∃ tr₁ v tr₂, tr = tr₁ ++ .recvVerdict v :: tr₂ ∧ v.clientId = c ∧ v.verdict = true ∧
    ∀ e ∈ tr₂, e.createdId ≠ some c

/-- The client of a verdict that is on its way to `Connect`. -/
def HubPc.forwarding : HubPc → Option ClientId
  | .verdictName v | .verdictLookup v _ | .verdictConnect v _ => some v.clientId
  | _ => none

namespace Hub
open HubEvent HubPc

/-- No refusal is handed over for a client that is not connected, and no record is made for a client
while a verdict for it is on its way to `Connect`. -/
def VerdictSafe (h : Hub) : HubEvent → Prop
  | .recvVerdict v => v.verdict = true ∨ (h.clientStore.get v.clientId).all (·.isConnected)
  | .createClient _ c _ => (h.pc .destination).forwarding ≠ some c
  | _ => True

/-- What a goroutine that forwards a verdict for client `c` can count on. -/
def Justified (h : Hub) (tr : List HubEvent) (c : ClientId) : Prop :=
  AcceptedSince c tr ∨ ∀ md, h.clientStore.get c = some md → md.isConnected = true

section
variable {config : HubConfig} {maxConnections : Nat} {clientHandlers : List String}
  {handlers : List DestinationHandler} {tr : List HubEvent} {h : Hub} {c : ClientId} {e : HubEvent}

theorem acceptedSince_snoc (ha : AcceptedSince c tr) (he : e.createdId ≠ some c) :
    AcceptedSince c (tr ++ [e]) := by
  obtain ⟨tr₁, v, tr₂, rfl, hc, hv, hno⟩ := ha
  refine ⟨tr₁, v, tr₂ ++ [e], by simp, hc, hv, ?_⟩
  intro e' he'
  rcases List.mem_append.mp he' with hold | hnew
  · exact hno e' hold
  · exact List.mem_singleton.mp hnew ▸ he

/-- A new record is not connected. -/
theorem not_connected_of_created (he : h.enabled e) (hc : e.createdId = some c)
    {md : ClientConnectionMetadata} (hget : (h.next e).clientStore.get c = some md) :
    md.isConnected = false := by
  cases e <;> cases hc
  rename_i name t
  obtain ⟨-, -, hok⟩ := he
  cases hcreate : h.clientStore.createClient c name t with
  | error err => simp [hcreate, Except.isOk, Except.toBool] at hok
  | ok store =>
    obtain ⟨-, -, hnew, -⟩ := ClientStore.createClient_ok hcreate
    simp only [Hub.next, hcreate, hnew, Option.some.injEq] at hget
    exact hget ▸ rfl

/-- Where the connected flag of a record comes from. -/
theorem isConnected_next (he : h.enabled e) {md' : ClientConnectionMetadata}
    (hget : (h.next e).clientStore.get c = some md') (hmd : md'.isConnected = true) :
    ∃ md, h.clientStore.get c = some md ∧
      (md.isConnected = true ∨ ∃ v name, e = .verdictConnect v name ∧ v.clientId = c) := by
  rcases get_next he c with ⟨name, t, rfl, -, hnew⟩ | ⟨g, r, k, rfl, hnone⟩ | ⟨t, rfl, hnext⟩ |
    ⟨t, rfl, hnext⟩ | ⟨v, name, rfl, hv, hnext⟩ | ⟨m, t, name, rfl, -, hnext⟩ | hsame
  · rw [hnew] at hget
    cases hget
    cases hmd
  · rw [hnone] at hget
    cases hget
  · obtain ⟨md, hold, rfl⟩ := Option.map_eq_some_iff.mp (hnext ▸ hget)
    exact ⟨md, hold, .inl hmd⟩
  · obtain ⟨md, hold, rfl⟩ := Option.map_eq_some_iff.mp (hnext ▸ hget)
    exact ⟨md, hold, .inl hmd⟩
  · obtain ⟨md, hold, rfl⟩ := Option.map_eq_some_iff.mp (hnext ▸ hget)
    exact ⟨md, hold, .inr ⟨v, name, rfl, hv⟩⟩
  · obtain ⟨md, hold, rfl⟩ := Option.map_eq_some_iff.mp (hnext ▸ hget)
    exact ⟨md, hold, .inl hmd⟩
  · exact ⟨md', hsame ▸ hget, .inl hmd⟩

/-- A record that is connected stays so. -/
theorem stays_connected (he : h.enabled e) (hno : e.createdId ≠ some c)
    (hall : ∀ md, h.clientStore.get c = some md → md.isConnected = true)
    {md : ClientConnectionMetadata} (hget : (h.next e).clientStore.get c = some md) :
    md.isConnected = true := by
  rcases get_next he c with ⟨name, t, rfl, -⟩ | ⟨g, r, k, rfl, hnone⟩ | ⟨t, rfl, hnext⟩ |
    ⟨t, rfl, hnext⟩ | ⟨v, name, rfl, -, hnext⟩ | ⟨m, t, name, rfl, -, hnext⟩ | hsame
  · exact (hno rfl).elim
  · rw [hnone] at hget
    cases hget
  · obtain ⟨md, hold, rfl⟩ := Option.map_eq_some_iff.mp (hnext ▸ hget)
    exact hall md hold
  · obtain ⟨md, hold, rfl⟩ := Option.map_eq_some_iff.mp (hnext ▸ hget)
    exact hall md hold
  · obtain ⟨md, -, rfl⟩ := Option.map_eq_some_iff.mp (hnext ▸ hget)
    rfl
  · obtain ⟨md, hold, rfl⟩ := Option.map_eq_some_iff.mp (hnext ▸ hget)
    exact hall md hold
  · exact hall md (hsame ▸ hget)

theorem Justified.next (hj : h.Justified tr c) (he : h.enabled e) (hno : e.createdId ≠ some c) :
    (h.next e).Justified (tr ++ [e]) c := by
  rcases hj with ha | hall
  · exact .inl (acceptedSince_snoc ha hno)
  · exact .inr fun md hget => stays_connected he hno hall hget

/-- A verdict is on its way since it was handed over. -/
theorem forwarding_next (he : h.enabled e)
    (hc : ((h.next e).pc .destination).forwarding = some c) :
    (∃ v, e = .recvVerdict v ∧ v.clientId = c) ∨ (h.pc .destination).forwarding = some c := by
  by_cases hmover : e.mover = some .destination
  swap
  · exact .inr (by rwa [pc_next_of_ne hmover] at hc)
  cases e <;> simp only [mover, Option.some.injEq, reduceCtorEq] at hmover
  case recvVerdict v => exact .inl ⟨v, rfl, Option.some.inj hc⟩
  case verdictName | verdictLookup =>
    rw [he.1]
    exact .inr hc
  case kickRemove g id r k =>
    subst hmover
    cases k <;> simp [Hub.next, KickReturn.resume, HubPc.forwarding] at hc
  all_goals
    try subst hmover
    simp [Hub.next, HubPc.forwarding] at hc

/-- Every connected record has its verdict, and so has every verdict that is on its way. -/
structure Flagged (tr : List HubEvent) (h : Hub) : Prop where
  connected : ∀ c md, h.clientStore.get c = some md → md.isConnected = true → AcceptedSince c tr
  forwarding : ∀ c, (h.pc .destination).forwarding = some c → h.Justified tr c

theorem Flagged.next (hf : Flagged tr h) (he : h.enabled e) (hsafe : h.VerdictSafe e) :
    Flagged (tr ++ [e]) (h.next e) where
  connected c md hget hmd := by
    have hno : e.createdId ≠ some c := by
      intro hcreated
      rw [not_connected_of_created he hcreated hget] at hmd
      cases hmd
    refine acceptedSince_snoc ?_ hno
    obtain ⟨md₀, hold, hmd₀ | ⟨v, name, rfl, rfl⟩⟩ := isConnected_next he hget hmd
    · exact hf.connected c md₀ hold hmd₀
    · rcases hf.forwarding v.clientId (by rw [show h.pc .destination = _ from he]; rfl) with
        ha | hall
      · exact ha
      · exact hf.connected _ md₀ hold (hall md₀ hold)
  forwarding c hc := by
    rcases forwarding_next he hc with ⟨v, rfl, rfl⟩ | hold
    · rcases hsafe with hv | hall
      · exact .inl ⟨tr, v, [], rfl, rfl, hv, by simp⟩
      · exact .inr fun md hget => by
          simpa [show h.clientStore.get v.clientId = _ from hget] using hall
    · refine (hf.forwarding c hold).next he ?_
      intro hcreated
      cases e <;> cases hcreated
      exact hsafe hold

/-- In runs that are safe in this sense a client is connected only if an accepting verdict was
handed over since its record was made; all others are swept when their time is over. -/
theorem connected_only_if_accepted
    (hr : automaton.Run (start config maxConnections clientHandlers handlers) tr h)
    (hsafe : automaton.Obeys VerdictSafe (start config maxConnections clientHandlers handlers) tr)
    {md : ClientConnectionMetadata} (hget : h.clientStore.get c = some md) :
    (md.isConnected = true → AcceptedSince c tr) ∧
    (¬AcceptedSince c tr → ∀ connectDeadline, md.createdTime < connectDeadline →
      c ∈ h.clientStore.getAuthTimeoutClientList connectDeadline) := by
  have hflagged : Flagged tr h := by
    clear hget
    induction hr with
    | nil => exact ⟨by simp [start], by simp [start, HubPc.forwarding]⟩
    | @snoc tr h e hr he ih =>
      have hsafe := hr.obeys_snoc.mp hsafe
      exact (ih hsafe.1).next he hsafe.2
  refine ⟨hflagged.connected c md hget, ?_⟩
  intro hnot connectDeadline hlate
  have hmd : md.isConnected = false := by
    by_contra hmd
    exact hnot (hflagged.connected c md hget (by simpa using hmd))
  unfold ClientStore.getAuthTimeoutClientList
  have hmem := AList.mem_lookup_iff.mp hget
  exact List.mem_map.mpr ⟨⟨c, md⟩, List.mem_filter.mpr ⟨hmem, by simp [hmd, hlate]⟩, rfl⟩

end

/-- The destination of client 1 sends a verdict. -/
def forwards (v : OpenClientConnectionVerdict) : List HubEvent := [.recvVerdict v,
  .verdictName v "WebSocket", .verdictLookup v "WebSocket", .verdictConnect v "WebSocket",
  .verdictSend v "WebSocket"]

theorem connected_only_if_accepted_sample :
    AcceptedSince 1 (requested ++ attaches ++ forwards Sample.verdict) := by
  have hr : automaton.Run udpHub (requested ++ attaches ++ forwards Sample.verdict) _ :=
    Automaton.Admits.run (by decide +kernel)
  have hget : (automaton.exec udpHub
      (requested ++ attaches ++ forwards Sample.verdict)).clientStore.get 1 =
      some ⟨true, "WebSocket", "UdpDestination", 0, 0, 0⟩ := by decide +kernel
  refine (connected_only_if_accepted hr ?_ hget).1 rfl
  simp only [requested, attaches, forwards, List.cons_append, List.nil_append, Automaton.Obeys,
    VerdictSafe]
  decide +kernel

/-- The verdict of a destination that refuses client 1. -/
def refusal : OpenClientConnectionVerdict := { Sample.verdict with verdict := false }

/-- Client 1 is refused and counts as connected. -/
theorem refused_is_connected :
    ¬∀ (config : HubConfig) (maxConnections : Nat) (clientHandlers : List String)
      (handlers : List DestinationHandler) (tr : List HubEvent) (h : Hub),
      automaton.Run (start config maxConnections clientHandlers handlers) tr h →
        ∀ c md, h.clientStore.get c = some md → md.isConnected = true → AcceptedSince c tr := by
  intro hall
  have hr : automaton.Run udpHub (requested ++ attaches ++ forwards refusal) _ :=
    Automaton.Admits.run (by decide +kernel)
  have hget :
      (automaton.exec udpHub (requested ++ attaches ++ forwards refusal)).clientStore.get 1 =
        some ⟨true, "WebSocket", "UdpDestination", 0, 0, 0⟩ := by decide +kernel
  obtain ⟨tr₁, v, tr₂, htr, -, hv, -⟩ := hall _ _ _ _ _ _ hr 1 _ hget rfl
  have hmem : .recvVerdict v ∈ requested ++ attaches ++ forwards refusal := by rw [htr]; simp
  simp only [requested, attaches, forwards, List.cons_append, List.nil_append, List.mem_cons,
    reduceCtorEq, HubEvent.recvVerdict.injEq, List.not_mem_nil, or_false, false_or] at hmem
  subst hmem
  cases hv

end Hub
end Spanreed
