import Spanreed.Orphans

/-! # What the timeout goroutine acts on

`kickOldClients` and `checkForAuthTimeouts` list the clients to kick under the store's lock and kick
them later, one at a time, without looking at their records again. A client that is heard from, or
accepted, in between is kicked all the same (`kicked_after_message`). A removal is justified if one
of the reasons for which the client was listed has stayed true (`timeout_kicks_current`). -/

namespace Spanreed
open Automata

/-- The test of `GetTimeoutClientList`. -/
def ClientConnectionMetadata.Stale (md : ClientConnectionMetadata)
    (clientMsgDeadline destinationMsgDeadline connectionDeadline : Timestamp) : Prop :=
  md.createdTime < connectionDeadline ∨ md.lastClientMsgTime < clientMsgDeadline ∨
    md.lastDestinationMsgTime < destinationMsgDeadline

instance (md : ClientConnectionMetadata) (a b d : Timestamp) : Decidable (md.Stale a b d) :=
  inferInstanceAs (Decidable (_ ∨ _ ∨ _))

namespace ClientStore
variable {store : ClientStore} {c : ClientId}

theorem unconnected_of_mem {a : Timestamp} (h : c ∈ store.getAuthTimeoutClientList a) :
    ∃ md, store.get c = some md ∧ md.isConnected = false := by
  obtain ⟨⟨c', md⟩, hmem, rfl⟩ := List.mem_map.mp h
  obtain ⟨hmem, hauth⟩ := List.mem_filter.mp hmem
  refine ⟨md, AList.mem_lookup_iff.mpr hmem, ?_⟩
  simp only [decide_eq_true_eq] at hauth
  simpa using hauth.1

end ClientStore

namespace HubPc

/-- The client that a goroutine at this point kicks, why, and where it goes on. -/
def kick : HubPc → Option (ClientId × Option GoError × KickReturn)
  | .kickClientName c r k | .kickDestName c r _ k | .kickClientLookup c r _ _ k
  | .kickClientSend c r _ _ k | .kickDestLookup c r _ k | .kickDestSend c r _ k
  | .kickRemove c r k => some (c, r, k)
  | _ => none

end HubPc

/-- The two loops of the timeout goroutine. -/
inductive Sweep
  | old
  | unauthed

namespace Sweep

/-- The clients that a sweep finds. -/
def found : Sweep → HubEvent → Option (List ClientId)
  | .old, .sweepList _ _ _ l => some l
  | .unauthed, .authList _ l => some l
  | _, _ => none

/-- The error with which a sweep kicks. -/
def reason : Sweep → GoError
  | .old => .connectionTimeout
  | .unauthed => .authTimeout

/-- The clients that are left when a kick of a sweep is done. -/
def rest : Sweep → KickReturn → Option (List ClientId)
  | .old, .kickOldClients l => some l
  | .unauthed, .checkForAuthTimeouts l => some l
  | _, _ => none

/-- The clients that a sweep has still to kick. -/
def left (s : Sweep) (pc : HubPc) : List ClientId :=
  match pc.kick with
  | some (c, _, k) => ((s.rest k).map (c :: ·)).getD []
  | none =>
    match s, pc with
    | .old, .kickOldClients l => l
    | .unauthed, .checkForAuthTimeouts l => l
    | _, _ => []

theorem left_resume (s : Sweep) (k : KickReturn) : s.left k.resume = (s.rest k).getD [] := by
  cases s <;> cases k <;> rfl

end Sweep

namespace Hub
open HubEvent HubPc

section
variable {config : HubConfig} {maxConnections : Nat} {clientHandlers : List String}
  {handlers : List DestinationHandler} {tr : List HubEvent} {h h₁ : Hub} {c : ClientId}
  {e : HubEvent}

/-- Where the record of a client comes from that was not made since: of the fields the sweeps look
at, each is as it was or was written by an event of its own. -/
theorem record_since {tr₂ : List HubEvent} (hr : automaton.Run h₁ tr₂ h)
    (hno : ∀ e ∈ tr₂, e.createdId ≠ some c) {md : ClientConnectionMetadata}
    (hget : h.clientStore.get c = some md) :
    ∃ md₀, h₁.clientStore.get c = some md₀ ∧ md.createdTime = md₀.createdTime ∧
      (md.lastClientMsgTime = md₀.lastClientMsgTime ∨
        .clientStamp c md.lastClientMsgTime ∈ tr₂) ∧
      (md.lastDestinationMsgTime = md₀.lastDestinationMsgTime ∨
        .destStamp c md.lastDestinationMsgTime ∈ tr₂) ∧
      (md.isConnected = md₀.isConnected ∨
        ∃ v name, v.clientId = c ∧ .verdictConnect v name ∈ tr₂) := by
  induction hr generalizing md with
  | nil => exact ⟨md, hget, rfl, .inl rfl, .inl rfl, .inl rfl⟩
  | @snoc tr₂ h e _ he ih =>
    have ih := @ih fun e he => hno e (List.mem_append_left _ he)
    have hlast : e ∈ tr₂ ++ [e] := by simp
    have before : ∀ {e'}, e' ∈ tr₂ → e' ∈ tr₂ ++ [e] := List.mem_append_left _
    have before' : (∃ v name, v.clientId = c ∧ .verdictConnect v name ∈ tr₂) →
        ∃ v name, v.clientId = c ∧ .verdictConnect v name ∈ tr₂ ++ [e] := by
      rintro ⟨v, name, hv, hmem⟩
      exact ⟨v, name, hv, before hmem⟩
    rcases get_next he c with ⟨name, t, rfl, -⟩ | ⟨g, r, k, rfl, hnone⟩ | ⟨t, rfl, hnext⟩ |
      ⟨t, rfl, hnext⟩ | ⟨v, name, rfl, hv, hnext⟩ | ⟨m, t, name, rfl, -, hnext⟩ | hsame
    · exact (hno _ hlast rfl).elim
    · rw [show (automaton.next h _).clientStore.get c = none from hnone] at hget
      cases hget
    · obtain ⟨md, hold, rfl⟩ := Option.map_eq_some_iff.mp (hnext ▸ hget)
      obtain ⟨md₀, h₀, hcreated, -, hdest, hconn⟩ := ih hold
      exact ⟨md₀, h₀, hcreated, .inr hlast, hdest.imp_right before, hconn.imp_right before'⟩
    · obtain ⟨md, hold, rfl⟩ := Option.map_eq_some_iff.mp (hnext ▸ hget)
      obtain ⟨md₀, h₀, hcreated, hclient, -, hconn⟩ := ih hold
      exact ⟨md₀, h₀, hcreated, hclient.imp_right before, .inr hlast, hconn.imp_right before'⟩
    · obtain ⟨md, hold, rfl⟩ := Option.map_eq_some_iff.mp (hnext ▸ hget)
      obtain ⟨md₀, h₀, hcreated, hclient, hdest, -⟩ := ih hold
      exact ⟨md₀, h₀, hcreated, hclient.imp_right before, hdest.imp_right before,
        .inr ⟨v, name, hv, hlast⟩⟩
    · obtain ⟨md, hold, rfl⟩ := Option.map_eq_some_iff.mp (hnext ▸ hget)
      obtain ⟨md₀, h₀, hcreated, hclient, hdest, hconn⟩ := ih hold
      exact ⟨md₀, h₀, hcreated, hclient.imp_right before, hdest.imp_right before,
        hconn.imp_right before'⟩
    · obtain ⟨md₀, h₀, hcreated, hclient, hdest, hconn⟩ := ih (hsame ▸ hget)
      exact ⟨md₀, h₀, hcreated, hclient.imp_right before, hdest.imp_right before,
        hconn.imp_right before'⟩

/-- Why the timeout goroutine kicks. -/
def TimeoutKick : HubPc → Prop := fun pc => ∀ c r k, pc.kick = some (c, r, k) →
  (∃ rest, k = .kickOldClients rest ∧ r = some .connectionTimeout) ∨
  (∃ rest, k = .checkForAuthTimeouts rest ∧ r = some .authTimeout)

theorem timeout_kick
    (hr : automaton.Run (start config maxConnections clientHandlers handlers) tr h) :
    TimeoutKick (h.pc .timeout) := by
  induction hr with
  | nil => intro c r k hk; cases hk
  | @snoc tr h e _ he ih =>
    by_cases hg : e.mover = some .timeout
    swap
    · exact (pc_next_of_ne (h := h) hg).symm ▸ ih
    cases e <;> simp only [mover, Option.some.injEq, reduceCtorEq] at hg
    case kickOldClient c rest =>
      intro c r k hk
      cases hk
      exact .inl ⟨rest, rfl, rfl⟩
    case kickUnauthedClient c rest =>
      intro c r k hk
      cases hk
      exact .inr ⟨rest, rfl, rfl⟩
    case kickRemove g c' r' k' =>
      subst hg
      intro c r k hk
      cases k' <;> simp [automaton, Hub.next, KickReturn.resume, kick] at hk
    case kickClientName | kickDestName | kickClientSend | kickDestSend =>
      subst hg
      rw [show h.pc .timeout = _ from he] at ih
      exact ih
    case kickClientSkip | kickClientLock | kickDestSkip | kickDestLock =>
      subst hg
      rw [he.1] at ih
      exact ih
    all_goals
      try subst hg
      intro c r k hk
      simp [automaton, Hub.next, kick] at hk

/-- The last sweep in the history `tr`: it found clients in state `h₁` by the event `e`, and the
events `tr₂` happened since. -/
def LastSweep (s : Sweep) (h₀ : Hub) (tr : List HubEvent) (h₁ : Hub) (e : HubEvent)
    (tr₂ : List HubEvent) : Prop :=
  ∃ tr₁, tr = tr₁ ++ e :: tr₂ ∧ automaton.Run h₀ tr₁ h₁ ∧ ∀ e' ∈ tr₂, s.found e' = none

/-- How an event changes the clients that are left. -/
theorem left_next (s : Sweep) (he : h.enabled e) (hc : c ∈ s.left ((h.next e).pc .timeout)) :
    (∃ l, s.found e = some l ∧ c ∈ l) ∨ c ∈ s.left (h.pc .timeout) ∧ s.found e = none := by
  by_cases hg : e.mover = some .timeout
  swap
  · rw [pc_next_of_ne hg] at hc
    exact .inr ⟨hc, by cases s <;> cases e <;> first | rfl | exact (hg rfl).elim⟩
  cases e <;> simp only [mover, Option.some.injEq, reduceCtorEq] at hg
  case sweepList a b d l =>
    cases s
    · exact .inl ⟨l, rfl, hc⟩
    · cases hc
  case authList a l =>
    cases s
    · cases hc
    · exact .inl ⟨l, rfl, hc⟩
  all_goals
    refine .inr ⟨?_, by cases s <;> rfl⟩
    try subst hg
    simp only [enabled] at he
  case kickOldClient c' rest | kickUnauthedClient c' rest =>
    rw [he]
    cases s <;> exact hc
  case kickRemove c' r k =>
    rw [he]
    have hrest : c ∈ s.left k.resume := by simpa [Hub.next] using hc
    rw [Sweep.left_resume] at hrest
    cases hk : s.rest k with
    | none => simp [hk] at hrest
    | some l =>
      rw [hk] at hrest
      simpa [Sweep.left, kick, hk] using .inr hrest
  case kickClientName | kickDestName | kickClientSend | kickDestSend =>
    rw [he]
    simpa [Hub.next, Sweep.left, kick] using hc
  case kickClientSkip | kickClientLock | kickDestSkip | kickDestLock =>
    rw [he.1]
    simpa [Hub.next, Sweep.left, kick] using hc
  all_goals cases s <;> simp [Hub.next, Sweep.left, kick] at hc

/-- There was a sweep that found whoever is left. -/
theorem exists_lastSweep (s : Sweep)
    (hr : automaton.Run (start config maxConnections clientHandlers handlers) tr h)
    (hc : c ∈ s.left (h.pc .timeout)) : ∃ h₁ e tr₂,
      LastSweep s (start config maxConnections clientHandlers handlers) tr h₁ e tr₂ ∧
        (s.found e).isSome := by
  induction hr with
  | nil => cases s <;> cases hc
  | @snoc tr h e hr he ih =>
    rcases left_next s he hc with ⟨l, hfound, -⟩ | ⟨hold, hnot⟩
    · exact ⟨h, e, [], ⟨tr, rfl, hr, by simp⟩, by simp [hfound]⟩
    · obtain ⟨h₁, e₁, tr₂, ⟨tr₁, rfl, hr₁, hno⟩, hfound⟩ := ih hold
      refine ⟨h₁, e₁, tr₂ ++ [e], ⟨tr₁, by simp, hr₁, ?_⟩, hfound⟩
      intro e' he'
      rcases List.mem_append.mp he' with he' | he'
      · exact hno e' he'
      · exact List.mem_singleton.mp he' ▸ hnot

/-- Until the next sweep nobody is added. -/
theorem left_since (s : Sweep) {tr₂ : List HubEvent} (hr : automaton.Run h₁ tr₂ h)
    (hno : ∀ e ∈ tr₂, s.found e = none) (hc : c ∈ s.left (h.pc .timeout)) :
    c ∈ s.left (h₁.pc .timeout) := by
  induction hr with
  | nil => exact hc
  | @snoc tr₂ h e _ he ih =>
    rcases left_next s he hc with ⟨l, hfound, -⟩ | ⟨hold, -⟩
    · rw [hno e (by simp)] at hfound
      cases hfound
    · exact ih (fun e he => hno e (List.mem_append_left _ he)) hold

/-- The last sweep found whoever is left, and the rest of the history starts there. -/
theorem LastSweep.found_left {s : Sweep} {tr₂ : List HubEvent}
    (hs : LastSweep s (start config maxConnections clientHandlers handlers) tr h₁ e tr₂)
    (hr : automaton.Run (start config maxConnections clientHandlers handlers) tr h)
    (hc : c ∈ s.left (h.pc .timeout)) :
    h₁.enabled e ∧ automaton.Run (h₁.next e) tr₂ h ∧ c ∈ s.left ((h₁.next e).pc .timeout) := by
  obtain ⟨tr₁, rfl, hr₁, hno⟩ := hs
  obtain ⟨h₁', hr₁', he, hr₂⟩ := hr.at_event
  rw [hr₁'.eq_exec, ← hr₁.eq_exec] at he hr₂
  exact ⟨he, hr₂, left_since s hr₂ hno hc⟩

/-- A reason for which the sweep listed client `c` has stayed true: its connection is too old, or it
has not been heard from since, or its destination has not. -/
def StaysStale (h₁ : Hub) (c : ClientId) (a b d : Timestamp) (tr₂ : List HubEvent) : Prop :=
  (∀ e ∈ tr₂, e.createdId ≠ some c) ∧ ∀ md, h₁.clientStore.get c = some md →
    md.createdTime < d ∨
    (md.lastClientMsgTime < a ∧ ∀ t, .clientStamp c t ∈ tr₂ → t < a) ∨
    (md.lastDestinationMsgTime < b ∧ ∀ t, .destStamp c t ∈ tr₂ → t < b)

/-- No verdict for client `c` reached `Connect` since the sweep. -/
def StaysUnconnected (c : ClientId) (tr₂ : List HubEvent) : Prop :=
  (∀ e ∈ tr₂, e.createdId ≠ some c) ∧ ∀ v name, .verdictConnect v name ∈ tr₂ → v.clientId ≠ c

theorem stale_since {a b d : Timestamp} {tr₂ : List HubEvent} (hr : automaton.Run h₁ tr₂ h)
    (hstays : StaysStale h₁ c a b d tr₂) {md : ClientConnectionMetadata}
    (hget : h.clientStore.get c = some md) : md.Stale a b d := by
  obtain ⟨md₀, h₀, hcreated, hclient, hdest, -⟩ := record_since hr hstays.1 hget
  rcases hstays.2 md₀ h₀ with hold | ⟨hlast, hstamps⟩ | ⟨hlast, hstamps⟩
  · exact .inl (hcreated ▸ hold)
  · refine .inr (.inl ?_)
    rcases hclient with hsame | hstamp
    · exact hsame ▸ hlast
    · exact hstamps _ hstamp
  · refine .inr (.inr ?_)
    rcases hdest with hsame | hstamp
    · exact hsame ▸ hlast
    · exact hstamps _ hstamp

/-- What the timeout goroutine removes: a client that was stale when it was listed is stale when it
is removed, if a reason for it stayed true, and one that was not connected is not connected, if no
verdict for it was forwarded. -/
theorem timeout_kicks_current
    (hr : automaton.Run (start config maxConnections clientHandlers handlers) tr h) :
    (∀ k, h.enabled (.kickRemove .timeout c (some .connectionTimeout) k) →
      (∃ h₁ a b d l tr₂, LastSweep .old (start config maxConnections clientHandlers handlers) tr
        h₁ (.sweepList a b d l) tr₂) ∧
      ∀ h₁ a b d l tr₂, LastSweep .old (start config maxConnections clientHandlers handlers) tr
        h₁ (.sweepList a b d l) tr₂ → StaysStale h₁ c a b d tr₂ →
          ∀ md, h.clientStore.get c = some md → md.Stale a b d) ∧
    (∀ k, h.enabled (.kickRemove .timeout c (some .authTimeout) k) →
      (∃ h₁ a l tr₂, LastSweep .unauthed (start config maxConnections clientHandlers handlers) tr
        h₁ (.authList a l) tr₂) ∧
      ∀ h₁ a l tr₂, LastSweep .unauthed (start config maxConnections clientHandlers handlers) tr
        h₁ (.authList a l) tr₂ → StaysUnconnected c tr₂ →
          ∀ md, h.clientStore.get c = some md → md.isConnected = false) := by
  constructor
  · intro k he
    have hleft : c ∈ Sweep.left .old (h.pc .timeout) := by
      rcases timeout_kick hr c (some .connectionTimeout) k
        (by rw [show h.pc .timeout = _ from he]; rfl) with ⟨rest, rfl, -⟩ | ⟨rest, -, hreason⟩
      · rw [show h.pc .timeout = _ from he]
        exact List.mem_cons_self
      · cases hreason
    refine ⟨?_, ?_⟩
    · obtain ⟨h₁, e, tr₂, hs, hfound⟩ := exists_lastSweep .old hr hleft
      cases e <;> simp [Sweep.found] at hfound
      exact ⟨h₁, _, _, _, _, tr₂, hs⟩
    · intro h₁ a b d l tr₂ hs hstays md hget
      obtain ⟨-, hr₂, -⟩ := hs.found_left hr hleft
      exact stale_since hr₂ hstays hget
  · intro k he
    have hleft : c ∈ Sweep.left .unauthed (h.pc .timeout) := by
      rcases timeout_kick hr c (some .authTimeout) k (by rw [show h.pc .timeout = _ from he]; rfl)
        with ⟨rest, -, hreason⟩ | ⟨rest, rfl, -⟩
      · cases hreason
      · rw [show h.pc .timeout = _ from he]
        exact List.mem_cons_self
    refine ⟨?_, ?_⟩
    · obtain ⟨h₁, e, tr₂, hs, hfound⟩ := exists_lastSweep .unauthed hr hleft
      cases e <;> simp [Sweep.found] at hfound
      exact ⟨h₁, _, _, tr₂, hs⟩
    · intro h₁ a l tr₂ hs hstays md hget
      obtain ⟨hen, hr₂, hfound⟩ := hs.found_left hr hleft
      obtain ⟨md₀, h₀, -, -, -, hconn⟩ := record_since hr₂ hstays.1 hget
      obtain ⟨md₁, h₁', hmd₁⟩ := ClientStore.unconnected_of_mem (hen.2.mem_iff.mp hfound)
      obtain rfl : md₀ = md₁ := Option.some.inj (h₀.symm.trans h₁')
      rcases hconn with hsame | ⟨v, name, hv, hmem⟩
      · exact hsame.trans hmd₁
      · exact (hstays.2 v name hmem hv).elim

end

/-- The destination of client 1 has been silent for too long. -/
def sweeps : List HubEvent := [
  .advanceClock 15000001, .ticker, .sweepNow₁, .sweepNow₂ (-44999999), .sweepNow₃ (-44999999) 1]

/-- Client 1 is kicked for it, up to the removal of its record. -/
def kicksOld : List HubEvent := [
  .kickOldClient 1 [], .kickClientName .timeout 1 (some .connectionTimeout) (.kickOldClients []),
  .kickDestName .timeout 1 (some .connectionTimeout) "WebSocket" (.kickOldClients []),
  .kickClientLock .timeout 1 (some .connectionTimeout) "WebSocket" "UdpDestination"
    (.kickOldClients []),
  .kickClientSend .timeout 1 (some .connectionTimeout) "WebSocket" "UdpDestination"
    (.kickOldClients []),
  .kickDestLock .timeout 1 (some .connectionTimeout) "UdpDestination" (.kickOldClients []),
  .kickDestSend .timeout 1 (some .connectionTimeout) "UdpDestination" (.kickOldClients [])]

/-- The record of client 1 all the while. -/
def silentRecord : ClientConnectionMetadata := ⟨false, "WebSocket", "UdpDestination", 0, 0, 0⟩

theorem timeout_kicks_current_sample : silentRecord.Stale (-44999999) 1 (-21584999999) := by
  have hrun : automaton.Run udpHub (requested ++ attaches ++ sweeps ++
      .sweepList (-44999999) 1 (-21584999999) [1] :: kicksOld) _ :=
    Automaton.Admits.run (by decide +kernel)
  have hswept : automaton.Run udpHub (requested ++ attaches ++ sweeps) _ :=
    Automaton.Admits.run (by decide +kernel)
  refine ((timeout_kicks_current (c := 1) hrun).1 (.kickOldClients []) (by decide +kernel)).2
    _ _ _ _ [1] kicksOld ⟨_, rfl, hswept, by simp [kicksOld, Sweep.found]⟩
    ⟨by simp [kicksOld, createdId], ?_⟩ silentRecord (by decide +kernel)
  intro md hget
  obtain rfl : silentRecord = md := Option.some.inj (Eq.trans (by decide +kernel) hget)
  exact .inr (.inr ⟨by decide, by simp [kicksOld]⟩)

def destinationMessage : DestinationMessage := ⟨1, 15000001, 0, some [42]⟩

/-- Its destination speaks after all. -/
def destinationSpeaks : List HubEvent := [
  .recvDestinationMessage destinationMessage, .fwdDestNow destinationMessage,
  .fwdDestName destinationMessage 15000001 "WebSocket",
  .fwdDestLookup destinationMessage 15000001 "WebSocket",
  .fwdDestSend ⟨1, 15000001, 15000001, some [42]⟩ "WebSocket", .destStampNow 1,
  .destStamp 1 15000001]

/-- A message for client 1 is forwarded between the sweep and the kick, and client 1 is kicked. -/
theorem kicked_after_message :
    ¬∀ (config : HubConfig) (maxConnections : Nat) (clientHandlers : List String)
      (handlers : List DestinationHandler) (tr : List HubEvent) (h : Hub),
      automaton.Run (start config maxConnections clientHandlers handlers) tr h → ∀ c k,
        (h.enabled (.kickRemove .timeout c (some .connectionTimeout) k) →
          ∀ h₁ a b d l tr₂, LastSweep .old (start config maxConnections clientHandlers handlers) tr
            h₁ (.sweepList a b d l) tr₂ →
              ∀ md, h.clientStore.get c = some md → md.Stale a b d) ∧
        (h.enabled (.kickRemove .timeout c (some .authTimeout) k) →
          ∀ md, h.clientStore.get c = some md → md.isConnected = false) := by
  intro hall
  have hrun : automaton.Run udpHub (requested ++ attaches ++ sweeps ++
      .sweepList (-44999999) 1 (-21584999999) [1] :: (destinationSpeaks ++ kicksOld)) _ :=
    Automaton.Admits.run (by decide +kernel)
  have hswept : automaton.Run udpHub (requested ++ attaches ++ sweeps) _ :=
    Automaton.Admits.run (by decide +kernel)
  have hstale := (hall _ _ _ _ _ _ hrun 1 (.kickOldClients [])).1 (by decide +kernel) _ _ _ _ [1] _
    ⟨_, rfl, hswept, by simp [destinationSpeaks, kicksOld, Sweep.found]⟩
    ⟨false, "WebSocket", "UdpDestination", 0, 0, 15000001⟩ (by decide +kernel)
  revert hstale
  decide

end Hub
end Spanreed
