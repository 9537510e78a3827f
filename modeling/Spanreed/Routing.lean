import Spanreed.RouterFacts
import Spanreed.System

/-! # The routing map holds what is in use

`connections` of a router against the connections themselves, over runs of any length, also those
in which the counter of client ids has gone round and an id is given out again. The map takes an id
to a connection exactly while that connection is open under the id (`routing_exact`), so no id is
ever open twice, and what the dispatch loop hands over goes to a connection that is still in use:
`Remove` waits for it. -/

namespace Spanreed
open Flatbuffers Automata

/-- The connection the dispatch loop hands something to. -/
def RouterEvent.pushedTo : RouterEvent → Option Nat
  | .pushClose k _ | .pushMessage k _ | .pushVerdict k _ => some k
  | _ => none

theorem Connection.clientId_next (c : Connection) (e : ConnectionEvent) :
    (c.next e).clientId = c.clientId := by
  cases e <;> rfl

theorem Connection.removed_next {c : Connection} {e : ConnectionEvent} (he : e ≠ .remove) :
    (c.next e).removed = c.removed := by
  cases e <;> first | rfl | exact (he rfl).elim

namespace Router
open RouterEvent

/-- Connection `k` is open under `id`: its transport handler has not run `Remove` yet. -/
def InUse (r : Router) (id : ClientId) (k : Nat) : Prop :=
  ∃ conn, r.conns k = some conn ∧ conn.clientId = id ∧ conn.removed = false

section
variable {params : ClientConnectionRouterParams} {tr tr₁ tr₂ : List RouterEvent} {r : Router}
  {k : Nat} {id : ClientId}

/-- An event that neither registers nor removes leaves every connection as much in use as it
was. -/
theorem inUse_next {e : RouterEvent} (hr : automaton.Run (start params) tr r) (he : r.enabled e)
    (hreg : ∀ id, e ≠ .register id) (hrem : ∀ k, e ≠ .remove k) :
    (r.next e).InUse id k ↔ r.InUse id k := by
  unfold InUse
  cases hk : r.conns k with
  | some conn =>
    have hlt := ((conns_isSome_iff hr).2 k).mp (by simp [hk])
    rw [conns_next hk hlt]
    cases hp : e.connPart k with
    | none => simp
    | some e' =>
      have hne : e' ≠ .remove := by
        rintro rfl
        obtain rfl := eq_ofConnection he hp
        exact hrem k rfl
      simp [Connection.clientId_next, Connection.removed_next hne]
  | none =>
    rcases conns_next_none he hk with ⟨id', rfl, -, -⟩ | ⟨-, hnone⟩
    · exact (hreg id' rfl).elim
    · simp [hnone]

/-- A new connection is in use, and nothing else changes. -/
theorem inUse_register {id' : ClientId} :
    (r.next (.register id')).InUse id k ↔ if k = r.opened then id = id' else r.InUse id k := by
  by_cases hk : k = r.opened
  · subst hk
    rw [if_pos rfl]
    simp only [InUse, next, Function.update_self, Option.some.injEq, exists_eq_left']
    exact ⟨fun h => h.1.symm, fun h => ⟨h.symm, rfl⟩⟩
  · simp [InUse, next, hk]

/-- A connection that runs `Remove` is not in use any more, and nothing else changes. -/
theorem inUse_remove {k' : Nat} :
    (r.next (.remove k')).InUse id k ↔ k ≠ k' ∧ r.InUse id k := by
  by_cases hk : k = k'
  · subst hk
    cases hc : r.conns k <;> simp [InUse, next, connNext, hc, Connection.next]
  · simp [InUse, next, connNext, hk]

theorem lookup_iff_inUse (h : automaton.Run (start params) tr r) :
    r.connections.lookup id = some k ↔ r.InUse id k := by
  induction h generalizing id k with
  | nil => simp [start, InUse]
  | @snoc tr r e hr he ih =>
    by_cases hreg : ∃ id', e = .register id'
    · obtain ⟨id', rfl⟩ := hreg
      -- the id was free, so no connection was in use under it
      have hfree : ∀ k, ¬r.InUse id' k := by
        intro k hk
        rw [← ih, he.2.2] at hk
        cases hk
      change AList.lookup id (r.connections.insert id' r.opened) = some k ↔ _
      rw [show automaton.next r (.register id') = r.next (.register id') from rfl, inUse_register]
      by_cases hid : id = id'
      · subst hid
        rw [AList.lookup_insert, Option.some.injEq, eq_comm]
        split
        · next hk => exact ⟨fun _ => rfl, fun _ => hk⟩
        · next hk => exact ⟨fun h => (hk h).elim, fun h => (hfree k h).elim⟩
      · rw [AList.lookup_insert_ne hid, ih]
        split
        · next hk =>
          subst hk
          refine ⟨?_, fun h => (hid h).elim⟩
          rintro ⟨conn, hconn, -, -⟩
          have hlt := ((conns_isSome_iff hr).2 r.opened).mp (by simp [hconn])
          exact (lt_irrefl _ hlt).elim
        · rfl
    by_cases hrem : ∃ k', e = .remove k'
    · obtain ⟨k', rfl⟩ := hrem
      obtain ⟨conn, hconn, hopen⟩ : ∃ conn, r.conns k' = some conn ∧ conn.removed = false := by
        have := he.2
        unfold ConnEnabled at this
        split at this
        · next conn hconn => exact ⟨conn, hconn, this.2.2⟩
        · exact this.elim
      have hk' : r.connections.lookup conn.clientId = some k' := ih.mpr ⟨conn, hconn, rfl, hopen⟩
      change AList.lookup id (r.next (.remove k')).connections = some k ↔ _
      rw [show automaton.next r (.remove k') = r.next (.remove k') from rfl, inUse_remove]
      simp only [next, hconn]
      by_cases hid : id = conn.clientId
      · subst hid
        rw [AList.lookup_erase]
        constructor
        · intro h
          cases h
        · rintro ⟨hne, huse⟩
          exact (hne (Option.some.inj ((ih.mpr huse).symm.trans hk'))).elim
      · rw [AList.lookup_erase_ne hid, ih]
        refine ⟨fun huse => ⟨?_, huse⟩, And.right⟩
        rintro rfl
        obtain ⟨conn', hconn', hid', -⟩ := huse
        cases hconn.symm.trans hconn'
        exact hid hid'.symm
    · have hmap : (automaton.next r e).connections = r.connections := by
        cases e <;> first | rfl | exact (hreg ⟨_, rfl⟩).elim | exact (hrem ⟨_, rfl⟩).elim
      rw [hmap, ih]
      exact (inUse_next hr he (fun id' h => hreg ⟨id', h⟩) fun k' h => hrem ⟨k', h⟩).symm

/-- The read lock keeps the connection the dispatch loop is sending to in the map. -/
theorem target_lookup (h : automaton.Run (start params) tr r)
    (ht : r.dispatch.target = some (k, id)) : r.connections.lookup id = some k := by
  induction h with
  | nil => cases ht
  | @snoc tr r e hr he ih =>
    have hreads : r.dispatch.target = some (k, id) → r.dispatch.readsConnections ≠ false := by
      cases r.dispatch <;> simp [DispatchPc.target, DispatchPc.readsConnections]
    cases e
    case routeClose m k' | routeMessage m k' | routeVerdict m k' =>
      cases ht
      exact he.2
    case exit | recvClose | recvMessage | recvVerdict | noRouteClose | noRouteMessage
        | noRouteVerdict | pushClose | pushMessage | pushVerdict => cases ht
    case register id' => exact (hreads ht he.2.1).elim
    case remove k' => exact (hreads ht he.1).elim
    all_goals exact ih ht

/-- `Remove` is for good. -/
theorem removed_of_mem (h : automaton.Run (start params) tr r) (hk : .remove k ∈ tr) :
    ∃ conn, r.conns k = some conn ∧ conn.removed = true := by
  induction h with
  | nil => cases hk
  | @snoc tr r e hr he ih =>
    rcases List.mem_append.mp hk with hold | hnew
    · obtain ⟨conn, hconn, hrem⟩ := ih hold
      have hlt := ((conns_isSome_iff hr).2 k).mp (by simp [hconn])
      refine ⟨_, conns_next hconn hlt, ?_⟩
      split
      · next e' _ => cases e' <;> first | exact hrem | rfl
      · exact hrem
    · obtain rfl := List.mem_singleton.mp hnew
      have hen := he.2
      unfold ConnEnabled at hen
      split at hen
      · next conn hconn =>
        exact ⟨conn.next .remove, by simp [automaton, next, connNext, hconn], rfl⟩
      · exact hen.elim

/-- In every state the routing map is exact: an id leads to a connection iff that connection was
opened under the id and has not been removed. Whatever the dispatch loop is about to hand over
goes to a connection in use under the id it names, and once a connection has been removed nothing
is handed to it any more, although its id may be in use again. -/
theorem routing_exact (h : automaton.Run (start params) tr r) :
    (∀ id k, r.connections.lookup id = some k ↔ r.InUse id k) ∧
      (∀ id k, r.dispatch.target = some (k, id) → r.InUse id k) ∧
      ∀ tr₁ tr₂ k, tr = tr₁ ++ .remove k :: tr₂ → ∀ e ∈ tr₂, e.pushedTo ≠ some k := by
  refine ⟨fun _ _ => lookup_iff_inUse h, fun _ _ ht => (lookup_iff_inUse h).mp (target_lookup h ht),
    ?_⟩
  rintro tr₁ tr₂ k rfl e he hpush
  obtain ⟨tr₃, tr₄, rfl⟩ := List.append_of_mem he
  rw [← List.cons_append, ← List.append_assoc] at h
  obtain ⟨r₁, h₁, he₁, -⟩ := h.at_event
  obtain ⟨id, ht⟩ : ∃ id, r₁.dispatch.target = some (k, id) := by
    cases e <;> cases hpush
    all_goals exact ⟨_, by rw [he₁.1]; rfl⟩
  obtain ⟨conn, hconn, -, hopen⟩ := (lookup_iff_inUse h₁).mp (target_lookup h₁ ht)
  obtain ⟨conn', hconn', hrem⟩ := removed_of_mem (k := k) h₁ (by simp)
  cases hconn.symm.trans hconn'
  simp [hrem] at hopen

end

/-- A client that leaves while it waits for its verdict, and another one that gets its id. -/
def reopened : List RouterEvent := [
  .nextClientId 1, .register 1, .conn 0 (.put Sample.authPacket),
  .conn 0 (.authPacket Sample.authPacket), .conn 0 (.openNow Sample.openCommand),
  .conn 0 (.openSend Sample.openCommand), .conn 0 .readerStops, .conn 0 .clientClose,
  .conn 0 .verdictClientClose, .conn 0 .closeTransport, .conn 0 .takeClose, .remove 0,
  .nextClientId 1, .register 1]

set_option maxRecDepth 100000 in
theorem routing_exact_reopened :
    let r := automaton.exec (start (createClientConnectionRouter 0 0)) reopened
    r.connections.lookup 1 = some 1 ∧ r.InUse 1 1 ∧ ¬r.InUse 1 0 := by
  intro r
  have hrun : automaton.Admits (start (createClientConnectionRouter 0 0)) reopened := by
    decide +kernel
  have hexact := (routing_exact (Automaton.Admits.run hrun)).1
  have hlookup : r.connections.lookup 1 = some 1 := by decide +kernel
  refine ⟨hlookup, (hexact 1 1).mp hlookup, fun h => ?_⟩
  cases hlookup.symm.trans ((hexact 1 0).mpr h)

end Router
end Spanreed
