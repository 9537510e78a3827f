import Spanreed.Router
import Spanreed.ConnectionFacts

/-! # Connections inside a router

A history of the router is, seen from one of its connections, a history of that connection
(`Router.connection_run`), so everything known about single connections holds there. The ids of
the connections are those `GetNextClientId` returned (`count_registered_le`), and the dispatch
loop hands a command to the connection it names, as long as the connection is in the routing map
(`exact_dispatch`, `lookup_of_registered`). -/

namespace Spanreed
open Flatbuffers Automata

namespace RouterEvent

/-- What connection `k` does in an event of the router. -/
def connPart (k : Nat) : RouterEvent → Option ConnectionEvent
  | .cancel => some .cancel
  | .conn k' e => if k' = k then some e else none
  | .remove k' => if k' = k then some .remove else none
  | .pushClose k' m => if k' = k then some (.pushClose m) else none
  | .pushMessage k' m => if k' = k then some (.pushMessage m) else none
  | .pushVerdict k' v => if k' = k then some (.pushVerdict v) else none
  | _ => none

/-- The event of the router in which connection `k` does `e`. -/
def ofConnection (k : Nat) : ConnectionEvent → RouterEvent
  | .cancel => .cancel
  | .remove => .remove k
  | .pushClose m => .pushClose k m
  | .pushMessage m => .pushMessage k m
  | .pushVerdict v => .pushVerdict k v
  | e => .conn k e

theorem ofConnection_of_own {k : Nat} {e : ConnectionEvent} (h : e.own = true) :
    ofConnection k e = .conn k e := by
  cases e <;> first | rfl | cases h

/-- The id an `OpenConnection` call gets. -/
def idTaken : RouterEvent → Option ClientId
  | .nextClientId id => some id
  | _ => none

/-- The id of a connection that is opened. -/
def idRegistered : RouterEvent → Option ClientId
  | .register id => some id
  | _ => none

/-- The payload of a message for client `c` that the dispatch loop receives. -/
def dataReceived (c : ClientId) : RouterEvent → Option (Option Bytes)
  | .recvMessage m => m.dataFor c
  | _ => none

/-- The payload of a message for client `c` that the dispatch loop pushes to a connection. -/
def dataPushed (c : ClientId) : RouterEvent → Option (Option Bytes)
  | .pushMessage _ m => m.dataFor c
  | _ => none

/-- The payload of a message of client `c` for the hub. -/
def dataSent (c : ClientId) : RouterEvent → Option (Option Bytes)
  | .conn _ (.transportSend m) => m.dataFor c
  | _ => none

/-- The dispatch loop drops a message for client `c`. -/
def Drops (c : ClientId) : RouterEvent → Prop
  | .noRouteMessage m => m.clientId = c
  | _ => False

/-- The client an event speaks for towards the hub, or is pushed to, with its connection. -/
def speaksFor : RouterEvent → Option (Nat × ClientId)
  | .conn k (.transportSend m) => some (k, m.clientId)
  | .conn k (.transportClose m) => some (k, m.clientId)
  | .conn k (.authClose m) => some (k, m.clientId)
  | .conn k (.openSend cmd) => some (k, cmd.clientId)
  | .pushMessage k m => some (k, m.clientId)
  | .pushClose k m => some (k, m.clientId)
  | .pushVerdict k v => some (k, v.clientId)
  | _ => none

end RouterEvent

/-- The history of connection `k` in a history of its router. -/
abbrev connectionTrace (k : Nat) (tr : List RouterEvent) : List ConnectionEvent :=
  tr.filterMap (RouterEvent.connPart k)

/-- The ids of the connections in the order of their numbers. -/
abbrev registeredIds (tr : List RouterEvent) : List ClientId :=
  tr.filterMap RouterEvent.idRegistered

/-- The connection and the client of the command the dispatch loop is sending. -/
def DispatchPc.target : DispatchPc → Option (Nat × ClientId)
  | .sendClose k m => some (k, m.clientId)
  | .sendMessage k m => some (k, m.clientId)
  | .sendVerdict k v => some (k, v.clientId)
  | _ => none

/-- What the dispatch loop has in its hands was received. -/
def DispatchPc.Origin (tr : List RouterEvent) : DispatchPc → Prop
  | .gotClose m | .sendClose _ m => .recvClose m ∈ tr
  | .gotMessage m | .sendMessage _ m => .recvMessage m ∈ tr
  | .gotVerdict v | .sendVerdict _ v => .recvVerdict v ∈ tr
  | _ => True

theorem DispatchPc.Origin.mono {tr tr' : List RouterEvent} {pc : DispatchPc} (h : pc.Origin tr) :
    pc.Origin (tr ++ tr') := by
  cases pc <;> first | exact List.mem_append_left _ h | trivial

namespace Router
open RouterEvent

/-- What the dispatch loop has in its hands for client `c`. -/
def dispatchHolds (c : ClientId) (r : Router) : List (Option Bytes) :=
  match r.dispatch with
  | .gotMessage m => (m.dataFor c).toList
  | .sendMessage _ m => (m.dataFor c).toList
  | _ => []

section
variable {params : ClientConnectionRouterParams} {tr : List RouterEvent} {r : Router} {k : Nat}
  {c : ClientId}

theorem params_eq (h : automaton.Run (start params) tr r) : r.params = params := by
  refine h.invariant (I := fun r => r.params = params) rfl ?_
  intro r e ih _
  cases e <;> exact ih

/-- Only one event is, for connection `k`, an event of its own. -/
theorem eq_ofConnection {e : RouterEvent} {e' : ConnectionEvent} (he : r.enabled e)
    (hp : e.connPart k = some e') : e = ofConnection k e' := by
  cases e <;> simp only [connPart] at hp
  case cancel => cases hp; rfl
  case conn =>
    split at hp <;> cases hp
    next h => rw [h, ofConnection_of_own he.1]
  case remove | pushClose | pushMessage | pushVerdict =>
    split at hp <;> cases hp
    next h => rw [h]; rfl
  all_goals cases hp

/-- A connection that exists takes the events of its part. -/
theorem enabled_of_part {e : RouterEvent} {e' : ConnectionEvent} {conn : Connection}
    (he : r.enabled e) (hk : r.conns k = some conn) (hp : e.connPart k = some e') :
    conn.enabled r.params e' := by
  have key : r.ConnEnabled k e' → conn.enabled r.params e' := by
    simp only [ConnEnabled, hk]
    exact id
  obtain rfl := eq_ofConnection he hp
  cases e'
  case cancel => trivial
  case remove | pushClose | pushMessage | pushVerdict => exact key he.2
  all_goals exact key he.2.1

/-- How an event changes connection `k` once it exists. -/
theorem conns_next {e : RouterEvent} {conn : Connection}
    (hk : r.conns k = some conn) (hlt : k < r.opened) :
    (r.next e).conns k = some (match e.connPart k with
      | some e' => conn.next e'
      | none => conn) := by
  cases e <;> simp only [next, connPart]
  case register id => rw [Function.update_of_ne (by omega), hk]
  case cancel => simp [hk]
  case conn k' _ | remove k' | pushClose k' _ | pushMessage k' _ | pushVerdict k' _ =>
    simp only [connNext, Function.update_apply]
    by_cases h : k = k'
    · subst h; simp [hk]
    · simp [h, Ne.symm h, hk]
  all_goals exact hk

/-- Only registration makes a connection, and its number is the next one. -/
theorem conns_next_none {e : RouterEvent} (he : r.enabled e) (hk : r.conns k = none) :
    (∃ id, e = .register id ∧ k = r.opened ∧ (r.next e).conns k = some (.opened id r.done)) ∨
      (e.connPart k = none ∨ e = .cancel) ∧ (r.next e).conns k = none := by
  have hno : ∀ {e'}, ¬r.ConnEnabled k e' := by simp [ConnEnabled, hk]
  cases e
  case register id =>
    by_cases h : k = r.opened
    · exact .inl ⟨id, rfl, h, by simp [next, h]⟩
    · exact .inr ⟨.inl rfl, by simp [next, Function.update_of_ne h, hk]⟩
  case cancel => exact .inr ⟨.inr rfl, by simp [next, hk]⟩
  case conn k' e' =>
    have h : k' ≠ k := by rintro rfl; exact hno he.2.1
    exact .inr ⟨.inl (if_neg h), by simp [next, connNext, Function.update_of_ne h.symm, hk]⟩
  case remove k' | pushClose k' m | pushMessage k' m | pushVerdict k' m =>
    have h : k' ≠ k := by rintro rfl; exact hno he.2
    exact .inr ⟨.inl (if_neg h), by simp [next, connNext, Function.update_of_ne h.symm, hk]⟩
  all_goals exact .inr ⟨.inl rfl, hk⟩

theorem opened_next (e : RouterEvent) :
    (r.next e).opened = r.opened + (idRegistered e).toList.length := by
  cases e <;> rfl

/-- The connections are numbered in the order of their registration. -/
theorem conns_isSome_iff (h : automaton.Run (start params) tr r) :
    r.opened = (registeredIds tr).length ∧ ∀ k, (r.conns k).isSome ↔ k < r.opened := by
  induction h with
  | nil => simp [start]
  | @snoc tr r e hr he ih =>
    obtain ⟨ih₁, ih₂⟩ := ih
    have hnext := opened_next (r := r) e
    refine ⟨?_, fun k => ?_⟩
    · simp only [automaton, registeredIds, List.filterMap_append, List.length_append] at ih₁ ⊢
      rw [hnext, ih₁]
      cases hid : idRegistered e <;> simp [hid]
    · simp only [automaton]
      rw [hnext]
      cases hk : r.conns k with
      | some conn =>
        have hlt := (ih₂ k).mp (by simp [hk])
        simp only [conns_next hk hlt, Option.isSome_some, true_iff]
        omega
      | none =>
        have hge : ¬k < r.opened := fun hlt => by simpa [hk] using (ih₂ k).mpr hlt
        rcases conns_next_none he hk with ⟨id, rfl, rfl, hnew⟩ | ⟨_, hnone⟩
        · simp [hnew, idRegistered]
        · simp only [hnone, Option.isSome_none, Bool.false_eq_true, false_iff]
          cases e
          case register id =>
            have hne : k ≠ r.opened := by
              rintro rfl
              simp [next] at hnone
            simp only [idRegistered, Option.toList_some, List.length_singleton]
            omega
          all_goals exact hge

/-- An event of the router leaves a connection alone or is an event of it. -/
theorem conn_step (h : automaton.Run (start params) tr r) {conn : Connection} {e : RouterEvent}
    (hk : r.conns k = some conn) (he : r.enabled e) :
    e.connPart k = none ∧ (r.next e).conns k = some conn ∨
      ∃ e', e.connPart k = some e' ∧ e = ofConnection k e' ∧ conn.enabled params e' ∧
        (r.next e).conns k = some (conn.next e') := by
  have hlt := ((conns_isSome_iff h).2 k).mp (by simp [hk])
  have hnext := conns_next (e := e) hk hlt
  cases hp : e.connPart k with
  | none => exact .inl ⟨rfl, by rw [hnext, hp]⟩
  | some e' =>
    exact .inr ⟨e', rfl, eq_ofConnection he hp, params_eq h ▸ enabled_of_part he hk hp,
      by rw [hnext, hp]⟩

/-- An event of a connection, seen in the history of the router. -/
theorem mem_of_connection (h : automaton.Run (start params) tr r) {e : ConnectionEvent}
    (he : e ∈ connectionTrace k tr) : ofConnection k e ∈ tr := by
  obtain ⟨e', he', hp⟩ := List.mem_filterMap.mp he
  obtain ⟨_, _, _, hen, _⟩ := h.of_mem he'
  exact eq_ofConnection hen hp ▸ he'

/-- Seen from connection `k`, a history of the router is a history of the connection; contexts
cancelled before it was opened are cancelled in it from the start. -/
theorem connection_history (h : automaton.Run (start params) tr r) :
    (∀ conn, r.conns k = some conn →
      (Connection.automaton params).Run (.opened conn.clientId false) (connectionTrace k tr) conn) ∧
    (r.conns k = none → ∀ id,
      (Connection.automaton params).Run (.opened id false) (connectionTrace k tr)
        (.opened id r.done)) := by
  induction h with
  | nil => exact ⟨by simp [start], fun _ _ => .nil⟩
  | @snoc tr r e hr he ih =>
    obtain ⟨ih₁, ih₂⟩ := ih
    simp only [connectionTrace, List.filterMap_append] at ih₁ ih₂ ⊢
    cases hk : r.conns k with
    | some conn =>
      rcases conn_step hr hk he with ⟨hp, hnext⟩ | ⟨e', hp, -, hen, hnext⟩
      all_goals refine ⟨fun conn' hconn' => ?_, fun hnone => by simp [automaton, hnext] at hnone⟩
      all_goals obtain rfl := Option.some.inj (hnext.symm.trans hconn')
      · simpa [hp] using ih₁ conn hk
      · have hstep : (Connection.automaton params).Run _ _ (conn.next e') := (ih₁ conn hk).snoc hen
        have hid : (conn.next e').clientId = conn.clientId := by cases e' <;> rfl
        simpa [hp, hid] using hstep
    | none =>
      have ih := ih₂ hk
      rcases conns_next_none he hk with ⟨id, rfl, rfl, hnew⟩ | ⟨hquiet, hnone⟩
      · refine ⟨fun conn' hconn' => ?_, fun hnone => ?_⟩
        · obtain rfl := Option.some.inj (hnew.symm.trans hconn')
          rw [List.filterMap_cons_none rfl, List.filterMap_nil, List.append_nil]
          exact ih id
        · simp [automaton, hnew] at hnone
      · refine ⟨fun conn' hconn' => by simp [automaton, hnone] at hconn', fun _ id => ?_⟩
        rcases hquiet with hquiet | rfl
        · have hd : (automaton.next r e).done = r.done := by
            cases e
            case cancel => cases hquiet
            all_goals rfl
          simpa [hquiet, hd] using ih id
        · have hen : (Connection.opened id r.done).enabled params .cancel := trivial
          exact (ih id).snoc hen

theorem connection_run {conn : Connection} (h : automaton.Run (start params) tr r)
    (hk : r.conns k = some conn) :
    (Connection.automaton params).Run (.opened conn.clientId false) (connectionTrace k tr) conn :=
  (connection_history h).1 conn hk

/-- The id of connection `k` is the `k`-th that was registered. -/
theorem registeredIds_getElem? (h : automaton.Run (start params) tr r) (k : Nat) :
    (registeredIds tr)[k]? = (r.conns k).map Connection.clientId := by
  induction h with
  | nil => simp [start]
  | @snoc tr r e hr he ih =>
    obtain ⟨hlen, hsome⟩ := conns_isSome_iff hr
    simp only [registeredIds, List.filterMap_append] at ih hlen ⊢
    cases hk : r.conns k with
    | some conn =>
      have hlt := (hsome k).mp (by simp [hk])
      rw [List.getElem?_append_left (by omega), ih, hk]
      simp only [automaton, conns_next hk hlt, Option.map_some, Option.some.injEq]
      split
      · next e' _ => cases e' <;> rfl
      · rfl
    | none =>
      have hge : r.opened ≤ k := by
        by_contra hlt
        simpa [hk] using (hsome k).mpr (by omega)
      rw [List.getElem?_append_right (by omega)]
      rcases conns_next_none he hk with ⟨id, rfl, rfl, hnew⟩ | ⟨_, hnone⟩
      · have hid : ((automaton.next r (.register id)).conns r.opened).map Connection.clientId =
            some id := congrArg _ hnew
        rw [hid, hlen, Nat.sub_self]
        rfl
      · simp only [automaton, hnone, Option.map_none]
        cases e
        case register id =>
          have hne : k ≠ r.opened := by
            rintro rfl
            simp [next] at hnone
          simp only [idRegistered, List.filterMap_cons, List.filterMap_nil]
          exact List.getElem?_eq_none (by simp; omega)
        all_goals rfl

theorem registeredIds_append (tr tr' : List RouterEvent) :
    registeredIds (tr ++ tr') = registeredIds tr ++ registeredIds tr' :=
  List.filterMap_append ..

theorem registeredIds_mono {tr' : List RouterEvent} (h : (registeredIds tr)[k]? = some c) :
    (registeredIds (tr ++ tr'))[k]? = some c := by
  rw [registeredIds_append, List.getElem?_append_left (List.getElem?_eq_some_iff.mp h).1]
  exact h

/-! ## The routing map and the dispatch loop -/

/-- An entry of the routing map leads to a connection of that id. -/
theorem lookup_registered (h : automaton.Run (start params) tr r) {id : ClientId}
    (hl : r.connections.lookup id = some k) : (registeredIds tr)[k]? = some id := by
  induction h with
  | nil => simp [start] at hl
  | @snoc tr r e hr he ih =>
    cases e
    case register id' =>
      simp only [automaton, next] at hl
      by_cases hid : id = id'
      · subst hid
        rw [AList.lookup_insert] at hl
        obtain rfl := Option.some.inj hl
        simp [registeredIds, idRegistered, (conns_isSome_iff hr).1]
      · rw [AList.lookup_insert_ne hid] at hl
        exact registeredIds_mono (ih hl)
    case remove k' =>
      simp only [automaton, next] at hl
      split at hl
      · next conn _ =>
        by_cases hid : id = conn.clientId
        · rw [hid, AList.lookup_erase] at hl
          cases hl
        · rw [AList.lookup_erase_ne hid] at hl
          exact registeredIds_mono (ih hl)
      · exact registeredIds_mono (ih hl)
    all_goals exact registeredIds_mono (ih hl)

/-- The dispatch loop sends a command to a connection of the client it names. -/
theorem target_registered (h : automaton.Run (start params) tr r) {id : ClientId}
    (ht : r.dispatch.target = some (k, id)) : (registeredIds tr)[k]? = some id := by
  induction h with
  | nil => cases ht
  | @snoc tr r e hr he ih =>
    cases e
    case routeClose m k' | routeMessage m k' | routeVerdict m k' =>
      cases ht
      exact registeredIds_mono (lookup_registered hr he.2)
    case exit | recvClose | recvMessage | recvVerdict | noRouteClose | noRouteMessage
        | noRouteVerdict | pushClose | pushMessage | pushVerdict => cases ht
    all_goals exact registeredIds_mono (ih ht)

theorem dispatch_origin (h : automaton.Run (start params) tr r) : r.dispatch.Origin tr := by
  induction h with
  | nil => trivial
  | @snoc tr r e hr he ih =>
    have hmem : e ∈ tr ++ [e] := by simp
    cases e
    case recvClose | recvMessage | recvVerdict => exact hmem
    case routeClose | routeMessage | routeVerdict =>
      rw [he.1] at ih
      exact List.mem_append_left _ ih
    case exit | noRouteClose | noRouteMessage | noRouteVerdict | pushClose | pushMessage
        | pushVerdict => trivial
    all_goals exact ih.mono

theorem dispatch_origin_at (h : automaton.Run (start params) tr r) {pc : DispatchPc}
    (hd : r.dispatch = pc) : pc.Origin tr :=
  hd ▸ dispatch_origin h

/-- A connection speaks for its own client only, and is spoken to about its own client only. -/
theorem speaksFor_registered (h : automaton.Run (start params) tr r) {e : RouterEvent}
    {id : ClientId} (he : e ∈ tr) (hs : e.speaksFor = some (k, id)) :
    (registeredIds tr)[k]? = some id := by
  induction h with
  | nil => cases he
  | @snoc tr r e' hr hen ih =>
    rcases List.mem_append.mp he with he | he
    · exact registeredIds_mono (ih he)
    obtain rfl := List.mem_singleton.mp he
    clear he
    refine registeredIds_mono ?_
    cases e
    case pushMessage k' m | pushClose k' m | pushVerdict k' m =>
      cases hs
      exact target_registered hr (by rw [hen.1]; rfl)
    case conn k' e' =>
      have hconn : ∃ conn, r.conns k' = some conn ∧ conn.enabled r.params e' := by
        have := hen.2.1
        unfold ConnEnabled at this
        split at this
        · exact ⟨_, ‹_›, this⟩
        · exact this.elim
      obtain ⟨conn, hk', hce⟩ := hconn
      have hrun := connection_run hr hk'
      have hid := registeredIds_getElem? hr k'
      rw [hk', Option.map_some] at hid
      cases e' <;> cases hs <;> rw [hid]
      case authClose m => rw [hce.2]; rfl
      case openSend cmd => rw [((Connection.opens_with hrun).2 cmd hce).clientId_eq]
      case transportSend m => rw [(Connection.transportListener_clientId hrun).1 m hce]
      case transportClose m => rw [(Connection.transportListener_clientId hrun).2 m hce]
    all_goals cases hs

/-- The ids that are registered or about to be were taken, each as often. -/
theorem count_registered_le (h : automaton.Run (start params) tr r) (a : ClientId) :
    (registeredIds tr).count a + r.opening.count a ≤ (tr.filterMap idTaken).count a := by
  induction h with
  | nil => simp [start]
  | @snoc tr r e hr he ih =>
    simp only [registeredIds, List.filterMap_append, List.count_append] at ih ⊢
    cases e
    case nextClientId id =>
      simp only [automaton, next, idRegistered, idTaken, List.filterMap_cons, List.filterMap_nil,
        List.count_append, List.count_nil]
      omega
    case register id =>
      have hpos := List.count_pos_iff.mpr he.1
      simp only [automaton, next, idRegistered, idTaken, List.filterMap_cons, List.filterMap_nil,
        List.count_erase, List.count_cons, List.count_nil, beq_iff_eq]
      split
      · next h => subst h; omega
      · next h => omega
    case registerFails id =>
      have := (List.erase_sublist (a := id) (l := r.opening)).count_le a
      simp only [automaton, next, idRegistered, idTaken, List.filterMap_cons, List.filterMap_nil,
        List.count_nil] at this ⊢
      omega
    all_goals exact ih

theorem registeredIds_nodup (h : automaton.Run (start params) tr r)
    (hn : (tr.filterMap idTaken).Nodup) : (registeredIds tr).Nodup := by
  rw [List.nodup_iff_count_le_one] at hn ⊢
  intro a
  have := count_registered_le h a
  have := hn a
  omega

/-- A connection stays in the routing map until its transport handler removes it. -/
theorem lookup_of_registered (h : automaton.Run (start params) tr r)
    (hn : (registeredIds tr).Nodup) (hk : (registeredIds tr)[k]? = some c)
    (hrem : RouterEvent.remove k ∉ tr) : r.connections.lookup c = some k := by
  induction h with
  | nil => simp at hk
  | @snoc tr r e hr he ih =>
    have hn' : (registeredIds tr).Nodup := by
      rw [registeredIds_append] at hn
      exact (List.nodup_append.mp hn).1
    have hrem' : RouterEvent.remove k ∉ tr := fun h => hrem (List.mem_append_left _ h)
    cases e
    case register id =>
      obtain ⟨hlen, _⟩ := conns_isSome_iff hr
      simp only [automaton, next]
      by_cases hid : c = id
      · subst hid
        have hk' : (registeredIds (tr ++ [.register c]))[r.opened]? = some c := by
          simp [registeredIds, idRegistered, hlen]
        rw [AList.lookup_insert]
        obtain ⟨h₁, h₁'⟩ := List.getElem?_eq_some_iff.mp hk'
        obtain ⟨h₂, h₂'⟩ := List.getElem?_eq_some_iff.mp hk
        exact congrArg some ((List.Nodup.getElem_inj_iff hn).mp (h₁'.trans h₂'.symm))
      · rw [AList.lookup_insert_ne hid]
        refine ih hn' ?_ hrem'
        rw [registeredIds_append] at hk
        by_cases hlt : k < (registeredIds tr).length
        · rwa [List.getElem?_append_left hlt] at hk
        · rw [List.getElem?_append_right (by omega)] at hk
          have := List.mem_of_getElem? hk
          simp [registeredIds, idRegistered] at this
          exact (hid this).elim
    case remove k' =>
      have hne : k' ≠ k := by
        rintro rfl
        exact hrem (by simp)
      have hk' : (registeredIds tr)[k]? = some c := by
        rwa [registeredIds, filterMap_snoc_none rfl] at hk
      simp only [automaton, next]
      split
      · next conn hconn =>
        have hid : c ≠ conn.clientId := by
          rintro rfl
          have hkk := registeredIds_getElem? hr k'
          rw [hconn, Option.map_some] at hkk
          obtain ⟨h₁, h₁'⟩ := List.getElem?_eq_some_iff.mp hkk
          obtain ⟨h₂, h₂'⟩ := List.getElem?_eq_some_iff.mp hk'
          exact hne ((List.Nodup.getElem_inj_iff hn').mp (h₁'.trans h₂'.symm))
        rw [AList.lookup_erase_ne hid]
        exact ih hn' hk' hrem'
      · exact ih hn' hk' hrem'
    all_goals
      rw [registeredIds, filterMap_snoc_none rfl] at hk
      exact ih hn' hk hrem'

/-- With distinct ids, an event is about client `c` exactly if it is about `c`'s connection. -/
theorem speaksFor_iff (h : automaton.Run (start params) tr r) (hn : (registeredIds tr).Nodup)
    (hk : (registeredIds tr)[k]? = some c) {e : RouterEvent} {k' : Nat} {id : ClientId}
    (he : e ∈ tr) (hs : e.speaksFor = some (k', id)) : id = c ↔ k' = k := by
  have hk' := speaksFor_registered h he hs
  constructor
  · rintro rfl
    obtain ⟨h₁, h₁'⟩ := List.getElem?_eq_some_iff.mp hk'
    obtain ⟨h₂, h₂'⟩ := List.getElem?_eq_some_iff.mp hk
    exact (List.Nodup.getElem_inj_iff hn).mp (h₁'.trans h₂'.symm)
  · rintro rfl
    exact Option.some.inj (hk'.symm.trans hk)

theorem own_of_mem (h : automaton.Run (start params) tr r) {e : ConnectionEvent}
    (he : .conn k e ∈ tr) : e.own = true := by
  induction h with
  | nil => cases he
  | snoc _ hen ih =>
    rcases List.mem_append.mp he with he | he
    · exact ih he
    · cases List.mem_singleton.mp he
      exact hen.1

/-- What the dispatch loop pushes for `c` is what is pushed to `c`'s connection. -/
theorem dataPushed_eq (h : automaton.Run (start params) tr r) (hn : (registeredIds tr).Nodup)
    (hk : (registeredIds tr)[k]? = some c) :
    tr.filterMap (dataPushed c) = (connectionTrace k tr).filterMap ConnectionEvent.pushedData := by
  rw [List.filterMap_filterMap]
  refine List.filterMap_congr fun e he => ?_
  cases e
  case pushMessage k' m =>
    have hiff := speaksFor_iff h hn hk he rfl
    by_cases hkk : k' = k
    · simp [dataPushed, ClientMessage.dataFor, connPart, hkk, hiff.mpr hkk,
        ConnectionEvent.pushedData]
    · simp [dataPushed, ClientMessage.dataFor, connPart, hkk, mt hiff.mp hkk]
  case conn k' e' =>
    simp only [dataPushed, connPart]
    split
    · have hown := own_of_mem h he
      cases e' <;> first | rfl | cases hown
    · rfl
  case cancel => rfl
  case remove | pushClose | pushVerdict =>
    simp only [dataPushed, connPart]
    split <;> rfl
  all_goals rfl

/-- What goes to the hub for `c` is what `c`'s connection sends. -/
theorem dataSent_eq (h : automaton.Run (start params) tr r) (hn : (registeredIds tr).Nodup)
    (hk : (registeredIds tr)[k]? = some c) :
    tr.filterMap (dataSent c) = (connectionTrace k tr).filterMap ConnectionEvent.sentData := by
  rw [List.filterMap_filterMap]
  refine List.filterMap_congr fun e he => ?_
  cases e
  case conn k' e' =>
    simp only [connPart]
    cases e'
    case transportSend m =>
      have hiff := speaksFor_iff h hn hk he rfl
      by_cases hkk : k' = k
      · simp [dataSent, ClientMessage.dataFor, hkk, hiff.mpr hkk, ConnectionEvent.sentData]
      · simp [dataSent, ClientMessage.dataFor, hkk, mt hiff.mp hkk]
    all_goals simp only [dataSent]; split <;> rfl
  case remove | pushClose | pushMessage | pushVerdict =>
    simp only [dataSent, connPart]
    split <;> rfl
  all_goals rfl

theorem dispatch_step {e : RouterEvent} (he : r.enabled e) (hd : ¬e.Drops c) :
    (dataPushed c e).toList ++ (r.next e).dispatchHolds c =
      r.dispatchHolds c ++ (dataReceived c e).toList := by
  cases e
  case noRouteMessage m =>
    have hne : m.clientId ≠ c := hd
    simp [next, dispatchHolds, dataReceived, dataPushed, he.1, ClientMessage.dataFor, hne]
  case recvMessage m | recvClose m | recvVerdict m =>
    have hd : r.dispatch = .select := he
    simp [next, dispatchHolds, dataReceived, dataPushed, hd]
  case exit | routeMessage | routeClose | routeVerdict | noRouteClose | noRouteVerdict | pushMessage
      | pushClose | pushVerdict =>
    simp [next, dispatchHolds, dataReceived, dataPushed, he.1]
  all_goals simp [next, dispatchHolds, dataReceived, dataPushed]

/-- The dispatch loop keeps the order of the messages for a client ... -/
theorem lossy_dispatch (h : automaton.Run (start params) tr r) (c : ClientId) :
    Lossy (tr.filterMap (dataReceived c)) (tr.filterMap (dataPushed c)) (r.dispatchHolds c) := by
  refine h.lossy (k := dispatchHolds c) rfl ?_
  intro _ r e _ he
  by_cases hd : e.Drops c
  · cases e <;> first | exact List.nil_sublist _ | exact hd.elim
  · exact (dispatch_step he hd) ▸ List.Sublist.refl _

/-- ... and loses none as long as it has a route. -/
theorem exact_dispatch (h : automaton.Run (start params) tr r) (hc : ∀ e ∈ tr, ¬e.Drops c) :
    Exact (tr.filterMap (dataReceived c)) (tr.filterMap (dataPushed c)) (r.dispatchHolds c) :=
  h.exact (p := fun e => ¬e.Drops c) (k := dispatchHolds c) rfl
    (fun _ _ _ _ he hd => dispatch_step he hd) hc

end
end Router
end Spanreed
