import Spanreed.Connection
import Mathlib.Data.List.AList

/-! # The client connection router

`clientConnectionRouter` (`pkg/transport/client_connection_router.go`): `OpenConnection` calls
under way, the connections, the routing map `connections` and the dispatch loop of `Start`.

Connections are numbered in the order in which they are opened and are never forgotten: their
goroutines go on after `Remove`. The routing map takes a client id to a connection. The dispatch
loop holds the read lock of the map from the lookup until its send completes; the operations that
take the lock for writing (registration, "mark connected" and `Remove`) are single events that
wait for it. -/

namespace Spanreed
open Flatbuffers Automata

/-- The dispatch loop of `clientConnectionRouter.Start`. -/
inductive DispatchPc
  | select
  | exited
  | gotClose (m : ClientCloseCommand)
  | gotMessage (m : ClientMessage)
  | gotVerdict (v : OpenClientConnectionVerdict)
  | sendClose (k : Nat) (m : ClientCloseCommand)
  | sendMessage (k : Nat) (m : ClientMessage)
  | sendVerdict (k : Nat) (v : OpenClientConnectionVerdict)
deriving DecidableEq

/-- Holding `mut_connections` for reading. -/
def DispatchPc.readsConnections : DispatchPc → Bool
  | .sendClose .. | .sendMessage .. | .sendVerdict .. => true
  | _ => false

structure Router where
  params : ClientConnectionRouterParams
  done : Bool
  /-- The ids `OpenConnection` calls hold and have not registered yet. -/
  opening : List ClientId
  /-- The connections opened so far, by number. -/
  conns : Nat → Option Connection
  opened : Nat
  connections : AList fun _ : ClientId => Nat
  dispatch : DispatchPc

inductive RouterEvent
  | cancel
  -- OpenConnection: the id returned by GetNextClientId, and its registration
  | nextClientId (id : ClientId)
  | register (id : ClientId)
  | registerFails (id : ClientId)
  -- what connection `k` does by itself
  | conn (k : Nat) (e : ConnectionEvent)
  | remove (k : Nat)
  -- the dispatch loop
  | exit
  | recvClose (m : ClientCloseCommand)
  | recvMessage (m : ClientMessage)
  | recvVerdict (v : OpenClientConnectionVerdict)
  | routeClose (m : ClientCloseCommand) (k : Nat)
  | routeMessage (m : ClientMessage) (k : Nat)
  | routeVerdict (v : OpenClientConnectionVerdict) (k : Nat)
  | noRouteClose (m : ClientCloseCommand)
  | noRouteMessage (m : ClientMessage)
  | noRouteVerdict (v : OpenClientConnectionVerdict)
  | pushClose (k : Nat) (m : ClientCloseCommand)
  | pushMessage (k : Nat) (m : ClientMessage)
  | pushVerdict (k : Nat) (v : OpenClientConnectionVerdict)

/-- The events of a connection that are not part of an event of the router. -/
def ConnectionEvent.own : ConnectionEvent → Bool
  | .cancel | .remove | .pushMessage _ | .pushClose _ | .pushVerdict _ => false
  | _ => true

namespace Router

def start (params : ClientConnectionRouterParams) : Router where
  params := params
  done := false
  opening := []
  conns := fun _ => none
  opened := 0
  connections := ∅
  dispatch := .select

/-- Connection `k` does `e`. -/
def connNext (r : Router) (k : Nat) (e : ConnectionEvent) : Nat → Option Connection :=
  Function.update r.conns k ((r.conns k).map (·.next e))

/-- Connection `k` exists and can do `e`. -/
def ConnEnabled (r : Router) (k : Nat) (e : ConnectionEvent) : Prop :=
  match r.conns k with
  | some c => c.enabled r.params e
  | none => False

instance (r : Router) (k : Nat) (e : ConnectionEvent) : Decidable (r.ConnEnabled k e) :=
  match h : r.conns k with
  | some c => decidable_of_iff (c.enabled r.params e) (by simp [ConnEnabled, h])
  | none => isFalse (by simp [ConnEnabled, h])

def enabled (r : Router) : RouterEvent → Prop
  | .cancel => True
  | .nextClientId _ => True
  | .register id => id ∈ r.opening ∧ r.dispatch.readsConnections = false ∧
      r.connections.lookup id = none
  | .registerFails id => id ∈ r.opening ∧ r.dispatch.readsConnections = false ∧
      r.connections.lookup id ≠ none
  | .conn k e => e.own ∧ r.ConnEnabled k e ∧
      (e = .markConnected → r.dispatch.readsConnections = false)
  | .remove k => r.dispatch.readsConnections = false ∧ r.ConnEnabled k .remove
  | .exit => r.dispatch = .select ∧ r.done
  | .recvClose _ | .recvMessage _ | .recvVerdict _ => r.dispatch = .select
  | .routeClose m k => r.dispatch = .gotClose m ∧ r.connections.lookup m.clientId = some k
  | .routeMessage m k => r.dispatch = .gotMessage m ∧ r.connections.lookup m.clientId = some k
  | .routeVerdict v k => r.dispatch = .gotVerdict v ∧ r.connections.lookup v.clientId = some k
  | .noRouteClose m => r.dispatch = .gotClose m ∧ r.connections.lookup m.clientId = none
  | .noRouteMessage m => r.dispatch = .gotMessage m ∧ r.connections.lookup m.clientId = none
  | .noRouteVerdict v => r.dispatch = .gotVerdict v ∧ r.connections.lookup v.clientId = none
  | .pushClose k m => r.dispatch = .sendClose k m ∧ r.ConnEnabled k (.pushClose m)
  | .pushMessage k m => r.dispatch = .sendMessage k m ∧ r.ConnEnabled k (.pushMessage m)
  | .pushVerdict k v => r.dispatch = .sendVerdict k v ∧ r.ConnEnabled k (.pushVerdict v)

def next (r : Router) : RouterEvent → Router
  | .cancel => { r with done := true, conns := fun k => (r.conns k).map (·.next .cancel) }
  | .nextClientId id => { r with opening := r.opening ++ [id] }
  | .register id => { r with
      opening := r.opening.erase id
      conns := Function.update r.conns r.opened (some (.opened id r.done))
      opened := r.opened + 1
      connections := r.connections.insert id r.opened }
  | .registerFails id => { r with opening := r.opening.erase id }
  | .conn k e => { r with conns := r.connNext k e }
  | .remove k => { r with
      conns := r.connNext k .remove
      connections := match r.conns k with
        | some c => r.connections.erase c.clientId
        | none => r.connections }
  | .exit => { r with dispatch := .exited }
  | .recvClose m => { r with dispatch := .gotClose m }
  | .recvMessage m => { r with dispatch := .gotMessage m }
  | .recvVerdict v => { r with dispatch := .gotVerdict v }
  | .routeClose m k => { r with dispatch := .sendClose k m }
  | .routeMessage m k => { r with dispatch := .sendMessage k m }
  | .routeVerdict v k => { r with dispatch := .sendVerdict k v }
  | .noRouteClose _ | .noRouteMessage _ | .noRouteVerdict _ => { r with dispatch := .select }
  | .pushClose k m => { r with dispatch := .select, conns := r.connNext k (.pushClose m) }
  | .pushMessage k m => { r with dispatch := .select, conns := r.connNext k (.pushMessage m) }
  | .pushVerdict k v => { r with dispatch := .select, conns := r.connNext k (.pushVerdict v) }

def automaton : Automaton Router RouterEvent where
  enabled := enabled
  next := next

instance (r : Router) : ∀ e, Decidable (r.enabled e) := by
  intro e
  cases e <;> dsimp only [enabled] <;> infer_instance

instance : ∀ s e, Decidable (automaton.enabled s e) :=
  fun s e => inferInstanceAs (Decidable (s.enabled e))

end Router
end Spanreed
