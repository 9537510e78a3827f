import Spanreed.Allocation
import Spanreed.System

/-! # Registrations and the records

Handlers are registered at any time, records are made, attached, stamped and removed by several
goroutines, and the names in the records, the keys of the two channel maps and the list of
destination handlers are guarded by different locks. `Hub.WellFormed` says how they belong
together. It is kept by every operation together with what the goroutines and the callbacks have
read and not yet used (`Hub.Proper`).

`CreateDestinationMessageHandler` takes the two locks one after the other and changes the map and
the list in two steps. `Proxy` is the hub with a registration that may be anywhere in between; the
lists only differ between these two steps. -/

namespace Spanreed
open Automata

namespace Hub
open HubEvent

/-- The records, the channel maps and the list of destination handlers belong together. -/
structure WellFormed (h : Hub) : Prop where
  distinct : (h.connectedDestinationHandlers.map (·.name)).Nodup
  keys : ∀ name, name ∈ h.destinationHandlers ↔ name ∈ h.connectedDestinationHandlers.map (·.name)
  client : ∀ c md, h.clientStore.get c = some md → md.clientHandlerName ∈ h.clientHandlers
  destination : ∀ c md, h.clientStore.get c = some md →
    md.destinationHandlerName = "" ∨ md.destinationHandlerName ∈ h.destinationHandlers
  bounded : h.clientStore.clientConnections.entries.length ≤ h.clientStore.maxConnections

/-- The handler name a goroutine has read is one it will find. -/
def Finds (h : Hub) : HubPc → Prop
  | .fwdClientLookup _ _ name => name = "" ∨ name ∈ h.destinationHandlers
  | .fwdDestLookup _ _ name | .verdictLookup _ name => name ∈ h.clientHandlers
  | .reqLookup _ _ name | .reqAttach _ _ name => name ∈ h.destinationHandlers
  | _ => True

/-- What holds of a hub whose callbacks are those of its own client handlers. -/
structure Proper (h : Hub) : Prop where
  wellFormed : h.WellFormed
  callbacks : ∀ cb ∈ h.callbacks, cb.name ∈ h.clientHandlers
  finds : ∀ g, h.Finds (h.pc g)

variable {h : Hub} {e : HubEvent} {g : Goroutine}

theorem Finds.next {pc : HubPc} (hf : h.Finds pc) : (h.next e).Finds pc := by
  cases pc
  case fwdClientLookup => exact hf.imp_right handlers_mono.2
  all_goals first | exact handlers_mono.2 hf | exact handlers_mono.1 hf | trivial

theorem mem_of_firstMatch {s : Flatbuffers.Bytes} {handlers : List DestinationHandler}
    {name : String} (hf : firstMatch s handlers = some (some name)) :
    name ∈ handlers.map (·.name) := by
  induction handlers with
  | nil => cases hf
  | cons handler handlers ih =>
    rw [firstMatch] at hf
    split at hf
    · cases hf
    · cases hf
      exact List.mem_cons_self
    · exact List.mem_cons_of_mem _ (ih hf)

theorem Proper.finds_next (hp : h.Proper) (he : h.enabled e) :
    ∀ g, (h.next e).Finds ((h.next e).pc g) := by
  have move : ∀ {g pc}, (h.next e).Finds pc →
      ∀ g', (h.next e).Finds (Function.update h.pc g pc g') :=
    fun hpc => forall_moved hpc fun g => (hp.finds g).next
  cases e
  case advanceClock | cancel | createClientMessageHandler | createDestinationMessageHandler
      | getNewClientId | callbackNow | createClient | createClientFails =>
    exact fun g => (hp.finds g).next
  case fwdClientName m t name =>
    obtain ⟨md, hmd, rfl⟩ := Option.map_eq_some_iff.mp he.2
    exact move (hp.wellFormed.destination _ md hmd)
  case fwdDestName m t name =>
    obtain ⟨md, hmd, rfl⟩ := Option.map_eq_some_iff.mp he.2
    exact move (hp.wellFormed.client _ md hmd)
  case verdictName v name =>
    obtain ⟨md, hmd, rfl⟩ := Option.map_eq_some_iff.mp he.2
    exact move (hp.wellFormed.client _ md hmd)
  case reqMatch m t name =>
    exact move ((hp.wellFormed.keys name).mpr (mem_of_firstMatch he.2))
  case reqLookup m t name => exact move he.2.2
  case kickRemove g c r k =>
    refine move ?_
    cases k <;> trivial
  all_goals exact move trivial

theorem Proper.callbacks_next (hp : h.Proper) (he : h.enabled e)
    (hcaller : ∀ name ∈ e.caller, name ∈ h.clientHandlers) :
    ∀ cb ∈ (h.next e).callbacks, cb.name ∈ (h.next e).clientHandlers := by
  intro cb hcb
  have old : cb ∈ h.callbacks → cb.name ∈ (h.next e).clientHandlers :=
    fun hcb => handlers_mono.1 (hp.callbacks cb hcb)
  cases e
  case getNewClientId name id =>
    rcases List.mem_append.mp hcb with hcb | hcb
    · exact old hcb
    · rw [List.mem_singleton.mp hcb]
      exact hcaller name rfl
  case callbackNow name id =>
    rcases List.mem_append.mp hcb with hcb | hcb
    · exact old (List.mem_of_mem_erase hcb)
    · rw [List.mem_singleton.mp hcb]
      exact hp.callbacks (.now name id) he
  case createClient | createClientFails => exact old (List.mem_of_mem_erase hcb)
  all_goals exact old hcb

/-- A record that an event leaves behind names registered handlers. -/
theorem Proper.records_next (hp : h.Proper) (he : h.enabled e) {c : ClientId}
    {md : ClientConnectionMetadata} (hmd : (h.next e).clientStore.get c = some md) :
    md.clientHandlerName ∈ (h.next e).clientHandlers ∧
      (md.destinationHandlerName = "" ∨
        md.destinationHandlerName ∈ (h.next e).destinationHandlers) := by
  have hnew : (h.next e).clientStore.names c =
      some (md.clientHandlerName, md.destinationHandlerName) := by
    simp [ClientStore.names, hmd]
  have old : ∀ {cn dn}, h.clientStore.names c = some (cn, dn) →
      cn ∈ (h.next e).clientHandlers ∧ (dn = "" ∨ dn ∈ (h.next e).destinationHandlers) := by
    intro cn dn hold
    obtain ⟨md', hmd', heq⟩ := Option.map_eq_some_iff.mp hold
    cases heq
    exact ⟨handlers_mono.1 (hp.wellFormed.client c md' hmd'),
      (hp.wellFormed.destination c md' hmd').imp_right handlers_mono.2⟩
  rcases names_next he c with ⟨name, t, rfl, -, hcreate⟩ | ⟨_, _, _, -, hnone⟩ |
    ⟨m, t, name, cn, dn, rfl, -, hold, hattach⟩ | hsame
  · rw [hcreate, Option.some.injEq, Prod.mk.injEq] at hnew
    rw [← hnew.1, ← hnew.2]
    exact ⟨hp.callbacks (.create name c t) he.1, .inl rfl⟩
  · simp [hnone] at hnew
  · rw [hattach, Option.some.injEq, Prod.mk.injEq] at hnew
    rw [← hnew.1, ← hnew.2]
    have hfinds := hp.finds .client
    rw [he.1] at hfinds
    exact ⟨(old hold).1, .inr hfinds⟩
  · exact old (hsame ▸ hnew)

theorem Proper.handlers_next (hp : h.Proper) :
    ((h.next e).connectedDestinationHandlers.map (·.name)).Nodup ∧
      ∀ name, name ∈ (h.next e).destinationHandlers ↔
        name ∈ (h.next e).connectedDestinationHandlers.map (·.name) := by
  cases e
  case createDestinationMessageHandler handler =>
    by_cases hmem : handler.name ∈ h.destinationHandlers
    · simp only [next, hmem, if_true]
      exact ⟨hp.wellFormed.distinct, hp.wellFormed.keys⟩
    · have hnew : handler.name ∉ h.connectedDestinationHandlers.map (·.name) :=
        fun hmem' => hmem ((hp.wellFormed.keys _).mpr hmem')
      simp only [next, hmem, if_false, List.map_append, List.map_cons, List.map_nil,
        List.mem_append, List.mem_singleton]
      refine ⟨?_, fun name => or_congr_left (hp.wellFormed.keys name)⟩
      refine hp.wellFormed.distinct.append (List.nodup_singleton _) ?_
      simpa [List.disjoint_singleton] using hnew
  all_goals exact ⟨hp.wellFormed.distinct, hp.wellFormed.keys⟩

theorem Proper.next (hp : h.Proper) (he : h.enabled e)
    (hcaller : ∀ name ∈ e.caller, name ∈ h.clientHandlers) : (h.next e).Proper where
  wellFormed := {
    distinct := hp.handlers_next.1
    keys := hp.handlers_next.2
    client := fun _ _ hmd => (hp.records_next he hmd).1
    destination := fun _ _ hmd => (hp.records_next he hmd).2
    bounded := by
      rw [length_next.1]
      exact length_next.2 hp.wellFormed.bounded }
  callbacks := hp.callbacks_next he hcaller
  finds := hp.finds_next he

/-- What holds of a hub whose handlers were registered before it started. -/
theorem proper_of_run {config : HubConfig} {maxConnections : Nat} {clientHandlers : List String}
    {handlers : List DestinationHandler} {tr : List HubEvent}
    (hr : automaton.Run (start config maxConnections clientHandlers handlers) tr h)
    (hnodup : (handlers.map (·.name)).Nodup)
    (hcallers : ∀ e ∈ tr, ∀ name ∈ e.caller, name ∈ clientHandlers) :
    h.Proper ∧ clientHandlers ⊆ h.clientHandlers := by
  induction hr with
  | nil =>
    refine ⟨⟨⟨hnodup, fun _ => Iff.rfl, ?_, ?_, Nat.zero_le _⟩, ?_, fun g => ?_⟩, fun _ => id⟩
    · simp [start]
    · simp [start]
    · simp [start]
    · cases g <;> trivial
  | @snoc tr h e hr he ih =>
    obtain ⟨hp, hsub⟩ := ih fun e he => hcallers e (List.mem_append_left _ he)
    have hcaller : ∀ name ∈ e.caller, name ∈ h.clientHandlers := fun name hname =>
      hsub (hcallers e (by simp) name hname)
    exact ⟨hp.next he hcaller, fun name hname => handlers_mono.1 (hsub hname)⟩

end Hub

/-! ## Registrations in steps -/

/-- Where a call of `CreateDestinationMessageHandler` is, if one has got the first lock. -/
inductive RegistrationPc
  | idle
  /-- `mut_outgoingDestinationMessageSendChannels` is held, and the name is free. -/
  | lockHandlers (handler : DestinationHandler)
  /-- `mut_connectedDestinationHandlers` is held too. -/
  | insert (handler : DestinationHandler)
  /-- The name is a key of the map. -/
  | append (handler : DestinationHandler)

/-- The registration holds `mut_connectedDestinationHandlers`. -/
def RegistrationPc.holdsHandlers : RegistrationPc → Bool
  | .insert _ | .append _ => true
  | _ => false

/-- The operation takes `mut_outgoingDestinationMessageSendChannels`. -/
def HubEvent.locksDestinations : HubEvent → Prop
  | .fwdClientLookup .. | .fwdClientNoHandler .. | .reqLookup .. | .reqNoHandler ..
  | .kickDestLock .. => True
  | .kickDestSkip _ _ _ dn _ => dn ≠ ""
  | _ => False

/-- The operation takes `mut_connectedDestinationHandlers`. -/
def HubEvent.locksHandlers : HubEvent → Prop
  | .reqMatch .. | .reqNoMatch .. => True
  | _ => False

structure Proxy where
  hub : Hub
  registration : RegistrationPc

inductive ProxyEvent
  | hub (e : HubEvent)
  | nameCollision (handler : DestinationHandler)
  | lock (handler : DestinationHandler)
  | lockHandlers (handler : DestinationHandler)
  | insert (handler : DestinationHandler)
  | append (handler : DestinationHandler)

namespace Proxy

/-- A hub without handlers, as `CreateProxy` makes it, with its goroutines started. -/
def start (config : HubConfig) (maxConnections : Nat) : Proxy where
  hub := .start config maxConnections [] []
  registration := .idle

/-- A `GetNextClientId` callback belongs to a client handler that was registered. Destination
handlers are registered by the events of the registration. -/
def enabled (p : Proxy) : ProxyEvent → Prop
  | .hub e => p.hub.enabled e ∧ (∀ name ∈ e.caller, name ∈ p.hub.clientHandlers) ∧
      (∀ handler, e ≠ .createDestinationMessageHandler handler) ∧
      (p.registration ≠ .idle → ¬e.locksDestinations) ∧
      (p.registration.holdsHandlers = true → ¬e.locksHandlers)
  | .nameCollision handler => p.registration = .idle ∧ p.hub.DestinationLock ∧
      handler.name ∈ p.hub.destinationHandlers
  | .lock handler => p.registration = .idle ∧ p.hub.DestinationLock ∧
      handler.name ∉ p.hub.destinationHandlers
  | .lockHandlers handler => p.registration = .lockHandlers handler ∧ p.hub.HandlersLock
  | .insert handler => p.registration = .insert handler
  | .append handler => p.registration = .append handler

def next (p : Proxy) : ProxyEvent → Proxy
  | .hub e => { p with hub := p.hub.next e }
  | .nameCollision _ => p
  | .lock handler => { p with registration := .lockHandlers handler }
  | .lockHandlers handler => { p with registration := .insert handler }
  | .insert handler => {
      hub := { p.hub with destinationHandlers := p.hub.destinationHandlers ++ [handler.name] }
      registration := .append handler }
  | .append handler => {
      hub := { p.hub with
        connectedDestinationHandlers := p.hub.connectedDestinationHandlers ++ [handler] }
      registration := .idle }

def automaton : Automaton Proxy ProxyEvent where
  enabled := enabled
  next := next

/-- The hub as others will see it: a handler that is already a key is in the list. -/
def settled (p : Proxy) : Hub :=
  match p.registration with
  | .append handler => { p.hub with
      connectedDestinationHandlers := p.hub.connectedDestinationHandlers ++ [handler] }
  | _ => p.hub

/-- What a registration that is under way relies on: its name is still free. -/
def Free (h : Hub) : RegistrationPc → Prop
  | .lockHandlers handler | .insert handler => handler.name ∉ h.destinationHandlers
  | _ => True

variable {p : Proxy} {e : HubEvent}

theorem Free.congr {h h' : Hub} {pc : RegistrationPc} (hfree : Free h pc)
    (hsame : h'.destinationHandlers = h.destinationHandlers) : Free h' pc := by
  unfold Free at *
  rwa [hsame]

/-- Other operations do not look at the list while it is behind. -/
theorem settled_enabled (he : p.enabled (.hub e)) : p.settled.enabled e := by
  obtain ⟨hen, -, hno, -, hhandlers⟩ := he
  unfold settled
  cases hreg : p.registration with
  | append handler =>
    rw [hreg] at hhandlers
    cases e
    case reqMatch | reqNoMatch => exact (hhandlers rfl trivial).elim
    all_goals exact hen
  | _ => exact hen

theorem settled_next (he : p.enabled (.hub e)) :
    (p.next (.hub e)).settled = p.settled.next e := by
  obtain ⟨-, -, hno, -⟩ := he
  unfold settled next
  cases hreg : p.registration with
  | append handler =>
    cases e
    case createDestinationMessageHandler handler => exact (hno handler rfl).elim
    all_goals rfl
  | _ => rfl

theorem destinationHandlers_next (hno : ∀ handler, e ≠ .createDestinationMessageHandler handler) :
    (p.hub.next e).destinationHandlers = p.hub.destinationHandlers := by
  cases e
  case createDestinationMessageHandler handler => exact (hno handler rfl).elim
  all_goals rfl

theorem destinationLock_next {h : Hub} (hlock : h.DestinationLock) (he : h.enabled e)
    (hno : ¬e.locksDestinations) : (h.next e).DestinationLock := by
  have move : ∀ {g pc}, pc.writesDestinationChannels = false ∧
      pc.readsDestinationChannels = false → ∀ g',
        (Function.update h.pc g pc g').writesDestinationChannels = false ∧
          (Function.update h.pc g pc g').readsDestinationChannels = false :=
    fun hpc => Hub.forall_moved (P := fun pc => pc.writesDestinationChannels = false ∧
      pc.readsDestinationChannels = false) hpc hlock
  cases e
  case advanceClock | cancel | createClientMessageHandler | createDestinationMessageHandler
      | getNewClientId | callbackNow | createClient | createClientFails => exact hlock
  case fwdClientLookup | reqLookup | kickDestLock => exact (hno trivial).elim
  case reqAttach m t name =>
    have hclient := (hlock .client).2
    rw [he.1] at hclient
    cases hclient
  case kickRemove g c r k =>
    refine move ?_
    cases k <;> exact ⟨rfl, rfl⟩
  all_goals exact move ⟨rfl, rfl⟩

theorem handlersLock_next {h : Hub} (hlock : h.HandlersLock) (he : h.enabled e)
    (hno : ¬e.locksHandlers) : (h.next e).HandlersLock := by
  have move : ∀ {g pc}, pc.readsHandlers = false →
      ∀ g', (Function.update h.pc g pc g').readsHandlers = false :=
    fun hpc => Hub.forall_moved (P := fun pc => pc.readsHandlers = false) hpc hlock
  cases e
  case advanceClock | cancel | createClientMessageHandler | createDestinationMessageHandler
      | getNewClientId | callbackNow | createClient | createClientFails => exact hlock
  case reqMatch => exact (hno trivial).elim
  case reqLookup | reqAttach =>
    have hclient := hlock .client
    rw [he.1] at hclient
    cases hclient
  case kickRemove g c r k =>
    refine move ?_
    cases k <;> rfl
  all_goals exact move rfl

/-- The hub is proper once the registration under way has come to its end, and the registration
has its locks to itself. -/
structure Proper (p : Proxy) : Prop where
  settled : p.settled.Proper
  free : Free p.hub p.registration
  destinations : p.registration ≠ .idle → p.hub.DestinationLock
  handlers : p.registration.holdsHandlers = true → p.hub.HandlersLock

theorem Proper.hub_next (hp : p.Proper) (he : p.enabled (.hub e)) : (p.next (.hub e)).Proper where
  settled := by
    rw [settled_next he]
    refine hp.settled.next (settled_enabled he) ?_
    have hsame : p.settled.clientHandlers = p.hub.clientHandlers := by
      unfold Proxy.settled
      split <;> rfl
    rw [hsame]
    exact he.2.1
  free := hp.free.congr (destinationHandlers_next he.2.2.1)
  destinations := fun hreg =>
    destinationLock_next (hp.destinations hreg) he.1 (he.2.2.2.1 hreg)
  handlers := fun hreg => handlersLock_next (hp.handlers hreg) he.1 (he.2.2.2.2 hreg)

theorem Proper.next {ev : ProxyEvent} (hp : p.Proper) (he : p.enabled ev) : (p.next ev).Proper := by
  have hsettled := hp.settled
  cases ev
  case hub e => exact hp.hub_next he
  case nameCollision => exact hp
  case lock handler =>
    rw [Proxy.settled, he.1] at hsettled
    exact ⟨hsettled, he.2.2, fun _ => he.2.1, by simp [Proxy.next, RegistrationPc.holdsHandlers]⟩
  case lockHandlers handler =>
    have hfree := hp.free
    rw [Proxy.settled, he.1] at hsettled
    rw [he.1] at hfree
    exact ⟨hsettled, hfree, fun _ => hp.destinations (by simp [he.1]), fun _ => he.2⟩
  case insert handler =>
    have he : p.registration = .insert handler := he
    have hfree := hp.free
    rw [Proxy.settled, he] at hsettled
    rw [he] at hfree
    have hlocks : p.hub.enabled (.createDestinationMessageHandler handler) :=
      ⟨hp.destinations (by simp [he]), hp.handlers (by rw [he]; rfl)⟩
    refine ⟨?_, trivial, fun _ => hlocks.1, fun _ => hlocks.2⟩
    have hnew := hsettled.next hlocks (by simp [HubEvent.caller])
    have hfree : handler.name ∉ p.hub.destinationHandlers := hfree
    rw [Hub.next, if_neg hfree, if_neg hfree] at hnew
    exact hnew
  case append handler =>
    have he : p.registration = .append handler := he
    rw [Proxy.settled, he] at hsettled
    exact ⟨hsettled, trivial, by simp [Proxy.next], by simp [Proxy.next,
      RegistrationPc.holdsHandlers]⟩

end Proxy

/-- `MissingClientHandler` is returned. -/
def HubEvent.missesClientHandler : HubEvent → Prop
  | .fwdDestNoHandler .. | .verdictNoHandler .. => True
  | _ => False

/-- `MissingDestinationHandler` is returned, by `handleClientConnectionRequestMessage` or by
`forwardClientMessage` for a client with a destination. -/
def HubEvent.missesDestinationHandler : HubEvent → Prop
  | .reqNoHandler .. => True
  | .fwdClientNoHandler _ _ name => name ≠ ""
  | _ => False

namespace Hub
variable {h : Hub} {e : HubEvent}

/-- Who has read the name of a handler finds it. -/
theorem Proper.not_misses (hp : h.Proper) (he : h.enabled e) :
    ¬e.missesClientHandler ∧ ¬e.missesDestinationHandler := by
  have client := hp.finds .client
  have destination := hp.finds .destination
  cases e
  case fwdDestNoHandler | verdictNoHandler =>
    rw [he.1] at destination
    exact (he.2.2 destination).elim
  case reqNoHandler =>
    rw [he.1] at client
    exact (he.2.2 client).elim
  case fwdClientNoHandler m t name =>
    rw [he.1] at client
    refine ⟨not_false, fun hne => ?_⟩
    exact client.elim hne he.2.2
  all_goals exact ⟨not_false, not_false⟩

end Hub

namespace Proxy
variable {p : Proxy} {config : HubConfig} {maxConnections : Nat} {tr : List ProxyEvent}

theorem proper (hr : automaton.Run (start config maxConnections) tr p) : p.Proper := by
  refine hr.invariant (I := Proper) ?_ fun _ _ => Proper.next
  refine ⟨⟨⟨List.nodup_nil, fun _ => Iff.rfl, ?_, ?_, Nat.zero_le _⟩, ?_, ?_⟩, trivial, ?_, ?_⟩
  · intro c md hmd
    exact absurd (hmd.symm.trans (ClientStore.get_createClientStore _)) (by simp)
  · intro c md hmd
    exact absurd (hmd.symm.trans (ClientStore.get_createClientStore _)) (by simp)
  · intro cb hcb
    cases hcb
  · intro g
    cases g <;> trivial
  · exact fun hne => (hne rfl).elim
  · intro hholds
    cases hholds

theorem maxConnections_eq (hr : automaton.Run (start config maxConnections) tr p) :
    p.hub.clientStore.maxConnections = maxConnections := by
  refine hr.invariant (I := fun p => p.hub.clientStore.maxConnections = maxConnections) rfl ?_
  intro p ev ih he
  cases ev
  case hub e => exact Hub.length_next.1.trans ih
  all_goals exact ih

/-- In every state that registrations, callbacks and the hub's goroutines can lead to, the list of
destination handlers has no name twice and agrees with the channel map unless a registration is
between the two, the records name registered handlers, there are no more of them than allowed, and
nobody who looks a handler up misses it. -/
theorem registrations_agree (hr : automaton.Run (start config maxConnections) tr p) :
    (p.hub.connectedDestinationHandlers.map (·.name)).Nodup ∧
    (p.registration = .idle → ∀ name,
      name ∈ p.hub.destinationHandlers ↔ name ∈ p.hub.connectedDestinationHandlers.map (·.name)) ∧
    (∀ c md, p.hub.clientStore.get c = some md →
      md.clientHandlerName ∈ p.hub.clientHandlers ∧
      (md.destinationHandlerName = "" ∨ md.destinationHandlerName ∈ p.hub.destinationHandlers)) ∧
    p.hub.clientStore.clientConnections.entries.length ≤ maxConnections ∧
    ∀ e, p.enabled (.hub e) → ¬e.missesClientHandler ∧ ¬e.missesDestinationHandler := by
  have hp := proper hr
  have hwf := hp.settled.wellFormed
  refine ⟨?_, ?_, ?_, ?_, fun e he => hp.settled.not_misses (settled_enabled he)⟩
  · have hdistinct := hwf.distinct
    unfold settled at hdistinct
    split at hdistinct
    · rw [List.map_append] at hdistinct
      exact hdistinct.of_append_left
    · exact hdistinct
  · intro hidle
    have hkeys := hwf.keys
    rwa [settled, hidle] at hkeys
  · intro c md hmd
    unfold settled at hwf
    split at hwf <;> exact ⟨hwf.client c md hmd, hwf.destination c md hmd⟩
  · rw [← maxConnections_eq hr]
    unfold settled at hwf
    split at hwf <;> exact hwf.bounded

/-- A handler that matches nothing. -/
def deaf : DestinationHandler := ⟨"Udp", fun _ => some false⟩

/-- It is registered up to its key. -/
def inserted : List ProxyEvent :=
  [.hub (.createClientMessageHandler "WebSocket"), .lock deaf, .lockHandlers deaf, .insert deaf]

theorem registrations_agree_inserted :
    (automaton.exec (start {} 1) inserted).registration ≠ .idle ∧
    ∀ e, (automaton.exec (start {} 1) inserted).enabled (.hub e) →
      ¬e.missesClientHandler ∧ ¬e.missesDestinationHandler := by
  have hr : automaton.Run (start {} 1) inserted (automaton.exec (start {} 1) inserted) := by
    refine Automaton.Admits.run ⟨⟨?_, ?_, ?_, ?_, ?_⟩, ⟨rfl, ?_, ?_⟩, ⟨rfl, ?_⟩, rfl, trivial⟩
    · decide
    · simp [HubEvent.caller]
    · simp
    · exact fun hne => (hne rfl).elim
    · exact fun _ => not_false
    all_goals decide
  exact ⟨by simp [Automaton.exec, inserted, automaton, next], (registrations_agree hr).2.2.2.2⟩

end Proxy
end Spanreed
