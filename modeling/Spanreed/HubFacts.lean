import Spanreed.Hub
import Spanreed.Lib.Pipeline

/-! # What the hub does with commands

Facts about every history of the hub, whatever its handlers do and however its goroutines
interleave:

* each point a goroutine can be at has its history behind it (`origin`);
* how one event can change the record of a client (`names_next`);
* the two forwarding loops keep the order of the messages of a client and drop one only in events
  that say so (`exact_client`, `exact_destination`);
* client ids are allocated in sequence (`newIds_eq`) and handed out at most once each
  (`count_created_le`). -/

namespace Spanreed
open Flatbuffers Automata

namespace HubEvent

/-- The payload of a message of client `c` from its client handler. -/
def clientDataIn (c : ClientId) : HubEvent → Option (Option Bytes)
  | .recvClientMessage m => m.dataFor c
  | _ => none

/-- The payload of a message of client `c` for its destination handler. -/
def clientDataOut (c : ClientId) : HubEvent → Option (Option Bytes)
  | .fwdClientSend m _ => m.dataFor c
  | _ => none

/-- The payload of a message for client `c` from its destination handler. -/
def destinationDataIn (c : ClientId) : HubEvent → Option (Option Bytes)
  | .recvDestinationMessage m => m.dataFor c
  | _ => none

/-- The payload of a message for client `c` for its client handler. -/
def destinationDataOut (c : ClientId) : HubEvent → Option (Option Bytes)
  | .fwdDestSend m _ => m.dataFor c
  | _ => none

/-- A message of client `c` is dropped. -/
def DropsClient (c : ClientId) : HubEvent → Prop
  | .fwdClientNoClient m _ => m.clientId = c
  | .fwdClientNoHandler m _ _ => m.clientId = c
  | _ => False

/-- A message for client `c` is dropped. -/
def DropsDestination (c : ClientId) : HubEvent → Prop
  | .fwdDestNoClient m _ => m.clientId = c
  | .fwdDestNoHandler m _ _ => m.clientId = c
  | _ => False

/-- The id a callback allocates. -/
def newId : HubEvent → Option ClientId
  | .getNewClientId _ id => some id
  | _ => none

/-- The id a callback creates a record for, and returns. -/
def createdId : HubEvent → Option ClientId
  | .createClient _ id _ => some id
  | _ => none

/-- The client of which a kick begins. -/
def kicked : HubEvent → Option ClientId
  | .kickClientName _ c _ _ => some c
  | _ => none

/-- A kick of client `c` begins. -/
def Kicks (c : ClientId) (e : HubEvent) : Prop := e.kicked = some c

instance (c : ClientId) (e : HubEvent) : Decidable (e.Kicks c) :=
  inferInstanceAs (Decidable (_ = _))

/-- A kick of the client reaches a handler or the store. -/
def kickStep : HubEvent → Option ClientId
  | .kickClientSend _ c _ _ _ _ | .kickDestSend _ c _ _ _ | .kickRemove _ c _ _ => some c
  | _ => none

/-- The record of client `c` is removed. -/
def Removes (c : ClientId) : HubEvent → Prop
  | .kickRemove _ c' _ _ => c' = c
  | _ => False

/-- The goroutine whose operation an event is. -/
def mover : HubEvent → Option Goroutine
  | .advanceClock _ | .cancel | .createClientMessageHandler _ | .createDestinationMessageHandler _
  | .getNewClientId .. | .callbackNow .. | .createClient .. | .createClientFails .. => none
  | .exit g | .kickClientName g .. | .kickDestName g .. | .kickClientSkip g ..
  | .kickClientLock g .. | .kickClientSend g .. | .kickDestSkip g .. | .kickDestLock g ..
  | .kickDestSend g .. | .kickRemove g .. => some g
  | .recvClientMessage _ | .recvOpenClient _ | .recvClientClose _ | .fwdClientNow _
  | .fwdClientName .. | .fwdClientNoClient .. | .fwdClientLookup .. | .fwdClientNoHandler ..
  | .fwdClientSend .. | .clientStampNow _ | .clientStamp .. | .reqNow _ | .reqName ..
  | .reqDuplicate .. | .reqNoClient .. | .reqMatch .. | .reqNoMatch .. | .reqLookup ..
  | .reqNoHandler .. | .reqAttach .. | .reqAttachFails .. | .reqSend .. => some .client
  | .recvDestinationMessage _ | .recvVerdict _ | .recvDestinationClose _ | .fwdDestNow _
  | .fwdDestName .. | .fwdDestNoClient .. | .fwdDestLookup .. | .fwdDestNoHandler ..
  | .fwdDestSend .. | .destStampNow _ | .destStamp .. | .verdictName .. | .verdictNoClient _
  | .verdictLookup .. | .verdictNoHandler .. | .verdictConnect .. | .verdictSend .. =>
    some .destination
  | .ticker | .sweepNow₁ | .sweepNow₂ _ | .sweepNow₃ .. | .sweepList .. | .kickOldClient ..
  | .sweepDone | .authNow | .authList .. | .kickUnauthedClient .. | .authDone => some .timeout
  | .waitGroup | .kickAllNext .. | .kickAllDone => some .main

end HubEvent

def Callback.name : Callback → String
  | .now name _ => name
  | .create name _ _ => name

def Callback.clientId : Callback → ClientId
  | .now _ id => id
  | .create _ id _ => id

namespace HubPc

/-- What a goroutine at this point has in its hands of client `c`'s messages. -/
def clientHolds (c : ClientId) : HubPc → List (Option Bytes)
  | .fwdClientNow m | .fwdClientName m _ | .fwdClientLookup m _ _ => (m.dataFor c).toList
  | .fwdClientSend m _ => (m.dataFor c).toList
  | _ => []

/-- What a goroutine at this point has in its hands of the messages for client `c`. -/
def destinationHolds (c : ClientId) : HubPc → List (Option Bytes)
  | .fwdDestNow m | .fwdDestName m _ | .fwdDestLookup m _ _ => (m.dataFor c).toList
  | .fwdDestSend m _ => (m.dataFor c).toList
  | _ => []

@[simp] theorem clientHolds_resume (c : ClientId) (k : KickReturn) :
    k.resume.clientHolds c = [] := by cases k <;> rfl
@[simp] theorem destinationHolds_resume (c : ClientId) (k : KickReturn) :
    k.resume.destinationHolds c = [] := by cases k <;> rfl

/-- Why a kick of `c` that goes on at `k` is under way. -/
def Kicked (tr : List HubEvent) (c : ClientId) : KickReturn → Prop
  | .kickAllClients => .cancel ∈ tr
  | .select | .kickOldClients _ | .checkForAuthTimeouts _ => ∃ e ∈ tr, e.Kicks c

/-- What has happened before a goroutine is at this point. -/
def Origin (tr : List HubEvent) : HubPc → Prop
  | .exited | .kickAllClients => .cancel ∈ tr
  | .fwdClientNow m | .fwdClientName m _ => .recvClientMessage m ∈ tr
  | .fwdClientLookup m t name => .fwdClientName m t name ∈ tr ∧ .recvClientMessage m ∈ tr
  | .fwdClientSend m _ => ∃ m', .recvClientMessage m' ∈ tr ∧ m'.clientId = m.clientId
  | .fwdDestNow m | .fwdDestName m _ => .recvDestinationMessage m ∈ tr
  | .fwdDestLookup m t name => .fwdDestName m t name ∈ tr ∧ .recvDestinationMessage m ∈ tr
  | .fwdDestSend m _ => ∃ m', .recvDestinationMessage m' ∈ tr ∧ m'.clientId = m.clientId
  | .verdictName v | .verdictLookup v _ | .verdictConnect v _ | .verdictSend v _ =>
    .recvVerdict v ∈ tr
  | .reqNow m | .reqName m _ | .reqMatch m _ | .reqLookup m _ _ | .reqAttach m _ _ =>
    .recvOpenClient m ∈ tr
  | .reqSend m name => ∃ m' t, .reqAttach m' t name ∈ tr ∧ m = { m' with routeTimestamp := t }
  | .kickClientName _ _ k => k ≠ .kickAllClients
  | .kickDestName c _ _ k | .kickClientLookup c _ _ _ k | .kickClientSend c _ _ _ k
  | .kickDestLookup c _ _ k | .kickDestSend c _ _ k | .kickRemove c _ k => Kicked tr c k
  | _ => True

theorem Kicked.mono {tr tr' : List HubEvent} {c : ClientId} {k : KickReturn}
    (h : Kicked tr c k) : Kicked (tr ++ tr') c k := by
  cases k
  case kickAllClients => exact List.mem_append_left _ h
  all_goals exact happened_append h

theorem Origin.mono {tr tr' : List HubEvent} {pc : HubPc} (h : pc.Origin tr) :
    pc.Origin (tr ++ tr') := by
  cases pc
  case fwdClientLookup | fwdClientSend | fwdDestLookup | fwdDestSend | reqSend =>
    simp only [Origin] at h ⊢
    grind
  case kickDestName | kickClientLookup | kickClientSend | kickDestLookup | kickDestSend
      | kickRemove => exact Kicked.mono h
  case kickClientName => exact h
  all_goals first | exact List.mem_append_left _ h | trivial

end HubPc

namespace Hub
open HubEvent HubPc

section
variable {config : HubConfig} {maxConnections : Nat} {clientHandlers : List String}
  {handlers : List DestinationHandler} {tr : List HubEvent} {h : Hub} {c : ClientId}

/-- A goroutine that moves between points at which it holds nothing. -/
theorem holds_update {α : Type} {f : HubPc → List α} {g g' : Goroutine} {pc : HubPc}
    (h₁ : f (h.pc g) = []) (h₂ : f pc = []) : f (Function.update h.pc g pc g') = f (h.pc g') := by
  rw [Function.update_apply]
  split
  · next hg => rw [hg, h₁, h₂]
  · rfl

/-- What holds of every goroutine holds after one of them has moved, if it holds of the point that
one has moved to. -/
theorem forall_moved {P : HubPc → Prop} {g : Goroutine} {pc : HubPc} (hpc : P pc)
    (hold : ∀ g, P (h.pc g)) : ∀ g', P (Function.update h.pc g pc g') := by
  intro g'
  rw [Function.update_apply]
  split
  · exact hpc
  · exact hold g'

/-- An operation of one goroutine leaves the others where they are. -/
theorem pc_next_of_ne {e : HubEvent} {g : Goroutine} (hg : e.mover ≠ some g) :
    (h.next e).pc g = h.pc g := by
  cases e
  case advanceClock | cancel | createClientMessageHandler | createDestinationMessageHandler
      | getNewClientId | callbackNow | createClient | createClientFails => rfl
  all_goals exact Function.update_of_ne (fun hg' => hg (congrArg some hg'.symm)) _ _

theorem cancel_of_done (hr : automaton.Run (start config maxConnections clientHandlers handlers)
    tr h) (hd : h.done = true) : .cancel ∈ tr := by
  induction hr with
  | nil => cases hd
  | @snoc tr h e _ _ ih =>
    cases e
    case cancel => simp
    all_goals exact List.mem_append_left _ (ih hd)

theorem origin_goto {e : HubEvent} {g : Goroutine} {pc : HubPc}
    (ih : ∀ g, (h.pc g).Origin tr) (hpc : pc.Origin (tr ++ [e])) :
    ∀ g', (Function.update h.pc g pc g').Origin (tr ++ [e]) :=
  forall_moved hpc fun g => (ih g).mono

/-- Every point a goroutine is at has its history behind it. -/
theorem origin (hr : automaton.Run (start config maxConnections clientHandlers handlers) tr h) :
    ∀ g, (h.pc g).Origin tr := by
  induction hr with
  | nil => intro g; cases g <;> trivial
  | @snoc tr h e hr he ih =>
    -- a goroutine that stays at a point with the same origin
    have stay : ∀ {g pc}, h.pc g = pc → pc.Origin (tr ++ [e]) := fun hg => hg ▸ (ih _).mono
    have hmem : e ∈ tr ++ [e] := by simp
    cases e
    case advanceClock | cancel | createClientMessageHandler | createDestinationMessageHandler
        | getNewClientId | callbackNow | createClient | createClientFails =>
      exact fun g => (ih g).mono
    case exit g => exact origin_goto ih (List.mem_append_left _ (cancel_of_done hr he.2))
    case waitGroup =>
      have hc := stay he.2.1
      exact origin_goto ih hc
    case kickAllNext | kickAllDone =>
      have hc := stay he.1
      exact origin_goto ih hc
    case fwdClientName m t name | fwdDestName m t name =>
      have hm := stay he.1
      exact origin_goto ih ⟨hmem, hm⟩
    case fwdClientLookup m t name | fwdDestLookup m t name =>
      have hm := stay he.1
      exact origin_goto ih ⟨m, hm.2, rfl⟩
    case reqAttach m t name => exact origin_goto ih ⟨m, t, hmem, rfl⟩
    case kickClientName g c r k =>
      have hk := stay he
      refine origin_goto ih ?_
      cases k
      case kickAllClients => exact (hk rfl).elim
      all_goals exact ⟨_, hmem, rfl⟩
    case kickRemove g c r k =>
      have hk := stay he
      refine origin_goto ih ?_
      cases k
      case kickAllClients => exact hk
      all_goals trivial
    case recvClientClose | recvDestinationClose | reqNoMatch | reqNoHandler | reqAttachFails
        | kickOldClient | kickUnauthedClient =>
      exact origin_goto ih (by simp [Origin])
    case recvClientMessage | recvOpenClient | recvDestinationMessage | recvVerdict =>
      exact origin_goto ih hmem
    case fwdClientNow | fwdDestNow | reqNow | verdictConnect | kickDestName | kickClientSend
        | kickDestSend =>
      have hs := stay he
      exact origin_goto ih hs
    case verdictName | verdictLookup | reqName | reqMatch | reqLookup | kickClientSkip
        | kickClientLock | kickDestSkip | kickDestLock =>
      have hs := stay he.1
      exact origin_goto ih hs
    all_goals exact origin_goto ih trivial

theorem origin_at (hr : automaton.Run (start config maxConnections clientHandlers handlers) tr h)
    {g : Goroutine} {pc : HubPc} (hg : h.pc g = pc) : pc.Origin tr :=
  hg ▸ origin hr g

/-- A goroutine that has returned does not come back. -/
theorem exited_next {e : HubEvent} {g : Goroutine} (hg : h.pc g = .exited) (he : h.enabled e) :
    (h.next e).pc g = .exited := by
  by_cases hmover : e.mover = some g
  · cases e <;> simp only [mover, Option.some.injEq, reduceCtorEq] at hmover
    all_goals
      subst hmover
      simp [enabled, hg] at he
  · exact (pc_next_of_ne hmover).trans hg

/-- `Start` is past its `wg.Wait()` only when its goroutines have returned. -/
def Waits (h : Hub) : Prop := h.pc .main ≠ .waitGroup → ∀ g, g ≠ .main → h.pc g = .exited

theorem waits_next {e : HubEvent} (hw : h.Waits) (he : h.enabled e) : (h.next e).Waits := by
  intro hmain g hg
  by_cases hold : h.pc .main = .waitGroup
  · -- this is the event at which `Start` goes on
    have hmover : e.mover = some .main := by
      by_contra hne
      exact hmain ((pc_next_of_ne hne).trans hold)
    cases e <;> simp only [mover, Option.some.injEq, reduceCtorEq] at hmover
    case waitGroup =>
      have hstay : (h.next .waitGroup).pc g = h.pc g :=
        pc_next_of_ne fun hg' => hg (Option.some.inj hg').symm
      refine hstay.trans ?_
      cases g
      case main => exact (hg rfl).elim
      case client => exact he.2.1
      case destination => exact he.2.2.1
      case timeout => exact he.2.2.2
    all_goals
      try subst hmover
      simp [enabled, hold] at he
  · exact exited_next (hw hold g hg) he

theorem exited_of_main
    (hr : automaton.Run (start config maxConnections clientHandlers handlers) tr h)
    (hmain : h.pc .main ≠ .waitGroup) {g : Goroutine} (hg : g ≠ .main) : h.pc g = .exited :=
  hr.invariant (I := Waits) (fun hne => (hne rfl).elim) (fun _ _ => waits_next) hmain g hg

/-! ## The record of a client -/

/-- How an event changes the record of client `c`. -/
theorem get_next {e : HubEvent} (he : h.enabled e) (c : ClientId) :
    (∃ name t, e = .createClient name c t ∧ h.clientStore.get c = none ∧
      (h.next e).clientStore.get c = some (ClientStore.newRecord name t)) ∨
    (∃ g r k, e = .kickRemove g c r k ∧ (h.next e).clientStore.get c = none) ∨
    (∃ t, e = .clientStamp c t ∧ (h.next e).clientStore.get c =
      (h.clientStore.get c).map fun md => { md with lastClientMsgTime := t }) ∨
    (∃ t, e = .destStamp c t ∧ (h.next e).clientStore.get c =
      (h.clientStore.get c).map fun md => { md with lastDestinationMsgTime := t }) ∨
    (∃ v name, e = .verdictConnect v name ∧ v.clientId = c ∧ (h.next e).clientStore.get c =
      (h.clientStore.get c).map fun md => { md with isConnected := true }) ∨
    (∃ m t name, e = .reqAttach m t name ∧ m.clientId = c ∧ (h.next e).clientStore.get c =
      (h.clientStore.get c).map fun md => { md with destinationHandlerName := name }) ∨
    (h.next e).clientStore.get c = h.clientStore.get c := by
  cases e
  case createClient name id t =>
    obtain ⟨_, _, hok⟩ := he
    cases hcreate : h.clientStore.createClient id name t with
    | error err => simp [hcreate, Except.isOk, Except.toBool] at hok
    | ok store =>
      obtain ⟨hfree, _, hnew, hother⟩ := ClientStore.createClient_ok hcreate
      have hnext : (h.next (.createClient name id t)).clientStore = store := by
        simp [next, hcreate]
      by_cases hc : c = id
      · subst hc
        exact .inl ⟨_, t, rfl, hfree, by rw [hnext, hnew]⟩
      · exact .inr (.inr (.inr (.inr (.inr (.inr (by rw [hnext, hother c hc]))))))
  case kickRemove g id r k =>
    by_cases hc : c = id
    · subst hc
      exact .inr (.inl ⟨g, r, k, rfl, by simp [next, ClientStore.get_removeClient]⟩)
    · refine .inr (.inr (.inr (.inr (.inr (.inr ?_)))))
      simp [next, ClientStore.get_removeClient, hc]
  case clientStamp id t =>
    by_cases hc : c = id
    · subst hc
      refine .inr (.inr (.inl ⟨t, rfl, ?_⟩))
      simp [next, ClientStore.setClientRecvTimestamp, ClientStore.get_update]
    · refine .inr (.inr (.inr (.inr (.inr (.inr ?_)))))
      simp [next, ClientStore.setClientRecvTimestamp, ClientStore.get_update, hc]
  case destStamp id t =>
    by_cases hc : c = id
    · subst hc
      refine .inr (.inr (.inr (.inl ⟨t, rfl, ?_⟩)))
      simp [next, ClientStore.setDestinationRecvTimestamp, ClientStore.get_update]
    · refine .inr (.inr (.inr (.inr (.inr (.inr ?_)))))
      simp [next, ClientStore.setDestinationRecvTimestamp, ClientStore.get_update, hc]
  case verdictConnect v name =>
    by_cases hc : c = v.clientId
    · subst hc
      refine .inr (.inr (.inr (.inr (.inl ⟨v, name, rfl, rfl, ?_⟩))))
      simp [next, ClientStore.connect, ClientStore.get_update]
    · refine .inr (.inr (.inr (.inr (.inr (.inr ?_)))))
      simp [next, ClientStore.connect, ClientStore.get_update, hc]
  case reqAttach m t name =>
    by_cases hc : c = m.clientId
    · subst hc
      refine .inr (.inr (.inr (.inr (.inr (.inl ⟨m, t, name, rfl, rfl, ?_⟩)))))
      simp [next, ClientStore.setDestinationHandlerName, ClientStore.get_update]
    · refine .inr (.inr (.inr (.inr (.inr (.inr ?_)))))
      simp [next, ClientStore.setDestinationHandlerName, ClientStore.get_update, hc]
  all_goals exact .inr (.inr (.inr (.inr (.inr (.inr rfl)))))

/-- How an event changes the handler names in the record of client `c`. -/
theorem names_next {e : HubEvent} (he : h.enabled e) (c : ClientId) :
    (∃ name t, e = .createClient name c t ∧ h.clientStore.names c = none ∧
      (h.next e).clientStore.names c = some (name, "")) ∨
    (∃ g r k, e = .kickRemove g c r k ∧ (h.next e).clientStore.names c = none) ∨
    (∃ m t name cn dn, e = .reqAttach m t name ∧ m.clientId = c ∧
      h.clientStore.names c = some (cn, dn) ∧
      (h.next e).clientStore.names c = some (cn, name)) ∨
    (h.next e).clientStore.names c = h.clientStore.names c := by
  unfold ClientStore.names
  rcases get_next he c with ⟨name, t, rfl, hfree, hnew⟩ | ⟨g, r, k, rfl, hnone⟩ |
    ⟨t, rfl, hstamp⟩ | ⟨t, rfl, hstamp⟩ | ⟨v, name, rfl, -, hconnect⟩ |
    ⟨m, t, name, rfl, rfl, hattach⟩ | hsame
  · exact .inl ⟨name, t, rfl, by rw [hfree]; rfl, by rw [hnew]; rfl⟩
  · exact .inr (.inl ⟨g, r, k, rfl, by rw [hnone]; rfl⟩)
  · exact .inr (.inr (.inr (by rw [hstamp, Option.map_map]; rfl)))
  · exact .inr (.inr (.inr (by rw [hstamp, Option.map_map]; rfl)))
  · exact .inr (.inr (.inr (by rw [hconnect, Option.map_map]; rfl)))
  · obtain ⟨md, hmd⟩ := Option.isSome_iff_exists.mp he.2
    refine .inr (.inr (.inl ⟨m, t, name, md.clientHandlerName, md.destinationHandlerName, rfl, rfl,
      by simp [hmd], ?_⟩))
    rw [hattach, hmd]
    rfl
  · exact .inr (.inr (.inr (by rw [hsame])))

/-- Handlers are never unregistered. -/
theorem handlers_mono {e : HubEvent} {name : String} :
    (name ∈ h.clientHandlers → name ∈ (h.next e).clientHandlers) ∧
      (name ∈ h.destinationHandlers → name ∈ (h.next e).destinationHandlers) := by
  cases e
  case createClientMessageHandler | createDestinationMessageHandler =>
    simp only [next]
    split <;> simp +contextual
  all_goals exact ⟨id, id⟩

/-- The handler a goroutine is about to send to is registered. -/
def Known (h : Hub) : HubPc → Prop
  | .fwdClientSend _ name | .reqAttach _ _ name | .reqSend _ name => name ∈ h.destinationHandlers
  | .kickDestSend _ _ dn _ => dn ∈ h.destinationHandlers ∧ dn ≠ ""
  | .fwdDestSend _ name | .verdictConnect _ name | .verdictSend _ name => name ∈ h.clientHandlers
  | .kickClientSend _ _ cn _ _ => cn ∈ h.clientHandlers ∧ cn ≠ ""
  | _ => True

theorem Known.next {e : HubEvent} {pc : HubPc} (hk : h.Known pc) : (h.next e).Known pc := by
  cases pc
  case kickDestSend => exact ⟨handlers_mono.2 hk.1, hk.2⟩
  case kickClientSend => exact ⟨handlers_mono.1 hk.1, hk.2⟩
  all_goals first | exact handlers_mono.2 hk | exact handlers_mono.1 hk | trivial

theorem known_next {e : HubEvent} (ih : ∀ g, h.Known (h.pc g)) (he : h.enabled e) :
    ∀ g, (h.next e).Known ((h.next e).pc g) := by
  have move : ∀ {g pc}, (h.next e).Known pc →
      ∀ g', (h.next e).Known (Function.update h.pc g pc g') :=
    fun hpc => forall_moved hpc fun g => (ih g).next
  have stay : ∀ {g pc}, h.pc g = pc → (h.next e).Known pc := fun hg => hg ▸ (ih _).next
  cases e
  case advanceClock | cancel | createClientMessageHandler | createDestinationMessageHandler
      | getNewClientId | callbackNow | createClient | createClientFails =>
    exact fun g => (ih g).next
  case fwdClientLookup | fwdDestLookup | verdictLookup | reqLookup => exact move he.2.2
  case kickClientLock | kickDestLock => exact move ⟨he.2.2.2, he.2.1⟩
  case verdictConnect =>
    have hs := stay he
    exact move hs
  case reqAttach =>
    have hs := stay he.1
    exact move hs
  case kickRemove g c r k =>
    refine move ?_
    cases k <;> trivial
  all_goals exact move trivial

theorem known (hr : automaton.Run (start config maxConnections clientHandlers handlers) tr h) :
    ∀ g, h.Known (h.pc g) := by
  refine hr.invariant (I := fun h => ∀ g, h.Known (h.pc g)) ?_ fun _ _ => known_next
  intro g
  cases g <;> trivial

theorem known_at (hr : automaton.Run (start config maxConnections clientHandlers handlers) tr h)
    {g : Goroutine} {pc : HubPc} (hg : h.pc g = pc) : h.Known pc :=
  hg ▸ known hr g

/-- Close commands are only sent, and records only removed, by a kick of the client or at
shutdown. -/
theorem kicked_of_step
    (hr : automaton.Run (start config maxConnections clientHandlers handlers) tr h) {e : HubEvent}
    (he : e ∈ tr) (hc : e.kickStep = some c) : .cancel ∈ tr ∨ ∃ e ∈ tr, e.Kicks c := by
  obtain ⟨tr₁, h₁, hr₁, hen, hpre⟩ := hr.of_mem he
  have hsub : ∀ {e}, e ∈ tr₁ → e ∈ tr := fun he => hpre.subset (List.mem_append_left _ he)
  have hkicked : ∃ k, Kicked tr₁ c k := by
    have key : ∀ {g pc}, h₁.pc g = pc → pc.Origin tr₁ := fun hg => hg ▸ origin hr₁ _
    cases e <;> cases hc
    all_goals
      have ho := key hen
      exact ⟨_, ho⟩
  obtain ⟨k, hk⟩ := hkicked
  cases k
  case kickAllClients => exact .inl (hsub hk)
  all_goals
    obtain ⟨e, he, hk⟩ := hk
    exact .inr ⟨e, hsub he, hk⟩

theorem kickStep_of_removes {e : HubEvent} (h : e.Removes c) : e.kickStep = some c := by
  cases e <;> simp only [Removes] at h
  exact congrArg some h

/-- A client that was attached stays attached until its record is removed. -/
theorem names_of_attached
    (hr : automaton.Run (start config maxConnections clientHandlers handlers) tr h)
    {m : OpenClientConnectionCommand} {t : Timestamp} {name : String}
    (ha : .reqAttach m t name ∈ tr) (hno : ∀ e ∈ tr, ¬e.Removes m.clientId) :
    ∃ cn, ∃ dn ∈ h.destinationHandlers, h.clientStore.names m.clientId = some (cn, dn) := by
  induction hr with
  | nil => cases ha
  | @snoc tr h e hr he ih =>
    have hno' : ∀ e ∈ tr, ¬e.Removes m.clientId := fun e he => hno e (List.mem_append_left _ he)
    rcases names_next he m.clientId with ⟨cn, t', rfl, hnone, -⟩ | ⟨g, r, k, rfl, -⟩ |
      ⟨m', t', dn, cn, dn', rfl, hid, -, hnew⟩ | hsame
    · -- an attached client has a record
      rcases List.mem_append.mp ha with ha | ha
      · obtain ⟨cn', dn', -, hsome⟩ := ih ha hno'
        simp [hnone] at hsome
      · simp at ha
    · exact (hno (.kickRemove g m.clientId r k) (by simp) rfl).elim
    · refine ⟨cn, dn, ?_, hnew⟩
      have hk := known_at hr he.1
      exact handlers_mono.2 hk
    · rcases List.mem_append.mp ha with ha | ha
      · obtain ⟨cn, dn, hdn, hold⟩ := ih ha hno'
        exact ⟨cn, dn, handlers_mono.2 hdn, hsame.trans hold⟩
      · obtain rfl := List.mem_singleton.mp ha
        have hk := known_at hr he.1
        obtain ⟨md, hmd⟩ := Option.isSome_iff_exists.mp he.2
        refine ⟨md.clientHandlerName, name, handlers_mono.2 hk, ?_⟩
        simp [automaton, next, ClientStore.names, ClientStore.setDestinationHandlerName,
          ClientStore.get_update, hmd]

/-! ## Forwarding -/

theorem client_step {e : HubEvent} (he : h.enabled e) (hd : ¬e.DropsClient c) :
    (clientDataOut c e).toList ++ ((h.next e).pc .client).clientHolds c =
      (h.pc .client).clientHolds c ++ (clientDataIn c e).toList := by
  cases e
  case fwdClientNoClient m t | fwdClientNoHandler m t name =>
    have hne : m.clientId ≠ c := hd
    simp [next, clientHolds, clientDataIn, clientDataOut, he.1, ClientMessage.dataFor, hne]
  case exit g | kickClientSkip g _ _ _ _ _ | kickClientLock g _ _ _ _ _ | kickDestSkip g _ _ _ _
      | kickDestLock g _ _ _ _ =>
    refine Eq.trans ?_ (List.append_nil _).symm
    exact holds_update (f := clientHolds c) (by rw [he.1]; rfl) rfl
  case kickClientName g _ _ _ | kickDestName g _ _ _ _ | kickClientSend g _ _ _ _ _
      | kickDestSend g _ _ _ _ =>
    refine Eq.trans ?_ (List.append_nil _).symm
    exact holds_update (f := clientHolds c) (by rw [show h.pc g = _ from he]; rfl) rfl
  case kickRemove g _ _ k =>
    refine Eq.trans ?_ (List.append_nil _).symm
    exact holds_update (f := clientHolds c) (by rw [show h.pc g = _ from he]; rfl)
      (clientHolds_resume c k)
  case recvClientMessage | recvOpenClient | recvClientClose | fwdClientNow | fwdClientSend
      | clientStampNow | clientStamp | reqNow | reqSend =>
    simp only [enabled] at he
    simp [next, clientHolds, clientDataIn, clientDataOut, he]
  case fwdClientName | fwdClientLookup | reqName | reqDuplicate | reqNoClient | reqMatch
      | reqNoMatch | reqLookup | reqNoHandler | reqAttach | reqAttachFails =>
    simp [next, clientHolds, clientDataIn, clientDataOut, he.1, ClientMessage.dataFor,
      DestinationMessage.dataFor]
  all_goals simp [next, clientDataIn, clientDataOut]

theorem destination_step {e : HubEvent} (he : h.enabled e) (hd : ¬e.DropsDestination c) :
    (destinationDataOut c e).toList ++ ((h.next e).pc .destination).destinationHolds c =
      (h.pc .destination).destinationHolds c ++ (destinationDataIn c e).toList := by
  cases e
  case fwdDestNoClient m t | fwdDestNoHandler m t name =>
    have hne : m.clientId ≠ c := hd
    simp [next, destinationHolds, destinationDataIn, destinationDataOut, he.1,
      DestinationMessage.dataFor, hne]
  case exit g | kickClientSkip g _ _ _ _ _ | kickClientLock g _ _ _ _ _ | kickDestSkip g _ _ _ _
      | kickDestLock g _ _ _ _ =>
    refine Eq.trans ?_ (List.append_nil _).symm
    exact holds_update (f := destinationHolds c) (by rw [he.1]; rfl) rfl
  case kickClientName g _ _ _ | kickDestName g _ _ _ _ | kickClientSend g _ _ _ _ _
      | kickDestSend g _ _ _ _ =>
    refine Eq.trans ?_ (List.append_nil _).symm
    exact holds_update (f := destinationHolds c) (by rw [show h.pc g = _ from he]; rfl) rfl
  case kickRemove g _ _ k =>
    refine Eq.trans ?_ (List.append_nil _).symm
    exact holds_update (f := destinationHolds c) (by rw [show h.pc g = _ from he]; rfl)
      (destinationHolds_resume c k)
  case recvDestinationMessage | recvVerdict | recvDestinationClose | fwdDestNow | fwdDestSend
      | destStampNow | destStamp | verdictConnect | verdictSend =>
    simp only [enabled] at he
    simp [next, destinationHolds, destinationDataIn, destinationDataOut, he]
  case fwdDestName | fwdDestLookup | verdictName | verdictNoClient | verdictLookup
      | verdictNoHandler =>
    simp [next, destinationHolds, destinationDataIn, destinationDataOut, he.1,
      ClientMessage.dataFor, DestinationMessage.dataFor]
  all_goals simp [next, destinationDataIn, destinationDataOut]

/-- The hub keeps the order of a client's messages ... -/
theorem lossy_client
    (hr : automaton.Run (start config maxConnections clientHandlers handlers) tr h)
    (c : ClientId) : Lossy (tr.filterMap (clientDataIn c)) (tr.filterMap (clientDataOut c))
      ((h.pc .client).clientHolds c) := by
  refine hr.lossy (k := fun h => (h.pc .client).clientHolds c) rfl ?_
  intro _ h e _ he
  by_cases hd : e.DropsClient c
  · cases e <;> first
      | exact hd.elim
      | (simp only [automaton, next, goto_pc, Function.update_self]; exact List.nil_sublist _)
  · exact client_step he hd ▸ List.Sublist.refl _

/-- The hub keeps the order of the messages for a client ... -/
theorem lossy_destination
    (hr : automaton.Run (start config maxConnections clientHandlers handlers) tr h)
    (c : ClientId) :
    Lossy (tr.filterMap (destinationDataIn c)) (tr.filterMap (destinationDataOut c))
      ((h.pc .destination).destinationHolds c) := by
  refine hr.lossy (k := fun h => (h.pc .destination).destinationHolds c) rfl ?_
  intro _ h e _ he
  by_cases hd : e.DropsDestination c
  · cases e <;> first
      | exact hd.elim
      | (simp only [automaton, next, goto_pc, Function.update_self]; exact List.nil_sublist _)
  · exact destination_step he hd ▸ List.Sublist.refl _

/-- ... and loses none unless it finds no record or no handler. -/
theorem exact_destination
    (hr : automaton.Run (start config maxConnections clientHandlers handlers) tr h)
    (hc : ∀ e ∈ tr, ¬e.DropsDestination c) :
    Exact (tr.filterMap (destinationDataIn c)) (tr.filterMap (destinationDataOut c))
      ((h.pc .destination).destinationHolds c) :=
  hr.exact (p := fun e => ¬e.DropsDestination c)
    (k := fun h => (h.pc .destination).destinationHolds c) rfl
    (fun _ _ _ _ he hd => destination_step he hd) hc

/-! ## Client ids -/

theorem nextClientId_next {e : HubEvent} (he : h.enabled e) :
    (h.next e).clientStore.nextClientId = (newId e).getD h.clientStore.nextClientId := by
  cases e
  case createClient name id t =>
    simp only [next, newId, Option.getD_none]
    split
    · next hcreate => exact (ClientStore.createClient_ok hcreate).2.1
    · rfl
  case clientStamp | destStamp | verdictConnect | reqAttach =>
    simp [next, newId, ClientStore.setClientRecvTimestamp, ClientStore.setDestinationRecvTimestamp,
      ClientStore.connect, ClientStore.setDestinationHandlerName]
  all_goals rfl

/-- Ids are allocated in sequence; the counter wraps after `2 ^ 32` of them. -/
theorem newIds_eq (hr : automaton.Run (start config maxConnections clientHandlers handlers) tr h) :
    tr.filterMap newId =
      (List.range (tr.filterMap newId).length).map (fun n => UInt32.ofNat (n + 1)) ∧
    h.clientStore.nextClientId = UInt32.ofNat (tr.filterMap newId).length := by
  induction hr with
  | nil => exact ⟨rfl, rfl⟩
  | @snoc tr h e hr he ih =>
    obtain ⟨ih₁, ih₂⟩ := ih
    have hnext := nextClientId_next he
    simp only [automaton]
    cases hid : newId e with
    | none =>
      rw [filterMap_snoc_none hid, hnext, hid, Option.getD_none]
      exact ⟨ih₁, ih₂⟩
    | some id =>
      have hid' : id = UInt32.ofNat ((tr.filterMap newId).length + 1) := by
        cases e <;> cases hid
        rw [show id = _ from he, ClientStore.getNewClientId, ih₂, UInt32.ofNat_add]
        rfl
      rw [filterMap_snoc_some hid, hnext, hid, Option.getD_some, List.length_append,
        List.length_singleton, List.range_succ, List.map_append, ← ih₁]
      exact ⟨by rw [hid']; rfl, hid'⟩

theorem newIds_nodup
    (hr : automaton.Run (start config maxConnections clientHandlers handlers) tr h)
    (hlt : (tr.filterMap newId).length < 2 ^ 32) : (tr.filterMap newId).Nodup := by
  rw [(newIds_eq hr).1]
  refine List.Nodup.map_on ?_ List.nodup_range
  intro a ha b hb hab
  have ha := List.mem_range.mp ha
  have hb := List.mem_range.mp hb
  have := congrArg UInt32.toNat hab
  simp only [UInt32.toNat_ofNat'] at this
  omega

/-- The ids that have a record made or are about to were allocated, each as often. -/
theorem count_created_le
    (hr : automaton.Run (start config maxConnections clientHandlers handlers) tr h)
    (a : ClientId) :
    (tr.filterMap createdId).count a + (h.callbacks.map Callback.clientId).count a ≤
      (tr.filterMap newId).count a := by
  induction hr with
  | nil => simp [start]
  | @snoc tr h e hr he ih =>
    simp only [List.filterMap_append, List.count_append] at ih ⊢
    have herase : ∀ {cb : Callback}, cb ∈ h.callbacks →
        ((h.callbacks.erase cb).map Callback.clientId).count a + [cb.clientId].count a =
          (h.callbacks.map Callback.clientId).count a := by
      intro cb hcb
      rw [((List.perm_cons_erase hcb).map Callback.clientId).count_eq a, List.map_cons,
        List.count_cons, List.count_cons, List.count_nil, Nat.zero_add]
    cases e
    case getNewClientId name id =>
      simp only [automaton, next, createdId, newId, List.filterMap_cons, List.filterMap_nil,
        List.map_append, List.map_cons, List.map_nil, Callback.clientId, List.count_append,
        List.count_nil]
      omega
    case callbackNow name id =>
      have := herase he
      simp only [automaton, next, createdId, newId, List.filterMap_cons, List.filterMap_nil,
        List.map_append, List.map_cons, List.map_nil, Callback.clientId, List.count_append,
        List.count_nil] at this ⊢
      omega
    case createClient name id t =>
      have := herase he.1
      simp only [automaton, next, createdId, newId, List.filterMap_cons, List.filterMap_nil,
        Callback.clientId, List.count_nil] at this ⊢
      omega
    case createClientFails name id t =>
      have := herase he.1
      simp only [automaton, next, createdId, newId, List.filterMap_cons, List.filterMap_nil,
        Callback.clientId, List.count_nil] at this ⊢
      omega
    all_goals exact ih

/-- With fewer than `2 ^ 32` allocations no id is returned twice. -/
theorem createdIds_nodup
    (hr : automaton.Run (start config maxConnections clientHandlers handlers) tr h)
    (hlt : (tr.filterMap newId).length < 2 ^ 32) : (tr.filterMap createdId).Nodup := by
  have hn := newIds_nodup hr hlt
  rw [List.nodup_iff_count_le_one] at hn ⊢
  intro a
  have := count_created_le hr a
  have := hn a
  omega

end
end Hub
end Spanreed
