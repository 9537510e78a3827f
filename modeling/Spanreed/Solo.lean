import Spanreed.Attachment
import Spanreed.HubProgress
import Spanreed.Registration
import Spanreed.Timeouts

/-! # Calls that nobody interrupts

The functions of `pkg/proxy/proxy.go` that the goroutines of `Spanreed.Hub` go through one operation
at a time, written as they are called: a call takes the readings of the clock and the orders in
which maps are iterated, and gives the hub it leaves and the commands it sends, in order.

`HubData.Rest` says what is left of a call at each point of a goroutine. Every operation of a
goroutine that runs alone does its part of it (`Rest.back`), so a goroutine that runs alone from the
start of a call to its end does what the call says (`tick_alone`, `request_alone`). -/

namespace Spanreed
open Flatbuffers Automata

/-- A command of the hub with the name of the handler it is sent to. -/
inductive HubCommand
  | clientClose (name : String) (m : ClientCloseCommand)
  | destinationClose (name : String) (m : ClientCloseCommand)
  | destinationOpen (name : String) (m : OpenClientConnectionCommand)
deriving DecidableEq

def HubCommand.clientId : HubCommand → ClientId
  | .clientClose _ m | .destinationClose _ m => m.clientId
  | .destinationOpen _ m => m.clientId

/-- The command that an operation sends. -/
def HubEvent.command : HubEvent → Option HubCommand
  | .kickClientSend _ c r cn _ _ => some (.clientClose cn (Hub.closeCommand c r))
  | .kickDestSend _ c r dn _ => some (.destinationClose dn (Hub.closeCommand c r))
  | .reqSend m name => some (.destinationOpen name m)
  | _ => none

/-- An operation of goroutine `g` in the middle of a call, or the clock. -/
def HubEvent.InCall (g : Goroutine) : HubEvent → Prop
  | .advanceClock _ => True
  | .exit _ => False
  | e => e.mover = some g ∧ ¬e.Begins

/-- What calls read and write of the hub. -/
structure HubData where
  config : HubConfig
  clientStore : ClientStore
  clientHandlers : List String
  destinationHandlers : List String
  connectedDestinationHandlers : List DestinationHandler

def Hub.data (h : Hub) : HubData where
  config := h.config
  clientStore := h.clientStore
  clientHandlers := h.clientHandlers
  destinationHandlers := h.destinationHandlers
  connectedDestinationHandlers := h.connectedDestinationHandlers

namespace HubData
variable (p : HubData)

def sendClientDisconnect (clientId : ClientId) (clientHandlerName : String)
    (reason : Option GoError) : List HubCommand :=
  if clientHandlerName = "" then []
  else if clientHandlerName ∈ p.clientHandlers then
    [.clientClose clientHandlerName (Hub.closeCommand clientId reason)]
  else []

def sendDestinationDisconnect (clientId : ClientId) (destinationHandlerName : String)
    (reason : Option GoError) : List HubCommand :=
  if destinationHandlerName = "" then []
  else if destinationHandlerName ∈ p.destinationHandlers then
    [.destinationClose destinationHandlerName (Hub.closeCommand clientId reason)]
  else []

section
variable {p} {c : ClientId} {name : String} {reason : Option GoError}

theorem sendClientDisconnect_of_mem (hne : name ≠ "") (hmem : name ∈ p.clientHandlers) :
    p.sendClientDisconnect c name reason = [.clientClose name (Hub.closeCommand c reason)] := by
  simp [sendClientDisconnect, hne, hmem]

theorem sendClientDisconnect_eq_nil (h : name = "" ∨ name ∉ p.clientHandlers) :
    p.sendClientDisconnect c name reason = [] := by
  rcases h with rfl | hmem
  · rfl
  · simp [sendClientDisconnect, hmem]

theorem sendDestinationDisconnect_of_mem (hne : name ≠ "") (hmem : name ∈ p.destinationHandlers) :
    p.sendDestinationDisconnect c name reason =
      [.destinationClose name (Hub.closeCommand c reason)] := by
  simp [sendDestinationDisconnect, hne, hmem]

theorem sendDestinationDisconnect_eq_nil (h : name = "" ∨ name ∉ p.destinationHandlers) :
    p.sendDestinationDisconnect c name reason = [] := by
  rcases h with rfl | hmem
  · rfl
  · simp [sendDestinationDisconnect, hmem]

end

def removeClient (clientId : ClientId) : HubData :=
  { p with clientStore := p.clientStore.removeClient clientId }

def kickClient (clientId : ClientId) (reason : Option GoError) : HubData × List HubCommand :=
  let clientHandlerName := Hub.nameOrEmpty (p.clientStore.getClientHandlerName clientId)
  let destinationHandlerName := Hub.nameOrEmpty (p.clientStore.getDestinationHandlerName clientId)
  (p.removeClient clientId,
    p.sendClientDisconnect clientId clientHandlerName reason ++
      p.sendDestinationDisconnect clientId destinationHandlerName reason)

/-- Kicks one after another. -/
def kickClients (p : HubData) : List (ClientId × Option GoError) → HubData × List HubCommand
  | [] => (p, [])
  | (clientId, reason) :: rest =>
    let kicked := p.kickClient clientId reason
    let others := kickClients kicked.1 rest
    (others.1, kicked.2 ++ others.2)

/-- The loop of `kickOldClients`. -/
def kickAsOld (clientsToKick : List ClientId) : HubData × List HubCommand :=
  p.kickClients (clientsToKick.map fun clientId => (clientId, some .connectionTimeout))

/-- The loop of `checkForAuthTimeouts`. -/
def kickAsUnauthed (clientsToTimeout : List ClientId) : HubData × List HubCommand :=
  p.kickClients (clientsToTimeout.map fun clientId => (clientId, some .authTimeout))

/-- `kickOldClients`: three readings of the clock, and the order in which the map is iterated. -/
def kickOldClients (now₁ now₂ now₃ : Timestamp) (order : List ClientId → List ClientId) :
    HubData × List HubCommand :=
  let clientMsgDeadline := now₁ - p.config.clientMessageTimeout
  let destinationMsgDeadline := now₂ - p.config.destinationMessageTimeout
  let connectionDeadline := now₃ - p.config.maxConnectionLength
  p.kickAsOld (order (p.clientStore.getTimeoutClientList clientMsgDeadline destinationMsgDeadline
    connectionDeadline))

def checkForAuthTimeouts (now : Timestamp) (order : List ClientId → List ClientId) :
    HubData × List HubCommand :=
  let authDeadline := now - p.config.clientAuthTimeout
  p.kickAsUnauthed (order (p.clientStore.getAuthTimeoutClientList authDeadline))

/-- What the timeout goroutine does at a tick. -/
def tick (now₁ now₂ now₃ now₄ : Timestamp) (order₁ order₂ : List ClientId → List ClientId) :
    HubData × List HubCommand :=
  let old := p.kickOldClients now₁ now₂ now₃ order₁
  let unauthed := old.1.checkForAuthTimeouts now₄ order₂
  (unauthed.1, old.2 ++ unauthed.2)

/-- The error that a call returns, the hub it leaves and what it sends. -/
structure Outcome where
  error : Option GoError
  data : HubData
  sent : List HubCommand

/-- A request whose destination handler cannot be attached. -/
def attachFails (clientId : ClientId) (err : GoError) : Outcome where
  error := some err
  data := (p.kickClient clientId (some err)).1
  sent := (p.kickClient clientId (some err)).2

/-- `SetDestinationHandlerName` and the send. -/
def attach (dequeTimestamp : Timestamp) (incomingMsg : OpenClientConnectionCommand)
    (name : String) : Outcome :=
  if p.clientStore.get incomingMsg.clientId = none then
    p.attachFails incomingMsg.clientId (.missingClientId incomingMsg.clientId)
  else {
    error := none
    data := { p with
      clientStore := p.clientStore.setDestinationHandlerName incomingMsg.clientId name }
    sent := [.destinationOpen name { incomingMsg with routeTimestamp := dequeTimestamp }] }

/-- The first handler that matches is found. -/
def attachFirst (dequeTimestamp : Timestamp) (incomingMsg : OpenClientConnectionCommand)
    (name : String) : Outcome :=
  if name ∈ p.destinationHandlers then p.attach dequeTimestamp incomingMsg name
  else p.attachFails incomingMsg.clientId (.missingDestinationHandler name)

/-- The loop over the destination handlers; `none` is a match function that panics. -/
def findHandler (dequeTimestamp : Timestamp) (incomingMsg : OpenClientConnectionCommand) :
    Option Outcome :=
  match firstMatch incomingMsg.connectionString p.connectedDestinationHandlers with
  | none => none
  | some none => some (p.attachFails incomingMsg.clientId
      (.noMatchingHandlerForConnectionString incomingMsg.connectionString))
  | some (some name) => some (p.attachFirst dequeTimestamp incomingMsg name)

def handleClientConnectionRequestMessage (dequeTimestamp : Timestamp)
    (incomingMsg : OpenClientConnectionCommand) : Option Outcome :=
  match p.clientStore.getDestinationHandlerName incomingMsg.clientId with
  | .error err => some ⟨some err, p, []⟩
  | .ok rsl =>
    -- a duplicate request is not an error
    if rsl ≠ "" then some ⟨none, p, []⟩ else p.findHandler dequeTimestamp incomingMsg

section
variable {p} {t : Timestamp} {m : OpenClientConnectionCommand} {md : ClientConnectionMetadata}

theorem request_of_missing (hget : p.clientStore.get m.clientId = none) :
    p.handleClientConnectionRequestMessage t m =
      some ⟨some (.missingClientId m.clientId), p, []⟩ := by
  simp [handleClientConnectionRequestMessage, ClientStore.getDestinationHandlerName, hget]

theorem request_of_attached (hget : p.clientStore.get m.clientId = some md)
    (hattached : md.destinationHandlerName ≠ "") :
    p.handleClientConnectionRequestMessage t m = some ⟨none, p, []⟩ := by
  simp [handleClientConnectionRequestMessage, ClientStore.getDestinationHandlerName, hget,
    hattached]

/-- A request for a client that is not attached comes to the handlers. -/
theorem request_of_free (hget : p.clientStore.get m.clientId = some md)
    (hfree : md.destinationHandlerName = "") :
    p.handleClientConnectionRequestMessage t m = p.findHandler t m := by
  simp [handleClientConnectionRequestMessage, ClientStore.getDestinationHandlerName, hget, hfree]

end

theorem config_kickClients {kicks : List (ClientId × Option GoError)} :
    (p.kickClients kicks).1.config = p.config := by
  induction kicks generalizing p with
  | nil => rfl
  | cons kick kicks ih => exact ih ..

theorem config_kickAsOld {l : List ClientId} : (p.kickAsOld l).1.config = p.config :=
  config_kickClients ..

/-! ## What is left of a call -/

/-- What a goroutine does from here on after a kick: the store it leaves and what it sends. -/
def After : KickReturn → ClientStore → List HubCommand → Prop
  | .select, store, sent => store = p.clientStore ∧ sent = []
  | .checkForAuthTimeouts l, store, sent =>
    store = (p.kickAsUnauthed l).1.clientStore ∧ sent = (p.kickAsUnauthed l).2
  | .kickOldClients l, store, sent =>
    ∃ now l', l'.Perm ((p.kickAsOld l).1.clientStore.getAuthTimeoutClientList
        (now - p.config.clientAuthTimeout)) ∧
      store = ((p.kickAsOld l).1.kickAsUnauthed l').1.clientStore ∧
      sent = (p.kickAsOld l).2 ++ ((p.kickAsOld l).1.kickAsUnauthed l').2
  | .kickAllClients, _, _ => True

/-- The same in the middle of a kick of client `c` that still has to send `commands`. -/
def Kicking (c : ClientId) (commands : List HubCommand) (k : KickReturn) (store : ClientStore)
    (sent : List HubCommand) : Prop :=
  ∃ sent', (p.removeClient c).After k store sent' ∧ sent = commands ++ sent'

/-- What a goroutine at this point does from here on, if the hub is left to it. -/
def Rest : HubPc → ClientStore → List HubCommand → Prop
  | .select, store, sent => p.After .select store sent
  | .kickClientName c r k, store, sent => p.Kicking c (p.kickClient c r).2 k store sent
  | .kickDestName c r cn k, store, sent =>
    p.Kicking c (p.sendClientDisconnect c cn r ++ p.sendDestinationDisconnect c
      (Hub.nameOrEmpty (p.clientStore.getDestinationHandlerName c)) r) k store sent
  | .kickClientLookup c r cn dn k, store, sent =>
    p.Kicking c (p.sendClientDisconnect c cn r ++ p.sendDestinationDisconnect c dn r) k store sent
  | .kickClientSend c r cn dn k, store, sent =>
    p.Kicking c (.clientClose cn (Hub.closeCommand c r) :: p.sendDestinationDisconnect c dn r) k
      store sent
  | .kickDestLookup c r dn k, store, sent =>
    p.Kicking c (p.sendDestinationDisconnect c dn r) k store sent
  | .kickDestSend c r dn k, store, sent =>
    p.Kicking c [.destinationClose dn (Hub.closeCommand c r)] k store sent
  | .kickRemove c _ k, store, sent => p.Kicking c [] k store sent
  | .sweepNow₁, store, sent => ∃ now₁ now₂ now₃ l, l.Perm (p.clientStore.getTimeoutClientList
      (now₁ - p.config.clientMessageTimeout) (now₂ - p.config.destinationMessageTimeout)
      (now₃ - p.config.maxConnectionLength)) ∧ p.After (.kickOldClients l) store sent
  | .sweepNow₂ a, store, sent => ∃ now₂ now₃ l, l.Perm (p.clientStore.getTimeoutClientList a
      (now₂ - p.config.destinationMessageTimeout) (now₃ - p.config.maxConnectionLength)) ∧
      p.After (.kickOldClients l) store sent
  | .sweepNow₃ a b, store, sent => ∃ now₃ l, l.Perm (p.clientStore.getTimeoutClientList a b
      (now₃ - p.config.maxConnectionLength)) ∧ p.After (.kickOldClients l) store sent
  | .sweepList a b d, store, sent =>
    ∃ l, l.Perm (p.clientStore.getTimeoutClientList a b d) ∧ p.After (.kickOldClients l) store sent
  | .kickOldClients l, store, sent => p.After (.kickOldClients l) store sent
  | .authNow, store, sent => ∃ now l, l.Perm (p.clientStore.getAuthTimeoutClientList
      (now - p.config.clientAuthTimeout)) ∧ p.After (.checkForAuthTimeouts l) store sent
  | .authList a, store, sent => ∃ l, l.Perm (p.clientStore.getAuthTimeoutClientList a) ∧
      p.After (.checkForAuthTimeouts l) store sent
  | .checkForAuthTimeouts l, store, sent => p.After (.checkForAuthTimeouts l) store sent
  | .reqNow m, store, sent => ∃ now o, p.handleClientConnectionRequestMessage now m = some o ∧
      store = o.data.clientStore ∧ sent = o.sent
  | .reqName m t, store, sent => ∃ o, p.handleClientConnectionRequestMessage t m = some o ∧
      store = o.data.clientStore ∧ sent = o.sent
  | .reqMatch m t, store, sent => ∃ o, p.findHandler t m = some o ∧
      store = o.data.clientStore ∧ sent = o.sent
  | .reqLookup m t name, store, sent =>
    store = (p.attachFirst t m name).data.clientStore ∧ sent = (p.attachFirst t m name).sent
  | .reqAttach m t name, store, sent =>
    store = (p.attach t m name).data.clientStore ∧ sent = (p.attach t m name).sent
  | .reqSend m name, store, sent => store = p.clientStore ∧ sent = [.destinationOpen name m]
  | _, _, _ => True

variable {p} {store : ClientStore} {sent : List HubCommand} {c : ClientId} {k : KickReturn}

theorem Kicking.cons {commands : List HubCommand} {command : HubCommand}
    (h : p.Kicking c commands k store sent) :
    p.Kicking c (command :: commands) k store (command :: sent) := by
  obtain ⟨sent', hafter, rfl⟩ := h
  exact ⟨sent', hafter, rfl⟩

theorem rest_resume : p.Rest k.resume store sent ↔ p.After k store sent := by
  cases k <;> rfl

/-- A request that fails to attach ends with a kick. -/
theorem attachFails_of_kicking {err : GoError}
    (h : p.Kicking c (p.kickClient c (some err)).2 .select store sent) :
    store = (p.attachFails c err).data.clientStore ∧ sent = (p.attachFails c err).sent := by
  obtain ⟨sent', ⟨hstore, rfl⟩, rfl⟩ := h
  exact ⟨hstore, List.append_nil _⟩

theorem after_kickOldClients_cons {l : List ClientId}
    (h : p.Kicking c (p.kickClient c (some .connectionTimeout)).2 (.kickOldClients l) store sent) :
    p.After (.kickOldClients (c :: l)) store sent := by
  obtain ⟨sent', ⟨now, l', hperm, hstore, rfl⟩, rfl⟩ := h
  exact ⟨now, l', hperm, hstore, (List.append_assoc _ _ _).symm⟩

theorem after_checkForAuthTimeouts_cons {l : List ClientId}
    (h : p.Kicking c (p.kickClient c (some .authTimeout)).2 (.checkForAuthTimeouts l) store sent) :
    p.After (.checkForAuthTimeouts (c :: l)) store sent := by
  obtain ⟨sent', ⟨hstore, rfl⟩, rfl⟩ := h
  exact ⟨hstore, rfl⟩

end HubData

namespace Hub
open HubEvent HubData
variable {h : Hub} {e : HubEvent} {g : Goroutine} {store : ClientStore} {sent : List HubCommand}

@[simp] theorem goto_data {pc : HubPc} : (h.goto g pc).data = h.data := rfl

theorem rest_goto {pc : HubPc} :
    (h.goto g pc).data.Rest ((h.goto g pc).pc g) store sent ↔ h.data.Rest pc store sent := by
  simp

/-- An operation in a call does its part of it. -/
theorem rest_back (he : h.enabled e) (hcall : e.InCall g)
    (hrest : (h.next e).data.Rest ((h.next e).pc g) store sent) :
    h.data.Rest (h.pc g) store (e.command.toList ++ sent) := by
  cases e
  case advanceClock => exact hrest
  case exit => exact hcall.elim
  all_goals
    obtain ⟨hg, hbegins⟩ := hcall
    simp only [mover, Option.some.injEq, reduceCtorEq] at hg
  all_goals
    subst hg
    simp only [command, Option.toList_none, Option.toList_some, List.nil_append, List.cons_append]
  case recvClientMessage | recvOpenClient | recvClientClose | recvDestinationMessage | recvVerdict
      | recvDestinationClose | ticker => exact (hbegins trivial).elim
  case kickClientName | kickDestName | sweepDone | authDone =>
    have hrest := rest_goto.mp hrest
    rw [show h.pc _ = _ from he]
    exact hrest
  case kickClientSkip g c r cn dn k =>
    have hskip : h.data.sendClientDisconnect c cn r = [] :=
      sendClientDisconnect_eq_nil (he.2.imp_right And.right)
    rw [he.1]
    simp only [Rest, hskip, List.nil_append]
    exact rest_goto.mp hrest
  case kickClientLock g c r cn dn k =>
    have hsend : h.data.sendClientDisconnect c cn r = [.clientClose cn (closeCommand c r)] :=
      sendClientDisconnect_of_mem he.2.1 he.2.2.2
    rw [he.1]
    simp only [Rest, hsend, List.cons_append, List.nil_append]
    exact rest_goto.mp hrest
  case kickDestSkip g c r dn k =>
    have hskip : h.data.sendDestinationDisconnect c dn r = [] :=
      sendDestinationDisconnect_eq_nil (he.2.imp_right And.right)
    rw [he.1]
    simp only [Rest, hskip]
    exact rest_goto.mp hrest
  case kickDestLock g c r dn k =>
    have hsend : h.data.sendDestinationDisconnect c dn r =
        [.destinationClose dn (closeCommand c r)] :=
      sendDestinationDisconnect_of_mem he.2.1 he.2.2.2
    rw [he.1]
    simp only [Rest, hsend]
    exact rest_goto.mp hrest
  case kickClientSend | kickDestSend =>
    rw [show h.pc _ = _ from he]
    exact Kicking.cons (rest_goto.mp hrest)
  case kickRemove g c r k =>
    rw [show h.pc _ = _ from he]
    exact ⟨sent, rest_resume.mp (rest_goto.mp hrest), rfl⟩
  case sweepNow₁ | sweepNow₂ | sweepNow₃ | authNow | reqNow =>
    rw [show h.pc _ = _ from he]
    exact ⟨h.now, rest_goto.mp hrest⟩
  case sweepList a b d l | authList a l =>
    rw [he.1]
    exact ⟨l, he.2, rest_goto.mp hrest⟩
  case kickOldClient c rest =>
    rw [show h.pc _ = _ from he]
    exact after_kickOldClients_cons (rest_goto.mp hrest)
  case kickUnauthedClient c rest =>
    rw [show h.pc _ = _ from he]
    exact after_checkForAuthTimeouts_cons (rest_goto.mp hrest)
  case reqName m t =>
    obtain ⟨md, hget, hempty⟩ := Option.map_eq_some_iff.mp he.2
    rw [he.1]
    obtain ⟨o, hfind, ho⟩ := rest_goto.mp hrest
    exact ⟨o, (request_of_free hget hempty).trans hfind, ho⟩
  case reqDuplicate m t name =>
    obtain ⟨md, hget, rfl⟩ := Option.map_eq_some_iff.mp he.2.1
    rw [he.1]
    exact ⟨⟨none, h.data, []⟩, request_of_attached hget he.2.2, rest_goto.mp hrest⟩
  case reqNoClient m t =>
    rw [he.1]
    exact ⟨⟨some (.missingClientId m.clientId), h.data, []⟩, request_of_missing he.2,
      rest_goto.mp hrest⟩
  case reqMatch m t name =>
    rw [he.1]
    refine ⟨_, ?_, rest_goto.mp hrest⟩
    simp [findHandler, data, he.2]
  case reqNoMatch m t =>
    rw [he.1]
    refine ⟨_, ?_, attachFails_of_kicking (rest_goto.mp hrest)⟩
    simp [findHandler, data, he.2]
  case reqLookup m t name =>
    have hmem : name ∈ h.data.destinationHandlers := he.2.2
    rw [he.1]
    simp only [Rest, attachFirst, if_pos hmem]
    exact rest_goto.mp hrest
  case reqNoHandler m t name =>
    have hmem : name ∉ h.data.destinationHandlers := he.2.2
    rw [he.1]
    simp only [Rest, attachFirst, if_neg hmem]
    exact attachFails_of_kicking (rest_goto.mp hrest)
  case reqAttach m t name =>
    have hsome : h.data.clientStore.get m.clientId ≠ none :=
      Option.isSome_iff_ne_none.mp he.2
    rw [he.1]
    simp only [Rest, attach, if_neg hsome]
    exact rest_goto.mp hrest
  case reqAttachFails m t name =>
    have hnone : h.data.clientStore.get m.clientId = none := he.2
    rw [he.1]
    simp only [Rest, attach, if_pos hnone]
    exact attachFails_of_kicking (rest_goto.mp hrest)
  case reqSend m name =>
    rw [show h.pc _ = _ from he]
    obtain ⟨hstore, rfl⟩ := rest_goto.mp hrest
    exact ⟨hstore, rfl⟩
  case waitGroup | kickAllNext | kickAllDone =>
    rw [he.1]
    trivial
  all_goals
    simp only [enabled] at he
    simp [he, Rest]

/-- A goroutine that runs alone until it is back at its `select` does what was left of its call. -/
theorem rest_of_run {tr : List HubEvent} {h' : Hub} (hr : automaton.Run h tr h')
    (hcall : ∀ e ∈ tr, e.InCall g) (hend : h'.pc g = .select) :
    h.data.Rest (h.pc g) h'.clientStore (tr.filterMap command) := by
  induction tr generalizing h with
  | nil =>
    obtain rfl : h' = h := hr.eq_exec
    rw [hend]
    exact ⟨rfl, rfl⟩
  | cons e tr ih =>
    obtain ⟨he, hr⟩ := hr.uncons
    have hrest := ih hr fun e he => hcall e (List.mem_cons_of_mem _ he)
    have hback := rest_back he (hcall e (List.mem_cons_self ..)) hrest
    cases hcommand : e.command with
    | none => simpa [List.filterMap_cons, hcommand] using hback
    | some command => simpa [List.filterMap_cons, hcommand] using hback

/-- The order in which a map was iterated. -/
theorem exists_order {l l' : List ClientId} (hperm : l'.Perm l) :
    ∃ order : List ClientId → List ClientId, (∀ l, (order l).Perm l) ∧ order l = l' := by
  refine ⟨fun x => if x = l then l' else x, fun x => ?_, if_pos rfl⟩
  by_cases hx : x = l
  · simpa [hx] using hperm
  · simp [hx]

/-- A tick of the timeout goroutine that runs alone is one of the calls of `tick`. -/
theorem tick_alone {tr : List HubEvent} {h' : Hub} (hr : automaton.Run h tr h')
    (hcall : ∀ e ∈ tr, e.InCall .timeout) (hpc : h.pc .timeout = .sweepNow₁)
    (hend : h'.pc .timeout = .select) :
    ∃ now₁ now₂ now₃ now₄ order₁ order₂, (∀ l, (order₁ l).Perm l) ∧ (∀ l, (order₂ l).Perm l) ∧
      h'.clientStore = (h.data.tick now₁ now₂ now₃ now₄ order₁ order₂).1.clientStore ∧
      tr.filterMap command = (h.data.tick now₁ now₂ now₃ now₄ order₁ order₂).2 := by
  have hrest := rest_of_run hr hcall hend
  rw [hpc] at hrest
  obtain ⟨now₁, now₂, now₃, l, hold, now₄, l', hunauthed, hstore, hsent⟩ := hrest
  obtain ⟨order₁, horder₁, rfl⟩ := exists_order hold
  obtain ⟨order₂, horder₂, rfl⟩ := exists_order hunauthed
  exact ⟨now₁, now₂, now₃, now₄, order₁, order₂, horder₁, horder₂, by
    rw [hstore, tick, checkForAuthTimeouts, kickOldClients, config_kickAsOld], by
    rw [hsent, tick, checkForAuthTimeouts, kickOldClients, config_kickAsOld]⟩

/-- A request that the client goroutine handles alone is a call of
`handleClientConnectionRequestMessage`. -/
theorem request_alone {tr : List HubEvent} {h' : Hub} {m : OpenClientConnectionCommand}
    (hr : automaton.Run h tr h') (hcall : ∀ e ∈ tr, e.InCall .client)
    (hpc : h.pc .client = .reqNow m) (hend : h'.pc .client = .select) :
    ∃ now o, h.data.handleClientConnectionRequestMessage now m = some o ∧
      h'.clientStore = o.data.clientStore ∧ tr.filterMap command = o.sent := by
  have hrest := rest_of_run hr hcall hend
  rw [hpc] at hrest
  exact hrest

end Hub
end Spanreed
