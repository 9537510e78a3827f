import Spanreed.ConnectionString
import Spanreed.Solo

/-! # What kicks, sweeps and requests come to

If the hub is well-formed, every name a call reads from a record is one it finds, so a kick sends
one close for each handler of a live client and nothing for others (`kickClient_eq`). Kicks one
after another therefore only depend on who is kicked (`kicks_commute`); a tick of the timeout
goroutine closes exactly the clients that fail one of its tests, once (`tick_exact`); and a
connection request either attaches its client, or leaves everything alone, or removes the client
(`request_exact`). -/

namespace Spanreed
open Flatbuffers Automata

/-- The close commands for a client with this record. -/
def ClientConnectionMetadata.closes (md : ClientConnectionMetadata) (c : ClientId)
    (reason : Option GoError) : List HubCommand :=
  .clientClose md.clientHandlerName (Hub.closeCommand c reason) ::
    if md.destinationHandlerName = "" then []
    else [.destinationClose md.destinationHandlerName (Hub.closeCommand c reason)]

theorem ClientConnectionMetadata.clientId_of_closes {md : ClientConnectionMetadata} {c : ClientId}
    {reason : Option GoError} {command : HubCommand} (h : command ∈ md.closes c reason) :
    command.clientId = c := by
  unfold closes at h
  split at h <;> simp only [List.mem_cons, List.not_mem_nil, or_false] at h
  · rw [h]
    rfl
  · rcases h with rfl | rfl <;> rfl

namespace HubData

/-- The names in the records are those of handlers. -/
structure Sound (p : HubData) : Prop where
  client : ∀ c md, p.clientStore.get c = some md →
    md.clientHandlerName ∈ p.clientHandlers ∧ md.clientHandlerName ≠ ""
  destination : ∀ c md, p.clientStore.get c = some md →
    md.destinationHandlerName = "" ∨ md.destinationHandlerName ∈ p.destinationHandlers

/-- The close commands for a client, if it has a record. -/
def closes (p : HubData) (c : ClientId) (reason : Option GoError) : List HubCommand :=
  match p.clientStore.get c with
  | none => []
  | some md => md.closes c reason

variable {p : HubData} {c d : ClientId} {reason : Option GoError}
  {kicks : List (ClientId × Option GoError)}

theorem get_removeClient :
    (p.removeClient c).clientStore.get d = if d = c then none else p.clientStore.get d :=
  ClientStore.get_removeClient

theorem Sound.removeClient (hp : p.Sound) : (p.removeClient c).Sound := by
  refine ⟨fun d md hmd => ?_, fun d md hmd => ?_⟩
  all_goals
    rw [get_removeClient] at hmd
    split at hmd
    · cases hmd
  · exact hp.client d md hmd
  · exact hp.destination d md hmd

/-- A kick sends a close to each handler of the client. -/
theorem kickClient_eq (hp : p.Sound) :
    p.kickClient c reason = (p.removeClient c, p.closes c reason) := by
  unfold kickClient closes ClientStore.getClientHandlerName ClientStore.getDestinationHandlerName
  cases hget : p.clientStore.get c with
  | none =>
    simp only [Hub.nameOrEmpty, sendClientDisconnect_eq_nil (.inl rfl),
      sendDestinationDisconnect_eq_nil (.inl rfl), List.append_nil]
  | some md =>
    obtain ⟨hmem, hne⟩ := hp.client c md hget
    simp only [Hub.nameOrEmpty, sendClientDisconnect_of_mem hne hmem,
      ClientConnectionMetadata.closes]
    split
    · next hempty => rw [sendDestinationDisconnect_eq_nil (.inl hempty)]; rfl
    · next hdest =>
      rw [sendDestinationDisconnect_of_mem hdest ((hp.destination c md hget).resolve_left hdest)]
      rfl

theorem closes_removeClient :
    (p.removeClient c).closes d reason = if d = c then [] else p.closes d reason := by
  unfold closes
  rw [get_removeClient]
  by_cases hd : d = c
  · simp [hd]
  · simp [hd]

theorem filter_closes :
    (p.closes c reason).filter (fun command => command.clientId = d) =
      if d = c then p.closes c reason else [] := by
  have hid : ∀ command ∈ p.closes c reason, command.clientId = c := by
    intro command hcommand
    unfold closes at hcommand
    split at hcommand
    · cases hcommand
    · exact ClientConnectionMetadata.clientId_of_closes hcommand
  split
  · next hd =>
    rw [List.filter_eq_self]
    intro command hcommand
    simp [hid command hcommand, hd]
  · next hd =>
    rw [List.filter_eq_nil_iff]
    intro command hcommand
    simpa [hid command hcommand] using fun hc => hd hc.symm

/-- Who was kicked is gone, and nobody else. -/
theorem get_kickClients : (p.kickClients kicks).1.clientStore.get d =
    if d ∈ kicks.map Prod.fst then none else p.clientStore.get d := by
  induction kicks generalizing p with
  | nil => simp [kickClients]
  | cons kick kicks ih =>
    obtain ⟨c, r⟩ := kick
    rw [kickClients, ih, kickClient, get_removeClient]
    by_cases hd : d = c <;> by_cases hmem : d ∈ kicks.map Prod.fst <;> simp [hd, hmem]

/-- The first kick of a client closes it. -/
theorem filter_kickClients (hp : p.Sound) :
    (p.kickClients kicks).2.filter (fun command => command.clientId = d) =
      match kicks.lookup d with
      | none => []
      | some reason => p.closes d reason := by
  induction kicks generalizing p with
  | nil => rfl
  | cons kick kicks ih =>
    obtain ⟨c, r⟩ := kick
    rw [kickClients, List.filter_append, kickClient_eq hp, ih hp.removeClient, filter_closes,
      List.lookup_cons]
    by_cases hd : d = c
    · subst hd
      have hnone : ∀ reason, (p.removeClient d).closes d reason = [] := fun reason => by
        rw [closes_removeClient, if_pos rfl]
      cases kicks.lookup d <;> simp [hnone]
    · have hsame : ∀ reason, (p.removeClient c).closes d reason = p.closes d reason :=
        fun reason => by rw [closes_removeClient, if_neg hd]
      rw [beq_false_of_ne hd]
      cases kicks.lookup d <;> simp [hd, hsame]

/-- Someone is kicked for a reason if they are kicked at all. -/
theorem lookup_isSome : (kicks.lookup d).isSome ↔ d ∈ kicks.map Prod.fst := by
  simp [List.lookup_isSome_iff]

end HubData

namespace HubData
variable {p : HubData} {d : ClientId} {reason : Option GoError} {l : List ClientId}

theorem lookup_map_const : (l.map fun clientId => (clientId, reason)).lookup d =
    if d ∈ l then some reason else none := by
  induction l with
  | nil => rfl
  | cons c l ih =>
    rw [List.map_cons, List.lookup_cons, ih]
    by_cases hd : d = c
    · simp [hd]
    · rw [beq_false_of_ne hd]
      simp [hd]

/-- Everybody on a list is kicked for the same reason. -/
theorem get_kicks : (p.kickClients (l.map fun clientId => (clientId, reason))).1.clientStore.get d =
    if d ∈ l then none else p.clientStore.get d := by
  rw [get_kickClients]
  simp

theorem filter_kicks (hp : p.Sound) :
    (p.kickClients (l.map fun clientId => (clientId, reason))).2.filter
      (fun command => command.clientId = d) = if d ∈ l then p.closes d reason else [] := by
  rw [filter_kickClients hp, lookup_map_const]
  by_cases hd : d ∈ l <;> simp [hd]

variable (reason) in
/-- A sweep kicks everybody whose record fails a test. -/
theorem sweep_eq {P : ClientConnectionMetadata → Prop} [DecidablePred P] (hp : p.Sound)
    (hl : ∀ c, c ∈ l ↔ ∃ md, p.clientStore.get c = some md ∧ P md) :
    (p.kickClients (l.map fun clientId => (clientId, reason))).1.clientStore.get d =
      (p.clientStore.get d).filter (fun md => ¬P md) ∧
    (p.kickClients (l.map fun clientId => (clientId, reason))).2.filter
      (fun command => command.clientId = d) =
      (((p.clientStore.get d).filter fun md => P md).map (·.closes d reason)).getD [] := by
  rw [get_kicks, filter_kicks hp]
  unfold closes
  cases hget : p.clientStore.get d with
  | none =>
    have hd : d ∉ l := fun hd => by simpa [hget] using (hl d).mp hd
    simp [hd]
  | some md =>
    by_cases hmd : P md
    · have hd : d ∈ l := (hl d).mpr ⟨md, hget, hmd⟩
      simp [hd, hmd, Option.filter]
    · have hd : d ∉ l := fun hd => by
        obtain ⟨md', hget', hmd'⟩ := (hl d).mp hd
        cases hget.symm.trans hget'
        exact hmd hmd'
      simp [hd, hmd, Option.filter]

theorem Sound.kickClients {kicks : List (ClientId × Option GoError)} (hp : p.Sound) :
    (p.kickClients kicks).1.Sound := by
  induction kicks generalizing p with
  | nil => exact hp
  | cons kick kicks ih => exact ih hp.removeClient

end HubData

/-- The kind of a command, and the handler it goes to. -/
inductive HubCommand.Target
  | clientClose (name : String)
  | destinationClose (name : String)
  | destinationOpen (name : String)
deriving DecidableEq

/-- What a command does to whom, whatever the reason. -/
def HubCommand.target : HubCommand → HubCommand.Target × ClientId
  | .clientClose name m => (.clientClose name, m.clientId)
  | .destinationClose name m => (.destinationClose name, m.clientId)
  | .destinationOpen name m => (.destinationOpen name, m.clientId)

/-- A close to the client handler of this record, and one to its destination handler if it has
one. -/
def ClientConnectionMetadata.targets (md : ClientConnectionMetadata) (c : ClientId) :
    List (HubCommand.Target × ClientId) :=
  (.clientClose md.clientHandlerName, c) ::
    if md.destinationHandlerName = "" then []
    else [(.destinationClose md.destinationHandlerName, c)]

theorem ClientConnectionMetadata.map_closes {md : ClientConnectionMetadata} {c : ClientId}
    {reason : Option GoError} : (md.closes c reason).map HubCommand.target = md.targets c := by
  unfold closes targets
  split <;> rfl

theorem HubData.map_closes {p : HubData} {c : ClientId} {reason : Option GoError} :
    (p.closes c reason).map HubCommand.target =
      ((p.clientStore.get c).map (·.targets c)).getD [] := by
  unfold closes
  cases p.clientStore.get c with
  | none => rfl
  | some md => exact ClientConnectionMetadata.map_closes

theorem HubCommand.target_snd {command : HubCommand} : command.target.2 = command.clientId := by
  cases command <;> rfl

namespace Hub
open HubData
variable {h : Hub}

/-- Handlers are registered under names. -/
structure Named (h : Hub) : Prop where
  client : ∀ name ∈ h.clientHandlers, name ≠ ""
  destination : ∀ name ∈ h.destinationHandlers, name ≠ ""

theorem WellFormed.sound (hw : h.WellFormed) (hn : h.Named) : h.data.Sound where
  client c md hmd := ⟨hw.client c md hmd, hn.client _ (hw.client c md hmd)⟩
  destination := hw.destination

/-- Client 1 is attached. -/
def attachedHub : Hub := automaton.exec udpHub (requested ++ attaches)

theorem attachedHub_run : automaton.Run udpHub (requested ++ attaches) attachedHub :=
  Automaton.Admits.run (by decide +kernel)

theorem attachedHub_wellFormed : attachedHub.WellFormed :=
  (proper_of_run attachedHub_run (by decide) (by decide)).1.wellFormed

theorem attachedHub_named : attachedHub.Named := ⟨by decide +kernel, by decide +kernel⟩

/-- The closes of a client, by a list of kicks. -/
theorem targets_kickClients (hw : h.WellFormed) (hn : h.Named) (c : ClientId)
    (kicks : List (ClientId × Option GoError)) :
    ((h.data.kickClients kicks).2.map HubCommand.target).filter (fun target => target.2 = c) =
      if c ∈ kicks.map Prod.fst then ((h.clientStore.get c).map (·.targets c)).getD [] else [] := by
  have hlookup : (kicks.lookup c).isSome ↔ c ∈ kicks.map Prod.fst := lookup_isSome
  have hmap : ((h.data.kickClients kicks).2.map HubCommand.target).filter
      (fun target => target.2 = c) =
      ((h.data.kickClients kicks).2.filter fun command => command.clientId = c).map
        HubCommand.target := by
    simp [List.filter_map, Function.comp_def, HubCommand.target_snd]
  rw [hmap, filter_kickClients (hw.sound hn)]
  cases hreason : kicks.lookup c with
  | none =>
    have hnot : c ∉ kicks.map Prod.fst := by simpa [hreason] using hlookup
    rw [if_neg hnot]
    rfl
  | some reason =>
    have hmem : c ∈ kicks.map Prod.fst := by simpa [hreason] using hlookup
    rw [if_pos hmem]
    exact map_closes

/-- Kicks one after another remove exactly the clients that are kicked and close each handler of a
live one once, whatever their order and however often a client is kicked. -/
theorem kicks_commute (hw : h.WellFormed) (hn : h.Named)
    (kicks₁ kicks₂ : List (ClientId × Option GoError))
    (hsame : ∀ c, c ∈ kicks₁.map Prod.fst ↔ c ∈ kicks₂.map Prod.fst) :
    (∀ c, (h.data.kickClients kicks₁).1.clientStore.get c =
      (h.data.kickClients kicks₂).1.clientStore.get c) ∧
    ((h.data.kickClients kicks₁).2.map HubCommand.target).Perm
      ((h.data.kickClients kicks₂).2.map HubCommand.target) ∧
    (∀ c, (h.data.kickClients kicks₁).1.clientStore.get c =
      if c ∈ kicks₁.map Prod.fst then none else h.clientStore.get c) ∧
    (∀ c, ((h.data.kickClients kicks₁).2.map HubCommand.target).filter (fun t => t.2 = c) =
      if c ∈ kicks₁.map Prod.fst then ((h.clientStore.get c).map (·.targets c)).getD []
      else []) := by
  refine ⟨fun c => ?_, ?_, fun c => get_kickClients, fun c => targets_kickClients hw hn c kicks₁⟩
  · rw [get_kickClients, get_kickClients]
    simp only [hsame]
  · rw [List.perm_iff_count]
    rintro ⟨target, c⟩
    -- each client has the same closes in both
    have hcount : ∀ kicks : List (ClientId × Option GoError),
        ((h.data.kickClients kicks).2.map HubCommand.target).count (target, c) =
          (if c ∈ kicks.map Prod.fst then ((h.clientStore.get c).map (·.targets c)).getD []
            else []).count (target, c) := by
      intro kicks
      rw [← targets_kickClients hw hn c kicks, List.count_filter (by simp)]
    rw [hcount, hcount]
    simp only [hsame]

theorem kicks_commute_attachedHub :
    ((attachedHub.data.kickClients [(1, none), (2, none), (1, some .authTimeout)]).2.map
      HubCommand.target).Perm ((attachedHub.data.kickClients [(2, none), (1, none)]).2.map
        HubCommand.target) :=
  (kicks_commute attachedHub_wellFormed attachedHub_named _ _ (by simp)).2.1

/-! ## Sweeps -/

theorem mem_getTimeoutClientList {store : ClientStore} {c : ClientId} {a b d : Timestamp} :
    c ∈ store.getTimeoutClientList a b d ↔ ∃ md, store.get c = some md ∧ md.Stale a b d := by
  unfold ClientStore.getTimeoutClientList ClientStore.get
  simp only [List.mem_map, List.mem_filter, decide_eq_true_eq, Sigma.exists, exists_and_right,
    exists_eq_right, ← AList.mem_lookup_iff, Option.mem_def]
  rfl

theorem mem_getAuthTimeoutClientList {store : ClientStore} {c : ClientId} {a : Timestamp} :
    c ∈ store.getAuthTimeoutClientList a ↔
      ∃ md, store.get c = some md ∧ md.isConnected = false ∧ md.createdTime < a := by
  unfold ClientStore.getAuthTimeoutClientList ClientStore.get
  simp only [List.mem_map, List.mem_filter, decide_eq_true_eq, Sigma.exists, exists_and_right,
    exists_eq_right, ← AList.mem_lookup_iff, Option.mem_def, Bool.not_eq_true']

/-- The first sweep of a tick removes who fails its tests, the second who is left and not
connected in time; each of them is closed once, with the reason of its sweep. -/
theorem tick_exact (hw : h.WellFormed) (hn : h.Named) (now₁ now₂ now₃ now₄ : Timestamp)
    (order₁ order₂ : List ClientId → List ClientId) (horder₁ : ∀ l, (order₁ l).Perm l)
    (horder₂ : ∀ l, (order₂ l).Perm l) :
    let clientMsgDeadline := now₁ - h.config.clientMessageTimeout
    let destinationMsgDeadline := now₂ - h.config.destinationMessageTimeout
    let connectionDeadline := now₃ - h.config.maxConnectionLength
    let authDeadline := now₄ - h.config.clientAuthTimeout
    let after := h.data.tick now₁ now₂ now₃ now₄ order₁ order₂
    (∀ c md, after.1.clientStore.get c = some md ↔ h.clientStore.get c = some md ∧
      connectionDeadline ≤ md.createdTime ∧ clientMsgDeadline ≤ md.lastClientMsgTime ∧
      destinationMsgDeadline ≤ md.lastDestinationMsgTime ∧
      (md.isConnected = true ∨ authDeadline ≤ md.createdTime)) ∧
    ∀ c, after.2.filter (fun command => command.clientId = c) =
      match h.clientStore.get c with
      | none => []
      | some md =>
        if md.Stale clientMsgDeadline destinationMsgDeadline connectionDeadline then
          md.closes c (some .connectionTimeout)
        else if md.isConnected = false ∧ md.createdTime < authDeadline then
          md.closes c (some .authTimeout)
        else [] := by
  intro a b d t after
  have hp := hw.sound hn
  let old := h.data.kickOldClients now₁ now₂ now₃ order₁
  let unauthed := old.1.kickAsUnauthed (order₂ (old.1.clientStore.getAuthTimeoutClientList t))
  have hafter : after = (unauthed.1, old.2 ++ unauthed.2) := by
    simp only [after, unauthed, old, t, tick, checkForAuthTimeouts, kickOldClients,
      config_kickAsOld, show h.data.config = h.config from rfl]
  -- the first sweep, and the second on what it leaves
  have hold := fun c => sweep_eq (some .connectionTimeout) (P := fun md => md.Stale a b d)
    (d := c) hp
    fun c => (horder₁ (h.clientStore.getTimeoutClientList a b d)).mem_iff.trans
      mem_getTimeoutClientList
  have hunauthed := fun c => sweep_eq (some .authTimeout) (p := old.1)
    (P := fun md => md.isConnected = false ∧ md.createdTime < t) (d := c) hp.kickClients
    fun c => (horder₂ (old.1.clientStore.getAuthTimeoutClientList t)).mem_iff.trans
      mem_getAuthTimeoutClientList
  have hleft : ∀ c, old.1.clientStore.get c =
      (h.clientStore.get c).filter fun md => ¬md.Stale a b d := fun c => (hold c).1
  refine ⟨fun c md => ?_, fun c => ?_⟩
  · have hstore : after.1.clientStore.get c = ((h.clientStore.get c).filter fun md =>
        ¬md.Stale a b d).filter fun md => ¬(md.isConnected = false ∧ md.createdTime < t) := by
      rw [hafter, ← hleft c]
      exact (hunauthed c).1
    rw [hstore]
    simp only [Option.filter_eq_some_iff, decide_eq_true_eq, ClientConnectionMetadata.Stale, not_or,
      not_lt, not_and_or, Bool.not_eq_false, and_assoc]
  · have hsent : after.2.filter (fun command => command.clientId = c) =
        (((h.clientStore.get c).filter fun md => md.Stale a b d).map
          (·.closes c (some .connectionTimeout))).getD [] ++
        ((((h.clientStore.get c).filter fun md => ¬md.Stale a b d).filter fun md =>
          md.isConnected = false ∧ md.createdTime < t).map (·.closes c (some .authTimeout))).getD
            [] := by
      rw [hafter, List.filter_append, ← hleft c]
      exact congrArg₂ _ (hold c).2 (hunauthed c).2
    rw [hsent]
    cases h.clientStore.get c with
    | none => rfl
    | some md =>
      by_cases hstale : md.Stale a b d
      · simp [hstale, Option.filter]
      · by_cases hauth : md.isConnected = false ∧ md.createdTime < t
        · simp [hstale, hauth, Option.filter]
        · simp [hstale, hauth, Option.filter]

/-- The destination of client 1 is silent for just over its timeout. -/
theorem tick_exact_attachedHub :
    (attachedHub.data.tick 15000001 15000001 15000001 15000001 id id).2.filter
      (fun command => command.clientId = 1) = silentRecord.closes 1 (some .connectionTimeout) := by
  have htick := (tick_exact attachedHub_wellFormed attachedHub_named 15000001 15000001 15000001
    15000001 id id (fun _ => .refl _) (fun _ => .refl _)).2 1
  rw [show attachedHub.clientStore.get 1 = some silentRecord by decide +kernel] at htick
  exact htick.trans (if_pos (by decide +kernel))

/-! ## Requests -/

/-- The match functions do not panic. -/
def MatchTotal (h : Hub) : Prop :=
  ∀ handler ∈ h.connectedDestinationHandlers, ∀ s, handler.matchConnectionString s ≠ none

/-- The loop over the handlers finds the first that matches, or none. -/
theorem firstMatch_total {s : Bytes} {handlers : List DestinationHandler}
    (htotal : ∀ handler ∈ handlers, handler.matchConnectionString s ≠ none) :
    (∃ name, firstMatch s handlers = some (some name)) ∨ firstMatch s handlers = some none ∧
      ∀ handler ∈ handlers, handler.matchConnectionString s = some false := by
  induction handlers with
  | nil => exact .inr ⟨rfl, by simp⟩
  | cons handler handlers ih =>
    rw [firstMatch]
    cases hmatch : handler.matchConnectionString s with
    | none => exact (htotal handler List.mem_cons_self hmatch).elim
    | some result =>
      cases result with
      | true => exact .inl ⟨_, rfl⟩
      | false =>
        rcases ih fun handler hmem => htotal handler (List.mem_cons_of_mem _ hmem) with
          hfound | ⟨hnone, hall⟩
        · exact .inl hfound
        · exact .inr ⟨hnone, List.forall_mem_cons.mpr ⟨hmatch, hall⟩⟩

/-- A request that is left alone: its client has no record or has a destination. -/
structure Ignored (h : Hub) (o : Outcome) : Prop where
  data : o.data = h.data
  sent : o.sent = []

/-- A request that attaches its client to the handler `name`. -/
structure Attached (h : Hub) (t : Timestamp) (m : OpenClientConnectionCommand)
    (md : ClientConnectionMetadata) (name : String) (o : Outcome) : Prop where
  error : o.error = none
  sent : o.sent = [.destinationOpen name
    ⟨m.clientId, m.recvTimestamp, t, m.connectionString, m.appData⟩]
  record : o.data.clientStore.get m.clientId = some { md with destinationHandlerName := name }
  others : ∀ c, c ≠ m.clientId → o.data.clientStore.get c = h.clientStore.get c
  rest : o.data = { h.data with clientStore := o.data.clientStore }

/-- A request that fails and removes its client. -/
structure Refused (h : Hub) (m : OpenClientConnectionCommand) (md : ClientConnectionMetadata)
    (o : Outcome) : Prop where
  error : o.error ≠ none
  sent : o.sent = [.clientClose md.clientHandlerName (closeCommand m.clientId o.error)]
  record : o.data.clientStore.get m.clientId = none
  others : ∀ c, c ≠ m.clientId → o.data.clientStore.get c = h.clientStore.get c
  rest : o.data = { h.data with clientStore := o.data.clientStore }

section
variable {t : Timestamp} {m : OpenClientConnectionCommand} {md : ClientConnectionMetadata}

/-- The call returns what it returns without its effects: it panics on the same requests, and its
error is the same. -/
theorem request_returns : (h.data.handleClientConnectionRequestMessage t m).map (·.error) =
    (h.handleClientConnectionRequestMessage m).map fun r =>
      match r with
      | .error err => some err
      | .ok _ => none := by
  unfold Hub.handleClientConnectionRequestMessage
  cases hget : h.clientStore.get m.clientId with
  | none =>
    rw [request_of_missing (p := h.data) hget]
    simp [ClientStore.getDestinationHandlerName, hget]
  | some md =>
    by_cases hfree : md.destinationHandlerName = ""
    swap
    · rw [request_of_attached (p := h.data) hget hfree]
      simp [ClientStore.getDestinationHandlerName, hget, hfree]
    rw [request_of_free (p := h.data) hget hfree]
    simp only [ClientStore.getDestinationHandlerName, hget, hfree, ne_eq, not_true_eq_false,
      if_false, findHandler, data]
    cases firstMatch m.connectionString h.connectedDestinationHandlers with
    | none => rfl
    | some found =>
      cases found with
      | none => rfl
      | some name =>
        by_cases hname : name ∈ h.destinationHandlers <;>
          simp [attachFirst, attach, attachFails, hname, hget]

theorem findHandler_attaches (hw : h.WellFormed) (hmd : h.clientStore.get m.clientId = some md)
    {name : String} (hname : FirstMatching h.connectedDestinationHandlers m.connectionString name) :
    ∃ o, h.data.findHandler t m = some o ∧ h.Attached t m md name o := by
  have hmatch := firstMatch_iff.mpr hname
  have hmem : name ∈ h.data.destinationHandlers := (hw.keys name).mpr (mem_of_firstMatch hmatch)
  have hsome : h.data.clientStore.get m.clientId ≠ none := by simp [data, hmd]
  refine ⟨h.data.attach t m name, ?_, ?_⟩
  · simp only [findHandler, show h.data.connectedDestinationHandlers =
      h.connectedDestinationHandlers from rfl, hmatch, attachFirst, if_pos hmem]
  · unfold attach
    rw [if_neg hsome]
    refine ⟨rfl, rfl, ?_, fun c hc => ?_, rfl⟩
    · show (h.clientStore.update m.clientId _).get m.clientId = _
      rw [ClientStore.get_update, if_pos rfl, hmd]
      rfl
    · show (h.clientStore.update m.clientId _).get c = _
      rw [ClientStore.get_update, if_neg hc]

theorem findHandler_refuses (hw : h.WellFormed) (hn : h.Named)
    (hmd : h.clientStore.get m.clientId = some md) (hfree : md.destinationHandlerName = "")
    (hnone : firstMatch m.connectionString h.connectedDestinationHandlers = some none) :
    ∃ o, h.data.findHandler t m = some o ∧ h.Refused m md o := by
  refine ⟨h.data.attachFails m.clientId
    (.noMatchingHandlerForConnectionString m.connectionString), ?_, ?_⟩
  · simp only [findHandler, show h.data.connectedDestinationHandlers =
      h.connectedDestinationHandlers from rfl, hnone]
  unfold attachFails
  rw [kickClient_eq (hw.sound hn)]
  refine ⟨by simp, ?_, ?_, fun c hc => ?_, rfl⟩
  · simp [HubData.closes, data, hmd, ClientConnectionMetadata.closes, hfree]
  · exact get_removeClient.trans (if_pos rfl)
  · exact get_removeClient.trans (if_neg hc)

/-- What a connection request comes to: nothing for a client without a record, which is an error,
or with a destination; else the first handler that matches is attached and gets one open command;
and if none matches the client is removed and its client handler gets one close. -/
theorem request_exact (hw : h.WellFormed) (hn : h.Named) (htotal : h.MatchTotal) (t : Timestamp)
    (m : OpenClientConnectionCommand) :
    ∃ o, h.data.handleClientConnectionRequestMessage t m = some o ∧
      (h.clientStore.get m.clientId = none → o.error ≠ none ∧ h.Ignored o) ∧
      ∀ md, h.clientStore.get m.clientId = some md →
        (md.destinationHandlerName ≠ "" → o.error = none ∧ h.Ignored o) ∧
        (md.destinationHandlerName = "" →
          ((∃ handler ∈ h.connectedDestinationHandlers,
              handler.matchConnectionString m.connectionString = some true) →
            ∃ name, FirstMatching h.connectedDestinationHandlers m.connectionString name ∧
              h.Attached t m md name o) ∧
          ((∀ handler ∈ h.connectedDestinationHandlers,
              handler.matchConnectionString m.connectionString ≠ some true) →
            h.Refused m md o)) := by
  cases hget : h.clientStore.get m.clientId with
  | none =>
    exact ⟨⟨some (.missingClientId m.clientId), h.data, []⟩, request_of_missing hget,
      fun _ => ⟨by simp, rfl, rfl⟩, by simp⟩
  | some md =>
    by_cases hfree : md.destinationHandlerName = ""
    · rw [request_of_free (p := h.data) hget hfree]
      rcases firstMatch_total fun handler hmem => htotal handler hmem m.connectionString with
        ⟨name, hname⟩ | ⟨hnone, hall⟩
      · have hname := firstMatch_iff.mp hname
        obtain ⟨o, ho, hattached⟩ := findHandler_attaches (t := t) hw hget hname
        refine ⟨o, ho, by simp, fun md' hmd' => ?_⟩
        cases hmd'
        refine ⟨fun hne => (hne hfree).elim, fun _ => ⟨fun _ => ⟨name, hname, hattached⟩, ?_⟩⟩
        intro hno
        obtain ⟨earlier, handler, later, heq, -, hmatch, -⟩ := hname
        exact (hno handler (by simp [heq]) hmatch).elim
      · obtain ⟨o, ho, hrefused⟩ := findHandler_refuses (t := t) hw hn hget hfree hnone
        refine ⟨o, ho, by simp, fun md' hmd' => ?_⟩
        cases hmd'
        refine ⟨fun hne => (hne hfree).elim, fun _ => ⟨?_, fun _ => hrefused⟩⟩
        rintro ⟨handler, hmem, hmatch⟩
        rw [hall handler hmem] at hmatch
        cases hmatch
    · refine ⟨⟨none, h.data, []⟩, request_of_attached hget hfree, by simp, fun md' hmd' => ?_⟩
      cases hmd'
      exact ⟨fun _ => ⟨rfl, rfl, rfl⟩, fun hempty => (hfree hempty).elim⟩

end

/-- Client 1 has a record, and the only destination handler matches everything. -/
def askingHub : Hub :=
  automaton.exec (start {} 1 ["WebSocket"] [⟨"Udp", fun _ => some true⟩])
    [.getNewClientId "WebSocket" 1, .callbackNow "WebSocket" 1, .createClient "WebSocket" 1 0]

theorem request_exact_askingHub :
    ∃ o, askingHub.data.handleClientConnectionRequestMessage 5 Sample.openCommand = some o ∧
      ∃ name, askingHub.Attached 5 Sample.openCommand (ClientStore.newRecord "WebSocket" 0)
        name o := by
  have hr : automaton.Run (start {} 1 ["WebSocket"] [⟨"Udp", fun _ => some true⟩]) _ askingHub :=
    Automaton.Admits.run (by decide +kernel)
  have hw := (proper_of_run hr (by decide) (by decide)).1.wellFormed
  have hn : askingHub.Named := ⟨by decide +kernel, by decide +kernel⟩
  have htotal : askingHub.MatchTotal := by
    intro handler hmem s
    rw [show askingHub.connectedDestinationHandlers = [⟨"Udp", fun _ => some true⟩] from rfl,
      List.mem_singleton] at hmem
    simp [hmem]
  obtain ⟨o, ho, -, hmd⟩ := request_exact hw hn htotal 5 Sample.openCommand
  have hnew := hmd (ClientStore.newRecord "WebSocket" 0) (by decide +kernel)
  obtain ⟨name, -, hattached⟩ := (hnew.2 rfl).1
    ⟨⟨"Udp", fun _ => some true⟩, List.mem_singleton_self _, rfl⟩
  exact ⟨o, ho, name, hattached⟩

end Hub
end Spanreed
