import Spanreed.HubFacts
import Spanreed.System

/-! # A client is attached once

A request is checked for a duplicate, matched and attached in separate steps, and other goroutines
may remove the client's record and make a new one in between. But only the client goroutine
attaches clients. So a request that has passed the check finds its client, if it still has a
record, without a destination (`Hub.Pending`), and every record accounts for at most one open
command (`count_opened`). -/

namespace Spanreed
open Flatbuffers Automata

/-- The client of an open command for a destination handler. -/
def HubEvent.openedId : HubEvent → Option ClientId
  | .reqSend m _ => some m.clientId
  | _ => none

/-- About to send an open command for client `c`. -/
def HubPc.opens (c : ClientId) : HubPc → Nat
  | .reqSend m _ => if m.clientId = c then 1 else 0
  | _ => 0

/-- The first handler of the list that matches. -/
def FirstMatching (handlers : List DestinationHandler) (connectionString : Bytes) (name : String) :
    Prop :=
  ∃ earlier handler later, handlers = earlier ++ handler :: later ∧ handler.name = name ∧
    handler.matchConnectionString connectionString = some true ∧
    ∀ handler' ∈ earlier, handler'.matchConnectionString connectionString = some false

theorem firstMatch_iff {s : Bytes} {handlers : List DestinationHandler} {name : String} :
    firstMatch s handlers = some (some name) ↔ FirstMatching handlers s name := by
  induction handlers with
  | nil => simp [firstMatch, FirstMatching]
  | cons handler handlers ih =>
    rw [firstMatch]
    cases hmatch : handler.matchConnectionString s with
    | none =>
      refine iff_of_false (by simp) ?_
      rintro ⟨earlier, handler', later, heq, -, hmatch', hearlier⟩
      cases earlier with
      | nil =>
        obtain ⟨rfl, -⟩ := List.cons.inj heq
        simp [hmatch] at hmatch'
      | cons handler'' earlier =>
        obtain ⟨rfl, -⟩ := List.cons.inj heq
        simpa [hmatch] using hearlier handler List.mem_cons_self
    | some result =>
      cases result with
      | true =>
        constructor
        · rintro ⟨⟩
          exact ⟨[], handler, handlers, rfl, rfl, hmatch, by simp⟩
        · rintro ⟨earlier, handler', later, heq, rfl, -, hearlier⟩
          cases earlier with
          | nil =>
            obtain ⟨rfl, -⟩ := List.cons.inj heq
            rfl
          | cons handler'' earlier =>
            obtain ⟨rfl, -⟩ := List.cons.inj heq
            simpa [hmatch] using hearlier handler List.mem_cons_self
      | false =>
        refine ih.trans ⟨?_, ?_⟩
        · rintro ⟨earlier, handler', later, rfl, hname, hmatch', hearlier⟩
          refine ⟨handler :: earlier, handler', later, rfl, hname, hmatch', ?_⟩
          simpa [hmatch] using hearlier
        · rintro ⟨earlier, handler', later, heq, hname, hmatch', hearlier⟩
          cases earlier with
          | nil =>
            obtain ⟨rfl, -⟩ := List.cons.inj heq
            simp [hmatch] at hmatch'
          | cons handler'' earlier =>
            obtain ⟨rfl, rfl⟩ := List.cons.inj heq
            exact ⟨earlier, handler', later, rfl, hname, hmatch',
              fun h hh => hearlier h (List.mem_cons_of_mem _ hh)⟩

/-- A handler that is registered later comes too late. -/
theorem FirstMatching.append {handlers : List DestinationHandler} {s : Bytes} {name : String}
    (h : FirstMatching handlers s name) (handlers' : List DestinationHandler) :
    FirstMatching (handlers ++ handlers') s name := by
  obtain ⟨earlier, handler, later, rfl, hrest⟩ := h
  exact ⟨earlier, handler, later ++ handlers', by simp, hrest⟩

namespace Hub
open HubEvent HubPc

/-- The destination handler in the record of a client. -/
def destinationName (h : Hub) (c : ClientId) : Option String :=
  (h.clientStore.names c).map Prod.snd

/-- The client has a record without a destination. -/
def unattached (h : Hub) (c : ClientId) : Nat := if h.destinationName c = some "" then 1 else 0

/-- How the destination handler in the record of client `c` changes along some events: the old and
the new name, wherever there is a record before and after. -/
def renamings (c : ClientId) : Hub → List HubEvent → List (String × String)
  | _, [] => []
  | h, e :: tr =>
    (match h.destinationName c, (h.next e).destinationName c with
      | some old, some new => if old = new then [] else [(old, new)]
      | _, _ => []) ++ renamings c (h.next e) tr

/-- A request that is not a duplicate has been matched, if it is past that, and its client has no
destination. -/
def Pending (h : Hub) : HubPc → Prop
  | .reqMatch m _ => ∀ name ∈ h.destinationName m.clientId, name = ""
  | .reqLookup m _ name | .reqAttach m _ name =>
    (∀ name ∈ h.destinationName m.clientId, name = "") ∧
      FirstMatching h.connectedDestinationHandlers m.connectionString name
  | _ => True

/-- What holds of a hub whose destination handlers have names. -/
structure Attaching (h : Hub) : Prop where
  named : ∀ handler ∈ h.connectedDestinationHandlers, handler.name ≠ ""
  pending : h.Pending (h.pc .client)

variable {h : Hub} {e : HubEvent} {g : Goroutine} {c : ClientId}

/-- How an event changes the destination handler in the record of client `c`. -/
theorem destinationName_next (he : h.enabled e) (c : ClientId) :
    (∃ name t, e = .createClient name c t ∧ h.destinationName c = none ∧
      (h.next e).destinationName c = some "") ∨
    (∃ g r k, e = .kickRemove g c r k ∧ (h.next e).destinationName c = none) ∨
    (∃ m t name old, e = .reqAttach m t name ∧ m.clientId = c ∧ h.destinationName c = some old ∧
      (h.next e).destinationName c = some name) ∨
    (h.next e).destinationName c = h.destinationName c ∧
      ∀ m t name, e = .reqAttach m t name → m.clientId ≠ c := by
  unfold destinationName
  rcases names_next he c with ⟨name, t, rfl, hnone, hnew⟩ | ⟨g, r, k, rfl, hnone⟩ |
    ⟨m, t, name, cn, dn, rfl, hid, hold, hnew⟩ | hsame
  · exact .inl ⟨name, t, rfl, by rw [hnone]; rfl, by rw [hnew]; rfl⟩
  · exact .inr (.inl ⟨g, r, k, rfl, by rw [hnone]; rfl⟩)
  · exact .inr (.inr (.inl ⟨m, t, name, dn, rfl, hid, by rw [hold]; rfl, by rw [hnew]; rfl⟩))
  · by_cases hattach : ∃ m t name, e = .reqAttach m t name ∧ m.clientId = c
    · obtain ⟨m, t, name, rfl, rfl⟩ := hattach
      obtain ⟨md, hmd⟩ := Option.isSome_iff_exists.mp he.2
      refine .inr (.inr (.inl ⟨m, t, name, md.destinationHandlerName, rfl, rfl, ?_, ?_⟩))
      · simp [ClientStore.names, hmd]
      · simp [next, ClientStore.names, ClientStore.setDestinationHandlerName,
          ClientStore.get_update, hmd]
    · exact .inr (.inr (.inr ⟨by rw [hsame], fun m t name he' hid =>
        hattach ⟨m, t, name, he', hid⟩⟩))

theorem connected_next : ∃ l, (h.next e).connectedDestinationHandlers =
    h.connectedDestinationHandlers ++ l := by
  cases e
  case createDestinationMessageHandler handler =>
    simp only [next]
    split
    · exact ⟨[], by simp⟩
    · exact ⟨[handler], rfl⟩
  all_goals exact ⟨[], by simp [next, goto]⟩

/-- Nobody but the client goroutine gives a client a destination. -/
theorem Pending.next {pc : HubPc} (hp : h.Pending pc) (he : h.enabled e)
    (hm : e.mover ≠ some .client) : (h.next e).Pending pc := by
  have hname : ∀ c, (∀ name ∈ h.destinationName c, name = "") →
      ∀ name ∈ (h.next e).destinationName c, name = "" := by
    intro c hold name hname
    rcases destinationName_next he c with ⟨_, _, rfl, -, hnew⟩ | ⟨_, _, _, rfl, hnone⟩ |
      ⟨_, _, _, _, rfl, -⟩ | ⟨hsame, -⟩
    · rw [hnew] at hname
      exact (Option.some.inj hname).symm
    · rw [hnone] at hname
      cases hname
    · exact (hm rfl).elim
    · exact hold name (hsame ▸ hname)
  obtain ⟨l, hl⟩ := connected_next (h := h) (e := e)
  cases pc
  case reqMatch m t => exact hname _ hp
  case reqLookup m t name | reqAttach m t name =>
    refine ⟨hname _ hp.1, ?_⟩
    rw [hl]
    exact hp.2.append l
  all_goals trivial

theorem Attaching.pending_next (ha : h.Attaching) (he : h.enabled e) :
    (h.next e).Pending ((h.next e).pc .client) := by
  have hp := ha.pending
  by_cases hm : e.mover = some .client
  · have move : ∀ {pc}, h.Pending pc →
        (h.goto .client pc).Pending ((h.goto .client pc).pc .client) := by
      intro pc hpc
      rw [goto_pc, Function.update_self]
      exact hpc
    cases e <;> simp only [mover, Option.some.injEq, reduceCtorEq] at hm
    all_goals try subst hm
    case reqName m t =>
      obtain ⟨cn, hn⟩ := ClientStore.names_of_destination he.2
      refine move ?_
      simp [Pending, destinationName, hn]
    case reqMatch m t name =>
      rw [he.1] at hp
      exact move ⟨hp, firstMatch_iff.mp he.2⟩
    case reqLookup m t name =>
      rw [he.1] at hp
      exact move hp
    case kickRemove c r k => cases k <;> simp [next, Pending, KickReturn.resume]
    all_goals simp [next, Pending]
  · rw [pc_next_of_ne hm]
    exact hp.next he hm

theorem Attaching.next (ha : h.Attaching) (he : h.enabled e)
    (hnamed : ∀ handler, e = .createDestinationMessageHandler handler → handler.name ≠ "") :
    (h.next e).Attaching where
  named := by
    cases e
    case createDestinationMessageHandler handler =>
      simp only [Hub.next]
      split
      · exact ha.named
      · intro handler' hmem
        rcases List.mem_append.mp hmem with hmem | hmem
        · exact ha.named handler' hmem
        · rw [List.mem_singleton.mp hmem]
          exact hnamed handler rfl
    all_goals exact ha.named
  pending := ha.pending_next he

/-- What is attached has no destination yet, and gets the first handler that matches. -/
theorem Attaching.attach {m : OpenClientConnectionCommand} {t : Timestamp} {name : String}
    (ha : h.Attaching) (he : h.enabled (.reqAttach m t name)) :
    h.destinationName m.clientId = some "" ∧ name ≠ "" ∧
      FirstMatching h.connectedDestinationHandlers m.connectionString name := by
  have hp := ha.pending
  rw [he.1] at hp
  obtain ⟨hempty, hfirst⟩ := hp
  refine ⟨?_, ?_, hfirst⟩
  · obtain ⟨md, hmd⟩ := Option.isSome_iff_exists.mp he.2
    have hname : h.destinationName m.clientId = some md.destinationHandlerName := by
      simp [destinationName, ClientStore.names, hmd]
    rw [hname, hempty md.destinationHandlerName hname]
  · obtain ⟨earlier, handler, later, heq, rfl, -⟩ := hfirst
    exact ha.named handler (by simp [heq])

/-- The only change of the destination handler in a record. -/
theorem Attaching.renamed (ha : h.Attaching) (he : h.enabled e) {old new : String}
    (hold : h.destinationName c = some old) (hnew : (h.next e).destinationName c = some new)
    (hne : old ≠ new) :
    old = "" ∧ new ≠ "" ∧ ∃ m t, h.pc .client = .reqAttach m t new ∧ m.clientId = c ∧
      FirstMatching h.connectedDestinationHandlers m.connectionString new := by
  rcases destinationName_next he c with ⟨_, _, rfl, hnone, -⟩ | ⟨_, _, _, rfl, hnone⟩ |
    ⟨m, t, name, _, rfl, rfl, -, hname⟩ | ⟨hsame, -⟩
  · simp [hnone] at hold
  · simp [hnone] at hnew
  · obtain ⟨hempty, hnonempty, hfirst⟩ := ha.attach he
    obtain rfl : name = new := Option.some.inj (hname.symm.trans hnew)
    exact ⟨Option.some.inj (hold.symm.trans hempty), hnonempty, m, t, he.1, rfl, hfirst⟩
  · exact (hne (Option.some.inj (hold.symm.trans (hsame.symm.trans hnew)))).elim

/-- The open command of a client that was attached is sent once. -/
theorem opens_next (he : h.enabled e) (hno : ∀ m t name, e = .reqAttach m t name → m.clientId ≠ c) :
    ([e].filterMap openedId).count c + ((h.next e).pc .client).opens c ≤
      (h.pc .client).opens c := by
  by_cases hm : e.mover = some .client
  · cases e <;> simp only [mover, Option.some.injEq, reduceCtorEq] at hm
    all_goals try subst hm
    case reqAttach m t name =>
      simp [next, openedId, opens, List.filterMap_cons, hno m t name rfl]
    case reqSend m name =>
      have he : h.pc .client = .reqSend m name := he
      simp only [he, next, openedId, opens, List.filterMap_cons, List.filterMap_nil, goto_pc,
        Function.update_self, List.count_singleton, beq_iff_eq]
      omega
    case kickRemove c r k =>
      cases k <;> simp [next, openedId, opens, List.filterMap_cons, KickReturn.resume]
    all_goals simp [next, openedId, opens, List.filterMap_cons]
  · rw [pc_next_of_ne hm]
    cases e <;> first | exact (hm rfl).elim | simp [openedId, List.filterMap_cons]

/-! ## Runs -/

section
variable {config : HubConfig} {maxConnections : Nat} {clientHandlers : List String}
  {handlers : List DestinationHandler} {tr tr₁ tr₂ : List HubEvent} {h₁ : Hub}

/-- Every destination handler that is registered in a history has a name. -/
def NamedHandlers (handlers : List DestinationHandler) (tr : List HubEvent) : Prop :=
  (∀ handler ∈ handlers, handler.name ≠ "") ∧
    ∀ handler, .createDestinationMessageHandler handler ∈ tr → handler.name ≠ ""

theorem NamedHandlers.mono (hn : NamedHandlers handlers (tr₁ ++ tr₂)) :
    NamedHandlers handlers tr₁ :=
  ⟨hn.1, fun handler hmem => hn.2 handler (List.mem_append_left _ hmem)⟩

theorem attaching (hr : automaton.Run (start config maxConnections clientHandlers handlers) tr h)
    (hn : NamedHandlers handlers tr) : h.Attaching := by
  induction hr with
  | nil => exact ⟨hn.1, trivial⟩
  | @snoc tr h e _ he ih =>
    refine (ih hn.mono).next he ?_
    rintro handler rfl
    exact hn.2 handler (by simp)

/-- A record accounts for one open command at most. -/
theorem count_opened
    (hr : automaton.Run (start config maxConnections clientHandlers handlers) tr h)
    (hn : NamedHandlers handlers tr) :
    (tr.filterMap openedId).count c + (h.pc .client).opens c + h.unattached c ≤
      (tr.filterMap createdId).count c := by
  induction hr with
  | nil => simp [start, opens, unattached, destinationName, ClientStore.names]
  | @snoc tr h e hr he ih =>
    have ih := ih hn.mono
    have ha := attaching hr hn.mono
    have he : h.enabled e := he
    rw [List.filterMap_append, List.filterMap_append, List.count_append, List.count_append]
    change _ + ((h.next e).pc .client).opens c + (h.next e).unattached c ≤ _
    rcases destinationName_next he c with ⟨name, t, rfl, hnone, hnew⟩ | ⟨g, r, k, rfl, hnone⟩ |
      ⟨m, t, name, _, rfl, rfl, -, hnew⟩ | ⟨hsame, hno⟩
    · -- a new record, which has no destination
      have hle := opens_next (c := c) he (by simp)
      have hcreated : ([createClient name c t].filterMap createdId).count c = 1 :=
        List.count_singleton_self
      have hold : h.unattached c = 0 := by simp [unattached, hnone]
      have hnew : (h.next (.createClient name c t)).unattached c = 1 := by simp [unattached, hnew]
      omega
    · have hle := opens_next (c := c) he (by simp)
      have hnew : (h.next (.kickRemove g c r k)).unattached c = 0 := by simp [unattached, hnone]
      omega
    · -- the record has no destination before, and one after
      obtain ⟨hempty, hnonempty, -⟩ := ha.attach he
      have hpc : (h.pc .client).opens m.clientId = 0 := by
        rw [he.1]
        rfl
      have hpc' : ((h.next (.reqAttach m t name)).pc .client).opens m.clientId = 1 := by
        simp [next, opens]
      have hopened : ([HubEvent.reqAttach m t name].filterMap openedId).count m.clientId = 0 := rfl
      have hold : h.unattached m.clientId = 1 := by simp [unattached, hempty]
      have hnew : (h.next (.reqAttach m t name)).unattached m.clientId = 0 := by
        simp [unattached, hnew, hnonempty]
      omega
    · have hle := opens_next (c := c) he hno
      have hnew : (h.next e).unattached c = h.unattached c := by simp [unattached, hsame]
      omega

theorem renamings_append {h : Hub} :
    renamings c h (tr₁ ++ tr₂) = renamings c h tr₁ ++ renamings c (automaton.exec h tr₁) tr₂ := by
  induction tr₁ generalizing h with
  | nil => rfl
  | cons e tr₁ ih =>
    rw [List.cons_append, renamings, ih, renamings, List.append_assoc]
    rfl

/-- While a record lives, its destination handler changes once at most, and not back. -/
theorem length_renamings
    (hr : automaton.Run (start config maxConnections clientHandlers handlers) tr₁ h₁)
    (hr₂ : automaton.Run h₁ tr₂ h) (hn : NamedHandlers handlers (tr₁ ++ tr₂))
    (hlives : ∀ tr', tr' <+: tr₂ → (automaton.exec h₁ tr').destinationName c ≠ none) :
    (renamings c h₁ tr₂).length ≤ 1 ∧
      (renamings c h₁ tr₂ ≠ [] → h.destinationName c ≠ some "") := by
  induction hr₂ with
  | nil => exact ⟨Nat.zero_le _, fun hne => (hne rfl).elim⟩
  | @snoc tr₂ h e hr₂ he ih =>
    rw [← List.append_assoc] at hn
    obtain ⟨hlen, hnamed⟩ := ih hn.mono fun tr' htr' =>
      hlives tr' (htr'.trans (List.prefix_append _ _))
    have ha := attaching (hr.trans hr₂) hn.mono
    have hbefore := hlives tr₂ (List.prefix_append _ _)
    have hafter := hlives (tr₂ ++ [e]) (List.prefix_refl _)
    rw [← hr₂.eq_exec] at hbefore
    rw [← (hr₂.snoc he).eq_exec] at hafter
    obtain ⟨old, hold⟩ := Option.ne_none_iff_exists'.mp hbefore
    obtain ⟨new, hnew⟩ := Option.ne_none_iff_exists'.mp hafter
    have hnew : (h.next e).destinationName c = some new := hnew
    have hsnoc : renamings c h₁ (tr₂ ++ [e]) =
        renamings c h₁ tr₂ ++ if old = new then [] else [(old, new)] := by
      rw [renamings_append, ← hr₂.eq_exec, renamings, hold, hnew]
      simp [renamings]
    rw [hsnoc]
    by_cases heq : old = new
    · simp only [heq, if_true, List.append_nil]
      refine ⟨hlen, fun hne => ?_⟩
      have hname : (automaton.next h e).destinationName c = h.destinationName c :=
        hnew.trans (heq ▸ hold.symm)
      rw [hname]
      exact hnamed hne
    · obtain ⟨rfl, hnonempty, -⟩ := ha.renamed he hold hnew heq
      have hnil : renamings c h₁ tr₂ = [] := by
        by_contra hne
        exact hnamed hne hold
      simp only [heq, if_false, hnil, List.nil_append, List.length_singleton, le_refl, true_and]
      intro _
      rw [show (automaton.next h e).destinationName c = some new from hnew]
      exact fun h => hnonempty (Option.some.inj h)

/-- During the life of a record its destination handler changes at most once, from none to the
first handler in the order of registration that matches the request being handled; and no more
open commands are sent for an id than it was allocated for clients. -/
theorem attached_once
    (hr : automaton.Run (start config maxConnections clientHandlers handlers) tr h)
    (hn : NamedHandlers handlers tr) (c : ClientId) :
    (∀ tr₁ tr₂ tr₃ h₁, tr = tr₁ ++ tr₂ ++ tr₃ →
      automaton.Run (start config maxConnections clientHandlers handlers) tr₁ h₁ →
      (∀ tr', tr' <+: tr₂ → (automaton.exec h₁ tr').destinationName c ≠ none) →
      (renamings c h₁ tr₂).length ≤ 1) ∧
    (∀ tr₁ e tr₂ h₁ old new, tr = tr₁ ++ e :: tr₂ →
      automaton.Run (start config maxConnections clientHandlers handlers) tr₁ h₁ →
      h₁.destinationName c = some old → (h₁.next e).destinationName c = some new → old ≠ new →
      old = "" ∧ ∃ m t, h₁.pc .client = .reqAttach m t new ∧ m.clientId = c ∧
        FirstMatching h₁.connectedDestinationHandlers m.connectionString new) ∧
    (tr.filterMap openedId).count c ≤ (tr.filterMap createdId).count c := by
  refine ⟨?_, ?_, ?_⟩
  · rintro tr₁ tr₂ tr₃ h₁ rfl hr₁ hlives
    obtain ⟨h₂, hr₁₂, -⟩ := hr.split rfl
    obtain ⟨h₁', hr₁', hr₂⟩ := hr₁₂.split rfl
    obtain rfl : h₁ = h₁' := hr₁.eq_exec.trans hr₁'.eq_exec.symm
    exact (length_renamings hr₁ hr₂ hn.mono hlives).1
  · rintro tr₁ e tr₂ h₁ old new rfl hr₁ hold hnew hne
    obtain ⟨h₁', hr₁', he, -⟩ := hr.at_event
    obtain rfl : h₁ = h₁' := hr₁.eq_exec.trans hr₁'.eq_exec.symm
    obtain ⟨hempty, -, hattach⟩ := (attaching hr₁ hn.mono).renamed he hold hnew hne
    exact ⟨hempty, hattach⟩
  · have hcount := count_opened hr hn (c := c)
    omega

end

/-- Client 1 asks for a destination twice, with different connection strings. -/
def askedTwice : List HubEvent :=
  let other : OpenClientConnectionCommand := { Sample.openCommand with connectionString := [] }
  [.getNewClientId "WebSocket" 1, .callbackNow "WebSocket" 1, .createClient "WebSocket" 1 0,
    .recvOpenClient Sample.openCommand, .reqNow Sample.openCommand, .reqName Sample.openCommand 0,
    .reqMatch Sample.openCommand 0 "Udp", .reqLookup Sample.openCommand 0 "Udp",
    .reqAttach Sample.openCommand 0 "Udp",
    .reqSend { Sample.openCommand with routeTimestamp := 0 } "Udp", .recvOpenClient other,
    .reqNow other, .reqDuplicate other 0 "Udp"]

theorem attached_once_askedTwice :
    (askedTwice.filterMap openedId).count 1 ≤ (askedTwice.filterMap createdId).count 1 := by
  have hr : automaton.Run (start {} 1 ["WebSocket"] [⟨"Udp", fun _ => some true⟩]) askedTwice _ :=
    Automaton.Admits.run (by decide +kernel)
  exact (attached_once hr ⟨by simp, by simp [askedTwice]⟩ 1).2.2

end Hub
end Spanreed
