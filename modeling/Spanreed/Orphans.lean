import Spanreed.System
import Spanreed.HubFacts

/-! # Orphaned destination connections

`kickClient` reads the name of the client's destination handler, sends its commands and removes the
record in separate steps, and the client goroutine may attach the client in between: the handler is
then told to open a connection that nobody will ever close (`attach_during_kick_orphans`). If no
client is attached while a kick of it is past reading the name, every connection that was opened is
closed again (`no_orphans`). -/

namespace Spanreed
open Automata

namespace HubEvent

/-- The hub sends an open command for client `c` to the destination handler `name`. -/
def OpensAt (c : ClientId) (name : String) : HubEvent → Prop
  | .reqSend m name' => m.clientId = c ∧ name' = name
  | _ => False

/-- The hub sends a close command for client `c` to the destination handler `name`. -/
def ClosesAt (c : ClientId) (name : String) : HubEvent → Prop
  | .kickDestSend _ c' _ dn _ => c' = c ∧ dn = name
  | _ => False

end HubEvent

namespace HubPc

/-- A goroutine kicks client `c` and has read the name of its destination handler: the name, until
it is done with that handler. -/
def kicking (c : ClientId) : HubPc → Option (Option String)
  | .kickClientLookup c' _ _ dn _ | .kickClientSend c' _ _ dn _ | .kickDestLookup c' _ dn _
  | .kickDestSend c' _ dn _ => if c' = c then some (some dn) else none
  | .kickRemove c' _ _ => if c' = c then some none else none
  | _ => none

@[simp] theorem kicking_resume (c : ClientId) (k : KickReturn) : k.resume.kicking c = none := by
  cases k <;> rfl

/-- The client goroutine has seen that client `c` is not attached. -/
def Requesting (c : ClientId) : HubPc → Prop
  | .reqMatch m _ | .reqLookup m _ _ | .reqAttach m _ _ => m.clientId = c
  | _ => False

/-- Between two operations. -/
def Resting : HubPc → Prop
  | .select | .exited | .waitGroup => True
  | _ => False

instance (pc : HubPc) : Decidable pc.Resting :=
  decidable_of_iff (pc = .select ∨ pc = .exited ∨ pc = .waitGroup)
    (by cases pc <;> simp [Resting])

theorem Resting.kicking {pc : HubPc} (h : pc.Resting) (c : ClientId) : pc.kicking c = none := by
  cases pc <;> first | rfl | exact h.elim

end HubPc

namespace Hub
open HubEvent HubPc

section
variable {config : HubConfig} {maxConnections : Nat} {clientHandlers : List String}
  {handlers : List DestinationHandler} {tr : List HubEvent} {h : Hub} {c : ClientId}

/-! ## Steps -/

/-- The name of the destination handler that a kick reads. -/
theorem nameOrEmpty_of_names {cn dn : String} (hn : h.clientStore.names c = some (cn, dn)) :
    nameOrEmpty (h.clientStore.getDestinationHandlerName c) = dn := by
  obtain ⟨m, hm, heq⟩ := Option.map_eq_some_iff.mp hn
  cases heq
  simp [nameOrEmpty, ClientStore.getDestinationHandlerName, hm]

/-- How an event changes what a goroutine knows of the client it kicks. -/
theorem kicking_next {e : HubEvent} (he : h.enabled e) (c : ClientId) (g : Goroutine) :
    (∃ r cn k, e = .kickDestName g c r cn k ∧ (h.pc g).kicking c = none ∧
      ((h.next e).pc g).kicking c =
        some (some (nameOrEmpty (h.clientStore.getDestinationHandlerName c)))) ∨
    (∃ connection, e = .kickAllNext c connection ∧ h.clientStore.get c = some connection ∧
      (h.pc g).kicking c = none ∧
      ((h.next e).pc g).kicking c = some (some connection.destinationHandlerName)) ∨
    (∃ r dn k, e = .kickDestSkip g c r dn k ∧ (dn = "" ∨ dn ∉ h.destinationHandlers) ∧
      (h.pc g).kicking c = some (some dn) ∧ ((h.next e).pc g).kicking c = some none) ∨
    (∃ r dn k, e = .kickDestSend g c r dn k ∧ (h.pc g).kicking c = some (some dn) ∧
      ((h.next e).pc g).kicking c = some none) ∨
    (∃ r k, e = .kickRemove g c r k ∧ (h.pc g).kicking c = some none ∧
      ((h.next e).pc g).kicking c = none) ∨
    ((h.next e).pc g).kicking c = (h.pc g).kicking c := by
  by_cases hsame : ((h.next e).pc g).kicking c = (h.pc g).kicking c
  · exact .inr (.inr (.inr (.inr (.inr hsame))))
  have same : ∀ {g' pc}, (h.next e).pc = Function.update h.pc g' pc →
      pc.kicking c ≠ (h.pc g').kicking c := by
    intro g' pc hpc hk
    refine hsame ?_
    rw [hpc, Function.update_apply]
    split
    · next hg => rw [hk, hg]
    · rfl
  -- what a kick of `c'` by `g'` changes shows for `g'` and `c'` only
  have here : ∀ {g' pc} (c' : ClientId), (h.next e).pc = Function.update h.pc g' pc →
      (c' ≠ c → pc.kicking c = (h.pc g').kicking c) → g' = g ∧ c' = c := by
    intro g' pc c' hpc hk
    constructor
    · by_contra hg
      exact hsame (by rw [hpc, Function.update_of_ne (Ne.symm hg)])
    · by_contra hc
      exact same hpc (hk hc)
  cases e
  case kickDestName g' c' r cn k =>
    simp only [enabled] at he
    obtain ⟨rfl, rfl⟩ := here c' rfl fun hc => by simp [he, kicking, hc]
    exact .inl ⟨r, cn, k, rfl, by simp [he, kicking], by simp [next, kicking]⟩
  case kickAllNext c' connection =>
    obtain ⟨rfl, rfl⟩ := here c' rfl fun hc => by simp [he.1, kicking, hc]
    exact .inr (.inl ⟨connection, rfl, he.2, by simp [he.1, kicking], by simp [next, kicking]⟩)
  case kickDestSkip g' c' r dn k =>
    obtain ⟨rfl, rfl⟩ := here c' rfl fun hc => by simp [he.1, kicking, hc]
    refine .inr (.inr (.inl ⟨r, dn, k, rfl, he.2.imp_right And.right, ?_, ?_⟩))
    · simp [he.1, kicking]
    · simp [next, kicking]
  case kickDestSend g' c' r dn k =>
    simp only [enabled] at he
    obtain ⟨rfl, rfl⟩ := here c' rfl fun hc => by simp [he, kicking, hc]
    exact .inr (.inr (.inr (.inl ⟨r, dn, k, rfl, by simp [he, kicking], by simp [next, kicking]⟩)))
  case kickRemove g' c' r k =>
    simp only [enabled] at he
    obtain ⟨rfl, rfl⟩ := here c' rfl fun hc => by rw [kicking_resume, he]; simp [kicking, hc]
    exact .inr (.inr (.inr (.inr (.inl ⟨r, k, rfl, by simp [he, kicking], by simp [next]⟩))))
  case advanceClock | cancel | createClientMessageHandler | createDestinationMessageHandler
      | getNewClientId | callbackNow | createClient | createClientFails => exact (hsame rfl).elim
  all_goals
    simp only [enabled] at he
    exact (same rfl (by simp [he, kicking])).elim

/-- A request gets past the name only for a client that is not attached. -/
theorem requesting_next {e : HubEvent} (he : h.enabled e)
    (hreq : ((h.next e).pc .client).Requesting c) :
    (∃ m t, e = .reqName m t ∧ m.clientId = c) ∨
      (h.pc .client).Requesting c ∧ ∀ m t name, e ≠ .reqAttach m t name := by
  -- everybody else goes to a point that is not part of a request
  have key : ∀ {g pc}, (h.next e).pc = Function.update h.pc g pc → ¬pc.Requesting c →
      (h.pc .client).Requesting c := by
    intro g pc hpc hno
    rw [hpc, Function.update_apply] at hreq
    split at hreq
    · exact (hno hreq).elim
    · exact hreq
  cases e
  case reqName m t => exact .inl ⟨m, t, rfl, by simpa [next, Requesting] using hreq⟩
  case reqMatch m t name =>
    exact .inr ⟨by simpa [next, he.1, Requesting] using hreq, by simp⟩
  case reqLookup m t name =>
    exact .inr ⟨by simpa [next, he.1, Requesting] using hreq, by simp⟩
  case reqAttach m t name => simp [next, Requesting] at hreq
  case advanceClock | cancel | createClientMessageHandler | createDestinationMessageHandler
      | getNewClientId | callbackNow | createClient | createClientFails =>
    exact .inr ⟨hreq, by simp⟩
  case kickRemove g c' r k => exact .inr ⟨key rfl (by cases k <;> exact id), by simp⟩
  all_goals exact .inr ⟨key rfl id, by simp⟩

/-! ## The invariant -/

/-- No client is attached, under a name that is not empty, while a kick of it is past reading the
name of its destination handler. -/
def AttachesAlone (s₀ : Hub) (c : ClientId) (tr : List HubEvent) : Prop :=
  ∀ tr₁ h₁ m t name, automaton.Run s₀ tr₁ h₁ → tr₁ ++ [.reqAttach m t name] <+: tr →
    m.clientId = c → name ≠ "" ∧ ∀ g, (h₁.pc g).kicking c = none

theorem AttachesAlone.mono {s₀ : Hub} {tr' : List HubEvent} (h : AttachesAlone s₀ c tr)
    (hp : tr' <+: tr) : AttachesAlone s₀ c tr' :=
  fun tr₁ h₁ m t name hr hp' => h tr₁ h₁ m t name hr (hp'.trans hp)

/-- The hub has sent a close command for client `c` to the handler `name`. -/
def Closed (c : ClientId) (name : String) (tr : List HubEvent) : Prop := ∃ e ∈ tr, e.ClosesAt c name

theorem Closed.mono {name : String} {tr' : List HubEvent} (h : Closed c name tr) :
    Closed c name (tr ++ tr') :=
  happened_append h

/-- What is known of client `c` as long as it is attached alone. -/
structure Covered (c : ClientId) (tr : List HubEvent) (h : Hub) : Prop where
  /-- Handler names in records are registered. -/
  registered : ∀ cn dn, h.clientStore.names c = some (cn, dn) → dn ≠ "" →
    dn ∈ h.destinationHandlers
  /-- A request that goes on found the client not attached, and it still is not. -/
  requesting : (h.pc .client).Requesting c →
    ∀ cn dn, h.clientStore.names c = some (cn, dn) → dn = ""
  /-- A kick knows the handler of the record it is about to remove ... -/
  read : ∀ g dn, (h.pc g).kicking c = some (some dn) →
    ∀ cn dn', h.clientStore.names c = some (cn, dn') → dn' ≠ "" → dn = dn'
  /-- ... or has sent the close command to it. -/
  removing : ∀ g, (h.pc g).kicking c = some none →
    ∀ cn dn, h.clientStore.names c = some (cn, dn) → dn ≠ "" → Closed c dn tr
  /-- Whoever was attached is closed, still there, or about to be closed. -/
  attached : ∀ m t name, .reqAttach m t name ∈ tr → m.clientId = c →
    Closed c name tr ∨ (∃ cn, h.clientStore.names c = some (cn, name)) ∨
      ∃ g, (h.pc g).kicking c = some (some name)

/-- A handler name in the record of a client was there before or comes from a request. -/
theorem names_of_next {e : HubEvent} (he : h.enabled e) {cn dn : String}
    (hn : (h.next e).clientStore.names c = some (cn, dn)) (hne : dn ≠ "") :
    (∃ m t, e = .reqAttach m t dn ∧ m.clientId = c) ∨ h.clientStore.names c = some (cn, dn) := by
  rcases names_next he c with ⟨name, t, rfl, -, hnew⟩ | ⟨g, r, k, rfl, hnew⟩ |
    ⟨m, t, name, cn', dn', rfl, hc, -, hnew⟩ | hsame
  · rw [hn] at hnew
    cases hnew
    exact (hne rfl).elim
  · rw [hn] at hnew
    cases hnew
  · rw [hn] at hnew
    cases hnew
    exact .inl ⟨m, t, rfl, hc⟩
  · exact .inr (hsame ▸ hn)

namespace Covered
variable {e : HubEvent}

theorem registered_next (hcov : Covered c tr h) (hknown : ∀ g, h.Known (h.pc g))
    (he : h.enabled e) {cn dn : String} (hn : (h.next e).clientStore.names c = some (cn, dn))
    (hne : dn ≠ "") : dn ∈ (h.next e).destinationHandlers := by
  rcases names_of_next he hn hne with ⟨m, t, rfl, -⟩ | hold
  · have hk := hknown .client
    rw [he.1] at hk
    exact handlers_mono.2 hk
  · exact handlers_mono.2 (hcov.registered cn dn hold hne)

theorem requesting_next (hcov : Covered c tr h) (he : h.enabled e)
    (hreq : ((h.next e).pc .client).Requesting c) {cn dn : String}
    (hn : (h.next e).clientStore.names c = some (cn, dn)) : dn = "" := by
  by_contra hne
  rcases Hub.requesting_next he hreq with ⟨m, t, rfl, hc⟩ | ⟨hold, hno⟩
  · rcases names_of_next he hn hne with ⟨_, _, h', -⟩ | hnames
    · cases h'
    · obtain ⟨cn', hempty⟩ := ClientStore.names_of_destination he.2
      rw [hc, hnames] at hempty
      cases hempty
      exact hne rfl
  · rcases names_of_next he hn hne with ⟨m, t, rfl, -⟩ | hnames
    · exact hno m t dn rfl
    · exact hne (hcov.requesting hold cn dn hnames)

/-- A kick that was past reading when the record got a name was not there. -/
theorem names_of_kicking (he : h.enabled e)
    (hattach : ∀ m t name, e = .reqAttach m t name → m.clientId = c →
      name ≠ "" ∧ ∀ g, (h.pc g).kicking c = none)
    {g : Goroutine} {o : Option String} (hk : (h.pc g).kicking c = some o) {cn dn : String}
    (hn : (h.next e).clientStore.names c = some (cn, dn)) (hne : dn ≠ "") :
    h.clientStore.names c = some (cn, dn) := by
  rcases names_of_next he hn hne with ⟨m, t, rfl, hc⟩ | hold
  · have hnone := (hattach m t dn rfl hc).2 g
    rw [hk] at hnone
    cases hnone
  · exact hold

theorem read_next (hcov : Covered c tr h) (he : h.enabled e)
    (hattach : ∀ m t name, e = .reqAttach m t name → m.clientId = c →
      name ≠ "" ∧ ∀ g, (h.pc g).kicking c = none)
    {g : Goroutine} {dn : String} (hk : ((h.next e).pc g).kicking c = some (some dn))
    {cn dn' : String} (hn : (h.next e).clientStore.names c = some (cn, dn')) (hne : dn' ≠ "") :
    dn = dn' := by
  rcases kicking_next he c g with ⟨r, cn', k, rfl, -, hnew⟩ | ⟨connection, rfl, hget, -, hnew⟩ |
    ⟨r, dn'', k, rfl, -, -, hnew⟩ | ⟨r, dn'', k, rfl, -, hnew⟩ | ⟨r, k, rfl, -, hnew⟩ | hsame
  · have hold : h.clientStore.names c = some (cn, dn') := hn
    rw [hk, nameOrEmpty_of_names hold] at hnew
    cases hnew
    rfl
  · have hold : h.clientStore.names c = some (cn, dn') := hn
    rw [hk] at hnew
    cases hnew
    rw [ClientStore.names, hget] at hold
    cases hold
    rfl
  · rw [hk] at hnew; cases hnew
  · rw [hk] at hnew; cases hnew
  · rw [hk] at hnew; cases hnew
  · rw [hk] at hsame
    exact hcov.read g dn hsame.symm cn dn' (names_of_kicking he hattach hsame.symm hn hne) hne

theorem removing_next (hcov : Covered c tr h) (he : h.enabled e)
    (hattach : ∀ m t name, e = .reqAttach m t name → m.clientId = c →
      name ≠ "" ∧ ∀ g, (h.pc g).kicking c = none)
    {g : Goroutine} (hk : ((h.next e).pc g).kicking c = some none)
    {cn dn : String} (hn : (h.next e).clientStore.names c = some (cn, dn)) (hne : dn ≠ "") :
    Closed c dn (tr ++ [e]) := by
  rcases kicking_next he c g with ⟨r, cn', k, rfl, -, hnew⟩ | ⟨connection, rfl, hget, -, hnew⟩ |
    ⟨r, dn', k, rfl, hskip, hold, -⟩ | ⟨r, dn', k, rfl, hold, -⟩ | ⟨r, k, rfl, -, hnew⟩ | hsame
  · rw [hk] at hnew; cases hnew
  · rw [hk] at hnew; cases hnew
  · -- the handler of the record is registered, so the kick did not skip it
    have hn : h.clientStore.names c = some (cn, dn) := hn
    obtain rfl := hcov.read g dn' hold cn dn hn hne
    rcases hskip with hskip | hskip
    · exact (hne hskip).elim
    · exact (hskip (hcov.registered cn dn' hn hne)).elim
  · have hn : h.clientStore.names c = some (cn, dn) := hn
    obtain rfl := hcov.read g dn' hold cn dn hn hne
    exact ⟨_, List.mem_append_right _ (List.mem_singleton.mpr rfl), rfl, rfl⟩
  · rw [hk] at hnew; cases hnew
  · rw [hk] at hsame
    have hn := names_of_kicking he hattach hsame.symm hn hne
    exact (hcov.removing g hsame.symm cn dn hn hne).mono

theorem attached_next (hcov : Covered c tr h) (he : h.enabled e)
    (hattach : ∀ m t name, e = .reqAttach m t name → m.clientId = c →
      name ≠ "" ∧ ∀ g, (h.pc g).kicking c = none)
    {name : String} (hreg : name ∈ h.destinationHandlers) (hne : name ≠ "")
    (hold : Closed c name tr ∨ (∃ cn, h.clientStore.names c = some (cn, name)) ∨
      ∃ g, (h.pc g).kicking c = some (some name)) :
    Closed c name (tr ++ [e]) ∨ (∃ cn, (h.next e).clientStore.names c = some (cn, name)) ∨
      ∃ g, ((h.next e).pc g).kicking c = some (some name) := by
  rcases hold with hclosed | ⟨cn, hn⟩ | ⟨g, hk⟩
  · exact .inl hclosed.mono
  · rcases names_next he c with ⟨_, t, rfl, hnone, -⟩ | ⟨g, r, k, rfl, -⟩ |
      ⟨m, t, name', cn', dn', rfl, hc, hn', -⟩ | hsame
    · rw [hn] at hnone; cases hnone
    · -- the kick that removes the record has sent the close command
      have hpc : (h.pc g).kicking c = some none := by
        rw [show h.pc g = _ from he]
        simp [kicking]
      exact .inl (hcov.removing g hpc cn name hn hne).mono
    · have hreq : (h.pc .client).Requesting c := by rw [he.1]; exact hc
      exact (hne (hcov.requesting hreq cn name hn)).elim
    · exact .inr (.inl ⟨cn, hsame.trans hn⟩)
  · rcases kicking_next he c g with ⟨r, cn', k, rfl, hnone, -⟩ | ⟨connection, rfl, -, hnone, -⟩ |
      ⟨r, dn', k, rfl, hskip, hold, -⟩ | ⟨r, dn', k, rfl, hold, -⟩ | ⟨r, k, rfl, hold, -⟩ | hsame
    · rw [hk] at hnone; cases hnone
    · rw [hk] at hnone; cases hnone
    · rw [hk] at hold
      cases hold
      rcases hskip with hskip | hskip
      · exact (hne hskip).elim
      · exact (hskip hreg).elim
    · rw [hk] at hold
      cases hold
      exact .inl ⟨_, List.mem_append_right _ (List.mem_singleton.mpr rfl), rfl, rfl⟩
    · rw [hk] at hold; cases hold
    · exact .inr (.inr ⟨g, hsame.trans hk⟩)

end Covered

/-- A handler that a client was attached to is registered. -/
theorem registered_of_attach
    (hr : automaton.Run (start config maxConnections clientHandlers handlers) tr h)
    {m : OpenClientConnectionCommand} {t : Timestamp} {name : String}
    (ha : .reqAttach m t name ∈ tr) : name ∈ h.destinationHandlers := by
  induction hr with
  | nil => cases ha
  | @snoc tr h e hr he ih =>
    rcases List.mem_append.mp ha with ha | ha
    · exact handlers_mono.2 (ih ha)
    · cases List.mem_singleton.mp ha
      have hk := known_at hr he.1
      exact handlers_mono.2 hk

theorem covered (hr : automaton.Run (start config maxConnections clientHandlers handlers) tr h)
    (halone : AttachesAlone (start config maxConnections clientHandlers handlers) c tr) :
    Covered c tr h := by
  induction hr with
  | nil =>
    have hno : (start config maxConnections clientHandlers handlers).clientStore.names c = none :=
      ClientStore.names_eq_none.mpr (ClientStore.get_createClientStore _)
    refine ⟨?_, ?_, ?_, ?_, ?_⟩ <;> simp [hno]
  | @snoc tr h e hr he ih =>
    have ih := ih (halone.mono (List.prefix_append _ _))
    have hattach : ∀ m t name, e = .reqAttach m t name → m.clientId = c →
        name ≠ "" ∧ ∀ g, (h.pc g).kicking c = none := by
      rintro m t name rfl hc
      exact halone _ _ m t name hr (List.prefix_refl _) hc
    refine ⟨?_, ?_, ?_, ?_, ?_⟩
    · exact fun cn dn hn hne => ih.registered_next (known hr) he hn hne
    · exact fun hreq cn dn hn => ih.requesting_next he hreq hn
    · exact fun g dn hk cn dn' hn hne => ih.read_next he hattach hk hn hne
    · exact fun g hk cn dn hn hne => ih.removing_next he hattach hk hn hne
    · intro m t name ha hc
      rcases List.mem_append.mp ha with ha | ha
      · obtain ⟨tr₁, h₁, hr₁, hen, hpre⟩ := hr.of_mem ha
        have hne := (halone _ _ m t name hr₁ (hpre.trans (List.prefix_append _ _)) hc).1
        exact ih.attached_next he hattach (registered_of_attach hr ha) hne
          (ih.attached m t name ha hc)
      · cases List.mem_singleton.mp ha
        subst hc
        obtain ⟨md, hmd⟩ := Option.isSome_iff_exists.mp he.2
        refine .inr (.inl ⟨md.clientHandlerName, ?_⟩)
        simp [automaton, next, ClientStore.names, ClientStore.setDestinationHandlerName,
          ClientStore.get_update, hmd]

/-- If no client is attached while a kick of it is past reading the name of its destination
handler, then in every state between two operations of the hub's goroutines the destination
handlers that were told to open a connection for a client without a record were told to close it. -/
theorem no_orphans (hr : automaton.Run (start config maxConnections clientHandlers handlers) tr h)
    (halone : AttachesAlone (start config maxConnections clientHandlers handlers) c tr)
    (hrest : ∀ g, (h.pc g).Resting) (hgone : h.clientStore.get c = none) (name : String)
    (hopen : ∃ e ∈ tr, e.OpensAt c name) : ∃ e ∈ tr, e.ClosesAt c name := by
  obtain ⟨e, he, ho⟩ := hopen
  cases e <;> simp only [OpensAt] at ho
  case reqSend m name' =>
    obtain ⟨hc, rfl⟩ := ho
    obtain ⟨tr₁, h₁, hr₁, hen, hpre⟩ := hr.of_mem he
    have horigin := origin_at hr₁ hen
    obtain ⟨m', t, ha, rfl⟩ := horigin
    have ha := hpre.subset (List.mem_append_left _ ha)
    rcases (covered hr halone).attached m' t name' ha hc with hclosed | ⟨cn, hn⟩ | ⟨g, hk⟩
    · exact hclosed
    · rw [ClientStore.names_eq_none.mpr hgone] at hn
      cases hn
    · rw [(hrest g).kicking c] at hk
      cases hk

end

/-- A hub with the UDP handler. -/
def udpHub : Hub :=
  start {} 512 ["WebSocket"]
    [⟨"UdpDestination", defaultUdpDestinationHandlerMatchConnectionStringFn⟩]

/-- Client 1 asks for its destination, up to its attachment. -/
def requested : List HubEvent := [
  .getNewClientId "WebSocket" 1, .callbackNow "WebSocket" 1, .createClient "WebSocket" 1 0,
  .recvOpenClient Sample.openCommand, .reqNow Sample.openCommand, .reqName Sample.openCommand 0,
  .reqMatch Sample.openCommand 0 "UdpDestination", .reqLookup Sample.openCommand 0 "UdpDestination"]

/-- It is attached ... -/
def attaches : List HubEvent := [
  .reqAttach Sample.openCommand 0 "UdpDestination", .reqSend Sample.openCommand "UdpDestination"]

/-- ... and then closed by its transport. -/
def closes : List HubEvent := [
  .recvClientClose (closeCommand 1 none), .kickClientName .client 1 none .select,
  .kickDestName .client 1 none "WebSocket" .select,
  .kickClientLock .client 1 none "WebSocket" "UdpDestination" .select,
  .kickClientSend .client 1 none "WebSocket" "UdpDestination" .select,
  .kickDestLock .client 1 none "UdpDestination" .select,
  .kickDestSend .client 1 none "UdpDestination" .select, .kickRemove .client 1 none .select]

theorem no_orphans_sample :
    ∃ e ∈ requested ++ attaches ++ closes, e.ClosesAt 1 "UdpDestination" := by
  have hrun : automaton.Run udpHub (requested ++ attaches ++ closes) _ :=
    Automaton.Admits.run (by decide +kernel)
  refine no_orphans hrun ?_ (by decide +kernel) (by decide +kernel) "UdpDestination"
    ⟨.reqSend Sample.openCommand "UdpDestination", by simp [attaches], rfl, rfl⟩
  intro tr₁ h₁ m t name hr hp _
  simp only [requested, attaches, closes, List.cons_append, List.nil_append, snoc_prefix_cons,
    reduceCtorEq, and_false, HubEvent.reqAttach.injEq, List.prefix_nil, List.append_eq_nil_iff,
    List.cons_ne_self, exists_const, or_self, or_false, ↓existsAndEq, true_and, false_or] at hp
  obtain ⟨rfl, rfl, rfl, rfl⟩ := hp
  rw [hr.eq_exec]
  exact ⟨by decide, by decide +kernel⟩

/-- The authentication timeout of client 1 strikes while its request is handled: the timeout
goroutine reads the name of its destination handler before it is attached. -/
def timesOut : List HubEvent := [
  .advanceClock 10000001, .ticker, .sweepNow₁, .sweepNow₂ (-49999999),
  .sweepNow₃ (-49999999) (-4999999), .sweepList (-49999999) (-4999999) (-21589999999) [],
  .sweepDone, .authNow, .authList 1 [1], .kickUnauthedClient 1 [],
  .kickClientName .timeout 1 (some .authTimeout) (.checkForAuthTimeouts []),
  .kickDestName .timeout 1 (some .authTimeout) "WebSocket" (.checkForAuthTimeouts [])]

/-- It goes on after the attachment. -/
def removesUnclosed : List HubEvent := [
  .kickClientLock .timeout 1 (some .authTimeout) "WebSocket" "" (.checkForAuthTimeouts []),
  .kickClientSend .timeout 1 (some .authTimeout) "WebSocket" "" (.checkForAuthTimeouts []),
  .kickDestSkip .timeout 1 (some .authTimeout) "" (.checkForAuthTimeouts []),
  .kickRemove .timeout 1 (some .authTimeout) (.checkForAuthTimeouts []), .authDone]

/-- Client 1 is gone, its destination connection was opened and is never closed. -/
theorem attach_during_kick_orphans :
    ¬∀ (config : HubConfig) (maxConnections : Nat) (clientHandlers : List String)
      (handlers : List DestinationHandler) (tr : List HubEvent) (h : Hub),
      automaton.Run (start config maxConnections clientHandlers handlers) tr h →
        ∀ c, (∀ g, (h.pc g).Resting) → h.clientStore.get c = none →
          ∀ name, (∃ e ∈ tr, e.OpensAt c name) → ∃ e ∈ tr, e.ClosesAt c name := by
  intro hall
  have hrun : automaton.Run udpHub (requested ++ timesOut ++ attaches ++ removesUnclosed) _ :=
    Automaton.Admits.run (by decide +kernel)
  obtain ⟨e, he, hclose⟩ := hall _ _ _ _ _ _ hrun 1 (by decide +kernel) (by decide +kernel)
    "UdpDestination" ⟨.reqSend Sample.openCommand "UdpDestination", by simp [attaches], rfl, rfl⟩
  cases e <;> simp only [ClosesAt] at hclose
  simp [requested, timesOut, attaches, removesUnclosed] at he

end Hub
end Spanreed
