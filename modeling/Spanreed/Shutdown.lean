import Spanreed.HubProgress
import Spanreed.Kicks
import Mathlib.Algebra.BigOperators.Group.Finset.Piecewise
import Mathlib.Algebra.Order.BigOperators.Group.Finset

/-! # What the hub still has to do when it is shut down

After cancellation the goroutines of the hub finish what they have in their hands and return, and
`Start` kicks every client that is left. `Hub.need` counts the items that this puts into the
channels, if no kick of a client begins while another one is under way and no client is attached
while a kick of it is about to read its destination (`need_next`). There is always a step in that
order until `Start` has returned (`Closing.exists_step`), and every step leaves less to do
(`work_next`). -/

namespace Spanreed
open Flatbuffers Automata

/-- The client a message is about. -/
def Chan.client : (ch : Chan) → ch.Msg → ClientId
  | .incomingClientMessage, m | .clientMessage _, m => ClientMessage.clientId m
  | .incomingClientClose, m | .incomingDestinationClose, m | .clientClose _, m
  | .destinationClose _, m => ClientCloseCommand.clientId m
  | .incomingClientOpen, m | .destinationOpen _, m => OpenClientConnectionCommand.clientId m
  | .incomingDestinationVerdict, v | .clientVerdict _, v => OpenClientConnectionVerdict.clientId v
  | .incomingDestinationMessage, m | .destinationMessage _, m => DestinationMessage.clientId m
  | .nextClientId _, c => c

/-- Something for a client in a channel. -/
abbrev Item := Chan × ClientId

/-- What an operation sends. -/
def HubEvent.target (e : HubEvent) : Option Item :=
  match e.op with
  | .send ch m => some (ch, ch.client m)
  | _ => none

theorem HubEvent.target_of_send {e : HubEvent} {ch : Chan} {m : ch.Msg} (hop : e.op = .send ch m) :
    e.target = some (ch, ch.client m) := by
  simp [target, hop]

/-- A goroutine neither takes up new work nor begins a kick nor attaches a client. -/
def HubEvent.plain : HubEvent → Bool
  | .recvClientMessage _ | .recvOpenClient _ | .recvClientClose _ | .recvDestinationMessage _
  | .recvVerdict _ | .recvDestinationClose _ | .ticker => false
  | .kickClientName .. | .kickAllNext .. | .reqAttach .. => false
  | _ => true

/-- The close command for a client handler: a handler without a name is not told. -/
def clientCloses (c : ClientId) (cn : String) : List Item :=
  if cn = "" then [] else [(.clientClose cn, c)]

/-- The close command for a destination handler. -/
def destinationCloses (c : ClientId) (dn : String) : List Item :=
  if dn = "" then [] else [(.destinationClose dn, c)]

/-- The close commands of a kick of a client with these handlers. -/
def kickCloses (c : ClientId) (names : String × String) : List Item :=
  clientCloses c names.1 ++ destinationCloses c names.2

/-- What follows from a match: the client is attached and told to the handler, which later has to
be told of its end. -/
def attachSends (m : OpenClientConnectionCommand) (handlers : List DestinationHandler) :
    List Item :=
  match firstMatch m.connectionString handlers with
  | some (some name) => (.destinationOpen name, m.clientId) :: destinationCloses m.clientId name
  | _ => []

/-- What a goroutine at this point still sends, given the records as they are. -/
def HubPc.owed (names : ClientId → Option (String × String)) (handlers : List DestinationHandler) :
    HubPc → List Item
  | .fwdClientNow m | .fwdClientName m _ =>
    ((names m.clientId).map fun n => (Chan.destinationMessage n.2, m.clientId)).toList
  | .fwdClientLookup m _ name => [(.destinationMessage name, m.clientId)]
  | .fwdClientSend m name => [(.destinationMessage name, m.clientId)]
  | .fwdDestNow m | .fwdDestName m _ =>
    ((names m.clientId).map fun n => (Chan.clientMessage n.1, m.clientId)).toList
  | .fwdDestLookup m _ name => [(.clientMessage name, m.clientId)]
  | .fwdDestSend m name => [(.clientMessage name, m.clientId)]
  | .verdictName v =>
    ((names v.clientId).map fun n => (Chan.clientVerdict n.1, v.clientId)).toList
  | .verdictLookup v name | .verdictConnect v name | .verdictSend v name =>
    [(.clientVerdict name, v.clientId)]
  | .reqNow m | .reqName m _ =>
    match names m.clientId with
    | some (_, "") => attachSends m handlers
    | _ => []
  | .reqMatch m _ => attachSends m handlers
  | .reqLookup m _ name | .reqAttach m _ name =>
    (.destinationOpen name, m.clientId) :: destinationCloses m.clientId name
  | .reqSend m name => [(.destinationOpen name, m.clientId)]
  | .kickDestName c _ cn _ =>
    clientCloses c cn ++ ((names c).map fun n => destinationCloses c n.2).getD []
  | .kickClientLookup c _ cn dn _ => clientCloses c cn ++ destinationCloses c dn
  | .kickClientSend c _ cn dn _ => (.clientClose cn, c) :: destinationCloses c dn
  | .kickDestLookup c _ dn _ => destinationCloses c dn
  | .kickDestSend c _ dn _ => [(.destinationClose dn, c)]
  | _ => []

namespace Hub
open HubEvent HubPc

def owed (h : Hub) (pc : HubPc) : List Item :=
  pc.owed h.clientStore.names h.connectedDestinationHandlers

/-- Some goroutine is in the middle of a kick of the client. -/
def MidKicked (h : Hub) (c : ClientId) : Prop := ¬∀ g, (h.pc g).midKick c = false

instance (h : Hub) (c : ClientId) : Decidable (h.MidKicked c) := inferInstanceAs (Decidable (¬_))

/-- What the kick of the client sends, if it is still to come. -/
def kickOwed (h : Hub) (c : ClientId) : List Item :=
  if h.MidKicked c then [] else ((h.clientStore.names c).map (kickCloses c)).getD []

def clients (h : Hub) : Finset ClientId := h.clientStore.clientConnections.keys.toFinset

/-- How many items of a kind the hub still sends. -/
def need (h : Hub) (p : Item → Bool) : Nat :=
  total (fun pc => (h.owed pc).countP p) h + ∑ c ∈ h.clients, (h.kickOwed c).countP p

variable {h : Hub} {e : HubEvent} {g : Goroutine} {c : ClientId} {p : Item → Bool}

theorem mem_clients : c ∈ h.clients ↔ h.clientStore.names c ≠ none := by
  rw [clients, List.mem_toFinset, ← AList.mem_keys, ne_eq, ClientStore.names_eq_none]
  exact AList.lookup_isSome.symm.trans Option.isSome_iff_ne_none

/-- What a goroutine has in its hands gets less, unless a kick begins. -/
theorem owed_next (p : Item → Bool) (he : h.enabled e) (hm : e.mover = some g) (hb : ¬e.Begins)
    (hk : ∀ c, ¬e.BeginsKick c) :
    e.target.toList.countP p + (h.owed ((h.next e).pc g)).countP p ≤
      (h.owed (h.pc g)).countP p := by
  cases e <;> simp only [mover, Option.some.injEq, reduceCtorEq] at hm
  all_goals
    subst hm
    simp only [enabled] at he
  case recvClientMessage | recvOpenClient | recvClientClose | recvDestinationMessage | recvVerdict
      | recvDestinationClose | ticker => exact (hb trivial).elim
  case kickClientName c _ _ => exact (hk c rfl).elim
  case kickAllNext c _ => exact (hk c rfl).elim
  case fwdClientName m t name =>
    obtain ⟨cn, hn⟩ := ClientStore.names_of_destination he.2
    simp [owed, HubPc.owed, next, target, op, he.1, hn]
  case fwdDestName m t name =>
    obtain ⟨dn, hn⟩ := ClientStore.names_of_client he.2
    simp [owed, HubPc.owed, next, target, op, he.1, hn]
  case verdictName v name =>
    obtain ⟨dn, hn⟩ := ClientStore.names_of_client he.2
    simp [owed, HubPc.owed, next, target, op, he.1, hn]
  case reqName m t =>
    obtain ⟨cn, hn⟩ := ClientStore.names_of_destination he.2
    simp [owed, HubPc.owed, next, target, op, he.1, hn]
  case reqMatch m t name =>
    simp [owed, HubPc.owed, attachSends, next, target, op, he.1, he.2]
  case kickDestName g c r cn k =>
    have hdn : destinationCloses c (nameOrEmpty (h.clientStore.getDestinationHandlerName c)) =
        ((h.clientStore.names c).map fun n => destinationCloses c n.2).getD [] := by
      unfold ClientStore.getDestinationHandlerName ClientStore.names
      cases h.clientStore.get c <;> rfl
    simp [owed, HubPc.owed, next, target, op, he, hdn]
  case kickRemove g c r k =>
    cases k <;> simp [owed, HubPc.owed, next, target, op, KickReturn.resume]
  case kickClientLock => simp [owed, HubPc.owed, next, target, op, he.1, clientCloses, he.2.1]
  case kickDestLock => simp [owed, HubPc.owed, next, target, op, he.1, destinationCloses, he.2.1]
  case reqAttach m t name =>
    simp only [owed, HubPc.owed, next, target, op, he.1, goto_pc, Function.update_self,
      Option.toList_none, List.countP_cons, List.countP_nil]
    omega
  case kickClientSend =>
    simp only [owed, HubPc.owed, next, target, op, he, goto_pc, Function.update_self,
      Option.toList_some, List.countP_cons, List.countP_nil, Chan.client, closeCommand]
    omega
  case fwdClientNow | fwdClientSend | clientStampNow | clientStamp | fwdDestNow | fwdDestSend
      | destStampNow | destStamp | verdictConnect | verdictSend | reqNow | reqSend | kickDestSend
      | sweepNow₁ | sweepNow₂ | sweepNow₃ | kickOldClient | sweepDone | authNow
      | kickUnauthedClient | authDone =>
    simp [owed, HubPc.owed, next, target, op, he, Chan.client, closeCommand]
  all_goals
    simp [owed, HubPc.owed, next, target, op, he.1]

/-- A step of the hub in an order in which no kick begins and no client is attached at the wrong
moment. -/
structure Orderly (h : Hub) (e : HubEvent) : Prop where
  begins : ¬e.Begins
  kick : ∀ c, e.BeginsKick c → ¬h.MidKicked c
  attach : ∀ m t name, e = .reqAttach m t name →
    ∀ g r cn k, h.pc g ≠ .kickDestName m.clientId r cn k

theorem midKicked_of_begins (he : h.enabled e) (hm : e.mover = some g) (hb : e.BeginsKick c) :
    (h.next e).MidKicked c := by
  intro hall
  rcases midKick_next (c := c) he hm with ⟨-, -, hmid⟩ | ⟨hno, -⟩ | ⟨hno, -⟩
  · simp [hall g] at hmid
  · exact hno hb
  · exact hno hb

/-- A kick under way stays under way until the record is removed. -/
theorem midKicked_next (he : h.enabled e) (hc : h.MidKicked c)
    (hrec : (h.next e).clientStore.names c ≠ none) : (h.next e).MidKicked c := by
  intro hall
  refine hc fun g' => ?_
  by_cases hg : e.mover = some g'
  · rcases midKick_next (c := c) he hg with ⟨-, hno, -⟩ | ⟨-, -, -, hgone⟩ | ⟨-, hsame⟩
    · exact hno
    · refine (hrec ?_).elim
      rw [ClientStore.names_eq_none]
      simpa [ClientStore.hasClient] using hgone
    · rw [← hsame]
      exact hall g'
  · rw [← pc_next_of_ne hg]
    exact hall g'

theorem kickOwed_of_not_midKicked (hc : ¬h.MidKicked c) :
    h.kickOwed c = ((h.clientStore.names c).map (kickCloses c)).getD [] := if_neg hc

/-- What the kick of a client sends gets more only when the client is attached. -/
theorem kickOwed_next (p : Item → Bool) (he : h.enabled e) (hm : e.mover = some g) (c : ClientId) :
    ((h.next e).kickOwed c).countP p ≤ (h.kickOwed c).countP p ∨
      ∃ m t name, e = .reqAttach m t name ∧ m.clientId = c ∧
        ((h.next e).kickOwed c).countP p ≤
          (h.kickOwed c).countP p + (destinationCloses c name).countP p := by
  by_cases hrec : (h.next e).clientStore.names c = none
  · refine .inl ?_
    unfold kickOwed
    simp [hrec]
  by_cases hmid : (h.next e).MidKicked c
  · refine .inl ?_
    rw [kickOwed, if_pos hmid]
    exact Nat.zero_le _
  have hmid' : ¬h.MidKicked c := fun hmid' => hmid (midKicked_next he hmid' hrec)
  rw [kickOwed_of_not_midKicked hmid, kickOwed_of_not_midKicked hmid']
  rcases names_next he c with ⟨_, _, rfl, -⟩ | ⟨_, _, _, -, hnone⟩ |
    ⟨m, t, name, cn, dn, rfl, hid, hold, hnew⟩ | hsame
  · cases hm
  · exact (hrec hnone).elim
  · refine .inr ⟨m, t, name, rfl, hid, ?_⟩
    simp only [hold, hnew, Option.map_some, Option.getD_some, kickCloses, List.countP_append]
    omega
  · exact .inl (by rw [hsame])

theorem names_of_mover (he : h.enabled e) (hm : e.mover = some g)
    (hno : ∀ m t name, e ≠ .reqAttach m t name) (c : ClientId) :
    (h.next e).clientStore.names c = none ∨
      (h.next e).clientStore.names c = h.clientStore.names c := by
  rcases names_next he c with ⟨_, _, rfl, -⟩ | ⟨_, _, _, -, hnone⟩ | ⟨m, t, name, _, _, rfl, -⟩ |
    hsame
  · cases hm
  · exact .inl hnone
  · exact (hno m t name rfl).elim
  · exact .inr hsame

theorem connected_of_mover (hm : e.mover = some g) :
    (h.next e).connectedDestinationHandlers = h.connectedDestinationHandlers := by
  cases e <;> first | rfl | cases hm

theorem clients_subset (he : h.enabled e) (hm : e.mover = some g) :
    (h.next e).clients ⊆ h.clients := by
  intro c hc
  rw [mem_clients] at hc ⊢
  rcases names_next he c with ⟨_, _, rfl, -⟩ | ⟨_, _, _, -, hnone⟩ |
    ⟨_, _, _, _, _, -, -, hold, -⟩ | hsame
  · cases hm
  · exact (hc hnone).elim
  · simp [hold]
  · rwa [hsame] at hc

/-- Fewer records, less to send. -/
theorem owed_mono {h' : Hub} (hconn : h'.connectedDestinationHandlers =
      h.connectedDestinationHandlers)
    (hnames : ∀ c, h'.clientStore.names c = none ∨ h'.clientStore.names c = h.clientStore.names c)
    (pc : HubPc) : (h'.owed pc).countP p ≤ (h.owed pc).countP p := by
  unfold owed
  rw [hconn]
  cases pc
  case fwdClientNow m | fwdClientName m _ | fwdDestNow m | fwdDestName m _ | verdictName m
      | reqNow m | reqName m _ =>
    rcases hnames m.clientId with hno | hsame <;> simp [HubPc.owed, *]
  case kickDestName c _ _ _ =>
    rcases hnames c with hno | hsame <;> simp [HubPc.owed, *]
  all_goals exact le_rfl

/-- Attaching a client concerns nobody but the client goroutine, and a kick that is about to read
the name of the destination handler. -/
theorem owed_attach {m : OpenClientConnectionCommand} {t : Timestamp} {name : String} {pc : HubPc}
    (he : h.enabled (.reqAttach m t name)) (hpc : pc.Belongs g) (hg : g ≠ .client)
    (hno : ∀ r cn k, pc ≠ .kickDestName m.clientId r cn k) :
    (h.next (.reqAttach m t name)).owed pc = h.owed pc := by
  have hnames : ∀ c, c ≠ m.clientId → (h.next (.reqAttach m t name)).clientStore.names c =
      h.clientStore.names c := by
    intro c hc
    rcases names_next he c with ⟨_, _, he', -⟩ | ⟨_, _, _, he', -⟩ |
      ⟨_, _, _, _, _, he', hid, -⟩ | hsame
    · cases he'
    · cases he'
    · cases he'
      exact (hc hid.symm).elim
    · exact hsame
  have hfst : ∀ c, ((h.next (.reqAttach m t name)).clientStore.names c).map Prod.fst =
      (h.clientStore.names c).map Prod.fst := by
    intro c
    rcases names_next he c with ⟨_, _, he', -⟩ | ⟨_, _, _, he', -⟩ |
      ⟨_, _, _, _, _, -, -, hold, hnew⟩ | hsame
    · cases he'
    · cases he'
    · rw [hold, hnew]
      rfl
    · rw [hsame]
  have hmap : ∀ (f : String → Item) (c : ClientId),
      ((h.next (.reqAttach m t name)).clientStore.names c).map (fun n => f n.1) =
        (h.clientStore.names c).map fun n => f n.1 := by
    intro f c
    have := congrArg (Option.map f) (hfst c)
    simpa [Option.map_map, Function.comp_def] using this
  unfold owed
  rw [connected_of_mover rfl]
  cases pc
  case fwdDestNow m' | fwdDestName m' _ =>
    exact congrArg Option.toList (hmap (fun cn => (.clientMessage cn, m'.clientId)) m'.clientId)
  case verdictName v =>
    exact congrArg Option.toList (hmap (fun cn => (.clientVerdict cn, v.clientId)) v.clientId)
  case kickDestName c r cn k =>
    by_cases hc : c = m.clientId
    · subst hc
      exact (hno r cn k rfl).elim
    · simp only [HubPc.owed, hnames c hc]
  case fwdClientNow | fwdClientName | reqNow | reqName => exact (hg hpc).elim
  all_goals rfl

/-- What the goroutines have in their hands after a step, compared with what they had before. -/
theorem total_owed_next (p : Item → Bool) (hb : ∀ g, (h.pc g).Belongs g) (he : h.enabled e)
    (hm : e.mover = some g) (ho : Orderly h e) :
    total (fun pc => ((h.next e).owed pc).countP p) (h.next e) + (h.owed (h.pc g)).countP p ≤
      total (fun pc => (h.owed pc).countP p) h + (h.owed ((h.next e).pc g)).countP p := by
  rw [← total_next (fun pc => (h.owed pc).countP p) hm]
  refine Nat.add_le_add_right (total_mono fun g' => ?_) _
  by_cases hattach : ∃ m t name, e = .reqAttach m t name
  · obtain ⟨m, t, name, rfl⟩ := hattach
    by_cases hg' : g' = .client
    · subst hg'
      simp [next, owed, HubPc.owed]
    · rw [pc_next_of_ne (by simpa [mover] using Ne.symm hg'),
        owed_attach he (hb g') hg' fun r cn k => ho.attach m t name rfl g' r cn k]
  · exact owed_mono (connected_of_mover hm) (names_of_mover he hm fun m t name he' =>
      hattach ⟨m, t, name, he'⟩) _

/-- A kick that begins owes what its client's record says. -/
theorem owed_of_begins (he : h.enabled e) (hm : e.mover = some g) (hb : e.BeginsKick c) :
    e.target = none ∧
      h.owed ((h.next e).pc g) = ((h.clientStore.names c).map (kickCloses c)).getD [] := by
  cases e <;> simp only [BeginsKick] at hb
  all_goals
    subst hb
    cases hm
    refine ⟨rfl, ?_⟩
  · simp only [owed, HubPc.owed, next, goto_pc, Function.update_self, ClientStore.names,
      ClientStore.getClientHandlerName]
    cases h.clientStore.get _ <;> rfl
  · simp only [owed, HubPc.owed, next, goto_pc, Function.update_self, ClientStore.names, he.2]
    rfl

/-- A kick that begins takes over what was counted for its client. -/
theorem sum_begins (p : Item → Bool) (he : h.enabled e) (hm : e.mover = some g)
    (hb : e.BeginsKick c) (hmid : ¬h.MidKicked c) :
    ∑ c ∈ (h.next e).clients, ((h.next e).kickOwed c).countP p +
      (h.owed ((h.next e).pc g)).countP p ≤ ∑ c ∈ h.clients, (h.kickOwed c).countP p := by
  have hle : ∀ c', ((h.next e).kickOwed c').countP p ≤ (h.kickOwed c').countP p := by
    intro c'
    rcases kickOwed_next p he hm c' with hle | ⟨_, _, _, rfl, -⟩
    · exact hle
    · cases hb
  have hzero : (h.next e).kickOwed c = [] := if_pos (midKicked_of_begins he hm hb)
  have hsum : ∑ c ∈ (h.next e).clients, ((h.next e).kickOwed c).countP p ≤
      ∑ c' ∈ h.clients.erase c, (h.kickOwed c').countP p := by
    calc ∑ c' ∈ (h.next e).clients, ((h.next e).kickOwed c').countP p
        ≤ ∑ c' ∈ h.clients, ((h.next e).kickOwed c').countP p :=
          Finset.sum_le_sum_of_subset (clients_subset he hm)
      _ = ∑ c' ∈ h.clients.erase c, ((h.next e).kickOwed c').countP p :=
          (Finset.sum_erase _ (by rw [hzero]; rfl)).symm
      _ ≤ ∑ c' ∈ h.clients.erase c, (h.kickOwed c').countP p :=
          Finset.sum_le_sum fun c' _ => hle c'
  rw [(owed_of_begins he hm hb).2, ← kickOwed_of_not_midKicked hmid]
  by_cases hc : c ∈ h.clients
  · rw [← Finset.sum_erase_add _ _ hc]
    exact Nat.add_le_add_right hsum _
  · rw [mem_clients, not_not] at hc
    rw [kickOwed_of_not_midKicked hmid, hc]
    exact hsum.trans (Finset.sum_le_sum_of_subset (Finset.erase_subset ..))

/-- An attachment adds one close command. -/
theorem sum_attach (p : Item → Bool) {m : OpenClientConnectionCommand} {t : Timestamp}
    {name : String} (he : h.enabled (.reqAttach m t name)) :
    ∑ c ∈ (h.next (.reqAttach m t name)).clients,
      ((h.next (.reqAttach m t name)).kickOwed c).countP p ≤
        ∑ c ∈ h.clients, (h.kickOwed c).countP p +
          (destinationCloses m.clientId name).countP p := by
  have hle : ∀ c, ((h.next (.reqAttach m t name)).kickOwed c).countP p ≤ (h.kickOwed c).countP p +
      if c = m.clientId then (destinationCloses m.clientId name).countP p else 0 := by
    intro c
    rcases kickOwed_next (g := .client) p he rfl c with hle | ⟨_, _, _, he', hid, hle⟩
    · exact Nat.le_add_right_of_le hle
    · cases he'
      subst hid
      simpa using hle
  calc ∑ c ∈ (h.next (.reqAttach m t name)).clients,
        ((h.next (.reqAttach m t name)).kickOwed c).countP p
      ≤ ∑ c ∈ h.clients, ((h.next (.reqAttach m t name)).kickOwed c).countP p :=
        Finset.sum_le_sum_of_subset (clients_subset (g := .client) he rfl)
    _ ≤ ∑ c ∈ h.clients, ((h.kickOwed c).countP p +
          if c = m.clientId then (destinationCloses m.clientId name).countP p else 0) :=
        Finset.sum_le_sum fun c _ => hle c
    _ ≤ _ := by
        rw [Finset.sum_add_distrib, Finset.sum_ite_eq']
        split <;> omega

/-- A step in good order sends what it was needed for. -/
theorem need_next (p : Item → Bool) (hb : ∀ g, (h.pc g).Belongs g) (he : h.enabled e)
    (hm : e.mover = some g) (ho : Orderly h e) :
    (h.next e).need p + e.target.toList.countP p ≤ h.need p := by
  have htotal := total_owed_next p hb he hm ho
  unfold need
  by_cases hbegins : ∃ c, e.BeginsKick c
  · obtain ⟨c, hbegins⟩ := hbegins
    have hsum := sum_begins p he hm hbegins (ho.kick c hbegins)
    rw [(owed_of_begins he hm hbegins).1]
    simp only [Option.toList_none, List.countP_nil]
    omega
  by_cases hattach : ∃ m t name, e = .reqAttach m t name
  · obtain ⟨m, t, name, rfl⟩ := hattach
    obtain rfl := Option.some.inj hm
    have hsum := sum_attach p he
    have howed : (h.owed (h.pc .client)).countP p =
        (destinationCloses m.clientId name).countP p +
          (h.owed ((h.next (.reqAttach m t name)).pc .client)).countP p := by
      simp only [owed, HubPc.owed, next, he.1, goto_pc, Function.update_self, List.countP_cons,
        List.countP_nil]
      omega
    simp only [target, op, Option.toList_none, List.countP_nil]
    omega
  · have howed := owed_next p he hm ho.begins fun c hc => hbegins ⟨c, hc⟩
    have hsum : ∑ c ∈ (h.next e).clients, ((h.next e).kickOwed c).countP p ≤
        ∑ c ∈ h.clients, (h.kickOwed c).countP p := by
      refine (Finset.sum_le_sum_of_subset (clients_subset he hm)).trans ?_
      refine Finset.sum_le_sum fun c _ => ?_
      rcases kickOwed_next p he hm c with hle | ⟨m, t, name, he', -⟩
      · exact hle
      · exact (hattach ⟨m, t, name, he'⟩).elim
    omega

end Hub

/-! ## Every step brings the end closer -/

namespace Hub
open HubEvent HubPc
variable {h : Hub} {e : HubEvent} {g : Goroutine} {c : ClientId}

theorem card_clients : h.clients.card = h.clientStore.clientConnections.entries.length := by
  rw [clients, List.toFinset_card_of_nodup h.clientStore.clientConnections.keys_nodup]
  simp [AList.keys, List.keys]

/-- The clients `Start` has still to begin to kick. -/
def left (h : Hub) : Finset ClientId :=
  h.clients.filter fun c => (h.pc .main).midKick c = false

/-- The steps that are left until `Start` returns. -/
def work (h : Hub) : Nat := total (HubPc.steps h.clients.card) h + 8 * h.left.card

theorem left_subset (he : h.enabled e) (hm : e.mover = some g) : (h.next e).left ⊆ h.left := by
  intro c hc
  obtain ⟨hmem, hmid⟩ := Finset.mem_filter.mp hc
  refine Finset.mem_filter.mpr ⟨clients_subset he hm hmem, ?_⟩
  by_cases hmain : e.mover = some .main
  · rcases midKick_next (c := c) he hmain with ⟨-, hno, -⟩ | ⟨-, -, -, hgone⟩ | ⟨-, hsame⟩
    · exact hno
    · refine (mem_clients.mp hmem ?_).elim
      rw [ClientStore.names_eq_none]
      simpa [ClientStore.hasClient] using hgone
    · rwa [← hsame]
  · rwa [← pc_next_of_ne hmain]

theorem work_next (he : h.enabled e) (hm : e.mover = some g) (hb : ¬e.Begins) :
    (h.next e).work < h.work := by
  have hcard := Finset.card_le_card (clients_subset he hm)
  have htotal : total (HubPc.steps (h.next e).clients.card) (h.next e) ≤
      total (HubPc.steps h.clients.card) (h.next e) := total_mono fun g => HubPc.steps_mono hcard _
  have hmove := total_next (h := h) (HubPc.steps h.clients.card) hm
  unfold work
  by_cases hall : ∃ c connection, e = .kickAllNext c connection
  · -- a client less to begin with
    obtain ⟨c, connection, rfl⟩ := hall
    obtain rfl := Option.some.inj hm
    have hc : c ∈ h.left := by
      refine Finset.mem_filter.mpr ⟨mem_clients.mpr ?_, by rw [he.1]; rfl⟩
      rw [ne_eq, ClientStore.names_eq_none, he.2]
      simp
    have hsub : (h.next (.kickAllNext c connection)).left ⊆ h.left.erase c := by
      intro c' hc'
      refine Finset.mem_erase.mpr ⟨?_, left_subset he hm hc'⟩
      rintro rfl
      simp [left, next, midKick] at hc'
    have hleft := Finset.card_le_card hsub
    rw [Finset.card_erase_of_mem hc] at hleft
    have hpos := Finset.card_pos.mpr ⟨c, hc⟩
    have hnew : ((h.next (.kickAllNext c connection)).pc .main).steps h.clients.card = 6 := by
      simp [next, HubPc.steps, KickReturn.steps]
    have hold : (h.pc .main).steps h.clients.card = 1 := by
      rw [he.1]
      rfl
    omega
  · have hleft := Finset.card_le_card (left_subset he hm)
    have hlt := steps_next he hm hb (fun c connection he' => hall ⟨c, connection, he'⟩)
      fun _ => card_clients.ge
    omega

/-! ## There is always a step in good order -/

/-- What holds of a hub that is being shut down. -/
structure Closing (h : Hub) : Prop where
  sane : h.Sane
  done : h.done = true
  main : h.Waits
  matching : h.Matches

theorem busy_of_midKick {pc : HubPc} (hmid : pc.midKick c = true) : pc.busy = true := by
  cases pc <;> first | rfl | cases hmid

theorem orderly_of_plain (hp : e.plain = true) : Orderly h e := by
  cases e
  case recvClientMessage | recvOpenClient | recvClientClose | recvDestinationMessage | recvVerdict
      | recvDestinationClose | ticker | kickClientName | kickAllNext | reqAttach => cases hp
  all_goals exact ⟨by simp [Begins], by simp [BeginsKick], by simp⟩

theorem matches_next (hmatch : h.Matches) (he : h.enabled e) (hm : e.mover = some g)
    (hb : ¬e.Begins) : (h.next e).Matches := by
  have hconn := connected_of_mover (h := h) hm
  by_cases hclient : g = .client
  · subst hclient
    cases e <;> simp only [mover, Option.some.injEq, reduceCtorEq] at hm
    all_goals
      try subst hm
      simp only [enabled] at he
    case recvOpenClient => exact (hb trivial).elim
    case reqNow m =>
      simp only [Matches, he] at hmatch
      simpa [Matches, next] using hmatch
    case reqName m t =>
      simp only [Matches, he.1] at hmatch
      obtain ⟨md, hmd, hname⟩ := Option.map_eq_some_iff.mp he.2
      simpa [Matches, next] using hmatch md hmd hname
    case kickRemove c r k => cases k <;> simp [Matches, next, KickReturn.resume]
    all_goals simp [Matches, next]
  · have hstay : (h.next e).pc .client = h.pc .client :=
      pc_next_of_ne fun hg => hclient (Option.some.inj (hm.symm.trans hg))
    have hnames : ∀ c, (h.next e).clientStore.names c = none ∨
        (h.next e).clientStore.names c = h.clientStore.names c :=
      names_of_mover he hm (by rintro m t name rfl; exact hclient (Option.some.inj hm).symm)
    -- the record of the client is still there only if it names the same handlers
    have hrec : ∀ c md, (h.next e).clientStore.get c = some md → md.destinationHandlerName = "" →
        ∃ md', h.clientStore.get c = some md' ∧ md'.destinationHandlerName = "" := by
      intro c md hmd hempty
      rcases hnames c with hnone | hsame
      · rw [ClientStore.names_eq_none] at hnone
        simp [hmd] at hnone
      · simp only [ClientStore.names, hmd, Option.map_some] at hsame
        obtain ⟨md', hmd', heq⟩ := Option.map_eq_some_iff.mp hsame.symm
        exact ⟨md', hmd', (congrArg Prod.snd heq).trans hempty⟩
    unfold Matches at hmatch ⊢
    rw [hstay, hconn]
    cases hpc : h.pc .client <;> simp only [hpc] at hmatch ⊢
    case reqNow m | reqName m t =>
      intro md hmd hempty
      obtain ⟨md', hmd', hempty'⟩ := hrec _ md hmd hempty
      exact hmatch md' hmd' hempty'
    case reqMatch => exact hmatch

theorem Closing.next (hc : Closing h) (he : h.enabled e) (hm : e.mover = some g)
    (hb : ¬e.Begins) : Closing (h.next e) where
  sane := hc.sane.next he
  done := by
    rw [← hc.done]
    cases e <;> first | rfl | cases hm
  main := waits_next hc.main he
  matching := matches_next hc.matching he hm hb

/-- A goroutine does its next operation, if what would make it wait or come at the wrong moment is
ruled out. -/
theorem Closing.advance (hc : Closing h) (hg : h.pc g = .select ∨ (h.pc g).busy = true)
    (hkick : ∀ c r k, h.pc g = .kickClientName c r k → ¬h.MidKicked c)
    (hattach : ∀ m t name, h.pc g = .reqAttach m t name →
      ∀ g' r cn k, h.pc g' ≠ .kickDestName m.clientId r cn k)
    (hclient : (h.pc g).locksClients = true → h.ClientLock)
    (hdestination : (h.pc g).locksDestinations = true → h.DestinationLock) :
    ∃ e, h.enabled e ∧ e.mover = some g ∧ Orderly h e := by
  rcases hg with hsel | hbusy
  · exact ⟨.exit g, ⟨hsel, hc.done⟩, rfl, orderly_of_plain rfl⟩
  obtain ⟨e, he, hm, hb⟩ :=
    exists_op (hc.sane.belongs g) hbusy hc.matching hclient hdestination
  refine ⟨e, he, hm, hb, ?_, ?_⟩
  · intro c hbegins
    cases e <;> simp only [BeginsKick] at hbegins
    case kickClientName r k =>
      subst hbegins
      cases hm
      exact hkick _ r k he
    case kickAllNext =>
      cases hm
      rw [he.1] at hbusy
      cases hbusy
  · rintro m t name rfl
    cases hm
    exact hattach m t name he.1

/-- `Start` goes on when its goroutines have returned. -/
theorem Closing.advance_main (hc : Closing h) (hmain : h.pc .main ≠ .exited)
    (hothers : ∀ g, g ≠ .main → h.pc g = .exited) (hno : ∀ c, (h.pc .main).midKick c = false) :
    ∃ e, h.enabled e ∧ e.mover = some .main ∧ Orderly h e := by
  have hb := hc.sane.belongs .main
  have hfree : ∀ c, ¬h.MidKicked c := by
    intro c hmid
    refine hmid fun g => ?_
    by_cases hg : g = .main
    · rw [hg]
      exact hno c
    · rw [hothers g hg]
      rfl
  cases hpc : h.pc .main <;> rw [hpc] at hb hno
  case exited => exact (hmain hpc).elim
  case waitGroup =>
    exact ⟨.waitGroup, ⟨hpc, hothers _ (by simp), hothers _ (by simp), hothers _ (by simp)⟩, rfl,
      orderly_of_plain rfl⟩
  case kickAllClients =>
    cases hentries : h.clientStore.clientConnections.entries with
    | nil =>
      exact ⟨.kickAllDone, ⟨hpc, hentries⟩, rfl,
        orderly_of_plain rfl⟩
    | cons a l =>
      have hget : h.clientStore.get a.1 = some a.2 := by
        refine AList.mem_lookup_iff.mpr ?_
        rw [hentries]
        exact List.mem_cons_self
      exact ⟨.kickAllNext a.1 a.2, ⟨hpc, hget⟩, rfl, by simp [Begins], fun c _ => hfree c, by simp⟩
  case kickClientLookup c _ _ _ _ | kickClientSend c _ _ _ _ | kickDestLookup c _ _ _
      | kickDestSend c _ _ _ | kickRemove c _ _ => simp [midKick] at hno
  case kickClientName | kickDestName => exact (hb.2 rfl).elim
  case select => exact (hb rfl).elim
  all_goals cases hb

/-- As long as `Start` has not returned there is a step in good order: who is about to read a
destination goes first, then who holds a lock, then who is in the middle of a kick. -/
theorem Closing.exists_step (hc : Closing h) (hmain : h.pc .main ≠ .exited) :
    ∃ e g, h.enabled e ∧ e.mover = some g ∧ Orderly h e := by
  by_cases hreads : ∃ g c r cn k, h.pc g = .kickDestName c r cn k
  · obtain ⟨g, c, r, cn, k, hpc⟩ := hreads
    obtain ⟨e, he⟩ := hc.advance (g := g) (.inr (by rw [hpc]; rfl)) (by simp [hpc]) (by simp [hpc])
      (by simp [hpc, HubPc.locksClients]) (by simp [hpc, HubPc.locksDestinations])
    exact ⟨e, g, he⟩
  push Not at hreads
  by_cases hwaits : ∃ g ch, (h.pc g).waitsOn = some ch
  · obtain ⟨g, ch, hwait⟩ := hwaits
    obtain ⟨hclient, hdestination⟩ := locks_of_waitsOn hwait
    obtain ⟨e, he⟩ := hc.advance (g := g) (.inr (busy_of_waitsOn hwait))
      (by intro c r k hpc; simp [hpc, waitsOn] at hwait) (fun m _ _ _ g' => hreads g' m.clientId)
      (by simp [hclient]) (by simp [hdestination])
    exact ⟨e, g, he⟩
  push Not at hwaits
  have hclient : h.ClientLock := clientLock_iff.mpr fun g ch hg => (hwaits g ch hg).elim
  have hdestination : h.DestinationLock :=
    destinationLock_iff.mpr fun g ch hg => (hwaits g ch hg).elim
  by_cases hmid : ∃ g c, (h.pc g).midKick c = true
  · obtain ⟨g, c, hmid⟩ := hmid
    obtain ⟨e, he⟩ := hc.advance (g := g) (.inr (busy_of_midKick hmid))
      (by intro c r k hpc; simp [hpc, midKick] at hmid) (fun m _ _ _ g' => hreads g' m.clientId)
      (fun _ => hclient) fun _ => hdestination
    exact ⟨e, g, he⟩
  push Not at hmid
  have hmid' : ∀ g c, (h.pc g).midKick c = false := fun g c => by simpa using hmid g c
  by_cases hothers : ∀ g, g ≠ .main → h.pc g = .exited
  · obtain ⟨e, he⟩ := hc.advance_main hmain hothers (hmid' .main)
    exact ⟨e, .main, he⟩
  push Not at hothers
  obtain ⟨g, hg, hpc⟩ := hothers
  obtain ⟨e, he⟩ := hc.advance (g := g) ((hc.sane.belongs g).select_or_busy hg hpc)
    (fun c _ _ _ hc' => hc' fun g' => hmid' g' c) (fun m _ _ _ g' => hreads g' m.clientId)
    (fun _ => hclient) fun _ => hdestination
  exact ⟨e, g, he⟩

/-- `Start` has returned: its goroutines have exited, and `KickAllClients`, the last thing it does,
has left nobody in the store. -/
def Returned (h : Hub) : Prop :=
  (∀ g, h.pc g = .exited) ∧ h.clientStore.clientConnections.entries = []

theorem returned_next (hs : h.Sane) (hw : h.Waits) (he : h.enabled e)
    (hmain : h.pc .main ≠ .exited) (hnew : (h.next e).pc .main = .exited) :
    (h.next e).Returned := by
  have hm : e.mover = some .main := by
    by_contra hne
    exact hmain ((pc_next_of_ne hne).symm.trans hnew)
  cases e <;> simp only [mover, Option.some.injEq, reduceCtorEq] at hm
  all_goals try subst hm
  case kickAllDone =>
    refine ⟨fun g => ?_, he.2⟩
    by_cases hg : g = .main
    · rw [hg]
      exact hnew
    · have hstay : (h.next .kickAllDone).pc g = h.pc g :=
        pc_next_of_ne fun hg' => hg (Option.some.inj hg').symm
      exact hstay.trans (hw (by simp [he.1]) g hg)
  case exit =>
    have hb := hs.belongs .main
    rw [he.1] at hb
    exact (hb rfl).elim
  case kickRemove c r k => cases k <;> simp [next, KickReturn.resume] at hnew
  all_goals simp [next] at hnew

end Hub
end Spanreed
