import Spanreed.Backend
import Spanreed.HubProgress

/-! # Hub and UDP handler wait for each other

The client goroutine of the hub waits for the UDP handler inside the map of destination channels.
The UDP handler's goroutines wait for room in the hub's queues, which only the destination goroutine
makes; and that one waits for the map if it kicks a client with a destination. Then nothing moves
any more (`waits_in_circle`). If the destination goroutine is not in such a kick, or the hub's
queues have room for what the UDP handler has in its hands, the client goroutine gets back to its
`select` (`client_returns`). -/

namespace Spanreed
open Flatbuffers Automata

/-- In a kick that has still to tell a destination handler. -/
def HubPc.TellsDestination (h : Hub) : HubPc → Prop
  | .kickClientName c _ _ | .kickDestName c _ _ _ =>
    ∃ md, h.clientStore.get c = some md ∧ md.destinationHandlerName ≠ ""
  | .kickClientLookup _ _ _ dn _ | .kickClientSend _ _ _ dn _ | .kickDestLookup _ _ dn _ => dn ≠ ""
  | .kickDestSend .. => True
  | _ => False

theorem HubPc.TellsDestination.congr {pc : HubPc} {h h' : Hub} (ht : pc.TellsDestination h')
    (hstore : h'.clientStore = h.clientStore) : pc.TellsDestination h := by
  unfold HubPc.TellsDestination at ht ⊢
  rwa [hstore] at ht

/-- The hub's queue the datagram listener is about to fill. -/
def DatagramPc.waitsOn : DatagramPc → Option Chan
  | .sendVerdict .. => some .incomingDestinationVerdict
  | .messageNow .. | .sendMessage .. => some .incomingDestinationMessage
  | .sendClose .. => some .incomingDestinationClose
  | _ => none

namespace Udp

/-- The proxy message listener is about to refuse a client. -/
def refuses (u : Udp) : Bool :=
  match u.listener with
  | .reject _ => true
  | .connect m =>
    match u.params.connectAddress m.connectionString with
    | some (.error _) => true
    | _ => false
  | _ => false

/-- The items for a queue of the hub that the goroutines of the UDP handler have in their hands. -/
def inHand (u : Udp) (ch : Chan) : Nat :=
  (if u.datagrams.waitsOn = some ch then 1 else 0) +
    (if u.refuses = true ∧ ch = .incomingDestinationVerdict then 1 else 0)

end Udp

/-! ## The destination goroutine -/

namespace HubNet
open HubPc
variable {cap : Capacities} {s s' : HubNet} {g : Goroutine}

/-- The client goroutine has matched its request. -/
def Matched (s : HubNet) : Prop := (s.1.pc .client).matching = false

theorem Yields.matched {p : Chan → Bool} (h : Yields p s s' .client) (hm : s.Matched) :
    s'.Matched := by
  rcases h with hsame | ⟨-, -, hmatch⟩
  · rwa [Matched, hsame]
  · exact hmatch

/-- The map of client channels can be had. -/
theorem frees_client (hs : s.Sound cap) :
    ∃ s', Gets cap Chan.takenByClient s s' ∧ s'.1.ClientLock ∧
      ∀ g, Yields Chan.isClient s s' g := by
  obtain ⟨s', hreach, hfree, hyield, -⟩ := free Chan.takenByClient hs
    (client_holder_unique hs) fun g ch _ hch => .inl (Chan.takenByClient_of_isClient hch)
  exact ⟨s', hreach, Hub.clientLock_iff.mpr hfree, hyield⟩

/-- The destination goroutine is not about to tell a destination handler, and the client goroutine
has matched its request. -/
structure Calm (cap : Capacities) (s : HubNet) : Prop where
  sound : s.Sound cap
  destination : ¬(s.1.pc .destination).TellsDestination s.1
  client : s.Matched

/-- A kick that has nobody to tell at its destination stays that way. -/
theorem tells_next {h : Hub} {e : HubEvent} (he : h.enabled e) (hm : e.mover = some .destination)
    (hb : ¬e.Begins) (ht : ¬(h.pc .destination).TellsDestination h) :
    ¬((h.next e).pc .destination).TellsDestination (h.next e) := by
  cases e <;> simp only [HubEvent.mover, Option.some.injEq, reduceCtorEq] at hm
  all_goals
    try subst hm
    simp only [Hub.enabled] at he
  case recvDestinationClose => exact (hb trivial).elim
  case kickClientName c r k =>
    rw [he] at ht
    simpa [Hub.next, TellsDestination] using ht
  case kickDestName c r cn k =>
    rw [he] at ht
    simp only [TellsDestination, not_exists, not_and, not_not] at ht
    simp only [Hub.next, Hub.goto_pc, Function.update_self, TellsDestination, not_not,
      ClientStore.getDestinationHandlerName]
    cases hget : h.clientStore.get c with
    | none => rfl
    | some md => exact ht md hget
  case kickClientSkip c r cn dn k | kickClientLock c r cn dn k =>
    rw [he.1] at ht
    simpa [Hub.next, TellsDestination] using ht
  case kickClientSend c r cn dn k =>
    rw [he] at ht
    simpa [Hub.next, TellsDestination] using ht
  case kickDestLock c r dn k =>
    rw [he.1] at ht
    exact (ht he.2.1).elim
  case kickRemove c r k => cases k <;> simp [Hub.next, KickReturn.resume, TellsDestination]
  all_goals simp [Hub.next, TellsDestination]

/-- Such a goroutine needs no lock but that of the map of client channels. -/
theorem locks_of_calm {pc : HubPc} {h : Hub} (hb : pc.Belongs .destination)
    (ht : ¬pc.TellsDestination h) : pc.locksDestinations = false := by
  cases pc
  case kickDestLookup => simpa [TellsDestination, locksDestinations] using ht
  case fwdClientLookup | reqLookup => cases hb
  all_goals rfl

/-- And it sends to client handlers. -/
theorem sends_of_calm {pc : HubPc} {h : Hub} {ch : Chan} (hb : pc.Belongs .destination)
    (ht : ¬pc.TellsDestination h) (hw : pc.waitsOn = some ch) : ch.takenByClient := by
  cases pc <;> simp only [waitsOn, Option.some.injEq, reduceCtorEq] at hw
  all_goals subst hw
  case kickDestSend => exact (ht trivial).elim
  case fwdClientSend | reqAttach | reqSend => cases hb
  all_goals rfl

theorem Calm.next {e : HubEvent} {q : Queues Chan.Msg} (hc : Calm cap s) (he : s.1.enabled e)
    (hm : e.mover = some .destination) (hb : ¬e.Begins) (hs : Sound cap (s.1.next e, q)) :
    Calm cap (s.1.next e, q) where
  sound := hs
  destination := tells_next he hm hb hc.destination
  client := Hub.matched_next he hb hc.client

/-- The destination goroutine gets the map it is about to look into. -/
theorem Calm.ready (hc : Calm cap s) :
    ∃ s', Gets cap Chan.takenByClient s s' ∧ Calm cap s' ∧
      s'.1.pc .destination = s.1.pc .destination ∧
      ((s.1.pc .destination).locksClients = true → s'.1.ClientLock) := by
  cases hlocks : (s.1.pc .destination).locksClients with
  | false => exact ⟨s, .refl, hc, rfl, by simp⟩
  | true =>
    obtain ⟨s₁, hreach, hlock, hyield⟩ := frees_client hc.sound
    have hsame : s₁.1.pc .destination = s.1.pc .destination := by
      refine (hyield .destination).pc_eq ?_
      by_contra hw
      obtain ⟨ch, hw⟩ := Option.ne_none_iff_exists'.mp hw
      simp [(locks_of_waitsOn hw).1] at hlocks
    refine ⟨s₁, hreach, ⟨hc.sound.reaches hreach, ?_, (hyield .client).matched hc.client⟩, hsame,
      fun _ => hlock⟩
    have htells := hc.destination
    rw [hsame]
    cases hpc : s.1.pc .destination <;> rw [hpc] at htells hlocks
    case kickClientLookup => exact htells
    case fwdDestLookup | verdictLookup => exact not_false
    all_goals cases hlocks

/-- The destination goroutine gets closer to its `select`. -/
theorem destination_nearer (hc : Calm cap s) (hsel : s.1.pc .destination ≠ .select)
    (hex : s.1.pc .destination ≠ .exited) :
    ∃ s', Gets cap Chan.takenByClient s s' ∧ Calm cap s' ∧ s'.1.pc .destination ≠ .exited ∧
      (s'.1.pc .destination).steps 0 < (s.1.pc .destination).steps 0 := by
  obtain ⟨s₁, hreach, hc₁, hsame, hlock⟩ := hc.ready
  have hb := hc₁.sound.hub.belongs .destination
  have hbusy : (s₁.1.pc .destination).busy = true := by
    rw [hsame]
    exact ((hc.sound.hub.belongs .destination).select_or_busy (by simp) hex).resolve_left hsel
  obtain ⟨e, he, hm, hbegins⟩ := Hub.exists_op hb hbusy (Hub.matches_of_matched hc₁.client)
    (hsame ▸ hlock) (by simp [locks_of_calm hb hc₁.destination])
  have hlt := Hub.steps_next (n := 0) he hm hbegins (by rintro c connection rfl; cases hm) (by simp)
  rw [hsame] at hlt
  have hex' := Hub.not_exited_next he hm hbusy
  rcases Hub.op_of_not_begins (h := s₁.1) hm hbegins with hop | ⟨ch, m, hop, hw⟩
  · have hstep : Gets cap Chan.takenByClient s₁ (s₁.1.next e, s₁.2) := step he hm hop
    exact ⟨_, hreach.trans hstep, hc₁.next he hm hbegins (hc₁.sound.reaches hstep), hex', hlt⟩
  · have htaken := sends_of_calm hb hc₁.destination (hw he)
    obtain ⟨q, hsend, -⟩ := send Chan.takenByClient hc₁.sound he hm hop
      (by rintro hnone; simp [Chan.takenByClient, hnone] at htaken) (.inl htaken)
    exact ⟨_, hreach.trans hsend, hc₁.next he hm hbegins (hc₁.sound.reaches hsend), hex', hlt⟩

/-- The destination goroutine gets to its `select`. -/
theorem destination_selects (hc : Calm cap s) (hex : s.1.pc .destination ≠ .exited) :
    ∃ s', Gets cap Chan.takenByClient s s' ∧ Calm cap s' ∧ s'.1.pc .destination = .select := by
  induction hn : (s.1.pc .destination).steps 0 using Nat.strong_induction_on
      generalizing s with
  | _ n ih =>
    by_cases hsel : s.1.pc .destination = .select
    · exact ⟨s, .refl, hc, hsel⟩
    obtain ⟨s', hreach, hc', hex', hlt⟩ := destination_nearer hc hsel hex
    obtain ⟨s'', hreach', hc'', hsel'⟩ := ih _ (hn ▸ hlt) hc' hex' rfl
    exact ⟨s'', hreach.trans hreach', hc'', hsel'⟩

end HubNet

/-! ## The UDP handler hands over what it has -/

namespace Backend
open HubPc
variable {cfg : BackendConfig} {s s' : Backend} {h h' : Hub} {u : Udp} {q : Queues Chan.Msg}

theorem reads_iff_waitsOn {pc : DatagramPc} : pc.readsConnections = false ↔ pc.waitsOn = none := by
  cases pc <;> simp [DatagramPc.readsConnections, DatagramPc.waitsOn]

variable (cfg h q) in
/-- The datagram listener hands over what it has if there is room. -/
theorem datagrams_send {ch : Chan} (hw : u.datagrams.waitsOn = some ch)
    (hroom : HasRoom (cfg.capacity.bound ch) (q ch).length) :
    ∃ u' m, Gets cfg (⟨h, u⟩, q) (⟨h, u'⟩, q.apply (.send ch m)) ∧
      u'.datagrams.readsConnections = false ∧ u'.listener = u.listener ∧ u'.params = u.params := by
  -- the last operation under the lock
  have finish : ∀ {u : Udp} {e : UdpEvent} {m : ch.Msg}, u.enabled e → e.isCancel = false →
      e.reads = none → e.op cfg.destinationName = .send ch m →
      Gets cfg (⟨h, u⟩, q) (⟨h, u.next e⟩, q.apply (.send ch m)) := by
    intro u e m he hcancel hreads hop
    have hmove : Gets cfg (⟨h, u⟩, q) (⟨h, u.next e⟩, q.apply (e.op cfg.destinationName)) :=
      udp_step he hcancel (by simp [hreads]) (by rw [hop]; exact hroom)
    rwa [hop] at hmove
  cases hpc : u.datagrams <;> rw [hpc] at hw <;>
    simp only [DatagramPc.waitsOn, Option.some.injEq, reduceCtorEq] at hw
  all_goals subst hw
  case sendVerdict src v =>
    exact ⟨_, v, finish (e := .sendVerdict src v) hpc rfl rfl rfl, rfl, rfl, rfl⟩
  case sendMessage src m =>
    exact ⟨_, m, finish (e := .sendMessage src m) hpc rfl rfl rfl, rfl, rfl, rfl⟩
  case sendClose src m =>
    exact ⟨_, m, finish (e := .sendClose src m) hpc rfl rfl rfl, rfl, rfl, rfl⟩
  case messageNow src clientId appData =>
    have hstamp : Gets cfg (⟨h, u⟩, q)
        (⟨h, u.next (.messageNow src ⟨clientId, h.now, 0, appData⟩)⟩, q) :=
      udp_step (e := .messageNow src ⟨clientId, h.now, 0, appData⟩) ⟨hpc, rfl⟩ rfl
        (by simp [UdpEvent.reads]) trivial
    exact ⟨_, _, hstamp.trans (finish (e := .sendMessage src ⟨clientId, h.now, 0, appData⟩)
      rfl rfl rfl rfl), rfl, rfl, rfl⟩

variable (cfg h q) in
/-- The listener refuses a client if there is room for the verdict. -/
theorem listener_refuses (hu : u.refuses = true)
    (hroom : HasRoom (cfg.capacity.bound .incomingDestinationVerdict)
      (q .incomingDestinationVerdict).length) :
    ∃ u' v, Gets cfg (⟨h, u⟩, q) (⟨h, u'⟩, q.apply (.send .incomingDestinationVerdict v)) ∧
      u'.listener = .select ∧ u'.datagrams = u.datagrams := by
  have finish : ∀ {u : Udp} {v : OpenClientConnectionVerdict}, u.listener = .reject v →
      Gets cfg (⟨h, u⟩, q) (⟨h, u.next (.reject v)⟩,
        q.apply (.send .incomingDestinationVerdict v)) := by
    intro u v hl
    exact udp_step (e := .reject v) hl rfl (by simp [UdpEvent.reads]) hroom
  unfold Udp.refuses at hu
  cases hl : u.listener <;> simp only [hl, Bool.false_eq_true] at hu
  case reject v => exact ⟨_, v, finish hl, rfl, rfl⟩
  case connect m =>
    split at hu
    · next err herr =>
      have hen : Udp.automaton.enabled u (.connectFails m err) := ⟨hl, herr⟩
      have hfails : Gets cfg (⟨h, u⟩, q) (⟨h, u.next (.connectFails m err)⟩, q) :=
        gets_udp (.single hen ⟨rfl, rfl, by simp [UdpEvent.reads]⟩)
      exact ⟨_, _, hfails.trans (finish rfl), rfl, rfl⟩
    · cases hu

/-- The listener does not panic. -/
def Resolves (u : Udp) : Prop :=
  ∀ m, u.listener = .connect m → u.params.connectAddress m.connectionString ≠ none

theorem quiet_of_not_refuses (hp : Resolves u) (hu : u.refuses = false) : u.Quiet := by
  unfold Udp.refuses at hu
  unfold Udp.Quiet
  cases hl : u.listener <;> simp only [hl] at hu ⊢
  case connect m =>
    cases haddr : u.params.connectAddress m.connectionString with
    | none => exact (hp m hl haddr).elim
    | some result =>
      cases result with
      | error err => simp [haddr] at hu
      | ok addr => exact ⟨addr, rfl⟩
  all_goals cases hu

/-- There is room for what the UDP handler has in its hands. -/
def Fits (cfg : BackendConfig) (s : Backend) : Prop :=
  ∀ ch n, cfg.capacity.bound ch = some n → (s.2 ch).length + s.1.udp.inHand ch ≤ n

theorem hasRoom_of_lt {cap : Option Nat} {n k : Nat} (h : ∀ m, cap = some m → n + k ≤ m)
    (hk : 0 < k) : HasRoom cap n := by
  cases cap with
  | none => trivial
  | some m =>
    have := h m rfl
    exact Nat.lt_of_lt_of_le (Nat.lt_add_of_pos_right hk) this

/-- If everything fits, the listener gets to its `select`. -/
theorem serves_of_fits (hs : Sound cfg (⟨h, u⟩, q)) (hp : Resolves u)
    (hfits : Fits cfg (⟨h, u⟩, q)) :
    ∃ u' q', Gets cfg (⟨h, u⟩, q) (⟨h, u'⟩, q') ∧ u'.Serves := by
  -- first the datagram listener
  have hdatagrams : ∃ u₁ q₁, Gets cfg (⟨h, u⟩, q) (⟨h, u₁⟩, q₁) ∧
      u₁.datagrams.readsConnections = false ∧ u₁.listener = u.listener ∧ u₁.params = u.params ∧
      (u.refuses = true → HasRoom (cfg.capacity.bound .incomingDestinationVerdict)
        (q₁ .incomingDestinationVerdict).length) := by
    cases hw : u.datagrams.waitsOn with
    | none =>
      refine ⟨u, q, .refl, reads_iff_waitsOn.mpr hw, rfl, rfl, fun hu => ?_⟩
      exact hasRoom_of_lt (hfits .incomingDestinationVerdict) (by simp [Udp.inHand, hu])
    | some ch =>
      obtain ⟨u₁, m, hreach, hG, hl, hparams⟩ := datagrams_send cfg h q hw
        (hasRoom_of_lt (hfits ch) (by simp only [Udp.inHand, hw, if_true]; omega))
      refine ⟨u₁, _, hreach, hG, hl, hparams, fun hu => ?_⟩
      by_cases hch : ch = .incomingDestinationVerdict
      · subst hch
        refine hasRoom_of_lt (k := 1) ?_ Nat.one_pos
        intro n hn
        have hle := hfits _ n hn
        simpa [Udp.inHand, hw, hu, Queues.apply, Nat.add_assoc] using hle
      · have hroom := hasRoom_of_lt (hfits .incomingDestinationVerdict) (by simp [Udp.inHand, hu])
        simpa [Queues.apply, Function.update_of_ne (Ne.symm hch)] using hroom
  obtain ⟨u₁, q₁, hreach, hG, hl, hparams, hroom⟩ := hdatagrams
  have hs₁ := hs.gets hreach
  have hrefuses : u₁.refuses = u.refuses := by simp [Udp.refuses, hl, hparams]
  cases hu : u.refuses with
  | true =>
    obtain ⟨u₂, v, hreach', hl₂, hG₂⟩ := listener_refuses cfg h q₁
      (hrefuses.trans hu) (hroom hu)
    exact ⟨u₂, _, hreach.trans hreach', hl₂, (congrArg _ hG₂).trans hG⟩
  | false =>
    have hp₁ : Resolves u₁ := by
      intro m hm
      rw [hparams]
      exact hp m (hl ▸ hm)
    obtain ⟨u₂, hreach', hserves⟩ :=
      listener_returns hs₁ (quiet_of_not_refuses hp₁ (hrefuses.trans hu)) hG
    exact ⟨u₂, q₁, hreach.trans hreach', hserves⟩

/-- A destination goroutine at its `select` makes room in a queue of the hub for the datagram
listener. -/
theorem destination_takes {pc : DatagramPc} {ch : Chan} (hs : Sound cfg (⟨h, u⟩, q))
    (hsel : h.pc .destination = .select) (hpc : pc.waitsOn = some ch) :
    ∃ h' q', Gets cfg (⟨h, u⟩, q) (⟨h', u⟩, q') ∧ HasRoom (cfg.capacity.bound ch) (q' ch).length ∧
      h'.pc .client = h.pc .client := by
  have key : ∀ {t : ch.Msg → HubEvent}, (∀ m, h.enabled (t m) ∧ (t m).isSetup = false ∧
      (t m).caller = none ∧ (t m).mover = some .destination ∧ (t m).op = .recv ch m) →
      ∃ h' q', Gets cfg (⟨h, u⟩, q) (⟨h', u⟩, q') ∧
        HasRoom (cfg.capacity.bound ch) (q' ch).length ∧ h'.pc .client = h.pc .client := by
    intro t htake
    rcases takes ch hs (fun m => .hub (t m)) (fun m => by
      obtain ⟨he, hsetup, hcaller, -, hop⟩ := htake m
      exact ⟨⟨hsetup, by simp [hcaller], he⟩, hop⟩) with hroom | ⟨m, q', hreach, hroom⟩
    · exact ⟨h, q, .refl, hroom, rfl⟩
    · obtain ⟨-, -, -, hm, -⟩ := htake m
      exact ⟨_, q', hreach, hroom, Hub.pc_next_of_ne (by simp [hm])⟩
  cases pc <;> simp only [DatagramPc.waitsOn, Option.some.injEq, reduceCtorEq] at hpc
  all_goals subst hpc
  case sendVerdict => exact key (t := .recvVerdict) fun m => ⟨hsel, rfl, rfl, rfl, rfl⟩
  case messageNow | sendMessage =>
    exact key (t := .recvDestinationMessage) fun m => ⟨hsel, rfl, rfl, rfl, rfl⟩
  case sendClose => exact key (t := .recvDestinationClose) fun m => ⟨hsel, rfl, rfl, rfl, rfl⟩

/-- If the destination goroutine is not about to tell a destination handler, it takes what the UDP
handler has, and the listener gets to its `select`. -/
theorem serves_of_calm (hs : Sound cfg (⟨h, u⟩, q)) (hp : Resolves u)
    (hc : HubNet.Calm cfg.capacity (h, q)) :
    ∃ h' u' q', Gets cfg (⟨h, u⟩, q) (⟨h', u'⟩, q') ∧ u'.Serves ∧
      (h'.pc .client).matching = false := by
  obtain ⟨⟨h₁, q₁⟩, hg₁, hc₁, hsel₁⟩ :=
    HubNet.destination_selects hc (hs.hubRuns.2 .destination (by simp))
  have hreach₁ : Gets cfg (⟨h, u⟩, q) (⟨h₁, u⟩, q₁) := gets_hub hg₁
  have hs₁ := hs.gets hreach₁
  -- the listener refuses a client, if it has to
  have hlistener : ∃ h₂ u₂ q₂, Gets cfg (⟨h₁, u⟩, q₁) (⟨h₂, u₂⟩, q₂) ∧
      HubNet.Calm cfg.capacity (h₂, q₂) ∧ u₂.Quiet ∧ u₂.datagrams = u.datagrams := by
    cases hu : u.refuses with
    | false => exact ⟨h₁, u, q₁, .refl, hc₁, quiet_of_not_refuses hp hu, rfl⟩
    | true =>
      rcases takes .incomingDestinationVerdict hs₁ (fun v => .hub (.recvVerdict v))
        (fun v => ⟨⟨rfl, by simp [HubEvent.caller], hsel₁⟩, rfl⟩) with hroom | ⟨v, q₂, htake, hroom⟩
      · obtain ⟨u₂, v, hreach, hl, hG⟩ := listener_refuses cfg h₁ q₁ hu hroom
        exact ⟨h₁, u₂, _, hreach, ⟨((hs₁.gets hreach).net), hc₁.destination, hc₁.client⟩,
          by simp [Udp.Quiet, hl], hG⟩
      · obtain ⟨u₂, v', hreach, hl, hG⟩ :=
          listener_refuses cfg (h₁.next (.recvVerdict v)) q₂ hu hroom
        have hreach' := htake.trans hreach
        refine ⟨_, u₂, _, hreach', ⟨(hs₁.gets hreach').net, ?_, ?_⟩, by simp [Udp.Quiet, hl], hG⟩
        · simp [Hub.next, TellsDestination]
        · rw [HubNet.Matched, Hub.pc_next_of_ne (by simp [HubEvent.mover])]
          exact hc₁.client
  obtain ⟨h₂, u₂, q₂, hreach₂, hc₂, hquiet, hG₂⟩ := hlistener
  have hs₂ := hs₁.gets hreach₂
  obtain ⟨⟨h₃, q₃⟩, hg₃, hc₃, hsel₃⟩ :=
    HubNet.destination_selects hc₂ (hs₂.hubRuns.2 .destination (by simp))
  have hreach₃ : Gets cfg (⟨h₂, u₂⟩, q₂) (⟨h₃, u₂⟩, q₃) := gets_hub hg₃
  have hs₃ := hs₂.gets hreach₃
  have hreach := hreach₁.trans (hreach₂.trans hreach₃)
  -- then the datagram listener hands over what it has
  cases hw : u₂.datagrams.waitsOn with
  | none =>
    obtain ⟨u', hreach', hserves⟩ := listener_returns hs₃ hquiet (reads_iff_waitsOn.mpr hw)
    exact ⟨h₃, u', q₃, hreach.trans hreach', hserves, hc₃.client⟩
  | some ch =>
    obtain ⟨h₄, q₄, htake, hroom, hclient⟩ := destination_takes hs₃ hsel₃ hw
    obtain ⟨u₅, m, hsend, hG, hl, hparams⟩ := datagrams_send cfg h₄ q₄ hw hroom
    have hreach₅ := htake.trans hsend
    have hquiet' : u₅.Quiet := by
      simpa [Udp.Quiet, hl, hparams] using hquiet
    obtain ⟨u', hreach', hserves⟩ := listener_returns (hs₃.gets hreach₅) hquiet' hG
    refine ⟨h₄, u', _, hreach.trans (hreach₅.trans hreach'), hserves, ?_⟩
    rw [hclient]
    exact hc₃.client

/-! ## The client goroutine -/

/-- The UDP handler serves, and the client goroutine has matched its request. -/
structure Ready (cfg : BackendConfig) (s : Backend) : Prop where
  sound : s.Sound cfg
  serves : s.1.udp.Serves
  matched : (s.1.hub.pc .client).matching = false

/-- The map of destination channels can be had: the listener takes the close command its holder
waits to send. -/
theorem frees_destination (hr : Ready cfg s) (hw : (s.1.hub.pc .client).waitsOn = none) :
    ∃ s', Gets cfg s s' ∧ Ready cfg s' ∧ s'.1.hub.pc .client = s.1.hub.pc .client ∧
      s'.1.hub.DestinationLock := by
  by_cases hheld : ∃ g ch, (s.1.hub.pc g).waitsOn = some ch ∧ ch.isDestination = true
  · obtain ⟨g, ch, hg, hch⟩ := hheld
    -- the holder is in a kick
    obtain rfl : ch = .destinationClose cfg.destinationName := by
      have hb := hr.sound.net.hub.belongs g
      have hk := hr.sound.known g
      have hg' := hg
      cases hpc : s.1.hub.pc g <;> rw [hpc] at hg' hb hk <;>
        simp only [waitsOn, Option.some.injEq, reduceCtorEq] at hg'
      all_goals subst hg'
      case kickDestSend c r dn k =>
        have hmem : dn ∈ s.1.hub.destinationHandlers := hk.1
        rw [hr.sound.handlers, List.mem_singleton] at hmem
        rw [hmem]
      case fwdClientSend | reqAttach | reqSend =>
        obtain rfl : g = .client := hb
        simp [hw] at hg
      all_goals cases hch
    obtain ⟨u', q', hreach, hserves, hroom⟩ := serves_close hr.sound hr.serves
    have hs' := hr.sound.gets hreach
    obtain ⟨⟨h₁, q₁⟩, hg₁, hfree, hyield, -⟩ := HubNet.free Chan.takenByClient hs'.net
      (HubNet.destination_holder_unique hs'.net) fun g' ch' hg' hch' => .inr (by
        have hsame := HubNet.destination_holder_unique hs'.net hg' hch' hg hch
        subst hsame
        obtain rfl : ch' = .destinationClose cfg.destinationName :=
          Option.some.inj (hg'.symm.trans hg)
        exact hroom)
    have hreach₁ := hreach.trans (gets_hub hg₁)
    have hclient : h₁.pc .client = s.1.hub.pc .client := (hyield .client).pc_eq hw
    exact ⟨_, hreach₁, ⟨hr.sound.gets hreach₁, hserves, by rw [hclient]; exact hr.matched⟩, hclient,
      Hub.destinationLock_iff.mpr hfree⟩
  · refine ⟨s, .refl, hr, rfl, Hub.destinationLock_iff.mpr fun g ch hg => ?_⟩
    by_contra hch
    exact hheld ⟨g, ch, hg, by simpa using hch⟩

/-- The client goroutine gets the map it is about to look into. -/
theorem Ready.locks (hr : Ready cfg s) :
    ∃ s', Gets cfg s s' ∧ Ready cfg s' ∧ s'.1.hub.pc .client = s.1.hub.pc .client ∧
      ((s.1.hub.pc .client).locksClients = true → s'.1.hub.ClientLock) ∧
      ((s.1.hub.pc .client).locksDestinations = true → s'.1.hub.DestinationLock) := by
  cases hw : (s.1.hub.pc .client).waitsOn with
  | some ch => exact ⟨s, .refl, hr, rfl, by simp [locks_of_waitsOn hw]⟩
  | none =>
    by_cases hlocks : (s.1.hub.pc .client).locksDestinations = true
    · obtain ⟨s₁, hreach, hr₁, hclient, hlock⟩ := frees_destination hr hw
      exact ⟨s₁, hreach, hr₁, hclient, by simp [locksClients_of_destinations hlocks],
        fun _ => hlock⟩
    · obtain ⟨⟨h₁, q₁⟩, hg, hlock, hyield⟩ := HubNet.frees_client hr.sound.net
      have hreach : Gets cfg s (⟨h₁, s.1.udp⟩, q₁) := gets_hub hg
      have hclient : h₁.pc .client = s.1.hub.pc .client := (hyield .client).pc_eq hw
      exact ⟨_, hreach, ⟨hr.sound.gets hreach, hr.serves, by rw [hclient]; exact hr.matched⟩,
        hclient, fun _ => hlock, fun hlocks' => (hlocks hlocks').elim⟩

/-- The channel the client goroutine waits for gets room. The UDP handler goes on serving unless it
has been told to open a connection, and that is the last thing the client goroutine waits for. -/
theorem Ready.room {ch : Chan} (hr : Ready cfg s) (hw : (s.1.hub.pc .client).waitsOn = some ch) :
    ∃ u q, Gets cfg s (⟨s.1.hub, u⟩, q) ∧ HasRoom (cfg.capacity.bound ch) (q ch).length ∧
      (u.Serves ∨ ∃ name, ch = .destinationOpen name) := by
  have hb := hr.sound.net.hub.belongs .client
  have hk := hr.sound.known .client
  have hname : ∀ {name}, name ∈ s.1.hub.destinationHandlers → name = cfg.destinationName := by
    intro name hmem
    rwa [hr.sound.handlers, List.mem_singleton] at hmem
  cases hpc : s.1.hub.pc .client <;> rw [hpc] at hb hk hw <;>
    simp only [waitsOn, Option.some.injEq, reduceCtorEq] at hw
  all_goals subst hw
  case fwdClientSend =>
    obtain rfl := hname hk
    obtain ⟨u, q, hreach, hserves, hroom⟩ := serves_message hr.sound hr.serves
    exact ⟨u, q, hreach, hroom, .inl hserves⟩
  case reqAttach | reqSend =>
    obtain rfl := hname hk
    obtain ⟨u, q, hreach, hroom⟩ := serves_open hr.sound hr.serves
    exact ⟨u, q, hreach, hroom, .inr ⟨_, rfl⟩⟩
  case kickClientSend c r cn dn k =>
    obtain ⟨q, hg, hroom, -⟩ := HubNet.make_room Chan.takenByClient (.clientClose cn)
      hr.sound.net (by simp [Chan.consumer]) (.inl rfl)
    exact ⟨s.1.udp, q, gets_hub hg, hroom, .inl hr.serves⟩
  case kickDestSend =>
    obtain rfl := hname hk.1
    obtain ⟨u, q, hreach, hserves, hroom⟩ := serves_close hr.sound hr.serves
    exact ⟨u, q, hreach, hroom, .inl hserves⟩
  all_goals cases hb

/-- The client goroutine is at its `select` or gets closer to it. -/
theorem client_nearer (hr : Ready cfg s) (hsel : s.1.hub.pc .client ≠ .select) :
    ∃ s', Gets cfg s s' ∧ (s'.1.hub.pc .client = .select ∨ Ready cfg s' ∧
      (s'.1.hub.pc .client).steps 0 < (s.1.hub.pc .client).steps 0) := by
  have hbusy := ((hr.sound.net.hub.belongs .client).select_or_busy (by simp)
    (hr.sound.hubRuns.2 .client (by simp))).resolve_left hsel
  obtain ⟨s₁, hreach, hr₁, hsame, hclient, hdestination⟩ := hr.locks
  obtain ⟨e, he, hm, hbegins⟩ := Hub.exists_op (hr₁.sound.net.hub.belongs .client)
    (hsame ▸ hbusy) (Hub.matches_of_matched hr₁.matched) (hsame ▸ hclient) (hsame ▸ hdestination)
  have hlt := Hub.steps_next (n := 0) he hm hbegins (by rintro c connection rfl; cases hm) (by simp)
  rw [hsame] at hlt
  have hmatched := Hub.matched_next he hbegins hr₁.matched
  rcases Hub.op_of_not_begins (h := s₁.1.hub) hm hbegins with hop | ⟨ch, m, hop, hw⟩
  · have hstep : Gets cfg s₁ (⟨s₁.1.hub.next e, s₁.1.udp⟩, s₁.2) :=
      gets_hub (HubNet.step he hm hop)
    exact ⟨_, hreach.trans hstep, .inr ⟨⟨hr₁.sound.gets hstep, hr₁.serves, hmatched⟩, hlt⟩⟩
  · obtain ⟨u, q, hreach', hroom, hserves⟩ := hr₁.room (hw he)
    have hsend : Gets cfg (⟨s₁.1.hub, u⟩, q) (⟨s₁.1.hub.next e, u⟩, q.apply (.send ch m)) :=
      gets_hub (HubNet.send_room (s := (s₁.1.hub, q)) he hm hop hroom)
    refine ⟨_, hreach.trans (hreach'.trans hsend), ?_⟩
    rcases hserves with hserves | ⟨name, rfl⟩
    · exact .inr ⟨⟨hr₁.sound.gets (hreach'.trans hsend), hserves, hmatched⟩, hlt⟩
    · refine .inl ?_
      cases e <;> cases hop
      simp [Hub.next]

/-- With the UDP handler serving, the client goroutine gets to its `select`. -/
theorem client_returns_of_ready (hr : Ready cfg s) :
    ∃ s', Gets cfg s s' ∧ s'.1.hub.pc .client = .select := by
  refine Automaton.reaches_of_measure (I := Ready cfg)
    (f := fun s => (s.1.hub.pc .client).steps 0) ?_ hr
  intro s hr hsel
  exact client_nearer hr hsel

/-- Nothing is about to panic, and it is not so that the destination goroutine has to tell a
destination handler while there is no room for what the UDP handler has in its hands. -/
structure Clear (cfg : BackendConfig) (s : Backend) : Prop where
  matching : s.1.hub.Matches
  resolving : Resolves s.1.udp
  free : ¬(s.1.hub.pc .destination).TellsDestination s.1.hub ∨ Fits cfg s

variable (cfg u q) in
/-- The client goroutine matches the request it has in hand. -/
theorem client_matches (hm : h.Matches) :
    ∃ h', Gets cfg (⟨h, u⟩, q) (⟨h', u⟩, q) ∧ (h'.pc .client).matching = false ∧
      h'.pc .destination = h.pc .destination ∧ h'.clientStore = h.clientStore := by
  have move : ∀ {h : Hub} {e : HubEvent}, h.enabled e → e.mover = some .client →
      e.op = .internal → Gets cfg (⟨h, u⟩, q) (⟨h.next e, u⟩, q) := by
    intro h e he hm hop
    exact gets_hub (HubNet.step he hm hop)
  have matchNow : ∀ {h : Hub} {m t}, h.pc .client = .reqMatch m t →
      firstMatch m.connectionString h.connectedDestinationHandlers ≠ none →
      ∃ h', Gets cfg (⟨h, u⟩, q) (⟨h', u⟩, q) ∧ (h'.pc .client).matching = false ∧
        h'.pc .destination = h.pc .destination ∧ h'.clientStore = h.clientStore := by
    intro h m t hpc hmatch
    cases hfirst : firstMatch m.connectionString h.connectedDestinationHandlers with
    | none => exact (hmatch hfirst).elim
    | some result =>
      cases result with
      | none => exact ⟨_, move (e := .reqNoMatch m t) ⟨hpc, hfirst⟩ rfl rfl,
          by simp [Hub.next, HubPc.matching]⟩
      | some name => exact ⟨_, move (e := .reqMatch m t name) ⟨hpc, hfirst⟩ rfl rfl,
          by simp [Hub.next, HubPc.matching]⟩
  have nameNow : ∀ {h : Hub} {m t}, h.pc .client = .reqName m t →
      (∀ md, h.clientStore.get m.clientId = some md → md.destinationHandlerName = "" →
        firstMatch m.connectionString h.connectedDestinationHandlers ≠ none) →
      ∃ h', Gets cfg (⟨h, u⟩, q) (⟨h', u⟩, q) ∧ (h'.pc .client).matching = false ∧
        h'.pc .destination = h.pc .destination ∧ h'.clientStore = h.clientStore := by
    intro h m t hpc hmatch
    cases hget : h.clientStore.get m.clientId with
    | none => exact ⟨_, move (e := .reqNoClient m t) ⟨hpc, hget⟩ rfl rfl,
        by simp [Hub.next, HubPc.matching]⟩
    | some md =>
      by_cases hdn : md.destinationHandlerName = ""
      · have hname : Gets cfg (⟨h, u⟩, q) (⟨h.next (.reqName m t), u⟩, q) :=
          move (e := .reqName m t) ⟨hpc, by simp [hget, hdn]⟩ rfl rfl
        obtain ⟨h', hreach, hm', hD, hstore⟩ := matchNow (h := h.next (.reqName m t)) (m := m)
          (t := t) (by simp [Hub.next]) (hmatch md hget hdn)
        exact ⟨h', hname.trans hreach, hm', by simpa [Hub.next] using hD, hstore⟩
      · exact ⟨_, move (e := .reqDuplicate m t md.destinationHandlerName)
          ⟨hpc, by rw [hget]; rfl, hdn⟩ rfl rfl, by simp [Hub.next, HubPc.matching]⟩
  unfold Hub.Matches at hm
  cases hpc : h.pc .client <;> rw [hpc] at hm
  case reqNow m =>
    have hnow : Gets cfg (⟨h, u⟩, q) (⟨h.next (.reqNow m), u⟩, q) :=
      move (e := .reqNow m) hpc rfl rfl
    obtain ⟨h', hreach, hm', hD, hstore⟩ := nameNow (h := h.next (.reqNow m)) (m := m) (t := h.now)
      (by simp [Hub.next]) hm
    exact ⟨h', hnow.trans hreach, hm', by simpa [Hub.next] using hD, hstore⟩
  case reqName m t => exact nameNow hpc hm
  case reqMatch m t => exact matchNow hpc hm
  all_goals exact ⟨h, .refl, by rw [hpc]; rfl, rfl, rfl⟩

section
variable {tr : List BackendEvent}

/-- From every state that is clear, the client goroutine gets back to its `select`. -/
theorem client_returns (hr : (automaton cfg).Run (start cfg) tr s) (hc : Clear cfg s) :
    ∃ s', Gets cfg s s' ∧ s'.1.hub.pc .client = .select := by
  have hs := sound hr
  obtain ⟨h₁, hreach, hmatched, hD, hstore⟩ := client_matches cfg s.1.udp s.2 hc.matching
  have hs₁ := hs.gets hreach
  have hserves : ∃ s', Gets cfg (⟨h₁, s.1.udp⟩, s.2) s' ∧ Ready cfg s' := by
    rcases hc.free with hcalm | hfits
    · have htells : ¬(h₁.pc .destination).TellsDestination h₁ := by
        rw [hD]
        exact fun htells => hcalm (htells.congr hstore)
      obtain ⟨h', u', q', hreach', hserves, hm⟩ :=
        serves_of_calm hs₁ hc.resolving ⟨hs₁.net, htells, hmatched⟩
      exact ⟨_, hreach', hs₁.gets hreach', hserves, hm⟩
    · obtain ⟨u', q', hreach', hserves⟩ := serves_of_fits hs₁ hc.resolving hfits
      exact ⟨_, hreach', hs₁.gets hreach', hserves, hmatched⟩
  obtain ⟨s', hreach', hready⟩ := hserves
  obtain ⟨s'', hreach'', hsel⟩ := client_returns_of_ready hready
  exact ⟨s'', hreach.trans (hreach'.trans hreach''), hsel⟩

end

/-! ## A circle -/

/-- Every channel holds one item, and `udp:b` is denied. -/
def tightConfig : BackendConfig where
  hub := {}
  maxConnections := 2
  clientHandlers := ["WebSocket"]
  destinationName := "UdpDestination"
  matchConnectionString := defaultUdpDestinationHandlerMatchConnectionStringFn
  udp := {
    allowAllDestinations := true
    allowlistedDestinations := []
    denylistedDestinations := [[0x62]]
    resolveUdpHost := defaultHostResolution
    resolveUDPAddr := fun _ => .ok Sample.addr }
  capacity := HubNet.tight

def created (c : ClientId) : List BackendEvent := [
  .hub (.getNewClientId "WebSocket" c), .hub (.callbackNow "WebSocket" c),
  .hub (.createClient "WebSocket" c 0), .consume (.nextClientId "WebSocket") c]

def asked (cmd : OpenClientConnectionCommand) : List BackendEvent := [
  .arrive "WebSocket" .incomingClientOpen cmd, .hub (.recvOpenClient cmd), .hub (.reqNow cmd),
  .hub (.reqName cmd 0), .hub (.reqMatch cmd 0 "UdpDestination"),
  .hub (.reqLookup cmd 0 "UdpDestination"), .hub (.reqAttach cmd 0 "UdpDestination"),
  .hub (.reqSend cmd "UdpDestination"), .udp (.recvOpen cmd)]

def wrote : List BackendEvent := [
  .arrive "WebSocket" .incomingClientMessage ⟨1, 0, 0, none⟩,
  .hub (.recvClientMessage ⟨1, 0, 0, none⟩), .hub (.fwdClientNow ⟨1, 0, 0, none⟩),
  .hub (.fwdClientName ⟨1, 0, 0, none⟩ 0 "UdpDestination"),
  .hub (.fwdClientLookup ⟨1, 0, 0, none⟩ 0 "UdpDestination")]

def denied : OpenClientConnectionCommand := ⟨2, 0, 0, [0x75, 0x64, 0x70, 0x3a, 0x62], none⟩

/-- Client 1 is registered, a verdict for it fills the hub's queue, and the listener is about to
refuse client 2. Client 1 sends two messages: the first fills the queue to the UDP handler, and the
client goroutine waits with the second one. -/
def waiting : List BackendEvent :=
  created 1 ++ created 2 ++ asked Sample.openCommand ++
  [.udp (.connect Sample.openCommand Sample.addr), .udp (.register Sample.openCommand Sample.addr),
    .udp (.connectSend Sample.openCommand Sample.addr),
    .udp (.readFromUDP Sample.addr Sample.verdictDatagram),
    .udp (.datagramForward Sample.addr Sample.verdictDatagram (.verdict Sample.verdict)),
    .udp (.sendVerdict Sample.addr Sample.verdict)] ++
  asked denied ++ .udp (.connectFails denied .deniedDestination) :: wrote ++
  [.hub (.fwdClientSend ⟨1, 0, 0, none⟩ "UdpDestination"), .hub (.clientStampNow 1),
    .hub (.clientStamp 1 0)] ++ wrote

/-- The destination closes client 1, and the destination goroutine kicks it. -/
def closed : List BackendEvent := [
  .udp (.readFromUDP Sample.addr (Sample.datagram 3)),
  .udp (.datagramForward Sample.addr (Sample.datagram 3) (.close Sample.closeFromDestination)),
  .udp (.sendClose Sample.addr Sample.closeFromDestination),
  .hub (.recvDestinationClose Sample.closeFromDestination),
  .hub (.kickClientName .destination 1 none .select),
  .hub (.kickDestName .destination 1 none "WebSocket" .select),
  .hub (.kickClientLock .destination 1 none "WebSocket" "UdpDestination" .select),
  .hub (.kickClientSend .destination 1 none "WebSocket" "UdpDestination" .select)]

set_option maxRecDepth 100000 in
theorem client_returns_waiting : ∃ s s', (automaton tightConfig).Run (start tightConfig) waiting s ∧
    s.1.hub.pc .client = .fwdClientSend ⟨1, 0, 0, none⟩ "UdpDestination" ∧
    Gets tightConfig s s' ∧ s'.1.hub.pc .client = .select := by
  have hr : (automaton tightConfig).Run (start tightConfig) waiting
      ((automaton tightConfig).exec (start tightConfig) waiting) :=
    Automaton.Admits.run (by decide +kernel)
  have hC : ((automaton tightConfig).exec (start tightConfig) waiting).1.hub.pc .client =
      .fwdClientSend ⟨1, 0, 0, none⟩ "UdpDestination" := by decide +kernel
  have hL : ((automaton tightConfig).exec (start tightConfig) waiting).1.udp.listener =
      .reject (Udp.refusal 2 .deniedDestination) := by decide +kernel
  have hD : ((automaton tightConfig).exec (start tightConfig) waiting).1.hub.pc .destination =
      .select := by decide +kernel
  obtain ⟨s', hreach, hsel⟩ := client_returns hr {
    matching := by rw [Hub.Matches, hC]; trivial
    resolving := by intro m hm; rw [hL] at hm; cases hm
    free := .inl (by rw [hD]; exact not_false) }
  exact ⟨_, s', hr, hC, hreach, hsel⟩

/-- The client goroutine waits for the listener, the listener for the destination goroutine and the
destination goroutine for the lock of the client goroutine. -/
structure Circle (cfg : BackendConfig) (m : DestinationMessage) (name : String)
    (v : OpenClientConnectionVerdict) (c : ClientId) (r : Option GoError) (dn : String)
    (k : KickReturn) (s : Backend) : Prop where
  client : s.1.hub.pc .client = .fwdClientSend m name
  messages : ¬HasRoom (cfg.capacity.bound (.destinationMessage name))
    (s.2 (.destinationMessage name)).length
  listener : s.1.udp.listener = .reject v
  verdicts : ¬HasRoom (cfg.capacity.bound .incomingDestinationVerdict)
    (s.2 .incomingDestinationVerdict).length
  destination : s.1.hub.pc .destination = .kickDestLookup c r dn k
  dn_ne : dn ≠ ""

theorem Circle.next {m : DestinationMessage} {name : String} {v : OpenClientConnectionVerdict}
    {c : ClientId} {r : Option GoError} {dn : String} {k : KickReturn} {e : BackendEvent}
    (hc : Circle cfg m name v c r dn k s) (he : (automaton cfg).enabled s e) :
    Circle cfg m name v c r dn k ((automaton cfg).next s e) := by
  have hlocked : ¬s.1.hub.DestinationLock := fun hlock => by
    have := Hub.destinationLock_iff.mp hlock .client (.destinationMessage name)
      (by rw [hc.client]; rfl)
    cases this
  -- nobody takes a message or a verdict
  have hmessages : ∀ m', e.op cfg ≠ .recv (.destinationMessage name) m' := by
    intro m' hop
    cases e
    case hub e => cases e <;> cases hop
    case udp e =>
      cases e <;> cases hop
      simp [automaton, network, BackendParts.automaton, BackendParts.enabled, Udp.enabled,
        hc.listener] at he
    case arrive => cases hop
    case consume =>
      cases hop
      cases he.1
  have hverdicts : ∀ v', e.op cfg ≠ .recv .incomingDestinationVerdict v' := by
    intro v' hop
    cases e
    case hub e =>
      cases e <;> cases hop
      simp [automaton, network, BackendParts.automaton, BackendParts.enabled, Hub.enabled,
        hc.destination] at he
    case udp e => cases e <;> cases hop
    case arrive => cases hop
    case consume =>
      cases hop
      cases he.1
  have hfull := Queues.full_apply hc.messages hmessages
  have hfull' := Queues.full_apply hc.verdicts hverdicts
  cases e
  case hub e =>
    obtain ⟨⟨-, -, hen⟩, hallow⟩ := he
    refine ⟨?_, hfull, hc.listener, hfull', ?_, hc.dn_ne⟩
    · by_cases hm : e.mover = some .client
      · cases e <;> simp only [HubEvent.mover, Option.some.injEq, reduceCtorEq] at hm
        all_goals try subst hm
        case fwdClientSend m' name' =>
          simp only [Hub.enabled, hc.client] at hen
          cases hen
          exact (hc.messages hallow).elim
        all_goals simp [Hub.enabled, hc.client] at hen
      · exact (Hub.pc_next_of_ne hm).trans hc.client
    · by_cases hm : e.mover = some .destination
      · cases e <;> simp only [HubEvent.mover, Option.some.injEq, reduceCtorEq] at hm
        all_goals try subst hm
        case kickDestSkip c' r' dn' k' =>
          simp only [Hub.enabled, hc.destination] at hen
          obtain ⟨hpc, hskip⟩ := hen
          cases hpc
          rcases hskip with hskip | ⟨hlock, -⟩
          · exact (hc.dn_ne hskip).elim
          · exact (hlocked hlock).elim
        case kickDestLock => exact (hlocked hen.2.2.1).elim
        all_goals simp [Hub.enabled, hc.destination] at hen
      · exact (Hub.pc_next_of_ne hm).trans hc.destination
  case udp e =>
    obtain ⟨⟨-, -, hen⟩, hallow⟩ := he
    refine ⟨hc.client, hfull, ?_, hfull', hc.destination, hc.dn_ne⟩
    cases e
    case reject => exact (hc.verdicts hallow).elim
    case cancel => exact hc.listener
    all_goals first
      | exact hc.listener
      | simp [Udp.enabled, hc.listener] at hen
  case arrive => exact ⟨hc.client, hfull, hc.listener, hfull', hc.destination, hc.dn_ne⟩
  case consume => exact ⟨hc.client, hfull, hc.listener, hfull', hc.destination, hc.dn_ne⟩

set_option maxRecDepth 100000 in
theorem waits_in_circle :
    ∃ s, (automaton tightConfig).Run (start tightConfig) (waiting ++ closed) s ∧
      ¬∃ s', Gets tightConfig s s' ∧ s'.1.hub.pc .client = .select := by
  have hr : (automaton tightConfig).Run (start tightConfig) (waiting ++ closed)
      ((automaton tightConfig).exec (start tightConfig) (waiting ++ closed)) :=
    Automaton.Admits.run (by decide +kernel)
  have hcircle : Circle tightConfig ⟨1, 0, 0, none⟩ "UdpDestination"
      (Udp.refusal 2 .deniedDestination) 1 none "UdpDestination" .select
      ((automaton tightConfig).exec (start tightConfig) (waiting ++ closed)) := by
    constructor <;> decide +kernel
  refine ⟨_, hr, ?_⟩
  rintro ⟨s', ⟨tr, hr', -⟩, hsel⟩
  have hcircle' := hr'.invariant hcircle fun _ _ => Circle.next
  simp [hcircle'.client] at hsel

end Backend
end Spanreed
