import Spanreed.HubLocks
import Spanreed.System
import Spanreed.Lib.Progress

/-! # The hub among its handlers

The hub with its bounded channels and whatever handlers there are: client handlers and destination
handlers put items into the hub's queues and take items out of their own, in any order. A goroutine
that holds the lock of a map of outgoing channels waits for room on one of them (`HubPc.waitsOn`).
If somebody takes items from that channel, or it has room, the lock is given up (`release`) and a
kick that waits for it goes on (`passes_client`, `passes_destination`). -/

namespace Spanreed
open Automata

/-- A handler of the hub. -/
inductive Handler
  | client (name : String)
  | destination (name : String)
deriving DecidableEq

/-- The handler that takes items from a channel; the hub itself takes from the others. -/
def Chan.consumer : Chan → Option Handler
  | .clientVerdict name | .clientMessage name | .clientClose name | .nextClientId name =>
    some (.client name)
  | .destinationOpen name | .destinationMessage name | .destinationClose name =>
    some (.destination name)
  | .incomingClientMessage | .incomingClientClose | .incomingClientOpen
  | .incomingDestinationVerdict | .incomingDestinationMessage | .incomingDestinationClose => none

/-- The handler puts items into the channel. -/
def Chan.Accepts : Handler → Chan → Prop
  | .client _, .incomingClientMessage | .client _, .incomingClientClose
  | .client _, .incomingClientOpen => True
  | .destination _, .incomingDestinationVerdict | .destination _, .incomingDestinationMessage
  | .destination _, .incomingDestinationClose => True
  | _, _ => False

instance : ∀ handler c, Decidable (Chan.Accepts handler c) := by
  intro handler c
  cases handler <;> cases c <;> dsimp only [Chan.Accepts] <;> infer_instance

/-- The capacities of the hub's channels. `CreateProxy` and the registration of a handler replace
a length that is not positive by a default. -/
structure Capacities where
  bound : Chan → Option Nat
  pos : ∀ c n, bound c = some n → 0 < n

inductive HubNetEvent
  | hub (e : HubEvent)
  | arrive (handler : Handler) (c : Chan) (m : c.Msg)
  | consume (c : Chan) (m : c.Msg)

def HubNetEvent.op : HubNetEvent → ChannelOp Chan Chan.Msg
  | .hub e => e.op
  | .arrive _ c m => .send c m
  | .consume c m => .recv c m

/-- An operation of a goroutine of the hub that takes nothing from a channel. -/
def HubEvent.Works (e : HubEvent) : Prop :=
  e.mover ≠ none ∧ ∀ c m, e.op ≠ .recv c m

/-- A continuation by the hub's own operations and by those who take from the channels that
drain. -/
def HubNetEvent.Uses (drains : Chan → Prop) : HubNetEvent → Prop
  | .hub e => e.Works
  | .arrive .. => False
  | .consume c _ => drains c

/-- The channel a goroutine waits for before it gives up the lock of a map of channels. -/
def HubPc.waitsOn : HubPc → Option Chan
  | .fwdClientSend _ name => some (.destinationMessage name)
  | .reqAttach _ _ name | .reqSend _ name => some (.destinationOpen name)
  | .fwdDestSend _ name => some (.clientMessage name)
  | .verdictConnect _ name | .verdictSend _ name => some (.clientVerdict name)
  | .kickClientSend _ _ cn _ _ => some (.clientClose cn)
  | .kickDestSend _ _ dn _ => some (.destinationClose dn)
  | _ => none

/-- The connection string of a request is still to be matched. -/
def HubPc.matching : HubPc → Bool
  | .reqNow _ | .reqName .. | .reqMatch .. => true
  | _ => false

/-- The channel belongs to a client handler. -/
def Chan.isClient : Chan → Bool
  | .clientVerdict _ | .clientMessage _ | .clientClose _ => true
  | _ => false

/-- The channel belongs to a destination handler. -/
def Chan.isDestination : Chan → Bool
  | .destinationOpen _ | .destinationMessage _ | .destinationClose _ => true
  | _ => false

namespace Hub

/-- The match of the request in hand, if there is one to come, does not panic. -/
def Matches (h : Hub) : Prop :=
  match h.pc .client with
  | .reqNow m | .reqName m _ => ∀ md, h.clientStore.get m.clientId = some md →
      md.destinationHandlerName = "" →
      firstMatch m.connectionString h.connectedDestinationHandlers ≠ none
  | .reqMatch m _ => firstMatch m.connectionString h.connectedDestinationHandlers ≠ none
  | _ => True

variable {h : Hub} {g : Goroutine}

theorem clientLock_iff :
    h.ClientLock ↔ ∀ g ch, (h.pc g).waitsOn = some ch → ch.isClient = false := by
  refine forall_congr' fun g => ?_
  cases h.pc g <;> simp [HubPc.writesClientChannels, HubPc.readsClientChannels, HubPc.waitsOn,
    Chan.isClient]

theorem destinationLock_iff :
    h.DestinationLock ↔ ∀ g ch, (h.pc g).waitsOn = some ch → ch.isDestination = false := by
  refine forall_congr' fun g => ?_
  cases h.pc g <;> simp [HubPc.writesDestinationChannels, HubPc.readsDestinationChannels,
    HubPc.waitsOn, Chan.isDestination]

end Hub

/-- The hub with its queues. -/
abbrev HubNet := Hub × Queues Chan.Msg

namespace HubNet

/-- Every channel holds one item. -/
def tight : Capacities where
  bound := fun _ => some 1
  pos := by rintro c n ⟨⟩; exact Nat.one_pos

/-- What the hub and its handlers do, channels apart. -/
def base : Automaton Hub HubNetEvent where
  enabled h
    | .hub e => h.enabled e
    | .arrive handler c _ => c.Accepts handler
    | .consume c _ => c.consumer ≠ none
  next h
    | .hub e => h.next e
    | .arrive .. => h
    | .consume .. => h

instance : ∀ h e, Decidable (base.enabled h e)
  | h, .hub e => inferInstanceAs (Decidable (h.enabled e))
  | _, .arrive handler c _ => inferInstanceAs (Decidable (c.Accepts handler))
  | _, .consume c _ => inferInstanceAs (Decidable (c.consumer ≠ none))

def automaton (cap : Capacities) : Automaton HubNet HubNetEvent :=
  network base HubNetEvent.op cap.bound

instance (cap : Capacities) (s : HubNet) (e : HubNetEvent) :
    Decidable ((automaton cap).enabled s e) :=
  inferInstanceAs (Decidable ((network _ _ _).enabled s e))

/-- The hub gets from `s` to `s'` by its own operations and with the help of those who take from
the channels that drain. -/
abbrev Gets (cap : Capacities) (drains : Chan → Prop) (s s' : HubNet) : Prop :=
  (automaton cap).Reaches (HubNetEvent.Uses drains) s s'

/-- What holds of every state that came about. -/
structure Sound (cap : Capacities) (s : HubNet) : Prop where
  hub : s.1.Sane
  queues : s.2.Bounded cap.bound

variable {cap : Capacities} {drains : Chan → Prop} {s s' : HubNet} {e : HubEvent}
  {g : Goroutine} {ch : Chan}

theorem Sound.next {e : HubNetEvent} (hs : s.Sound cap) (he : (automaton cap).enabled s e) :
    Sound cap ((automaton cap).next s e) where
  hub := by
    cases e
    case hub e => exact hs.hub.next he.1
    all_goals exact hs.hub
  queues := hs.queues.apply he.2

theorem Sound.step (hs : s.Sound cap) (he : s.1.enabled e) : Sound cap (s.1.next e, s.2) :=
  ⟨hs.hub.next he, hs.queues⟩

theorem Sound.reaches {Q : HubNetEvent → Prop} (hs : s.Sound cap)
    (h : (automaton cap).Reaches Q s s') : s'.Sound cap := by
  obtain ⟨tr, hr, -⟩ := h
  exact hr.invariant (I := Sound cap) hs fun _ _ => Sound.next

/-! ## Operations of the hub -/

theorem step (he : s.1.enabled e) (hm : e.mover = some g) (hop : e.op = .internal) :
    Gets cap drains s (s.1.next e, s.2) := by
  have hnext : (automaton cap).next s (.hub e) = (s.1.next e, s.2) := by
    simp [automaton, network, base, HubNetEvent.op, hop, Queues.apply]
  rw [← hnext]
  refine .single ⟨he, ?_⟩ ⟨by simp [hm], by simp [hop]⟩
  simp [HubNetEvent.op, hop, Queues.Allows]

variable (drains ch) in
/-- A channel that drains or has room gets room. -/
theorem make_room (hs : s.Sound cap) (hc : ch.consumer ≠ none)
    (hready : drains ch ∨ HasRoom (cap.bound ch) (s.2 ch).length) :
    ∃ q, Gets cap drains s (s.1, q) ∧
      HasRoom (cap.bound ch) (q ch).length ∧ ∀ ch', ch' ≠ ch → q ch' = s.2 ch' := by
  by_cases hroom : HasRoom (cap.bound ch) (s.2 ch).length
  · exact ⟨s.2, .refl, hroom, fun _ _ => rfl⟩
  · obtain ⟨m, rest, hq, hroom'⟩ := hs.queues.room_of_full (cap.pos ch) hroom
    have htake : (automaton cap).enabled s (.consume ch m) :=
      ⟨hc, by simp [HubNetEvent.op, Queues.Allows, hq]⟩
    refine ⟨s.2.apply (.recv ch m), .single htake (hready.resolve_right hroom), ?_, ?_⟩
    · simpa [Queues.apply, hq] using hroom'
    · intro ch' hne
      simp [Queues.apply, Function.update_of_ne hne]

theorem send_room {m : ch.Msg} (he : s.1.enabled e) (hm : e.mover = some g)
    (hop : e.op = .send ch m) (hroom : HasRoom (cap.bound ch) (s.2 ch).length) :
    Gets cap drains s (s.1.next e, s.2.apply (.send ch m)) := by
  have hnext : (automaton cap).next s (.hub e) = (s.1.next e, s.2.apply (.send ch m)) := by
    simp [automaton, network, base, HubNetEvent.op, hop]
  rw [← hnext]
  refine .single ⟨he, ?_⟩ ⟨by simp [hm], by simp [hop]⟩
  simpa [HubNetEvent.op, hop, Queues.Allows] using hroom

theorem send (drains : Chan → Prop) {m : ch.Msg} (hs : s.Sound cap) (he : s.1.enabled e)
    (hm : e.mover = some g) (hop : e.op = .send ch m) (hc : ch.consumer ≠ none)
    (hready : drains ch ∨ HasRoom (cap.bound ch) (s.2 ch).length) :
    ∃ q, Gets cap drains s (s.1.next e, q) ∧
      ∀ ch', ch' ≠ ch → q ch' = s.2 ch' := by
  obtain ⟨q, hreach, hroom, hsame⟩ := make_room drains ch hs hc hready
  refine ⟨q.apply (.send ch m), hreach.trans (send_room (s := (s.1, q)) he hm hop hroom), ?_⟩
  intro ch' hne
  rw [← hsame ch' hne]
  simp [Queues.apply, Function.update_of_ne hne]

/-! ## Locks -/

/-- A goroutine has given up its lock, and nobody else has moved. -/
structure Released (g : Goroutine) (ch : Chan) (s s' : HubNet) : Prop where
  free : (s'.1.pc g).waitsOn = none
  matching : (s'.1.pc g).matching = false
  others : ∀ g', g' ≠ g → s'.1.pc g' = s.1.pc g'
  queues : ∀ ch', ch' ≠ ch → s'.2 ch' = s.2 ch'

/-- Whoever waits for a channel that drains or has room gives up its lock. -/
theorem release (hs : s.Sound cap) (hg : (s.1.pc g).waitsOn = some ch)
    (hready : drains ch ∨ HasRoom (cap.bound ch) (s.2 ch).length) :
    ∃ s', Gets cap drains s s' ∧ Released g ch s s' := by
  -- a send as the last operation under the lock
  have finish : ∀ {s : HubNet} {e : HubEvent} {m : ch.Msg}, s.Sound cap → s.1.enabled e →
      e.mover = some g → e.op = .send ch m → ch.consumer ≠ none →
      drains ch ∨ HasRoom (cap.bound ch) (s.2 ch).length →
      ((s.1.next e).pc g).waitsOn = none → ((s.1.next e).pc g).matching = false →
      ∃ s', Gets cap drains s s' ∧ Released g ch s s' := by
    intro s e m hs he hm hop hc hready hfree hmatch
    obtain ⟨q, hreach, hsame⟩ := send drains hs he hm hop hc hready
    refine ⟨_, hreach, hfree, hmatch, ?_, hsame⟩
    intro g' hne
    exact Hub.pc_next_of_ne fun hg' => hne (Option.some.inj (hg'.symm.trans hm))
  have hb := hs.hub.belongs g
  cases hpc : s.1.pc g <;> rw [hpc] at hg hb <;>
    simp only [HubPc.waitsOn, Option.some.injEq, reduceCtorEq] at hg
  all_goals subst hg
  case fwdClientSend m name =>
    obtain rfl : g = .client := hb
    exact finish hs (e := .fwdClientSend m name) hpc rfl rfl (by simp [Chan.consumer]) hready
      (by simp [Hub.next, HubPc.waitsOn]) (by simp [Hub.next, HubPc.matching])
  case reqSend m name =>
    obtain rfl : g = .client := hb
    exact finish hs (e := .reqSend m name) hpc rfl rfl (by simp [Chan.consumer]) hready
      (by simp [Hub.next, HubPc.waitsOn]) (by simp [Hub.next, HubPc.matching])
  case fwdDestSend m name =>
    obtain rfl : g = .destination := hb
    exact finish hs (e := .fwdDestSend m name) hpc rfl rfl (by simp [Chan.consumer]) hready
      (by simp [Hub.next, HubPc.waitsOn]) (by simp [Hub.next, HubPc.matching])
  case verdictSend v name =>
    obtain rfl : g = .destination := hb
    exact finish hs (e := .verdictSend v name) hpc rfl rfl (by simp [Chan.consumer]) hready
      (by simp [Hub.next, HubPc.waitsOn]) (by simp [Hub.next, HubPc.matching])
  case kickClientSend c r cn dn k =>
    exact finish hs (e := .kickClientSend g c r cn dn k) hpc rfl rfl (by simp [Chan.consumer])
      hready (by simp [Hub.next, HubPc.waitsOn])
      (by simp [Hub.next, HubPc.matching])
  case kickDestSend c r dn k =>
    exact finish hs (e := .kickDestSend g c r dn k) hpc rfl rfl (by simp [Chan.consumer]) hready
      (by simp [Hub.next, HubPc.waitsOn]) (by simp [Hub.next, HubPc.matching])
  case verdictConnect v name =>
    obtain rfl : g = .destination := hb
    have hstep : Gets cap drains s (s.1.next (.verdictConnect v name), s.2) := step hpc rfl rfl
    obtain ⟨s', hreach, hrel⟩ := finish (hs.reaches hstep) (e := .verdictSend v name)
      (by simp [Hub.enabled, Hub.next]) rfl rfl (by simp [Chan.consumer]) hready
      (by simp [Hub.next, HubPc.waitsOn]) (by simp [Hub.next, HubPc.matching])
    refine ⟨s', hstep.trans hreach, hrel.free, hrel.matching, ?_, hrel.queues⟩
    intro g' hne
    rw [hrel.others g' hne]
    simp [Hub.next, hne]
  case reqAttach m t name =>
    obtain rfl : g = .client := hb
    by_cases hrec : (s.1.clientStore.get m.clientId).isSome
    · have hstep : Gets cap drains s (s.1.next (.reqAttach m t name), s.2) :=
        step ⟨hpc, hrec⟩ rfl rfl
      obtain ⟨s', hreach, hrel⟩ := finish (hs.reaches hstep)
        (e := .reqSend { m with routeTimestamp := t } name) (by simp [Hub.enabled, Hub.next]) rfl
        rfl (by simp [Chan.consumer]) hready (by simp [Hub.next, HubPc.waitsOn])
        (by simp [Hub.next, HubPc.matching])
      refine ⟨s', hstep.trans hreach, hrel.free, hrel.matching, ?_, hrel.queues⟩
      intro g' hne
      rw [hrel.others g' hne]
      simp [Hub.next, hne]
    · have hstep : Gets cap drains s (s.1.next (.reqAttachFails m t name), s.2) :=
        step ⟨hpc, by simpa using hrec⟩ rfl rfl
      refine ⟨_, hstep, by simp [Hub.next, HubPc.waitsOn], by simp [Hub.next, HubPc.matching], ?_,
        fun _ _ => rfl⟩
      intro g' hne
      simp [Hub.next, hne]

/-- At most one goroutine is inside a map of channels, if only one can be inside for reading. -/
theorem holder_unique {p : Chan → Bool} {reads writes : HubPc → Bool} {h : Hub}
    {r g g' : Goroutine} {ch ch' : Chan} (hx : h.Exclusive reads writes)
    (holds : ∀ {g ch}, (h.pc g).waitsOn = some ch → p ch = true →
      writes (h.pc g) = true ∨ reads (h.pc g) = true ∧ g = r)
    (hg : (h.pc g).waitsOn = some ch) (hch : p ch = true)
    (hg' : (h.pc g').waitsOn = some ch') (hch' : p ch' = true) : g = g' := by
  by_contra hne
  rcases holds hg hch with hw | ⟨hr, rfl⟩
  · have hno := hx g g' hne hw
    rcases holds hg' hch' with hw' | ⟨hr', -⟩
    · simp [hno.1] at hw'
    · simp [hno.2] at hr'
  · rcases holds hg' hch' with hw' | ⟨-, rfl⟩
    · simp [(hx g' _ (Ne.symm hne) hw').2] at hr
    · exact hne rfl

theorem client_holder_unique (hs : s.Sound cap) {g g' : Goroutine} {ch ch' : Chan}
    (hg : (s.1.pc g).waitsOn = some ch) (hch : ch.isClient = true)
    (hg' : (s.1.pc g').waitsOn = some ch') (hch' : ch'.isClient = true) : g = g' := by
  refine holder_unique (r := .destination) hs.hub.client ?_ hg hch hg' hch'
  intro g ch hg hch
  have hb := hs.hub.belongs g
  cases hpc : s.1.pc g <;> rw [hpc] at hg hb <;>
    simp only [HubPc.waitsOn, Option.some.injEq, reduceCtorEq] at hg
  all_goals subst hg
  case kickClientSend => exact .inl rfl
  case fwdDestSend | verdictConnect | verdictSend => exact .inr ⟨rfl, hb⟩
  all_goals cases hch

theorem destination_holder_unique (hs : s.Sound cap) {g g' : Goroutine} {ch ch' : Chan}
    (hg : (s.1.pc g).waitsOn = some ch) (hch : ch.isDestination = true)
    (hg' : (s.1.pc g').waitsOn = some ch') (hch' : ch'.isDestination = true) : g = g' := by
  refine holder_unique (r := .client) hs.hub.destination ?_ hg hch hg' hch'
  intro g ch hg hch
  have hb := hs.hub.belongs g
  cases hpc : s.1.pc g <;> rw [hpc] at hg hb <;>
    simp only [HubPc.waitsOn, Option.some.injEq, reduceCtorEq] at hg
  all_goals subst hg
  case kickDestSend => exact .inl rfl
  case fwdClientSend | reqAttach | reqSend => exact .inr ⟨rfl, hb⟩
  all_goals cases hch

/-- A goroutine is where it was, or has given up the lock of the map with the channels `p`. -/
def Yields (p : Chan → Bool) (s s' : HubNet) (g : Goroutine) : Prop :=
  s'.1.pc g = s.1.pc g ∨
    (∃ ch, (s.1.pc g).waitsOn = some ch ∧ p ch = true) ∧ (s'.1.pc g).waitsOn = none ∧
      (s'.1.pc g).matching = false

theorem Yields.pc_eq {p : Chan → Bool} (h : Yields p s s' g) (hg : (s.1.pc g).waitsOn = none) :
    s'.1.pc g = s.1.pc g := by
  rcases h with hsame | ⟨⟨ch, hch, -⟩, -⟩
  · exact hsame
  · simp [hg] at hch

/-- The lock of the map with the channels `p` can be had if its holder is not stuck. -/
theorem free (drains : Chan → Prop) {p : Chan → Bool} (hs : s.Sound cap)
    (hunique : ∀ {g g' ch ch'}, (s.1.pc g).waitsOn = some ch → p ch = true →
      (s.1.pc g').waitsOn = some ch' → p ch' = true → g = g')
    (hready : ∀ g ch, (s.1.pc g).waitsOn = some ch → p ch = true →
      drains ch ∨ HasRoom (cap.bound ch) (s.2 ch).length) :
    ∃ s', Gets cap drains s s' ∧ (∀ g ch, (s'.1.pc g).waitsOn = some ch → p ch = false) ∧
      (∀ g, Yields p s s' g) ∧ ∀ ch, p ch = false → s'.2 ch = s.2 ch := by
  by_cases hheld : ∃ g ch, (s.1.pc g).waitsOn = some ch ∧ p ch = true
  · obtain ⟨g, ch, hg, hch⟩ := hheld
    obtain ⟨s', hreach, hrel⟩ := release hs hg (hready g ch hg hch)
    refine ⟨s', hreach, ?_, ?_, ?_⟩
    · intro g' ch' hg'
      by_cases hne : g' = g
      · subst hne
        simp [hrel.free] at hg'
      · rw [hrel.others g' hne] at hg'
        by_contra hp
        exact hne (hunique hg' (by simpa using hp) hg hch)
    · intro g'
      by_cases hne : g' = g
      · subst hne
        exact .inr ⟨⟨ch, hg, hch⟩, hrel.free, hrel.matching⟩
      · exact .inl (hrel.others g' hne)
    · intro ch' hch'
      exact hrel.queues ch' (by rintro rfl; simp [hch] at hch')
  · refine ⟨s, .refl, ?_, fun _ => .inl rfl, fun _ _ => rfl⟩
    intro g ch hg
    by_contra hp
    exact hheld ⟨g, ch, hg, by simpa using hp⟩

/-! ## Kicks -/

variable {X : Goroutine} {c : ClientId} {r : Option GoError} {cn dn : String} {k : KickReturn}

/-- A kick tells the client handler, if whoever is inside its map is not stuck and the handler
takes its close commands. -/
theorem passes_client (drains : Chan → Prop) (hs : s.Sound cap)
    (hX : s.1.pc X = .kickClientLookup c r cn dn k)
    (hready : cn ≠ "" → (∀ g ch, (s.1.pc g).waitsOn = some ch → ch.isClient = true →
      drains ch ∨ HasRoom (cap.bound ch) (s.2 ch).length) ∧ drains (.clientClose cn)) :
    ∃ s', Gets cap drains s s' ∧ s'.1.pc X = .kickDestLookup c r dn k ∧
      ∀ g, g ≠ X → Yields Chan.isClient s s' g := by
  by_cases hcn : cn = ""
  · refine ⟨_, step (e := .kickClientSkip X c r cn dn k) ⟨hX, .inl hcn⟩ rfl rfl, ?_, ?_⟩
    · simp [Hub.next]
    · intro g hne
      exact .inl (by simp [Hub.next, hne])
  obtain ⟨hready, hclose⟩ := hready hcn
  obtain ⟨s₁, hreach, hfree, hyield, -⟩ := free drains hs (client_holder_unique hs) hready
  have hs₁ := hs.reaches hreach
  have hX₁ : s₁.1.pc X = .kickClientLookup c r cn dn k := by
    rcases hyield X with hsame | ⟨⟨ch, hch, -⟩, -⟩
    · rw [hsame, hX]
    · simp [hX, HubPc.waitsOn] at hch
  have hlock : s₁.1.ClientLock := Hub.clientLock_iff.mpr hfree
  by_cases hmem : cn ∈ s₁.1.clientHandlers
  · have htake : Gets cap drains s₁ (s₁.1.next (.kickClientLock X c r cn dn k), s₁.2) :=
      step ⟨hX₁, hcn, hlock, hmem⟩ rfl rfl
    obtain ⟨q, hsend, -⟩ := send drains (hs₁.reaches htake) (e := .kickClientSend X c r cn dn k)
      (by simp [Hub.enabled, Hub.next]) rfl rfl (by simp [Chan.consumer]) (.inl hclose)
    refine ⟨_, hreach.trans (htake.trans hsend), by simp [Hub.next], ?_⟩
    intro g hne
    simpa [Yields, Hub.next, hne] using hyield g
  · refine ⟨_, hreach.trans (step (e := .kickClientSkip X c r cn dn k)
      ⟨hX₁, .inr ⟨hlock, hmem⟩⟩ rfl rfl), by simp [Hub.next], ?_⟩
    intro g hne
    simpa [Yields, Hub.next, hne] using hyield g

/-- The same for the destination handler. -/
theorem passes_destination (drains : Chan → Prop) (hs : s.Sound cap)
    (hX : s.1.pc X = .kickDestLookup c r dn k)
    (hready : dn ≠ "" → (∀ g ch, (s.1.pc g).waitsOn = some ch → ch.isDestination = true →
      drains ch ∨ HasRoom (cap.bound ch) (s.2 ch).length) ∧ drains (.destinationClose dn)) :
    ∃ s', Gets cap drains s s' ∧ s'.1.pc X = .kickRemove c r k ∧
      ∀ g, g ≠ X → Yields Chan.isDestination s s' g := by
  by_cases hdn : dn = ""
  · refine ⟨_, step (e := .kickDestSkip X c r dn k) ⟨hX, .inl hdn⟩ rfl rfl, ?_, ?_⟩
    · simp [Hub.next]
    · intro g hne
      exact .inl (by simp [Hub.next, hne])
  obtain ⟨hready, hclose⟩ := hready hdn
  obtain ⟨s₁, hreach, hfree, hyield, -⟩ := free drains hs (destination_holder_unique hs) hready
  have hs₁ := hs.reaches hreach
  have hX₁ : s₁.1.pc X = .kickDestLookup c r dn k := by
    rcases hyield X with hsame | ⟨⟨ch, hch, -⟩, -⟩
    · rw [hsame, hX]
    · simp [hX, HubPc.waitsOn] at hch
  have hlock : s₁.1.DestinationLock := Hub.destinationLock_iff.mpr hfree
  by_cases hmem : dn ∈ s₁.1.destinationHandlers
  · have htake : Gets cap drains s₁ (s₁.1.next (.kickDestLock X c r dn k), s₁.2) :=
      step ⟨hX₁, hdn, hlock, hmem⟩ rfl rfl
    obtain ⟨q, hsend, -⟩ := send drains (hs₁.reaches htake) (e := .kickDestSend X c r dn k)
      (by simp [Hub.enabled, Hub.next]) rfl rfl (by simp [Chan.consumer]) (.inl hclose)
    refine ⟨_, hreach.trans (htake.trans hsend), by simp [Hub.next], ?_⟩
    intro g hne
    simpa [Yields, Hub.next, hne] using hyield g
  · refine ⟨_, hreach.trans (step (e := .kickDestSkip X c r dn k)
      ⟨hX₁, .inr ⟨hlock, hmem⟩⟩ rfl rfl), by simp [Hub.next], ?_⟩
    intro g hne
    simpa [Yields, Hub.next, hne] using hyield g

end HubNet
end Spanreed
