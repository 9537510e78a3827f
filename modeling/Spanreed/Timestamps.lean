import Spanreed.Allocation
import Spanreed.HubLocks
import Spanreed.Timeouts

/-! # Clock readings on their way

The clock is read before the time is stored or sent, so every stored time is older than the moment
at which it lands. `Hub.OnTime` says for each point of a goroutine what is known about the times in
its hands. A time that is about to be stored in a record was read after the record was made:
until the counter of ids wraps, an id whose record was found never gets a second one. -/

namespace Spanreed
open Automata

/-- Receive and route timestamp of a message or an open command that the hub sends on. -/
def HubEvent.sentTimes : HubEvent → Option (Timestamp × Timestamp)
  | .fwdClientSend m _ => some (m.recvTimestamp, m.routeTimestamp)
  | .fwdDestSend m _ => some (m.recvTimestamp, m.routeTimestamp)
  | .reqSend m _ => some (m.recvTimestamp, m.routeTimestamp)
  | _ => none

/-- The times of a record are in order. -/
structure ClientConnectionMetadata.InOrder (now : Timestamp) (md : ClientConnectionMetadata) :
    Prop where
  created_le_client : md.createdTime ≤ md.lastClientMsgTime
  client_le_now : md.lastClientMsgTime ≤ now
  created_le_destination : md.createdTime ≤ md.lastDestinationMsgTime
  destination_le_now : md.lastDestinationMsgTime ≤ now

/-- A later state of a record: made at the same time, and heard from no earlier. -/
structure ClientConnectionMetadata.Later (md md' : ClientConnectionMetadata) : Prop where
  created_eq : md'.createdTime = md.createdTime
  client_le : md.lastClientMsgTime ≤ md'.lastClientMsgTime
  destination_le : md.lastDestinationMsgTime ≤ md'.lastDestinationMsgTime

namespace Hub
open HubEvent HubPc

/-- What arrives was stamped by its transport with the time at that moment. -/
def Stamped (h : Hub) : HubEvent → Prop
  | .recvClientMessage m => m.recvTimestamp ≤ h.now
  | .recvDestinationMessage m => m.recvTimestamp ≤ h.now
  | .recvOpenClient m => m.recvTimestamp ≤ h.now
  | _ => True

/-- What is known about the times that a goroutine at this point has in its hands, if records were
made for the ids `made`. -/
def OnTime (made : List ClientId) (h : Hub) : HubPc → Prop
  | .fwdClientNow m => m.recvTimestamp ≤ h.now
  | .fwdClientName m t => m.recvTimestamp ≤ t ∧ t ≤ h.now
  | .fwdClientLookup m t _ => m.clientId ∈ made ∧ m.recvTimestamp ≤ t ∧ t ≤ h.now
  | .fwdClientSend m _ =>
    m.clientId ∈ made ∧ m.recvTimestamp ≤ m.routeTimestamp ∧ m.routeTimestamp ≤ h.now
  | .clientStampNow c => c ∈ made
  | .clientStamp c t => c ∈ made ∧ t ≤ h.now ∧
    ∀ md, h.clientStore.get c = some md → md.lastClientMsgTime ≤ t
  | .fwdDestNow m => m.recvTimestamp ≤ h.now
  | .fwdDestName m t => m.recvTimestamp ≤ t ∧ t ≤ h.now
  | .fwdDestLookup m t _ => m.clientId ∈ made ∧ m.recvTimestamp ≤ t ∧ t ≤ h.now
  | .fwdDestSend m _ =>
    m.clientId ∈ made ∧ m.recvTimestamp ≤ m.routeTimestamp ∧ m.routeTimestamp ≤ h.now
  | .destStampNow c => c ∈ made
  | .destStamp c t => c ∈ made ∧ t ≤ h.now ∧
    ∀ md, h.clientStore.get c = some md → md.lastDestinationMsgTime ≤ t
  | .reqNow m => m.recvTimestamp ≤ h.now
  | .reqName m t | .reqMatch m t | .reqLookup m t _ | .reqAttach m t _ =>
    m.recvTimestamp ≤ t ∧ t ≤ h.now
  | .reqSend m _ => m.recvTimestamp ≤ m.routeTimestamp ∧ m.routeTimestamp ≤ h.now
  | .sweepNow₂ a => a ≤ h.now - h.config.clientMessageTimeout
  | .sweepNow₃ a b | .sweepList a b _ => a ≤ h.now - h.config.clientMessageTimeout ∧
    b ≤ h.now - h.config.destinationMessageTimeout
  | _ => True

/-- The times of a hub in which records were made for the ids `made`. -/
structure Timely (made : List ClientId) (h : Hub) : Prop where
  known : ∀ c, h.clientStore.get c ≠ none → c ∈ made
  callbacks : ∀ name id t, .create name id t ∈ h.callbacks → t ≤ h.now
  records : ∀ c md, h.clientStore.get c = some md → md.InOrder h.now
  points : ∀ g, OnTime made h (h.pc g)

variable {h : Hub} {e : HubEvent} {g : Goroutine} {c : ClientId} {made : List ClientId}

@[simp] theorem goto_now {p : HubPc} : (h.goto g p).now = h.now := rfl
@[simp] theorem goto_config {p : HubPc} : (h.goto g p).config = h.config := rfl

theorem now_le_next (he : h.enabled e) : h.now ≤ (h.next e).now := by
  cases e
  case advanceClock => exact he
  all_goals exact le_rfl

theorem config_next : (h.next e).config = h.config := by
  cases e <;> rfl

/-- How a record that stays changes. -/
theorem Timely.later (ht : Timely made h) (he : h.enabled e) {md md' : ClientConnectionMetadata}
    (hold : h.clientStore.get c = some md) (hnew : (h.next e).clientStore.get c = some md') :
    md.Later md' := by
  rcases get_next he c with ⟨_, _, rfl, hnone, -⟩ | ⟨_, _, _, rfl, hnone⟩ | ⟨t, rfl, hstamp⟩ |
    ⟨t, rfl, hstamp⟩ | ⟨_, _, rfl, -, hconnect⟩ | ⟨_, _, _, rfl, -, hattach⟩ | hsame
  · simp [hnone] at hold
  · simp [hnone] at hnew
  · rw [hstamp, hold] at hnew
    cases hnew
    have hpc := ht.points .client
    rw [show h.pc .client = .clientStamp c t from he] at hpc
    exact ⟨rfl, hpc.2.2 md hold, le_rfl⟩
  · rw [hstamp, hold] at hnew
    cases hnew
    have hpc := ht.points .destination
    rw [show h.pc .destination = .destStamp c t from he] at hpc
    exact ⟨rfl, le_rfl, hpc.2.2 md hold⟩
  · rw [hconnect, hold] at hnew
    cases hnew
    exact ⟨rfl, le_rfl, le_rfl⟩
  · rw [hattach, hold] at hnew
    cases hnew
    exact ⟨rfl, le_rfl, le_rfl⟩
  · rw [hsame, hold] at hnew
    cases hnew
    exact ⟨rfl, le_rfl, le_rfl⟩

/-- Only the client goroutine changes when a client was last heard of, and only the destination
goroutine when its destination was. -/
theorem stamps_frame (he : h.enabled e) (hfresh : e.createdId ≠ some c)
    {md : ClientConnectionMetadata} (hmd : (h.next e).clientStore.get c = some md) :
    ∃ md₀, h.clientStore.get c = some md₀ ∧
      (e.mover ≠ some .client → md₀.lastClientMsgTime = md.lastClientMsgTime) ∧
      (e.mover ≠ some .destination → md₀.lastDestinationMsgTime = md.lastDestinationMsgTime) := by
  rcases get_next he c with ⟨_, _, rfl, -⟩ | ⟨_, _, _, rfl, hnone⟩ | ⟨t, rfl, hstamp⟩ |
    ⟨t, rfl, hstamp⟩ | ⟨_, _, rfl, -, hconnect⟩ | ⟨_, _, _, rfl, -, hattach⟩ | hsame
  · exact (hfresh rfl).elim
  · simp [hnone] at hmd
  · rw [hstamp, Option.map_eq_some_iff] at hmd
    obtain ⟨md₀, hold, rfl⟩ := hmd
    exact ⟨md₀, hold, fun hg => (hg rfl).elim, fun _ => rfl⟩
  · rw [hstamp, Option.map_eq_some_iff] at hmd
    obtain ⟨md₀, hold, rfl⟩ := hmd
    exact ⟨md₀, hold, fun _ => rfl, fun hg => (hg rfl).elim⟩
  · rw [hconnect, Option.map_eq_some_iff] at hmd
    obtain ⟨md₀, hold, rfl⟩ := hmd
    exact ⟨md₀, hold, fun _ => rfl, fun _ => rfl⟩
  · rw [hattach, Option.map_eq_some_iff] at hmd
    obtain ⟨md₀, hold, rfl⟩ := hmd
    exact ⟨md₀, hold, fun _ => rfl, fun _ => rfl⟩
  · exact ⟨md, hsame ▸ hmd, fun _ => rfl, fun _ => rfl⟩

/-- A goroutine that stays where it is keeps what it knew. -/
theorem OnTime.frame {made' : List ClientId} {p : HubPc} (ht : OnTime made h p)
    (hp : p.Belongs g) (hg : e.mover ≠ some g) (he : h.enabled e)
    (hfresh : ∀ c ∈ made, e.createdId ≠ some c) (hsub : made ⊆ made') :
    OnTime made' (h.next e) p := by
  have hnow := now_le_next he
  have hconfig : (h.next e).config = h.config := config_next
  cases p
  case clientStamp c t =>
    obtain ⟨hc, ht, hle⟩ := ht
    refine ⟨hsub hc, ht.trans hnow, fun md hmd => ?_⟩
    cases hp
    obtain ⟨md₀, hold, hclient, -⟩ := stamps_frame he (hfresh c hc) hmd
    exact hclient hg ▸ hle md₀ hold
  case destStamp c t =>
    obtain ⟨hc, ht, hle⟩ := ht
    refine ⟨hsub hc, ht.trans hnow, fun md hmd => ?_⟩
    cases hp
    obtain ⟨md₀, hold, -, hdestination⟩ := stamps_frame he (hfresh c hc) hmd
    exact hdestination hg ▸ hle md₀ hold
  case clientStampNow | destStampNow => exact hsub ht
  case fwdClientNow | fwdDestNow | reqNow => exact le_trans ht hnow
  case fwdClientName | fwdDestName | reqName | reqMatch | reqLookup | reqAttach | reqSend =>
    exact ⟨ht.1, ht.2.trans hnow⟩
  case fwdClientLookup | fwdClientSend | fwdDestLookup | fwdDestSend =>
    exact ⟨hsub ht.1, ht.2.1, ht.2.2.trans hnow⟩
  case sweepNow₂ =>
    simp only [OnTime, hconfig] at ht ⊢
    exact ht.trans (Int.sub_le_sub_right hnow _)
  case sweepNow₃ | sweepList =>
    simp only [OnTime, hconfig] at ht ⊢
    exact ⟨ht.1.trans (Int.sub_le_sub_right hnow _), ht.2.trans (Int.sub_le_sub_right hnow _)⟩
  all_goals trivial

/-- What the goroutine that moves knows afterwards. -/
theorem Timely.move {made' : List ClientId} (ht : Timely made h) (he : h.enabled e)
    (hstamped : Stamped h e) (hg : e.mover = some g) (hsub : made ⊆ made') :
    OnTime made' (h.next e) ((h.next e).pc g) := by
  have hpc := ht.points g
  have hfound : ∀ {c : ClientId} {f : ClientConnectionMetadata → String} {name : String},
      (h.clientStore.get c).map f = some name → c ∈ made' := by
    intro c f name hname
    refine hsub (ht.known c fun hnone => ?_)
    simp [hnone] at hname
  cases e <;> simp only [mover, Option.some.injEq, reduceCtorEq] at hg
  all_goals subst hg
  case recvClientMessage | recvDestinationMessage | recvOpenClient =>
    simpa [next, OnTime, Stamped] using hstamped
  case fwdClientNow | fwdDestNow | reqNow =>
    rw [show h.pc _ = _ from he] at hpc
    simpa [next, OnTime] using hpc
  case fwdClientName | fwdDestName =>
    rw [he.1] at hpc
    simpa [next, OnTime] using ⟨hfound he.2, hpc⟩
  case fwdClientLookup | fwdDestLookup =>
    rw [he.1] at hpc
    simpa [next, OnTime] using ⟨hsub hpc.1, hpc.2⟩
  case fwdClientSend | fwdDestSend =>
    rw [show h.pc _ = _ from he] at hpc
    simpa [next, OnTime] using hsub hpc.1
  case clientStampNow c =>
    rw [show h.pc _ = _ from he] at hpc
    simpa [next, OnTime] using ⟨hsub hpc, fun md hmd => (ht.records c md hmd).client_le_now⟩
  case destStampNow c =>
    rw [show h.pc _ = _ from he] at hpc
    simpa [next, OnTime] using ⟨hsub hpc, fun md hmd => (ht.records c md hmd).destination_le_now⟩
  case reqName | reqMatch | reqLookup | reqAttach =>
    rw [he.1] at hpc
    simpa [next, OnTime] using hpc
  case sweepNow₁ => simp [next, OnTime]
  case sweepNow₂ | sweepNow₃ =>
    rw [show h.pc _ = _ from he] at hpc
    simpa [next, OnTime] using hpc
  case kickRemove g c r k => cases k <;> simp [next, OnTime, KickReturn.resume]
  all_goals simp [next, OnTime]

theorem Timely.records_next (ht : Timely made h) (he : h.enabled e)
    {md : ClientConnectionMetadata} (hmd : (h.next e).clientStore.get c = some md) :
    md.InOrder (h.next e).now := by
  have hnow := now_le_next he
  have hold : ∀ {md}, h.clientStore.get c = some md → md.InOrder (h.next e).now := by
    intro md hmd
    have hin := ht.records c md hmd
    exact { hin with
      client_le_now := hin.client_le_now.trans hnow
      destination_le_now := hin.destination_le_now.trans hnow }
  rcases get_next he c with ⟨name, t, rfl, -, hnew⟩ | ⟨_, _, _, rfl, hnone⟩ | ⟨t, rfl, hstamp⟩ |
    ⟨t, rfl, hstamp⟩ | ⟨_, _, rfl, -, hconnect⟩ | ⟨_, _, _, rfl, -, hattach⟩ | hsame
  · rw [hnew] at hmd
    cases hmd
    have ht := ht.callbacks name c t he.1
    exact ⟨le_rfl, ht, le_rfl, ht⟩
  · simp [hnone] at hmd
  · rw [hstamp, Option.map_eq_some_iff] at hmd
    obtain ⟨md, hmd, rfl⟩ := hmd
    have hpc := ht.points .client
    rw [show h.pc .client = .clientStamp c t from he] at hpc
    exact { hold hmd with
      created_le_client := (hold hmd).created_le_client.trans (hpc.2.2 md hmd)
      client_le_now := hpc.2.1 }
  · rw [hstamp, Option.map_eq_some_iff] at hmd
    obtain ⟨md, hmd, rfl⟩ := hmd
    have hpc := ht.points .destination
    rw [show h.pc .destination = .destStamp c t from he] at hpc
    exact { hold hmd with
      created_le_destination := (hold hmd).created_le_destination.trans (hpc.2.2 md hmd)
      destination_le_now := hpc.2.1 }
  · rw [hconnect, Option.map_eq_some_iff] at hmd
    obtain ⟨md, hmd, rfl⟩ := hmd
    exact { hold hmd with }
  · rw [hattach, Option.map_eq_some_iff] at hmd
    obtain ⟨md, hmd, rfl⟩ := hmd
    exact { hold hmd with }
  · exact hold (hsame ▸ hmd)

theorem Timely.callbacks_next (ht : Timely made h) (he : h.enabled e) {name : String}
    {t : Timestamp} (hcb : .create name c t ∈ (h.next e).callbacks) : t ≤ (h.next e).now := by
  have hold : .create name c t ∈ h.callbacks → t ≤ (h.next e).now :=
    fun hcb => (ht.callbacks name c t hcb).trans (now_le_next he)
  cases e
  case getNewClientId => exact hold (by simpa [next] using hcb)
  case callbackNow name' id =>
    rcases List.mem_append.mp hcb with hcb | hcb
    · exact hold (List.mem_of_mem_erase hcb)
    · cases List.mem_singleton.mp hcb
      exact le_rfl
  case createClient | createClientFails => exact hold (List.mem_of_mem_erase hcb)
  all_goals exact hold hcb

section
variable {config : HubConfig} {maxConnections : Nat} {clientHandlers : List String}
  {handlers : List DestinationHandler} {tr : List HubEvent}

theorem config_eq (hr : automaton.Run (start config maxConnections clientHandlers handlers) tr h) :
    h.config = config :=
  hr.invariant (I := fun h => h.config = config) rfl fun _ _ hc _ => config_next.trans hc

theorem belongs (hr : automaton.Run (start config maxConnections clientHandlers handlers) tr h) :
    (h.pc g).Belongs g :=
  (hr.invariant (sane_start ..) fun _ _ hs he => hs.next he).belongs g

/-- The times of a run in which no id gets a second record. -/
theorem timely (hr : automaton.Run (start config maxConnections clientHandlers handlers) tr h)
    (hobeys : automaton.Obeys Stamped (start config maxConnections clientHandlers handlers) tr)
    (hlt : (tr.filterMap newId).length < 2 ^ 32) : Timely (tr.filterMap createdId) h := by
  induction hr with
  | nil => exact ⟨by simp [start], by simp [start], by simp [start], fun g => by
      cases g <;> trivial⟩
  | @snoc tr h e hr he ih =>
    have he : h.enabled e := he
    have hmade := createdIds_nodup (hr.snoc he) hlt
    have hknown := fun c => created_of_get (hr.snoc he) (c := c)
    rw [List.filterMap_append] at hlt hmade
    rw [List.length_append] at hlt
    obtain ⟨hbefore, hstamped⟩ := hr.obeys_snoc.mp hobeys
    have ht := ih hbefore (by omega)
    have hsub : tr.filterMap createdId ⊆ (tr ++ [e]).filterMap createdId := by simp
    have hfresh : ∀ c ∈ tr.filterMap createdId, e.createdId ≠ some c := by
      intro c hc hcreated
      exact List.disjoint_of_nodup_append hmade hc (by simp [hcreated])
    refine ⟨hknown, fun _ _ _ => ht.callbacks_next he, fun _ _ => ht.records_next he,
      fun g => ?_⟩
    by_cases hg : e.mover = some g
    · exact ht.move he hstamped hg hsub
    · have hpc : (h.next e).pc g = h.pc g := pc_next_of_ne hg
      show OnTime _ (h.next e) ((h.next e).pc g)
      rw [hpc]
      exact (ht.points g).frame (belongs hr) hg he hfresh hsub

/-- A record that stays is only ever replaced by a later one. -/
theorem later_of_lives {h₁ : Hub} {tr₁ tr₂ : List HubEvent}
    (hr₁ : automaton.Run (start config maxConnections clientHandlers handlers) tr₁ h₁)
    (hr₂ : automaton.Run h₁ tr₂ h)
    (hobeys : automaton.Obeys Stamped (start config maxConnections clientHandlers handlers)
      (tr₁ ++ tr₂))
    (hlt : ((tr₁ ++ tr₂).filterMap newId).length < 2 ^ 32)
    (hlives : ∀ tr', tr' <+: tr₂ → (automaton.exec h₁ tr').clientStore.get c ≠ none)
    {md md' : ClientConnectionMetadata} (hmd : h₁.clientStore.get c = some md)
    (hmd' : h.clientStore.get c = some md') : md.Later md' := by
  induction hr₂ generalizing md' with
  | nil =>
    cases hmd.symm.trans hmd'
    exact ⟨rfl, le_rfl, le_rfl⟩
  | @snoc tr₂ h e hr₂ he ih =>
    have hr := hr₁.trans hr₂
    rw [← List.append_assoc] at hobeys hlt
    have hobeys := (hr.obeys_snoc.mp hobeys).1
    rw [List.filterMap_append, List.length_append] at hlt
    have hlt : ((tr₁ ++ tr₂).filterMap newId).length < 2 ^ 32 := by omega
    obtain ⟨md'', hmd''⟩ := Option.ne_none_iff_exists'.mp
      (hr₂.eq_exec ▸ hlives tr₂ (List.prefix_append _ _))
    have hfirst := ih hobeys hlt
      (fun tr' hp => hlives tr' (hp.trans (List.prefix_append _ _))) hmd''
    have hlast := (timely hr hobeys hlt).later he hmd'' hmd'
    exact ⟨hlast.created_eq.trans hfirst.created_eq, hfirst.client_le.trans hlast.client_le,
      hfirst.destination_le.trans hlast.destination_le⟩

/-- The times of a record are in order and never go back while it lives, what the hub sends on was
received before it was routed and routed before it is sent, and a record is found stale by the time
of its last message only when the timeout has passed since it was made. -/
theorem timestamps
    (hr : automaton.Run (start config maxConnections clientHandlers handlers) tr h)
    (hobeys : automaton.Obeys Stamped (start config maxConnections clientHandlers handlers) tr)
    (hlt : (tr.filterMap newId).length < 2 ^ 32) :
    (∀ c md, h.clientStore.get c = some md → md.InOrder h.now) ∧
    (∀ tr₁ tr₂ h₁ c md md', tr = tr₁ ++ tr₂ →
      automaton.Run (start config maxConnections clientHandlers handlers) tr₁ h₁ →
      (∀ tr', tr' <+: tr₂ → (automaton.exec h₁ tr').clientStore.get c ≠ none) →
      h₁.clientStore.get c = some md → h.clientStore.get c = some md' → md.Later md') ∧
    (∀ e recvTimestamp routeTimestamp, h.enabled e →
      e.sentTimes = some (recvTimestamp, routeTimestamp) →
      recvTimestamp ≤ routeTimestamp ∧ routeTimestamp ≤ h.now) ∧
    (∀ c md, h.clientStore.get c = some md →
      (md.lastClientMsgTime < h.now - config.clientMessageTimeout →
        md.createdTime + config.clientMessageTimeout < h.now) ∧
      (md.lastDestinationMsgTime < h.now - config.destinationMessageTimeout →
        md.createdTime + config.destinationMessageTimeout < h.now) ∧
      ∀ a b d l, h.enabled (.sweepList a b d l) →
        (md.lastClientMsgTime < a → md.createdTime + config.clientMessageTimeout < h.now) ∧
        (md.lastDestinationMsgTime < b →
          md.createdTime + config.destinationMessageTimeout < h.now)) := by
  have ht := timely hr hobeys hlt
  refine ⟨ht.records, ?_, ?_, ?_⟩
  · rintro tr₁ tr₂ h₁ c md md' rfl hr₁ hlives hmd hmd'
    obtain ⟨h₁', hr₁', hr₂⟩ := hr.split rfl
    obtain rfl : h₁ = h₁' := hr₁.eq_exec.trans hr₁'.eq_exec.symm
    exact later_of_lives hr₁ hr₂ hobeys hlt hlives hmd hmd'
  · intro e recvTimestamp routeTimestamp he htimes
    cases e <;> simp only [HubEvent.sentTimes, reduceCtorEq, Option.some.injEq, Prod.mk.injEq]
      at htimes
    all_goals obtain ⟨rfl, rfl⟩ := htimes
    case fwdClientSend =>
      have hpc := ht.points .client
      rw [show h.pc .client = _ from he] at hpc
      exact hpc.2
    case fwdDestSend =>
      have hpc := ht.points .destination
      rw [show h.pc .destination = _ from he] at hpc
      exact hpc.2
    case reqSend =>
      have hpc := ht.points .client
      rw [show h.pc .client = _ from he] at hpc
      exact hpc
  · intro c md hmd
    obtain ⟨hclient, -, hdestination, -⟩ := ht.records c md hmd
    have hconfig := config_eq hr
    refine ⟨?_, ?_, ?_⟩
    · intro hstale
      exact Int.add_lt_of_lt_sub_right (lt_of_le_of_lt hclient hstale)
    · intro hstale
      exact Int.add_lt_of_lt_sub_right (lt_of_le_of_lt hdestination hstale)
    · rintro a b d l ⟨hpc, -⟩
      have hdeadlines := ht.points .timeout
      rw [hpc] at hdeadlines
      simp only [OnTime, hconfig] at hdeadlines
      refine ⟨?_, ?_⟩
      · intro hstale
        exact Int.add_lt_of_lt_sub_right
          (lt_of_le_of_lt hclient (lt_of_lt_of_le hstale hdeadlines.1))
      · intro hstale
        exact Int.add_lt_of_lt_sub_right
          (lt_of_le_of_lt hdestination (lt_of_lt_of_le hstale hdeadlines.2))

end

/-- The destination of client 1 is silent for just over its timeout, and the sweep finds it. -/
theorem timestamps_sweeps : silentRecord.createdTime + udpHub.config.destinationMessageTimeout <
    (automaton.exec udpHub (requested ++ attaches ++ sweeps)).now := by
  have hrun : automaton.Run udpHub (requested ++ attaches ++ sweeps) _ :=
    Automaton.Admits.run (by decide +kernel)
  have hobeys : automaton.Obeys Stamped udpHub (requested ++ attaches ++ sweeps) := by
    simp [requested, attaches, sweeps, Automaton.Obeys, Stamped, automaton, next,
      Sample.openCommand, show udpHub.now = 0 from rfl]
  have hstale := ((timestamps hrun hobeys (by decide)).2.2.2 1 silentRecord
    (by decide +kernel)).2.2 (-44999999) 1 (-21584999999) [1] (by decide +kernel)
  exact hstale.2 (by decide)

end Hub
end Spanreed
