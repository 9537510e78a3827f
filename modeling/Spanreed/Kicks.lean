import Spanreed.Allocation
import Spanreed.Orphans

/-! # One close command per client

`kickClient` reads the names of the client's handlers, sends its commands and removes the record in
separate steps. Two goroutines that are in the middle of kicking the same client both send
(`kicked_twice`). If no kick of a client begins while another one is under way, except when the
client is gone already, its handlers are told once each (`one_close_each`). -/

namespace Spanreed
open Automata

namespace HubEvent

/-- The client of a close command for a client handler. -/
def clientClosed : HubEvent → Option ClientId
  | .kickClientSend _ c _ _ _ _ => some c
  | _ => none

/-- The client of a close command for a destination handler. -/
def destinationClosed : HubEvent → Option ClientId
  | .kickDestSend _ c _ _ _ => some c
  | _ => none

/-- A kick of client `c` reads its first handler name. -/
def BeginsKick (c : ClientId) : HubEvent → Prop
  | .kickClientName _ c' _ _ | .kickAllNext c' _ => c' = c
  | _ => False

end HubEvent

namespace HubPc

/-- In the middle of a kick of client `c`. -/
def midKick (c : ClientId) : HubPc → Bool
  | .kickDestName c' .. | .kickClientLookup c' .. | .kickClientSend c' .. | .kickDestLookup c' ..
  | .kickDestSend c' .. | .kickRemove c' .. => c' = c
  | _ => false

/-- The close commands for client `c` that a goroutine at this point may still send to a client
handler. -/
def owesClient (c : ClientId) : HubPc → Nat
  | .kickDestName c' _ cn _ | .kickClientLookup c' _ cn _ _ => if c' = c ∧ cn ≠ "" then 1 else 0
  | .kickClientSend c' .. => if c' = c then 1 else 0
  | _ => 0

/-- The same for destination handlers; before their name is read, it depends on the record. -/
def owesDestination (c : ClientId) (hasClient : Bool) : HubPc → Nat
  | .kickDestName c' .. => if c' = c ∧ hasClient then 1 else 0
  | .kickClientLookup c' _ _ dn _ | .kickClientSend c' _ _ dn _ | .kickDestLookup c' _ dn _ =>
    if c' = c ∧ dn ≠ "" then 1 else 0
  | .kickDestSend c' .. => if c' = c then 1 else 0
  | _ => 0

@[simp] theorem midKick_resume (c : ClientId) (k : KickReturn) : k.resume.midKick c = false := by
  cases k <;> rfl
@[simp] theorem owesClient_resume (c : ClientId) (k : KickReturn) : k.resume.owesClient c = 0 := by
  cases k <;> rfl
@[simp] theorem owesDestination_resume (c : ClientId) (p : Bool) (k : KickReturn) :
    k.resume.owesDestination c p = 0 := by cases k <;> rfl

end HubPc

namespace Hub
open HubEvent HubPc

/-- The sum over the goroutines. -/
def total (f : HubPc → Nat) (h : Hub) : Nat :=
  f (h.pc .client) + f (h.pc .destination) + f (h.pc .timeout) + f (h.pc .main)

section
variable {tr : List HubEvent} {h : Hub} {c : ClientId} {e : HubEvent} {g : Goroutine}

theorem total_next (f : HubPc → Nat) (hg : e.mover = some g) :
    total f (h.next e) + f (h.pc g) = total f h + f ((h.next e).pc g) := by
  have hstay : ∀ g', g' ≠ g → (h.next e).pc g' = h.pc g' := by
    intro g' hne
    exact pc_next_of_ne fun hg' => hne (Option.some.inj (hg'.symm.trans hg))
  cases g <;> simp only [total, ne_eq, reduceCtorEq, not_false_eq_true, hstay] <;> omega

theorem total_mono {f f' : HubPc → Nat} (hle : ∀ g, f (h.pc g) ≤ f' (h.pc g)) :
    total f h ≤ total f' h := by
  unfold total
  have h₁ := hle .client
  have h₂ := hle .destination
  have h₃ := hle .timeout
  have h₄ := hle .main
  omega

/-- A kick is under way from reading the first name to removing the record. -/
theorem midKick_next (he : h.enabled e) (hg : e.mover = some g) :
    (e.BeginsKick c ∧ (h.pc g).midKick c = false ∧ ((h.next e).pc g).midKick c = true) ∨
    (¬e.BeginsKick c ∧ (h.pc g).midKick c = true ∧ ((h.next e).pc g).midKick c = false ∧
      (h.next e).clientStore.hasClient c = false) ∨
    (¬e.BeginsKick c ∧ ((h.next e).pc g).midKick c = (h.pc g).midKick c) := by
  cases e <;> simp only [mover, Option.some.injEq, reduceCtorEq] at hg
  all_goals
    subst hg
    simp only [enabled] at he
  case kickClientName g' c' r k =>
    by_cases hc : c' = c
    · exact .inl ⟨hc, by simp [he, midKick], by simp [Hub.next, midKick, hc]⟩
    · exact .inr (.inr ⟨hc, by simp [Hub.next, midKick, he, hc]⟩)
  case kickAllNext c' connection =>
    by_cases hc : c' = c
    · exact .inl ⟨hc, by simp [he, midKick], by simp [Hub.next, midKick, hc]⟩
    · exact .inr (.inr ⟨hc, by simp [Hub.next, midKick, he, hc]⟩)
  case kickRemove g' c' r k =>
    by_cases hc : c' = c
    · refine .inr (.inl ⟨not_false, by simp [he, midKick, hc], by simp [Hub.next], ?_⟩)
      simp [Hub.next, ClientStore.hasClient, ClientStore.get_removeClient, hc]
    · refine .inr (.inr ⟨not_false, ?_⟩)
      have hnew : ((h.next (.kickRemove g' c' r k)).pc g').midKick c = false := by simp [Hub.next]
      rw [hnew, he]
      simp [midKick, hc]
  all_goals exact .inr (.inr ⟨not_false, by simp [Hub.next, midKick, he]⟩)

theorem begins_of_midKick (he : h.enabled e) (hk : ((h.next e).pc g).midKick c = true) :
    (h.pc g).midKick c = true ∨ e.BeginsKick c ∧ e.mover = some g := by
  by_cases hg : e.mover = some g
  · rcases midKick_next (c := c) he hg with ⟨hb, -⟩ | ⟨-, -, hnot, -⟩ | ⟨-, hsame⟩
    · exact .inr ⟨hb, hg⟩
    · rw [hnot] at hk
      cases hk
    · exact .inl (hsame ▸ hk)
  · rw [pc_next_of_ne hg] at hk
    exact .inl hk

/-- Only a callback gives a client a record. -/
theorem hasClient_next (he : h.enabled e) (hno : e.createdId ≠ some c)
    (hhas : (h.next e).clientStore.hasClient c = true) : h.clientStore.hasClient c = true := by
  unfold ClientStore.hasClient at hhas ⊢
  rcases get_next he c with ⟨name, t, rfl, -⟩ | ⟨g, r, k, rfl, hnone⟩ | ⟨t, rfl, hnext⟩ |
    ⟨t, rfl, hnext⟩ | ⟨v, name, rfl, -, hnext⟩ | ⟨m, t, name, rfl, -, hnext⟩ | hsame
  · exact (hno rfl).elim
  · rw [hnone] at hhas
    cases hhas
  · rwa [hnext, Option.isSome_map] at hhas
  · rwa [hnext, Option.isSome_map] at hhas
  · rwa [hnext, Option.isSome_map] at hhas
  · rwa [hnext, Option.isSome_map] at hhas
  · rwa [hsame] at hhas

end

/-- A kind of command that a kick of client `c` sends: which events send it, and how many a
goroutine may still send, depending on whether the client has a record. -/
structure Debt (c : ClientId) where
  told : HubEvent → Option ClientId
  owes : Bool → HubPc → Nat
  owes_le : ∀ p pc, owes p pc ≤ (pc.midKick c).toNat
  mono : ∀ pc, owes false pc ≤ owes true pc
  idle : ∀ e, e.mover = none → told e = none
  begins : ∀ {h : Hub} {e g}, h.enabled e → e.BeginsKick c → e.mover = some g →
    told e = none ∧ owes (h.clientStore.hasClient c) ((h.next e).pc g) ≤
      (h.clientStore.hasClient c).toNat
  goes : ∀ {h : Hub} {e g}, h.enabled e → ¬e.BeginsKick c → e.mover = some g →
    (told e).toList.count c + owes (h.clientStore.hasClient c) ((h.next e).pc g) ≤
      owes (h.clientStore.hasClient c) (h.pc g)

theorem nameOrEmpty_eq_empty {h : Hub} {c : ClientId} (hno : h.clientStore.hasClient c = false) :
    nameOrEmpty (h.clientStore.getClientHandlerName c) = "" := by
  have hget : h.clientStore.get c = none := by simpa [ClientStore.hasClient] using hno
  simp [nameOrEmpty, ClientStore.getClientHandlerName, hget]

/-- The close command for the client handler. -/
def clientDebt (c : ClientId) : Debt c where
  told := clientClosed
  owes _ := owesClient c
  owes_le p pc := by
    cases pc <;> simp only [owesClient, midKick] <;> grind
  mono _ := le_rfl
  idle e he := by cases e <;> first | rfl | cases he
  begins {h e g} he hb hg := by
    cases e <;> simp only [mover, Option.some.injEq, reduceCtorEq] at hg
    case kickClientName g' c' r k =>
      cases hb
      subst hg
      refine ⟨rfl, ?_⟩
      cases hhas : h.clientStore.hasClient c
      · simp [Hub.next, owesClient, nameOrEmpty_eq_empty hhas]
      · simp only [Hub.next, goto_pc, Function.update_self, owesClient]
        split <;> simp
    case kickAllNext c' connection =>
      cases hb
      subst hg
      refine ⟨rfl, ?_⟩
      have hhas : h.clientStore.hasClient c = true := by simp [ClientStore.hasClient, he.2]
      rw [hhas]
      simp only [Hub.next, goto_pc, Function.update_self, owesClient]
      split <;> simp
    all_goals exact hb.elim
  goes {h e g} he hb hg := by
    cases e <;> simp only [mover, Option.some.injEq, reduceCtorEq] at hg
    all_goals
      subst hg
      simp only [enabled] at he
    case kickClientName g' c' r k =>
      have hc : c' ≠ c := hb
      simp [Hub.next, owesClient, clientClosed, hc]
    case kickAllNext c' connection =>
      have hc : c' ≠ c := hb
      simp [Hub.next, owesClient, clientClosed, hc]
    case kickClientSend g' c' r cn dn k =>
      simp [Hub.next, owesClient, clientClosed, he, List.count_singleton]
    case kickRemove g' c' r k =>
      simp only [Hub.next, goto_pc, Function.update_self, owesClient_resume, clientClosed,
        Option.toList_none, List.count_nil]
      exact Nat.zero_le _
    all_goals simp [Hub.next, owesClient, clientClosed, he]

/-- The close command for the destination handler. -/
def destinationDebt (c : ClientId) : Debt c where
  told := destinationClosed
  owes := owesDestination c
  owes_le p pc := by
    cases pc <;> simp only [owesDestination, midKick] <;> grind
  mono pc := by
    cases pc <;> simp [owesDestination]
  idle e he := by cases e <;> first | rfl | cases he
  begins {h e g} he hb hg := by
    cases e <;> simp only [mover, Option.some.injEq, reduceCtorEq] at hg
    case kickClientName g' c' r k =>
      cases hb
      subst hg
      refine ⟨rfl, ?_⟩
      simp only [Hub.next, goto_pc, Function.update_self, owesDestination]
      split <;> simp_all
    case kickAllNext c' connection =>
      cases hb
      subst hg
      refine ⟨rfl, ?_⟩
      have hhas : h.clientStore.hasClient c = true := by simp [ClientStore.hasClient, he.2]
      rw [hhas]
      simp only [Hub.next, goto_pc, Function.update_self, owesDestination]
      split <;> simp
    all_goals exact hb.elim
  goes {h e g} he hb hg := by
    cases e <;> simp only [mover, Option.some.injEq, reduceCtorEq] at hg
    all_goals
      subst hg
      simp only [enabled] at he
    case kickClientName g' c' r k =>
      have hc : c' ≠ c := hb
      simp [Hub.next, owesDestination, destinationClosed, hc]
    case kickAllNext c' connection =>
      have hc : c' ≠ c := hb
      simp [Hub.next, owesDestination, destinationClosed, hc]
    case kickDestName g' c' r cn k =>
      cases hhas : h.clientStore.hasClient c with
      | true => simp [Hub.next, owesDestination, destinationClosed, he]; grind
      | false =>
        have hget : h.clientStore.get c = none := by simpa [ClientStore.hasClient] using hhas
        have hname : nameOrEmpty (h.clientStore.getDestinationHandlerName c) = "" := by
          simp [nameOrEmpty, ClientStore.getDestinationHandlerName, hget]
        by_cases hc : c' = c
        · simp [Hub.next, owesDestination, destinationClosed, hc, hname]
        · simp [Hub.next, owesDestination, destinationClosed, hc]
    case kickDestSend g' c' r dn k =>
      simp [Hub.next, owesDestination, destinationClosed, he, List.count_singleton]
    case kickRemove g' c' r k =>
      simp only [Hub.next, goto_pc, Function.update_self, owesDestination_resume,
        destinationClosed, Option.toList_none, List.count_nil]
      exact Nat.zero_le _
    all_goals simp [Hub.next, owesDestination, destinationClosed, he]

section
variable {config : HubConfig} {maxConnections : Nat} {clientHandlers : List String}
  {handlers : List DestinationHandler} {tr : List HubEvent} {h : Hub} {c : ClientId} {e : HubEvent}

/-- In this history no kick of client `c` begins while another goroutine is in the middle of one,
except when the record of `c` is gone. -/
def KicksAlone (h₀ : Hub) (c : ClientId) (tr : List HubEvent) : Prop :=
  ∀ tr₁ h₁ g r k, automaton.Run h₀ tr₁ h₁ → tr₁ ++ [.kickClientName g c r k] <+: tr →
    (∀ g', (h₁.pc g').midKick c = false) ∨
      h₁.clientStore.get c = none ∧ c ∈ tr₁.filterMap createdId

theorem KicksAlone.mono {h₀ : Hub} {tr' : List HubEvent} (ha : KicksAlone h₀ c tr)
    (hp : tr' <+: tr) : KicksAlone h₀ c tr' :=
  fun tr₁ h₁ g r k hr hpre => ha tr₁ h₁ g r k hr (hpre.trans hp)

/-- When a kick of `c` begins in such a history. -/
theorem alone_of_begins
    (hr : automaton.Run (start config maxConnections clientHandlers handlers) tr h)
    (he : h.enabled e)
    (halone : KicksAlone (start config maxConnections clientHandlers handlers) c (tr ++ [e]))
    (hb : e.BeginsKick c) :
    (∀ g, (h.pc g).midKick c = false) ∨
      h.clientStore.get c = none ∧ c ∈ tr.filterMap createdId := by
  cases e
  case kickClientName g c' r k =>
    cases hb
    exact halone tr h g r k hr (List.prefix_refl _)
  case kickAllNext c' connection =>
    refine .inl fun g => ?_
    by_cases hg : g = .main
    · rw [hg, he.1]
      rfl
    · rw [exited_of_main hr (by rw [he.1]; simp) hg]
      rfl
  all_goals exact hb.elim

/-- As long as `c` has no record, at most one goroutine is in the middle of kicking it. -/
theorem midKick_unique
    (hr : automaton.Run (start config maxConnections clientHandlers handlers) tr h)
    (halone : KicksAlone (start config maxConnections clientHandlers handlers) c tr)
    {g g' : Goroutine} (hg : (h.pc g).midKick c = true) (hg' : (h.pc g').midKick c = true)
    (hne : g ≠ g') : c ∈ tr.filterMap createdId := by
  induction hr generalizing g g' with
  | nil => cases g <;> cases hg
  | @snoc tr h e hr he ih =>
    rw [List.filterMap_append, List.mem_append]
    have halone' := halone.mono (List.prefix_append tr [e])
    -- one that begins finds another one in the middle
    have begins : ∀ {g}, (h.pc g).midKick c = true → e.BeginsKick c →
        c ∈ tr.filterMap createdId := by
      intro g hmid hb
      rcases alone_of_begins hr he halone hb with hnone | ⟨-, hcreated⟩
      · rw [hnone g] at hmid
        cases hmid
      · exact hcreated
    refine .inl ?_
    rcases begins_of_midKick he hg with hold | ⟨hb, hmover⟩
    · rcases begins_of_midKick he hg' with hold' | ⟨hb, -⟩
      · exact ih halone' hold hold' hne
      · exact begins hold hb
    · rcases begins_of_midKick he hg' with hold' | ⟨-, hmover'⟩
      · exact begins hold' hb
      · exact (hne (Option.some.inj (hmover.symm.trans hmover'))).elim

/-- What kicks that are under way may still send, or the next one if there is none. -/
def outstanding (D : Debt c) (h : Hub) : Nat :=
  total (D.owes (h.clientStore.hasClient c)) h +
    if h.clientStore.hasClient c ∧ ∀ g, (h.pc g).midKick c = false then 1 else 0

/-- What was sent, may still be sent, and may be sent once the client is created. -/
def balance (D : Debt c) (tr : List HubEvent) (h : Hub) : Nat :=
  (tr.filterMap D.told).count c + outstanding D h + if c ∈ tr.filterMap createdId then 0 else 1

theorem total_eq_zero (D : Debt c) {p : Bool} (hno : ∀ g, (h.pc g).midKick c = false) :
    total (D.owes p) h = 0 := by
  have hle : total (D.owes p) h ≤ total (fun _ => 0) h := total_mono fun g => by
    have howes := D.owes_le p (h.pc g)
    rwa [hno g] at howes
  exact Nat.le_zero.mp hle

/-- If one goroutine at most is in the middle of a kick, one command at most is owed. -/
theorem total_le_one (D : Debt c) {p : Bool}
    (huniq : ∀ g g', (h.pc g).midKick c = true → (h.pc g').midKick c = true → g = g') :
    total (D.owes p) h ≤ 1 := by
  have hle : total (D.owes p) h ≤ total (fun pc => (pc.midKick c).toNat) h :=
    total_mono fun g => D.owes_le p (h.pc g)
  refine hle.trans ?_
  simp only [total]
  have key : ∀ g g', g ≠ g' → ((h.pc g).midKick c).toNat + ((h.pc g').midKick c).toNat ≤ 1 := by
    intro g g' hne
    cases hg : (h.pc g).midKick c <;> cases hg' : (h.pc g').midKick c <;>
      simp only [Bool.toNat_true, Bool.toNat_false] <;> try omega
    exact (hne (huniq g g' hg hg')).elim
  have h₁ := key .client .destination (by simp)
  have h₂ := key .client .timeout (by simp)
  have h₃ := key .client .main (by simp)
  have h₄ := key .destination .timeout (by simp)
  have h₅ := key .destination .main (by simp)
  have h₆ := key .timeout .main (by simp)
  omega

/-- Creation of the record of `c`: until then nothing was sent or owed. -/
theorem balance_created (D : Debt c)
    (hr : automaton.Run (start config maxConnections clientHandlers handlers) tr h)
    (he : h.enabled e) (hcreated : e.createdId = some c) (hfresh : c ∉ tr.filterMap createdId)
    (halone : KicksAlone (start config maxConnections clientHandlers handlers) c tr)
    (ih : balance D tr h ≤ 1) : balance D (tr ++ [e]) (h.next e) ≤ 1 := by
  have hmover : e.mover = none := by cases e <;> cases hcreated; rfl
  have hpc : ∀ g, (h.next e).pc g = h.pc g := fun g => pc_next_of_ne (by simp [hmover])
  have hsent : (tr.filterMap D.told).count c = 0 := by
    unfold balance at ih
    rw [if_neg hfresh] at ih
    omega
  have hlast : c ∈ (tr ++ [e]).filterMap createdId := by
    rw [filterMap_snoc_some hcreated]
    simp
  unfold balance outstanding
  rw [filterMap_snoc_none (D.idle e hmover), hsent, if_pos hlast]
  by_cases hno : ∀ g, (h.pc g).midKick c = false
  · rw [total_eq_zero D fun g => by rw [hpc g]; exact hno g]
    split <;> omega
  · have huniq := total_le_one D (h := h.next e) (p := (h.next e).clientStore.hasClient c) ?_
    · rw [if_neg fun hall => hno fun g => by rw [← hpc g]; exact hall.2 g]
      omega
    · intro g g' hg hg'
      rw [hpc g] at hg
      rw [hpc g'] at hg'
      by_contra hne
      exact hfresh (midKick_unique hr halone hg hg' hne)

theorem Debt.owes_mono (D : Debt c) {p p' : Bool} (hp : p' = true → p = true) (pc : HubPc) :
    D.owes p' pc ≤ D.owes p pc := by
  cases p <;> cases p'
  · exact le_rfl
  · cases hp rfl
  · exact D.mono pc
  · exact le_rfl

/-- A kick of `c` begins. -/
theorem balance_begins (D : Debt c) {g : Goroutine} (he : h.enabled e) (hg : e.mover = some g)
    (hb : e.BeginsKick c)
    (hhas : (h.next e).clientStore.hasClient c = true → h.clientStore.hasClient c = true)
    (halone : (∀ g, (h.pc g).midKick c = false) ∨ h.clientStore.hasClient c = false) :
    (D.told e).toList.count c + outstanding D (h.next e) ≤ outstanding D h := by
  unfold outstanding
  obtain ⟨htold, howes⟩ := D.begins he hb hg
  have hmid : ¬∀ g, ((h.next e).pc g).midKick c = false := by
    intro hall
    rcases midKick_next (c := c) he hg with ⟨-, -, hmid⟩ | ⟨hnb, -⟩ | ⟨hnb, -⟩
    · rw [hall g] at hmid
      cases hmid
    · exact hnb hb
    · exact hnb hb
  have hle : total (D.owes ((h.next e).clientStore.hasClient c)) (h.next e) ≤
      total (D.owes (h.clientStore.hasClient c)) (h.next e) :=
    total_mono fun g => D.owes_mono hhas _
  have hmove := total_next (h := h) (D.owes (h.clientStore.hasClient c)) hg
  rw [htold, if_neg fun hall => hmid hall.2]
  simp only [Option.toList_none, List.count_nil]
  rcases halone with hno | hgone
  · rw [total_eq_zero D hno] at hmove ⊢
    cases hp : h.clientStore.hasClient c <;> rw [hp] at hmove howes hle
    · simp only [Bool.toNat_false] at howes
      omega
    · rw [if_pos ⟨rfl, hno⟩]
      simp only [Bool.toNat_true] at howes
      omega
  · rw [hgone] at hmove howes hle ⊢
    simp only [Bool.toNat_false] at howes
    omega

/-- A goroutine goes on, in a kick of `c` or elsewhere. -/
theorem balance_goes (D : Debt c) {g : Goroutine} (he : h.enabled e) (hg : e.mover = some g)
    (hb : ¬e.BeginsKick c)
    (hhas : (h.next e).clientStore.hasClient c = true → h.clientStore.hasClient c = true) :
    (D.told e).toList.count c + outstanding D (h.next e) ≤ outstanding D h := by
  unfold outstanding
  have hgoes := D.goes he hb hg
  have hle : total (D.owes ((h.next e).clientStore.hasClient c)) (h.next e) ≤
      total (D.owes (h.clientStore.hasClient c)) (h.next e) :=
    total_mono fun g => D.owes_mono hhas _
  have hmove := total_next (h := h) (D.owes (h.clientStore.hasClient c)) hg
  by_cases hnew : (h.next e).clientStore.hasClient c = true ∧
      ∀ g, ((h.next e).pc g).midKick c = false
  · -- a kick only ends by removing the record
    have hold : h.clientStore.hasClient c = true ∧ ∀ g, (h.pc g).midKick c = false := by
      refine ⟨hhas hnew.1, fun g' => ?_⟩
      by_cases hg' : e.mover = some g'
      · rcases midKick_next (c := c) he hg' with ⟨hb', -⟩ | ⟨-, -, -, hgone⟩ | ⟨-, hsame⟩
        · exact (hb hb').elim
        · rw [hnew.1] at hgone
          cases hgone
        · exact hsame ▸ hnew.2 g'
      · exact pc_next_of_ne (h := h) hg' ▸ hnew.2 g'
    rw [if_pos hnew, if_pos hold]
    omega
  · rw [if_neg hnew]
    omega

/-- Every other event. -/
theorem balance_next (D : Debt c)
    (hr : automaton.Run (start config maxConnections clientHandlers handlers) tr h)
    (he : h.enabled e) (hcreated : e.createdId ≠ some c)
    (halone : KicksAlone (start config maxConnections clientHandlers handlers) c (tr ++ [e])) :
    balance D (tr ++ [e]) (h.next e) ≤ balance D tr h := by
  have hmem : c ∈ (tr ++ [e]).filterMap createdId ↔ c ∈ tr.filterMap createdId := by
    rw [List.filterMap_append, List.mem_append]
    refine or_iff_left fun hlast => hcreated ?_
    obtain ⟨e', he', hc⟩ := List.mem_filterMap.mp hlast
    exact List.mem_singleton.mp he' ▸ hc
  have hhas : (h.next e).clientStore.hasClient c = true → h.clientStore.hasClient c = true :=
    hasClient_next he hcreated
  have hcount : ((tr ++ [e]).filterMap D.told).count c =
      (tr.filterMap D.told).count c + (D.told e).toList.count c := by
    cases htold : D.told e with
    | none => rw [filterMap_snoc_none htold]; rfl
    | some c' => rw [filterMap_snoc_some htold, List.count_append]; rfl
  have key : (D.told e).toList.count c + outstanding D (h.next e) ≤ outstanding D h := by
    cases hg : e.mover with
    | none =>
      have hpc : (h.next e).pc = h.pc := funext fun g => pc_next_of_ne (by simp [hg])
      rw [D.idle e hg]
      unfold outstanding total
      rw [hpc]
      have hle := total_mono (h := h) fun g => D.owes_mono hhas (h.pc g)
      unfold total at hle
      split
      · next hnew =>
        rw [if_pos ⟨hhas hnew.1, hnew.2⟩]
        simpa using hle
      · simp only [Option.toList_none, List.count_nil]
        omega
    | some g =>
      by_cases hb : e.BeginsKick c
      · refine balance_begins D he hg hb hhas ?_
        rcases alone_of_begins hr he halone hb with hno | ⟨hgone, -⟩
        · exact .inl hno
        · exact .inr (by simp [ClientStore.hasClient, hgone])
      · exact balance_goes D he hg hb hhas
  unfold balance
  simp only [hmem, hcount]
  omega

theorem balance_le
    (hr : automaton.Run (start config maxConnections clientHandlers handlers) tr h)
    (hlt : (tr.filterMap newId).length < 2 ^ 32)
    (halone : KicksAlone (start config maxConnections clientHandlers handlers) c tr)
    (D : Debt c) : balance D tr h ≤ 1 := by
  induction hr with
  | nil =>
    have hno : ∀ g, ((start config maxConnections clientHandlers handlers).pc g).midKick c =
        false := by
      intro g
      cases g <;> rfl
    unfold balance outstanding
    rw [total_eq_zero D hno, if_neg (by simp [start, ClientStore.hasClient])]
    simp
  | @snoc tr h e hr he ih =>
    have halone' := halone.mono (List.prefix_append tr [e])
    have hlt' : (tr.filterMap newId).length < 2 ^ 32 := by
      rw [List.filterMap_append, List.length_append] at hlt
      omega
    have ih := ih hlt' halone'
    by_cases hcreated : e.createdId = some c
    · refine balance_created D hr he hcreated ?_ halone' ih
      have hnodup := createdIds_nodup (hr.snoc he) hlt
      rw [filterMap_snoc_some hcreated, List.nodup_append] at hnodup
      exact fun hmem => hnodup.2.2 c hmem c (by simp) rfl
    · exact (balance_next D hr he hcreated halone).trans ih

/-- If no kick of `c` begins while another goroutine is in the middle of one, unless `c` is gone
already, the hub sends at most one close command for `c` to each side. -/
theorem one_close_each
    (hr : automaton.Run (start config maxConnections clientHandlers handlers) tr h)
    (hlt : (tr.filterMap newId).length < 2 ^ 32)
    (halone : KicksAlone (start config maxConnections clientHandlers handlers) c tr) :
    (tr.filterMap clientClosed).count c ≤ 1 ∧ (tr.filterMap destinationClosed).count c ≤ 1 := by
  have hclient := balance_le hr hlt halone (clientDebt c)
  have hdestination := balance_le hr hlt halone (destinationDebt c)
  unfold balance at hclient hdestination
  simp only [clientDebt, destinationDebt] at hclient hdestination
  omega

end

theorem one_close_each_sample :
    ((requested ++ attaches ++ closes).filterMap clientClosed).count 1 ≤ 1 ∧
      ((requested ++ attaches ++ closes).filterMap destinationClosed).count 1 ≤ 1 := by
  have hrun : automaton.Run udpHub (requested ++ attaches ++ closes) _ :=
    Automaton.Admits.run (by decide +kernel)
  refine one_close_each hrun (by decide +kernel) ?_
  intro tr₁ h₁ g r k hr hp
  simp only [requested, attaches, closes, List.cons_append, List.nil_append, snoc_prefix_cons,
    reduceCtorEq, and_false, HubEvent.kickClientName.injEq, List.prefix_nil,
    List.append_eq_nil_iff, List.cons_ne_self, exists_const, or_self, or_false, ↓existsAndEq,
    true_and, false_or] at hp
  obtain ⟨rfl, rfl, rfl, rfl⟩ := hp
  rw [hr.eq_exec]
  exact .inl (by decide +kernel)

/-- The client handler and the destination handler of client 1 close it at the same time: both
goroutines read the names before either is done. -/
def closedByBoth : List HubEvent := [
  .recvClientClose (closeCommand 1 none), .recvDestinationClose (closeCommand 1 none),
  .kickClientName .client 1 none .select, .kickClientName .destination 1 none .select,
  .kickDestName .client 1 none "WebSocket" .select,
  .kickDestName .destination 1 none "WebSocket" .select,
  .kickClientLock .client 1 none "WebSocket" "UdpDestination" .select,
  .kickClientSend .client 1 none "WebSocket" "UdpDestination" .select,
  .kickClientLock .destination 1 none "WebSocket" "UdpDestination" .select,
  .kickClientSend .destination 1 none "WebSocket" "UdpDestination" .select]

/-- The client handler is told twice. -/
theorem kicked_twice :
    ¬∀ (config : HubConfig) (maxConnections : Nat) (clientHandlers : List String)
      (handlers : List DestinationHandler) (tr : List HubEvent) (h : Hub),
      automaton.Run (start config maxConnections clientHandlers handlers) tr h →
        (tr.filterMap newId).length < 2 ^ 32 → ∀ c,
          (tr.filterMap clientClosed).count c ≤ 1 ∧
            (tr.filterMap destinationClosed).count c ≤ 1 := by
  intro hall
  have hrun : automaton.Run udpHub (requested ++ attaches ++ closedByBoth) _ :=
    Automaton.Admits.run (by decide +kernel)
  have hone := (hall _ _ _ _ _ _ hrun (by decide +kernel) 1).1
  revert hone
  decide +kernel

end Hub
end Spanreed
