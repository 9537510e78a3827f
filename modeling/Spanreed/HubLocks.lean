import Spanreed.HubFacts

/-! # Who is where, and who holds what

The points a goroutine of the hub can be at (`HubPc.Belongs`), and that the locks on the two maps
of outgoing channels exclude each other although they are no state of their own
(`Hub.Exclusive`). -/

namespace Spanreed
open Automata

/-- The goroutine that goes on here after a kick. -/
def KickReturn.Belongs (g : Goroutine) : KickReturn → Prop
  | .select => g = .client ∨ g = .destination
  | .kickOldClients _ | .checkForAuthTimeouts _ => g = .timeout
  | .kickAllClients => g = .main

/-- The goroutine can be at this point. -/
def HubPc.Belongs (g : Goroutine) : HubPc → Prop
  | .select => g ≠ .main
  | .exited => True
  | .fwdClientNow _ | .fwdClientName .. | .fwdClientLookup .. | .fwdClientSend ..
  | .clientStampNow _ | .clientStamp .. | .reqNow _ | .reqName .. | .reqMatch .. | .reqLookup ..
  | .reqAttach .. | .reqSend .. => g = .client
  | .fwdDestNow _ | .fwdDestName .. | .fwdDestLookup .. | .fwdDestSend .. | .destStampNow _
  | .destStamp .. | .verdictName _ | .verdictLookup .. | .verdictConnect .. | .verdictSend .. =>
    g = .destination
  | .kickClientName _ _ k | .kickDestName _ _ _ k => k.Belongs g ∧ g ≠ .main
  | .kickClientLookup _ _ _ _ k | .kickClientSend _ _ _ _ k | .kickDestLookup _ _ _ k
  | .kickDestSend _ _ _ k | .kickRemove _ _ k => k.Belongs g
  | .sweepNow₁ | .sweepNow₂ _ | .sweepNow₃ .. | .sweepList .. | .kickOldClients _ | .authNow
  | .authList _ | .checkForAuthTimeouts _ => g = .timeout
  | .waitGroup | .kickAllClients => g = .main

theorem KickReturn.Belongs.resume {g : Goroutine} {k : KickReturn} (h : k.Belongs g) :
    k.resume.Belongs g := by
  cases k
  case select => rcases h with rfl | rfl <;> simp [KickReturn.resume, HubPc.Belongs]
  all_goals exact h

namespace Hub
open HubEvent HubPc
variable {h : Hub} {e : HubEvent} {g : Goroutine}

theorem belongs_next (hb : ∀ g, (h.pc g).Belongs g) (he : h.enabled e) :
    ∀ g, ((h.next e).pc g).Belongs g := by
  intro g
  by_cases hmover : e.mover = some g
  · have hg := hb g
    cases e <;> simp only [mover, Option.some.injEq, reduceCtorEq] at hmover
    all_goals
      subst hmover
      simp only [enabled] at he
    case kickRemove g c r k =>
      rw [he] at hg
      simpa [next] using hg.resume
    case kickDestName =>
      rw [he] at hg
      simpa [next, Belongs] using hg.1
    case kickClientName | kickClientSend | kickDestSend =>
      rw [he] at hg
      simpa [next, Belongs] using hg
    case kickClientSkip | kickClientLock | kickDestSkip | kickDestLock =>
      rw [he.1] at hg
      simpa [next, Belongs] using hg
    all_goals simp [next, Belongs, KickReturn.Belongs]
  · rw [pc_next_of_ne hmover]
    exact hb g

/-- Who writes keeps everybody else out. -/
def Exclusive (reads writes : HubPc → Bool) (h : Hub) : Prop :=
  ∀ g g', g ≠ g' → writes (h.pc g) = true → writes (h.pc g') = false ∧ reads (h.pc g') = false

theorem Exclusive.next {reads writes : HubPc → Bool} (hx : Exclusive reads writes h)
    (hw : ∀ g, e.mover = some g → writes ((h.next e).pc g) = true → writes (h.pc g) = true ∨
      ∀ g', writes (h.pc g') = false ∧ reads (h.pc g') = false)
    (hr : ∀ g, e.mover = some g → reads ((h.next e).pc g) = true → reads (h.pc g) = true ∨
      ∀ g', writes (h.pc g') = false) : Exclusive reads writes (h.next e) := by
  intro g g' hne hwrites
  by_cases hg : e.mover = some g
  · -- the writer moved: it held the lock, or has just found it free
    have hg' : e.mover ≠ some g' := fun hg' => hne (Option.some.inj (hg.symm.trans hg'))
    rw [pc_next_of_ne hg']
    rcases hw g hg hwrites with hold | hfree
    · exact hx g g' hne hold
    · exact hfree g'
  · rw [pc_next_of_ne hg] at hwrites
    by_cases hg' : e.mover = some g'
    · refine ⟨?_, ?_⟩
      · refine Bool.eq_false_iff.mpr fun hnew => ?_
        rcases hw g' hg' hnew with hold | hfree
        · exact Bool.eq_false_iff.mp (hx g g' hne hwrites).1 hold
        · exact Bool.eq_false_iff.mp (hfree g).1 hwrites
      · refine Bool.eq_false_iff.mpr fun hnew => ?_
        rcases hr g' hg' hnew with hold | hfree
        · exact Bool.eq_false_iff.mp (hx g g' hne hwrites).2 hold
        · exact Bool.eq_false_iff.mp (hfree g) hwrites
    · rw [pc_next_of_ne hg']
      exact hx g g' hne hwrites

theorem exclusive_client_next (hx : h.Exclusive readsClientChannels writesClientChannels)
    (he : h.enabled e) : (h.next e).Exclusive readsClientChannels writesClientChannels := by
  refine hx.next ?_ ?_
  · intro g hmover hnew
    cases e <;> simp only [mover, Option.some.injEq, reduceCtorEq] at hmover
    all_goals try subst hmover
    case kickClientLock => exact .inr he.2.2.1
    case kickRemove g c r k =>
      cases k <;> simp [next, KickReturn.resume, writesClientChannels] at hnew
    all_goals simp [next, writesClientChannels] at hnew
  · intro g hmover hnew
    cases e <;> simp only [mover, Option.some.injEq, reduceCtorEq] at hmover
    all_goals try subst hmover
    case fwdDestLookup | verdictLookup => exact .inr he.2.1
    case verdictConnect => exact .inl (by rw [show h.pc .destination = _ from he]; rfl)
    case kickRemove g c r k =>
      cases k <;> simp [next, KickReturn.resume, readsClientChannels] at hnew
    all_goals simp [next, readsClientChannels] at hnew

theorem exclusive_destination_next
    (hx : h.Exclusive readsDestinationChannels writesDestinationChannels) (he : h.enabled e) :
    (h.next e).Exclusive readsDestinationChannels writesDestinationChannels := by
  refine hx.next ?_ ?_
  · intro g hmover hnew
    cases e <;> simp only [mover, Option.some.injEq, reduceCtorEq] at hmover
    all_goals try subst hmover
    case kickDestLock => exact .inr he.2.2.1
    case kickRemove g c r k =>
      cases k <;> simp [next, KickReturn.resume, writesDestinationChannels] at hnew
    all_goals simp [next, writesDestinationChannels] at hnew
  · intro g hmover hnew
    cases e <;> simp only [mover, Option.some.injEq, reduceCtorEq] at hmover
    all_goals try subst hmover
    case fwdClientLookup | reqLookup => exact .inr he.2.1
    case reqAttach => exact .inl (by rw [show h.pc .client = _ from he.1]; rfl)
    case kickRemove g c r k =>
      cases k <;> simp [next, KickReturn.resume, readsDestinationChannels] at hnew
    all_goals simp [next, readsDestinationChannels] at hnew

/-- What holds of the points of a hub that came about. -/
structure Sane (h : Hub) : Prop where
  belongs : ∀ g, (h.pc g).Belongs g
  client : h.Exclusive readsClientChannels writesClientChannels
  destination : h.Exclusive readsDestinationChannels writesDestinationChannels

theorem Sane.next (hs : h.Sane) (he : h.enabled e) : (h.next e).Sane where
  belongs := belongs_next hs.belongs he
  client := exclusive_client_next hs.client he
  destination := exclusive_destination_next hs.destination he

theorem sane_start (config : HubConfig) (maxConnections : Nat) (clientHandlers : List String)
    (handlers : List DestinationHandler) :
    (start config maxConnections clientHandlers handlers).Sane where
  belongs g := by cases g <;> simp [start, Belongs]
  client g g' _ hw := by cases g <;> cases hw
  destination g g' _ hw := by cases g <;> cases hw

end Hub
end Spanreed
