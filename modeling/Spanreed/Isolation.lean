import Spanreed.HubNet

/-! # A client handler that stops taking items

The hub keeps the map of client channels locked while it waits for room on one of them, and a kick
of any client needs that lock. So a handler that takes nothing from a full queue stops the kicks of
the other handlers' clients (`kick_waits_for_other_handler`). A kick completes without that handler
exactly if it does not need the lock any more or nobody waits for the handler inside the map
(`kick_completes_iff`). -/

namespace Spanreed
open Automata

/-- The client handler `H` does something. -/
def HubNetEvent.StepOf (H : String) : HubNetEvent → Prop
  | .hub (.getNewClientId name _) | .hub (.callbackNow name _) | .hub (.createClient name _ _)
  | .hub (.createClientFails name _ _) => name = H
  | .hub _ => False
  | .arrive handler _ _ => handler = .client H
  | .consume c _ => c.consumer = some (.client H)

namespace HubPc

/-- In a kick of client `d`, whose handler is not `H`. -/
def KicksOther (H : String) (d : ClientId) (h : Hub) : HubPc → Prop
  | .kickClientName c _ _ =>
    c = d ∧ ∀ md, h.clientStore.get d = some md → md.clientHandlerName ≠ H
  | .kickDestName c _ cn _ | .kickClientLookup c _ cn _ _ | .kickClientSend c _ cn _ _ =>
    c = d ∧ cn ≠ H
  | .kickDestLookup c .. | .kickDestSend c .. | .kickRemove c .. => c = d
  | _ => False

/-- In a kick of client `d` that does not need the map of client channels any more. -/
def FreeKick (d : ClientId) : HubPc → Prop
  | .kickDestName c _ cn _ | .kickClientLookup c _ cn _ _ => c = d ∧ cn = ""
  | .kickDestLookup c .. | .kickDestSend c .. | .kickRemove c .. => c = d
  | _ => False

end HubPc

namespace HubNet
open HubPc
variable {cap : Capacities} {H : String} {d : ClientId} {s s' : HubNet} {X g : Goroutine}

/-- The kick of client `d` by goroutine `X` completes without a step of `H`. -/
def Completes (cap : Capacities) (H : String) (d : ClientId) (X : Goroutine) (s : HubNet) : Prop :=
  ∃ tr r k s', (automaton cap).Run s (tr ++ [.hub (.kickRemove X d r k)]) s' ∧
    ∀ e ∈ tr, ¬e.StepOf H

/-- A goroutine other than `X` is inside the map of client channels and waits for `H`, whose queue
is full. -/
def WaitsFor (cap : Capacities) (H : String) (X : Goroutine) (s : HubNet) : Prop :=
  ∃ g, g ≠ X ∧ ∃ ch, (s.1.pc g).waitsOn = some ch ∧ ch.consumer = some (.client H) ∧
    ¬HasRoom (cap.bound ch) (s.2 ch).length

/-- The kick does not need the map of client channels any more, or can get at it. A kick that has
not read the name of the client handler yet does not need it if the record is without a name, or if
another kick of the client removes the record first. -/
def CanPass (cap : Capacities) (H : String) (d : ClientId) (X : Goroutine) (s : HubNet) : Prop :=
  match s.1.pc X with
  | .kickClientName .. =>
    (∀ md, s.1.clientStore.get d = some md → md.clientHandlerName = "") ∨
      (∃ g, g ≠ X ∧ (s.1.pc g).FreeKick d) ∨ ¬WaitsFor cap H X s
  | .kickDestName _ _ cn _ | .kickClientLookup _ _ cn _ _ => cn = "" ∨ ¬WaitsFor cap H X s
  | _ => True

/-! ## The kick completes -/

/-- Everybody but `H` takes items. -/
def OthersDrain (H : String) (ch : Chan) : Prop := ch.consumer ≠ some (.client H)

theorem not_stepOf {e : HubNetEvent} (he : e.Uses (OthersDrain H)) : ¬e.StepOf H := by
  cases e
  case hub e =>
    obtain ⟨hm, -⟩ := he
    cases e <;> first | exact fun h => h | exact (hm rfl).elim
  case arrive => exact he.elim
  case consume => exact he

/-- Goroutine `X` gets to the end of its kick of `d`; who holds no lock stays where it is. -/
def Finishes (cap : Capacities) (H : String) (d : ClientId) (X : Goroutine) (s : HubNet) : Prop :=
  ∃ s' r k, Gets cap (OthersDrain H) s s' ∧ s'.1.pc X = .kickRemove d r k ∧
    ∀ g, g ≠ X → (s.1.pc g).waitsOn = none → s'.1.pc g = s.1.pc g

theorem Finishes.of_gets (h : Gets cap (OthersDrain H) s s') (hf : Finishes cap H d X s')
    (hsame : ∀ g, g ≠ X → (s.1.pc g).waitsOn = none → s'.1.pc g = s.1.pc g) :
    Finishes cap H d X s := by
  obtain ⟨s'', r, k, hreach, hX, hsame'⟩ := hf
  refine ⟨s'', r, k, h.trans hreach, hX, ?_⟩
  intro g hne hg
  have hg' := hsame g hne hg
  rw [hsame' g hne (hg' ▸ hg), hg']

theorem finishes_destLookup {r : Option GoError} {dn : String} {k : KickReturn}
    (hs : s.Sound cap) (hX : s.1.pc X = .kickDestLookup d r dn k) : Finishes cap H d X s := by
  obtain ⟨s', hreach, hX', hyield⟩ := passes_destination (OthersDrain H) hs hX
    fun _ => ⟨fun g ch _ hch => .inl (by cases ch <;> simp_all [OthersDrain, Chan.consumer,
      Chan.isDestination]), by simp [OthersDrain, Chan.consumer]⟩
  exact ⟨s', r, k, hreach, hX', fun g hne hg => (hyield g hne).pc_eq hg⟩

theorem finishes_clientLookup {r : Option GoError} {cn dn : String} {k : KickReturn}
    (hs : s.Sound cap) (hX : s.1.pc X = .kickClientLookup d r cn dn k)
    (hpass : cn = "" ∨ cn ≠ H ∧ ¬WaitsFor cap H X s) : Finishes cap H d X s := by
  have hready : cn ≠ "" → (∀ g ch, (s.1.pc g).waitsOn = some ch → ch.isClient = true →
      OthersDrain H ch ∨ HasRoom (cap.bound ch) (s.2 ch).length) ∧
      OthersDrain H (.clientClose cn) := by
    intro hcn
    obtain ⟨hne, hwait⟩ := hpass.resolve_left hcn
    refine ⟨?_, by simpa [OthersDrain, Chan.consumer] using hne⟩
    intro g ch hg _
    by_contra hstuck
    rw [not_or] at hstuck
    refine hwait ⟨g, ?_, ch, hg, not_not.mp hstuck.1, hstuck.2⟩
    rintro rfl
    simp [hX, waitsOn] at hg
  obtain ⟨s₁, hreach, hX₁, hyield⟩ := passes_client (OthersDrain H) hs hX hready
  exact .of_gets hreach (finishes_destLookup (hs.reaches hreach) hX₁)
    fun g hne hg => (hyield g hne).pc_eq hg

/-- A step of `X` leaves the others where they are. -/
theorem Finishes.of_step {e : HubEvent} (he : s.1.enabled e) (hm : e.mover = some X)
    (hop : e.op = .internal) (hf : Finishes cap H d X (s.1.next e, s.2)) :
    Finishes cap H d X s :=
  .of_gets (step he hm hop) hf fun _ hne _ =>
    Hub.pc_next_of_ne fun hg => hne (Option.some.inj (hg.symm.trans hm))

theorem WaitsFor.of_step {e : HubEvent} (hm : e.mover = some X)
    (h : WaitsFor cap H X (s.1.next e, s.2)) : WaitsFor cap H X s := by
  obtain ⟨g, hne, ch, hg, hch⟩ := h
  have hsame : (s.1.next e).pc g = s.1.pc g :=
    Hub.pc_next_of_ne fun hg => hne (Option.some.inj (hg.symm.trans hm))
  exact ⟨g, hne, ch, hsame ▸ hg, hch⟩

theorem finishes_destName {r : Option GoError} {cn : String} {k : KickReturn}
    (hs : s.Sound cap) (hX : s.1.pc X = .kickDestName d r cn k)
    (hpass : cn = "" ∨ cn ≠ H ∧ ¬WaitsFor cap H X s) : Finishes cap H d X s := by
  have he : s.1.enabled (.kickDestName X d r cn k) := hX
  refine .of_step he rfl rfl (finishes_clientLookup (hs.step he)
    (by simp only [Hub.next, Hub.goto_pc, Function.update_self]; rfl) ?_)
  rcases hpass with hcn | ⟨hne, hwait⟩
  · exact .inl hcn
  · exact .inr ⟨hne, fun h => hwait (h.of_step rfl)⟩

theorem finishes_clientName {r : Option GoError} {k : KickReturn}
    (hs : s.Sound cap) (hX : s.1.pc X = .kickClientName d r k)
    (hpass : (∀ md, s.1.clientStore.get d = some md → md.clientHandlerName = "") ∨
      (∀ md, s.1.clientStore.get d = some md → md.clientHandlerName ≠ H) ∧
        ¬WaitsFor cap H X s) : Finishes cap H d X s := by
  have he : s.1.enabled (.kickClientName X d r k) := hX
  refine .of_step he rfl rfl (finishes_destName (hs.step he)
    (by simp only [Hub.next, Hub.goto_pc, Function.update_self]; rfl) ?_)
  unfold ClientStore.getClientHandlerName
  cases hget : s.1.clientStore.get d with
  | none => exact .inl rfl
  | some md =>
    rcases hpass with hempty | ⟨hne, hwait⟩
    · exact .inl (hempty md hget)
    · exact .inr ⟨hne md hget, fun h => hwait (h.of_step rfl)⟩

/-- A kick that does not need the map of client channels gets to its end. -/
theorem finishes_freeKick (hs : s.Sound cap) (hg : (s.1.pc g).FreeKick d) :
    Finishes cap H d g s := by
  cases hpc : s.1.pc g <;> rw [hpc] at hg <;> try exact hg.elim
  case kickDestName c r cn k =>
    obtain ⟨rfl, hcn⟩ := hg
    exact finishes_destName hs hpc (.inl hcn)
  case kickClientLookup c r cn dn k =>
    obtain ⟨rfl, hcn⟩ := hg
    exact finishes_clientLookup hs hpc (.inl hcn)
  case kickDestLookup c r dn k =>
    obtain rfl : c = d := hg
    exact finishes_destLookup hs hpc
  case kickDestSend c r dn k =>
    obtain rfl : c = d := hg
    obtain ⟨q, hreach, -⟩ := send (OthersDrain H) hs (e := .kickDestSend g c r dn k) hpc
      rfl rfl (by simp [Chan.consumer]) (.inl (by simp [OthersDrain, Chan.consumer]))
    exact ⟨_, r, k, hreach, by simp [Hub.next], fun g' hne _ => by simp [Hub.next, hne]⟩
  case kickRemove c r k =>
    obtain rfl : c = d := hg
    exact ⟨s, r, k, .refl, hpc, fun _ _ _ => rfl⟩

theorem Finishes.completes (h : Finishes cap H d X s) : Completes cap H d X s := by
  obtain ⟨s', r, k, ⟨tr, hr, htr⟩, hX, -⟩ := h
  have he : (automaton cap).enabled s' (.hub (.kickRemove X d r k)) := ⟨hX, trivial⟩
  exact ⟨tr, r, k, _, hr.snoc he, fun e he => not_stepOf (htr e he)⟩

theorem Completes.of_gets (h : Gets cap (OthersDrain H) s s') (hc : Completes cap H d X s') :
    Completes cap H d X s := by
  obtain ⟨tr₁, hr₁, htr₁⟩ := h
  obtain ⟨tr₂, r, k, s'', hr₂, htr₂⟩ := hc
  refine ⟨tr₁ ++ tr₂, r, k, s'', ?_, ?_⟩
  · rw [List.append_assoc]
    exact hr₁.trans hr₂
  · intro e he
    rcases List.mem_append.mp he with he | he
    · exact not_stepOf (htr₁ e he)
    · exact htr₂ e he

theorem completes_of_canPass (hs : s.Sound cap) (hX : (s.1.pc X).KicksOther H d s.1)
    (hpass : CanPass cap H d X s) : Completes cap H d X s := by
  unfold CanPass at hpass
  cases hpc : s.1.pc X <;> rw [hpc] at hX hpass <;> try exact hX.elim
  case kickClientName c r k =>
    obtain ⟨rfl, hother⟩ := hX
    rcases hpass with hempty | ⟨g, hne, hfree⟩ | hwait
    · exact (finishes_clientName hs hpc (.inl hempty)).completes
    · -- the other kick removes the record first
      obtain ⟨s₁, r', k', hreach, hg, hsame⟩ := finishes_freeKick (H := H) hs hfree
      have hX₁ : s₁.1.pc X = .kickClientName c r k := by
        rw [hsame X (Ne.symm hne) (by rw [hpc]; rfl), hpc]
      have hremove : Gets cap (OthersDrain H) s₁ (s₁.1.next (.kickRemove g c r' k'), s₁.2) :=
        step hg rfl rfl
      refine .of_gets (hreach.trans hremove) (finishes_clientName
        ((hs.reaches hreach).reaches hremove) (by simpa [Hub.next, Ne.symm hne] using hX₁)
        (.inl ?_)).completes
      simp [Hub.next, ClientStore.get_removeClient]
    · exact (finishes_clientName hs hpc (.inr ⟨hother, hwait⟩)).completes
  case kickDestName c r cn k =>
    obtain ⟨rfl, hcn⟩ := hX
    exact (finishes_destName hs hpc (hpass.imp_right fun hwait => ⟨hcn, hwait⟩)).completes
  case kickClientLookup c r cn dn k =>
    obtain ⟨rfl, hcn⟩ := hX
    exact (finishes_clientLookup hs hpc (hpass.imp_right fun hwait => ⟨hcn, hwait⟩)).completes
  case kickClientSend c r cn dn k =>
    obtain ⟨rfl, hcn⟩ := hX
    obtain ⟨q, hreach, -⟩ := send (OthersDrain H) hs (e := .kickClientSend X c r cn dn k)
      hpc rfl rfl (by simp [Chan.consumer]) (.inl (by simpa [OthersDrain, Chan.consumer] using hcn))
    have hX' : (s.1.next (.kickClientSend X c r cn dn k)).pc X = .kickDestLookup c r dn k := by
      simp [Hub.next]
    exact .of_gets hreach (finishes_destLookup (hs.reaches hreach) hX').completes
  all_goals exact (finishes_freeKick hs (by rw [hpc]; exact hX)).completes

/-! ## The kick does not complete -/

/-- Goroutine `g` waits for `H` inside the map, and the kick of `d` by `X` still needs the map. -/
structure Stuck (cap : Capacities) (H : String) (d : ClientId) (X g : Goroutine) (ch : Chan)
    (s : HubNet) : Prop where
  ne : g ≠ X
  waits : (s.1.pc g).waitsOn = some ch
  handler : ch.consumer = some (.client H)
  full : ¬HasRoom (cap.bound ch) (s.2 ch).length
  kick : (∃ r cn k, s.1.pc X = .kickDestName d r cn k ∧ cn ≠ "") ∨
    (∃ r cn dn k, s.1.pc X = .kickClientLookup d r cn dn k ∧ cn ≠ "") ∨
    (∃ r k, s.1.pc X = .kickClientName d r k) ∧
      (∃ md, s.1.clientStore.get d = some md ∧ md.clientHandlerName ≠ "") ∧
      ∀ g', g' ≠ X → ¬(s.1.pc g').FreeKick d

variable {ch : Chan}

/-- A goroutine inside the map of client channels stays there until it has sent. -/
theorem waitsOn_next {h : Hub} {e : HubEvent} (hg : (h.pc g).waitsOn = some ch)
    (hch : ch.isClient = true) (he : h.enabled e) :
    (∃ m, e.op = .send ch m) ∨ ((h.next e).pc g).waitsOn = some ch := by
  by_cases hm : e.mover = some g
  · cases e <;> simp only [HubEvent.mover, Option.some.injEq, reduceCtorEq] at hm
    all_goals
      subst hm
      simp only [Hub.enabled] at he
    case fwdDestSend | verdictSend | kickClientSend =>
      rw [he] at hg
      cases hg
      exact .inl ⟨_, rfl⟩
    case verdictConnect =>
      rw [he] at hg
      exact .inr (by simpa [Hub.next, waitsOn] using hg)
    case fwdClientSend | reqSend | kickDestSend =>
      rw [he] at hg
      cases hg
      cases hch
    case reqAttach | reqAttachFails =>
      rw [he.1] at hg
      cases hg
      cases hch
    all_goals
      first
        | rw [he] at hg
        | rw [he.1] at hg
      cases hg
  · rw [Hub.pc_next_of_ne hm]
    exact .inr hg

theorem isClient_of_waitsOn {pc : HubPc} (hpc : pc.waitsOn = some ch)
    (hch : ch.consumer = some (.client H)) : ch.isClient = true := by
  cases pc <;> simp only [waitsOn, Option.some.injEq, reduceCtorEq] at hpc
  all_goals
    subst hpc
    first | rfl | cases hch

/-- A full queue stays full without its consumer. -/
theorem full_next {e : HubNetEvent} (hch : ch.consumer = some (.client H))
    (hfull : ¬HasRoom (cap.bound ch) (s.2 ch).length) (hH : ¬e.StepOf H) :
    ¬HasRoom (cap.bound ch) (((automaton cap).next s e).2 ch).length := by
  have hno : ∀ m, e.op ≠ .recv ch m := by
    intro m hop
    cases e
    case hub e =>
      cases e <;> simp only [HubNetEvent.op, HubEvent.op, reduceCtorEq] at hop
      all_goals
        obtain ⟨rfl, -⟩ := ChannelOp.recv.inj hop
        cases hch
    case arrive => cases hop
    case consume c m' =>
      obtain ⟨rfl, -⟩ := ChannelOp.recv.inj hop
      exact hH hch
  exact Queues.full_apply hfull hno

/-- Nobody gets past the client handler in a kick of `d` while the map is locked. -/
theorem freeKick_next {e : HubEvent} {g' : Goroutine} (hs : s.Sound cap)
    (hst : Stuck cap H d X g ch s) (he : s.1.enabled e) (hno : ∀ m, e.op ≠ .send ch m)
    (hrec : ∃ md, s.1.clientStore.get d = some md ∧ md.clientHandlerName ≠ "")
    (hfree : ((s.1.next e).pc g').FreeKick d) : (s.1.pc g').FreeKick d := by
  have hch := isClient_of_waitsOn hst.waits hst.handler
  have hlocked : ¬s.1.ClientLock := fun hlock => by
    simp [Hub.clientLock_iff.mp hlock g ch hst.waits] at hch
  by_cases hm : e.mover = some g'
  · cases e <;> simp only [HubEvent.mover, Option.some.injEq, reduceCtorEq] at hm
    all_goals
      subst hm
      simp only [Hub.enabled] at he
      simp only [Hub.next, Hub.goto_pc, Function.update_self] at hfree
    case kickClientName c r k =>
      -- the name is that of the record
      obtain ⟨rfl, hname⟩ := hfree
      obtain ⟨md, hmd, hne⟩ := hrec
      simp [ClientStore.getClientHandlerName, hmd, Hub.nameOrEmpty, hne] at hname
    case kickAllNext c connection =>
      obtain ⟨rfl, hname⟩ := hfree
      obtain ⟨md, hmd, hne⟩ := hrec
      obtain rfl : connection = md := Option.some.inj (he.2.symm.trans hmd)
      exact (hne hname).elim
    case kickClientSkip c r cn dn k =>
      obtain rfl : c = d := hfree
      rcases he.2 with hcn | ⟨hlock, -⟩
      · rw [he.1]
        exact ⟨rfl, hcn⟩
      · exact (hlocked hlock).elim
    case kickClientSend g' c r cn dn k =>
      -- whoever is inside the map is stuck
      have hg' : (s.1.pc g').waitsOn = some (.clientClose cn) := by rw [he]; rfl
      obtain rfl := client_holder_unique hs hst.waits hch hg' rfl
      obtain rfl : ch = .clientClose cn := Option.some.inj (hst.waits.symm.trans hg')
      exact (hno _ rfl).elim
    case kickDestName | kickDestSend =>
      rw [he]
      exact hfree
    case kickDestSkip | kickDestLock =>
      rw [he.1]
      exact hfree
    case kickRemove g' c r k => cases k <;> exact hfree.elim
    all_goals exact hfree.elim
  · rwa [Hub.pc_next_of_ne hm] at hfree

theorem Stuck.next {e : HubNetEvent} (hs : s.Sound cap) (hst : Stuck cap H d X g ch s)
    (he : (automaton cap).enabled s e) (hH : ¬e.StepOf H) :
    Stuck cap H d X g ch ((automaton cap).next s e) := by
  have hch := isClient_of_waitsOn hst.waits hst.handler
  have hfull := full_next hst.handler hst.full hH
  cases e
  case arrive => exact ⟨hst.ne, hst.waits, hst.handler, hfull, hst.kick⟩
  case consume => exact ⟨hst.ne, hst.waits, hst.handler, hfull, hst.kick⟩
  case hub e =>
    have hno : ∀ m, e.op ≠ .send ch m := by
      intro m hop
      have hallow := he.2
      simp only [HubNetEvent.op, hop, Queues.Allows] at hallow
      exact hst.full hallow
    have hen : s.1.enabled e := he.1
    have hlocked : ¬s.1.ClientLock := fun hlock => by
      simp [Hub.clientLock_iff.mp hlock g ch hst.waits] at hch
    refine ⟨hst.ne, ?_, hst.handler, hfull, ?_⟩
    · rcases waitsOn_next hst.waits hch hen with ⟨m, hop⟩ | hwaits
      · exact (hno m hop).elim
      · exact hwaits
    by_cases hm : e.mover = some X
    · -- the kick reads the names, and then waits for the lock
      rcases hst.kick with ⟨r, cn, k, hX, hcn⟩ | ⟨r, cn, dn, k, hX, hcn⟩ | ⟨⟨r, k, hX⟩, hrec, -⟩
      all_goals
        cases e <;> simp only [HubEvent.mover, Option.some.injEq, reduceCtorEq] at hm
        all_goals
          subst hm
          simp only [Hub.enabled, hX, reduceCtorEq, false_and] at hen
      · cases hen
        refine .inr (.inl ⟨r, cn,
          Hub.nameOrEmpty (s.1.clientStore.getDestinationHandlerName d), k, ?_, hcn⟩)
        simp [automaton, network, base, Hub.next]
      · obtain ⟨hpc, hskip⟩ := hen
        cases hpc
        rcases hskip with hskip | ⟨hlock, -⟩
        · exact (hcn hskip).elim
        · exact (hlocked hlock).elim
      · exact (hlocked hen.2.2.1).elim
      · cases hen
        obtain ⟨md, hmd, hne⟩ := hrec
        refine .inl ⟨r, md.clientHandlerName, k, ?_, hne⟩
        simp [automaton, network, base, Hub.next, ClientStore.getClientHandlerName, hmd,
          Hub.nameOrEmpty]
    · have hsame : (s.1.next e).pc X = s.1.pc X := Hub.pc_next_of_ne hm
      rcases hst.kick with ⟨r, cn, k, hX, hcn⟩ | ⟨r, cn, dn, k, hX, hcn⟩ | ⟨⟨r, k, hX⟩, hrec, hfree⟩
      · exact .inl ⟨r, cn, k, hsame.trans hX, hcn⟩
      · exact .inr (.inl ⟨r, cn, dn, k, hsame.trans hX, hcn⟩)
      · refine .inr (.inr ⟨⟨r, k, hsame.trans hX⟩, ?_, ?_⟩)
        · -- the record stays, with its client handler
          obtain ⟨md, hmd, hne⟩ := hrec
          rcases Hub.get_next hen d with ⟨_, _, rfl, hnone, -⟩ | ⟨g', r', k', rfl, -⟩ |
            ⟨_, rfl, hnew⟩ | ⟨_, rfl, hnew⟩ | ⟨_, _, rfl, -, hnew⟩ | ⟨_, _, _, rfl, -, hnew⟩ | hnew
          · simp [hmd] at hnone
          · have hg' : s.1.pc g' = .kickRemove d r' k' := hen
            refine (hfree g' (by rintro rfl; exact hm rfl) ?_).elim
            rw [hg']
            rfl
          all_goals
            rw [hmd] at hnew
            exact ⟨_, hnew, hne⟩
        · intro g' hne hfree'
          exact hfree g' hne (freeKick_next hs hst hen hno hrec hfree')

theorem not_completes_of_stuck {c : Chan} (hs : s.Sound cap) (hst : Stuck cap H d X g c s) :
    ¬Completes cap H d X s := by
  rintro ⟨tr, r, k, s', hr, htr⟩
  obtain ⟨s₁, hr₁, he, -⟩ := hr.at_event
  have hinv : ∀ {tr s₁}, (automaton cap).Run s tr s₁ → (∀ e ∈ tr, ¬e.StepOf H) →
      s₁.Sound cap ∧ Stuck cap H d X g c s₁ := by
    intro tr s₁ hr
    induction hr with
    | nil => exact fun _ => ⟨hs, hst⟩
    | @snoc tr s₁ e _ he ih =>
      intro htr
      obtain ⟨hs₁, hst₁⟩ := ih fun e he => htr e (List.mem_append_left _ he)
      exact ⟨hs₁.next he, hst₁.next hs₁ he (htr e (by simp))⟩
  have hX : s₁.1.pc X = .kickRemove d r k := he.1
  rcases (hinv hr₁ htr).2.kick with ⟨_, _, _, hX', -⟩ | ⟨_, _, _, _, hX', -⟩ | ⟨⟨_, _, hX'⟩, -⟩
  all_goals
    rw [hX] at hX'
    cases hX'

theorem canPass_of_completes (hs : s.Sound cap) (hX : (s.1.pc X).KicksOther H d s.1)
    (hc : Completes cap H d X s) : CanPass cap H d X s := by
  have hstuck : ∀ {g ch}, ¬Stuck cap H d X g ch s := fun hst => not_completes_of_stuck hs hst hc
  unfold CanPass
  cases hpc : s.1.pc X <;> rw [hpc] at hX <;> try trivial
  case kickClientName c r k =>
    obtain ⟨rfl, -⟩ := hX
    by_contra hno
    simp only [not_or, not_forall, not_exists, not_and, not_not] at hno
    obtain ⟨⟨md, hmd, hne⟩, hfree, g, hgX, ch, hg, hch, hfull⟩ := hno
    exact hstuck ⟨hgX, hg, hch, hfull, .inr (.inr ⟨⟨r, k, hpc⟩, ⟨md, hmd, hne⟩, hfree⟩)⟩
  case kickDestName c r cn k =>
    obtain ⟨rfl, -⟩ := hX
    by_contra hno
    simp only [not_or, not_not] at hno
    obtain ⟨hcn, g, hgX, ch, hg, hch, hfull⟩ := hno
    exact hstuck ⟨hgX, hg, hch, hfull, .inl ⟨r, cn, k, hpc, hcn⟩⟩
  case kickClientLookup c r cn dn k =>
    obtain ⟨rfl, -⟩ := hX
    by_contra hno
    simp only [not_or, not_not] at hno
    obtain ⟨hcn, g, hgX, ch, hg, hch, hfull⟩ := hno
    exact hstuck ⟨hgX, hg, hch, hfull, .inr (.inl ⟨r, cn, dn, k, hpc, hcn⟩)⟩

section
variable {config : HubConfig} {maxConnections : Nat} {clientHandlers : List String}
  {handlers : List DestinationHandler} {tr : List HubNetEvent}

/-- A hub with its handlers registered and all channels empty. -/
def start (config : HubConfig) (maxConnections : Nat) (clientHandlers : List String)
    (handlers : List DestinationHandler) : HubNet :=
  (.start config maxConnections clientHandlers handlers, fun _ => [])

theorem sound
    (hr : (automaton cap).Run (start config maxConnections clientHandlers handlers) tr s) :
    s.Sound cap := by
  refine hr.invariant (I := Sound cap) ⟨Hub.sane_start .., ?_⟩ fun _ _ => Sound.next
  intro c n _
  exact Nat.zero_le n

/-- A kick of a client of another handler completes without a step of `H` if and only if it does not
need the map of client channels any more or nobody waits for `H` inside it. -/
theorem kick_completes_iff
    (hr : (automaton cap).Run (start config maxConnections clientHandlers handlers) tr s)
    (hX : (s.1.pc X).KicksOther H d s.1) : Completes cap H d X s ↔ CanPass cap H d X s :=
  ⟨canPass_of_completes (sound hr) hX, completes_of_canPass (sound hr) hX⟩

end

/-! ## Two handlers -/

/-- Client 1 of `WebTransport` and client 2 of `WebSocket`, and two messages for client 1, of which
nobody takes the first. -/
def silentHandler : List HubNetEvent := [
  .hub (.getNewClientId "WebTransport" 1), .hub (.callbackNow "WebTransport" 1),
  .hub (.createClient "WebTransport" 1 0), .consume (.nextClientId "WebTransport") 1,
  .hub (.getNewClientId "WebSocket" 2), .hub (.callbackNow "WebSocket" 2),
  .hub (.createClient "WebSocket" 2 0), .consume (.nextClientId "WebSocket") 2,
  .arrive (.destination "UdpDestination") .incomingDestinationMessage ⟨1, 0, 0, none⟩,
  .hub (.recvDestinationMessage ⟨1, 0, 0, none⟩), .hub (.fwdDestNow ⟨1, 0, 0, none⟩),
  .hub (.fwdDestName ⟨1, 0, 0, none⟩ 0 "WebTransport"),
  .hub (.fwdDestLookup ⟨1, 0, 0, none⟩ 0 "WebTransport"),
  .hub (.fwdDestSend ⟨1, 0, 0, none⟩ "WebTransport"), .hub (.destStampNow 1),
  .hub (.destStamp 1 0)]

def secondMessage : List HubNetEvent := [
  .arrive (.destination "UdpDestination") .incomingDestinationMessage ⟨1, 0, 0, none⟩,
  .hub (.recvDestinationMessage ⟨1, 0, 0, none⟩), .hub (.fwdDestNow ⟨1, 0, 0, none⟩),
  .hub (.fwdDestName ⟨1, 0, 0, none⟩ 0 "WebTransport"),
  .hub (.fwdDestLookup ⟨1, 0, 0, none⟩ 0 "WebTransport")]

/-- Client 2 closes. -/
def clientTwoCloses : List HubNetEvent := [
  .arrive (.client "WebSocket") .incomingClientClose ⟨2, [], none, none⟩,
  .hub (.recvClientClose ⟨2, [], none, none⟩), .hub (.kickClientName .client 2 none .select),
  .hub (.kickDestName .client 2 none "WebSocket" .select)]

def twoHandlers : HubNet := start {} 2 ["WebSocket", "WebTransport"]
  [⟨"UdpDestination", defaultUdpDestinationHandlerMatchConnectionStringFn⟩]

theorem kick_completes_silentHandler : ∃ s,
    (automaton tight).Run twoHandlers (silentHandler ++ clientTwoCloses) s ∧
      Completes tight "WebTransport" 2 .client s := by
  have hr : (automaton tight).Run twoHandlers (silentHandler ++ clientTwoCloses) _ :=
    Automaton.Admits.run (by decide)
  have hX : (((automaton tight).exec twoHandlers (silentHandler ++ clientTwoCloses)).1.pc
      .client).KicksOther "WebTransport" 2 ((automaton tight).exec twoHandlers
        (silentHandler ++ clientTwoCloses)).1 := ⟨rfl, by decide⟩
  have hfree : ∀ g, (((automaton tight).exec twoHandlers
      (silentHandler ++ clientTwoCloses)).1.pc g).waitsOn = none := by decide
  refine ⟨_, hr, (kick_completes_iff hr hX).mpr (.inr ?_)⟩
  rintro ⟨g, -, ch, hg, -⟩
  rw [hfree g] at hg
  cases hg

/-- The hub waits for `WebTransport` with the second message, and client 2 of `WebSocket` is never
kicked. -/
theorem kick_waits_for_other_handler : ∃ s,
    (automaton tight).Run twoHandlers (silentHandler ++ secondMessage ++ clientTwoCloses) s ∧
      (s.1.pc .client).KicksOther "WebTransport" 2 s.1 ∧
      ¬Completes tight "WebTransport" 2 .client s := by
  have hr : (automaton tight).Run twoHandlers
      (silentHandler ++ secondMessage ++ clientTwoCloses) _ :=
    Automaton.Admits.run (by decide)
  refine ⟨_, hr, ⟨rfl, by decide⟩, not_completes_of_stuck (g := .destination)
    (c := .clientMessage "WebTransport") (sound hr) ?_⟩
  exact ⟨by decide, rfl, rfl, by decide,
    .inr (.inl ⟨none, "WebSocket", "", .select, by decide, by decide⟩)⟩

end HubNet
end Spanreed
