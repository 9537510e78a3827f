import Spanreed.Lib.RWMutex
import Spanreed.Registration
import Mathlib.Data.Fintype.Order

/-! # The order of two locks

`CreateDestinationMessageHandler` takes `mut_outgoingDestinationMessageSendChannels` and then
`mut_connectedDestinationHandlers`; `handleClientConnectionRequestMessage` takes them in the other
order. `program` is what these two, `forwardClientMessage` and `sendDestinationDisconnect` do to the
two locks, and any number of threads call them. A registration and a request that both wait for
their second lock are a deadlock, and there is no other; runs avoid it exactly if nobody goes for
its second lock while one of the other kind waits for its own (`registration_deadlock_free`).

The hub and the registration of `Proxy` are such threads (`Proxy.locks_run`). -/

namespace Spanreed
open Automata RWMutexes

inductive HubMutex
  | outgoingDestinationMessageSendChannels
  | connectedDestinationHandlers
deriving DecidableEq

/-- The points of the functions that take the two locks, each named after what comes next. A thread
that is in none of them is `idle`. -/
inductive CallPc
  | idle
  -- CreateDestinationMessageHandler
  | createLock
  | createCheckName
  | createLockHandlers
  | createRegister
  | createUnlock
  -- handleClientConnectionRequestMessage
  | requestRLockHandlers
  | requestMatch
  | requestRLock
  | requestAttach
  | requestRUnlockHandlers
  -- forwardClientMessage
  | forwardRLock
  | forwardSend
  -- sendDestinationDisconnect
  | disconnectLock
  | disconnectSend
deriving DecidableEq

namespace CallPc

def holds : CallPc → HubMutex → Option Mode
  | .createCheckName, .outgoingDestinationMessageSendChannels
  | .createLockHandlers, .outgoingDestinationMessageSendChannels
  | .createRegister, _
  | .createUnlock, .outgoingDestinationMessageSendChannels
  | .disconnectSend, .outgoingDestinationMessageSendChannels => some .write
  | .requestMatch, .connectedDestinationHandlers
  | .requestRLock, .connectedDestinationHandlers
  | .requestAttach, _
  | .requestRUnlockHandlers, .connectedDestinationHandlers
  | .forwardSend, .outgoingDestinationMessageSendChannels => some .read
  | _, _ => none

def wants : CallPc → Option (HubMutex × Mode)
  | .createLock | .disconnectLock => some (.outgoingDestinationMessageSendChannels, .write)
  | .createLockHandlers => some (.connectedDestinationHandlers, .write)
  | .requestRLockHandlers => some (.connectedDestinationHandlers, .read)
  | .requestRLock | .forwardRLock => some (.outgoingDestinationMessageSendChannels, .read)
  | _ => none

def granted : CallPc → CallPc
  | .createLock => .createCheckName
  | .createLockHandlers => .createRegister
  | .requestRLockHandlers => .requestMatch
  | .requestRLock => .requestAttach
  | .forwardRLock => .forwardSend
  | .disconnectLock => .disconnectSend
  | pc => pc

/-- The other steps. Deferred unlocks run in reverse order. -/
def moves : CallPc → CallPc → Bool
  -- a call begins
  | .idle, .createLock | .idle, .requestRLockHandlers | .idle, .forwardRLock
  | .idle, .disconnectLock => true
  -- the name is free, or it is taken
  | .createCheckName, .createLockHandlers | .createCheckName, .idle => true
  | .createRegister, .createUnlock | .createUnlock, .idle => true
  -- a handler matches, or none does
  | .requestMatch, .requestRLock | .requestMatch, .idle => true
  | .requestAttach, .requestRUnlockHandlers | .requestRUnlockHandlers, .idle => true
  | .forwardSend, .idle | .disconnectSend, .idle => true
  | _, _ => false

/-- In `CreateDestinationMessageHandler` with its first lock. -/
def registers : CallPc → Bool
  | .createCheckName | .createLockHandlers | .createRegister | .createUnlock => true
  | _ => false

/-- The functions that take the two locks. -/
def program : Program CallPc HubMutex where
  holds := holds
  wants := wants
  granted := granted
  moves pc pc' := moves pc pc' = true
  holds_granted {pc l m} h := by
    cases pc <;> cases h <;> refine ⟨rfl, ?_⟩ <;> rintro (_ | _) hl <;>
      first | rfl | exact (hl rfl).elim
  holds_moves {pc pc' l m} hmove hholds := by
    cases pc <;> cases pc' <;> cases hmove <;> cases l <;> first | exact hholds | cases hholds

theorem holds_of_registers {pc : CallPc} (h : pc.registers = true) :
    program.holds pc .outgoingDestinationMessageSendChannels = some .write := by
  cases pc <;> first | rfl | cases h

instance (pc pc' : CallPc) : Decidable (program.moves pc pc') :=
  inferInstanceAs (Decidable (moves pc pc' = true))

end CallPc

namespace LockOrder
open CallPc

universe u
variable {ι : Type u}

/-- No call has begun. -/
def start : RWMutexes.State ι CallPc where
  pc _ := .idle
  announced _ := false

variable {s : RWMutexes.State ι CallPc} {tr : List (RWMutexes.Event ι CallPc)}

/-- A `CreateDestinationMessageHandler` call waits for its second lock. -/
def RegistrationWaits (s : RWMutexes.State ι CallPc) : Prop := ∃ i, s.pc i = .createLockHandlers

/-- A `handleClientConnectionRequestMessage` call waits for its second lock. -/
def RequestWaits (s : RWMutexes.State ι CallPc) : Prop := ∃ i, s.pc i = .requestRLock

/-- Nobody goes for its second lock while one of the other kind waits for its own. -/
def KeepsOrder (s : RWMutexes.State ι CallPc) : RWMutexes.Event ι CallPc → Prop
  | .move _ .createLockHandlers => ¬RequestWaits s
  | .move _ .requestRLock => ¬RegistrationWaits s
  | _ => True

instance [Fintype ι] (s : RWMutexes.State ι CallPc) : ∀ e, Decidable (KeepsOrder s e)
  | .move _ pc => by
    cases pc
    case createLockHandlers => exact inferInstanceAs (Decidable (¬∃ i, s.pc i = _))
    case requestRLock => exact inferInstanceAs (Decidable (¬∃ i, s.pc i = _))
    all_goals exact inferInstanceAs (Decidable True)
  | .announce _ | .acquire _ => inferInstanceAs (Decidable True)

/-! ## Deadlocks -/

/-- The only points at which a lock is held and another one waited for. -/
theorem nested {pc : CallPc} {l l' : HubMutex} {m : Mode} (hholds : program.holds pc l ≠ none)
    (hwants : program.wants pc = some (l', m)) :
    (pc = .createLockHandlers ∧ l = .outgoingDestinationMessageSendChannels ∧
      l' = .connectedDestinationHandlers) ∨
    (pc = .requestRLock ∧ l = .connectedDestinationHandlers ∧
      l' = .outgoingDestinationMessageSendChannels) := by
  cases pc <;> cases hwants <;> cases l <;> first | exact (hholds rfl).elim | simp

/-- Threads are deadlocked exactly if a registration and a request wait for each other: without the
one or the other, all take the locks in the same order. -/
theorem deadlocked_iff :
    (∃ threads, s.Deadlocked program threads) ↔ RegistrationWaits s ∧ RequestWaits s := by
  constructor
  · rintro ⟨threads, hdead⟩
    constructor
    · by_contra hno
      refine not_deadlocked_of_order
        (fun l => decide (l = HubMutex.outgoingDestinationMessageSendChannels)) ?_ hdead
      intro i l l' m hholds hwants
      rcases nested hholds hwants with ⟨hpc, -⟩ | ⟨-, rfl, rfl⟩
      · exact (hno ⟨i, hpc⟩).elim
      · decide
    · by_contra hno
      refine not_deadlocked_of_order
        (fun l => decide (l = HubMutex.connectedDestinationHandlers)) ?_ hdead
      intro i l l' m hholds hwants
      rcases nested hholds hwants with ⟨-, rfl, rfl⟩ | ⟨hpc, -⟩
      · decide
      · exact (hno ⟨i, hpc⟩).elim
  · rintro ⟨⟨i, hi⟩, ⟨j, hj⟩⟩
    have hij : i ≠ j := by
      rintro rfl
      cases hi.symm.trans hj
    refine ⟨{i, j}, deadlocked_pair ?_ ?_⟩
    · exact waits_of_write hij.symm (by rw [hi]; rfl) (by rw [hj]; exact Option.some_ne_none _)
    · exact waits_of_read hij (by rw [hj]; rfl) (by rw [hi]; rfl)

/-! ## Runs -/

variable [DecidableEq ι] {e : RWMutexes.Event ι CallPc}

/-- A call that has got a lock does not wait for another one at once. -/
theorem granted_ne {pc pc' : CallPc} {l l' : HubMutex} {m m' : Mode}
    (hwants : program.wants pc = some (l, m)) (hwants' : program.wants pc' = some (l', m')) :
    program.granted pc ≠ pc' := by
  rintro rfl
  cases pc <;> cases hwants <;> cases hwants'

/-- A thread that waits for a lock did so before, or has just begun to. -/
theorem waits_next {i : ι} {pc : CallPc} {l : HubMutex} {m : Mode} (he : s.enabled program e)
    (hpc : (s.next program e).pc i = pc) (hwants : program.wants pc = some (l, m)) :
    s.pc i = pc ∨ e = .move i pc := by
  cases e with
  | announce j => exact .inl hpc
  | acquire j =>
    obtain ⟨l', m', hj, -⟩ := he
    rw [State.pc_acquire, Function.update_apply] at hpc
    split at hpc
    · exact (granted_ne hj hwants hpc).elim
    · exact .inl hpc
  | move j p =>
    rw [State.pc_move, Function.update_apply] at hpc
    split at hpc
    · next hij => exact .inr (by rw [hij, hpc])
    · exact .inl hpc

/-- A thread that has just begun to wait for its second lock, and another one that waited before. -/
theorem pc_move_of_waits {i j : ι} {p pc : CallPc} (he : s.enabled program (.move i p))
    (hj : s.pc j = pc) {l : HubMutex} {m : Mode} (hwants : program.wants pc = some (l, m)) :
    (s.next program (.move i p)).pc i = p ∧ (s.next program (.move i p)).pc j = pc := by
  have hij : j ≠ i := by
    rintro rfl
    have hnone := he.1
    rw [hj, hwants] at hnone
    cases hnone
  rw [State.pc_move, Function.update_self, Function.update_of_ne hij]
  exact ⟨rfl, hj⟩

/-- A step leads into a deadlock exactly if it breaks the order. -/
theorem waits_both_next (he : s.enabled program e) (hno : ¬(RegistrationWaits s ∧ RequestWaits s)) :
    RegistrationWaits (s.next program e) ∧ RequestWaits (s.next program e) ↔ ¬KeepsOrder s e := by
  constructor
  · rintro ⟨⟨i, hi⟩, j, hj⟩ hkeeps
    rcases waits_next he hi rfl with hi' | rfl
    · rcases waits_next he hj rfl with hj' | rfl
      · exact hno ⟨⟨i, hi'⟩, j, hj'⟩
      · exact hkeeps ⟨i, hi'⟩
    · rcases waits_next he hj rfl with hj' | heq
      · exact hkeeps ⟨j, hj'⟩
      · cases heq
  · intro hbreaks
    cases e with
    | announce | acquire => exact (hbreaks trivial).elim
    | move i p =>
      cases p
      case createLockHandlers =>
        obtain ⟨j, hj⟩ := not_not.mp hbreaks
        obtain ⟨hi', hj'⟩ := pc_move_of_waits he hj rfl
        exact ⟨⟨i, hi'⟩, j, hj'⟩
      case requestRLock =>
        obtain ⟨j, hj⟩ := not_not.mp hbreaks
        obtain ⟨hi', hj'⟩ := pc_move_of_waits he hj rfl
        exact ⟨⟨j, hj'⟩, i, hi'⟩
      all_goals exact (hbreaks trivial).elim

/-- Any number of threads call the four functions. No state of a run has a set of calls that each
wait for a lock another one of them holds if and only if nobody went for its second lock while one
of the other kind waited for its own. -/
theorem registration_deadlock_free (hr : (system ι program).Run start tr s) :
    (∀ tr₁ s₁, tr₁ <+: tr → (system ι program).Run start tr₁ s₁ →
      ¬∃ threads, s₁.Deadlocked program threads) ↔
    (system ι program).Obeys KeepsOrder start tr := by
  induction hr with
  | nil =>
    refine iff_of_true ?_ trivial
    intro tr₁ s₁ hp hr
    obtain rfl := List.prefix_nil.mp hp
    rw [hr.eq_exec, deadlocked_iff]
    rintro ⟨⟨i, hi⟩, -⟩
    cases hi
  | @snoc tr s e hr he ih =>
    rw [hr.always_snoc he, hr.obeys_snoc, ← ih]
    refine and_congr_right fun hall => ?_
    have hno := hall tr s List.prefix_rfl hr
    rw [deadlocked_iff] at hno ⊢
    rw [← not_iff_not, not_not]
    exact waits_both_next he hno

/-- Only one registration is past its first lock. -/
theorem registration_unique {i j : ι} (hr : (system ι program).Run start tr s)
    (hi : (s.pc i).registers = true) (hj : (s.pc j).registers = true) : i = j := by
  by_contra hij
  have hexclusive := exclusive hr (fun _ _ => rfl) i j .outgoingDestinationMessageSendChannels
    (holds_of_registers hi) (Ne.symm hij)
  rw [holds_of_registers hj] at hexclusive
  cases hexclusive

/-- A registration that runs alone, and then a request. -/
def oneAfterTheOther : List (RWMutexes.Event Bool CallPc) := [
  .move true .createLock, .announce true, .acquire true, .move true .createLockHandlers,
  .announce true, .acquire true, .move true .createUnlock, .move true .idle,
  .move false .requestRLockHandlers, .acquire false, .move false .requestRLock, .acquire false]

/-- The registration has its first lock when the request goes for its second. -/
def crosswise : List (RWMutexes.Event Bool CallPc) := [
  .move true .createLock, .announce true, .acquire true, .move false .requestRLockHandlers,
  .acquire false, .move false .requestRLock, .move true .createLockHandlers]

theorem registration_deadlock_free_oneAfterTheOther :
    (system Bool program).Obeys KeepsOrder start oneAfterTheOther ∧
    ¬∃ threads, ((system Bool program).exec start oneAfterTheOther).Deadlocked program threads := by
  have hr : (system Bool program).Run start oneAfterTheOther _ :=
    Automaton.Admits.run (by decide)
  have hkeeps : (system Bool program).Obeys KeepsOrder start oneAfterTheOther := by decide
  exact ⟨hkeeps, (registration_deadlock_free hr).mpr hkeeps _ _ List.prefix_rfl hr⟩

theorem crosswise_deadlocks : ∃ s, (system Bool program).Run start crosswise s ∧
    s.Deadlocked program {true, false} := by
  refine ⟨_, Automaton.Admits.run (by decide), ?_⟩
  refine deadlocked_pair ?_ ?_
  · exact waits_of_write (by decide) rfl (by decide)
  · exact waits_of_read (by decide) rfl rfl

end LockOrder

/-! ## The hub and its registration -/

/-- Where a goroutine of the hub is in the functions that take the two locks. -/
def HubPc.call : HubPc → CallPc
  | .fwdClientLookup .. => .forwardRLock
  | .fwdClientSend .. => .forwardSend
  | .reqMatch .. => .requestRLockHandlers
  | .reqLookup .. => .requestRLock
  | .reqAttach .. | .reqSend .. => .requestAttach
  | .kickDestLookup _ _ dn _ => if dn = "" then .idle else .disconnectLock
  | .kickDestSend .. => .disconnectSend
  | _ => .idle

def RegistrationPc.call : RegistrationPc → CallPc
  | .idle => .idle
  | .lockHandlers _ => .createLockHandlers
  | .insert _ | .append _ => .createRegister

/-- The threads of `Proxy`. -/
inductive Caller
  | goroutine (g : Goroutine)
  | registration
deriving DecidableEq

open CallPc

/-- `sendDestinationDisconnect` returns at once without a name. -/
theorem HubPc.call_kickDestLookup (c : ClientId) (r : Option GoError) (dn : String)
    (k : KickReturn) :
    (kickDestLookup c r dn k).call = .idle ∨ (kickDestLookup c r dn k).call = .disconnectLock := by
  show (if dn = "" then CallPc.idle else .disconnectLock) = .idle ∨
    (if dn = "" then CallPc.idle else .disconnectLock) = .disconnectLock
  split
  · exact .inl rfl
  · exact .inr rfl

theorem HubPc.holds_channels (pc : HubPc) :
    program.holds pc.call .outgoingDestinationMessageSendChannels =
      if pc.writesDestinationChannels then some .write
      else if pc.readsDestinationChannels then some .read else none := by
  cases pc
  case kickDestLookup c r dn k =>
    rcases call_kickDestLookup c r dn k with hcall | hcall
    · rw [hcall]; rfl
    · rw [hcall]; rfl
  all_goals rfl

theorem HubPc.holds_handlers (pc : HubPc) :
    program.holds pc.call .connectedDestinationHandlers =
      if pc.readsHandlers then some .read else none := by
  cases pc
  case kickDestLookup c r dn k =>
    rcases call_kickDestLookup c r dn k with hcall | hcall
    · rw [hcall]; rfl
    · rw [hcall]; rfl
  all_goals rfl

theorem HubPc.call_ne {pc : HubPc} : pc.call ≠ .createLockHandlers := by
  intro h
  cases pc
  case kickDestLookup c r dn k =>
    rcases call_kickDestLookup c r dn k with hcall | hcall
    · cases hcall.symm.trans h
    · cases hcall.symm.trans h
  all_goals cases h

theorem HubPc.call_eq_requestRLock {pc : HubPc} (h : pc.call = .requestRLock) :
    ∃ m t name, pc = .reqLookup m t name := by
  cases pc
  case reqLookup m t name => exact ⟨m, t, name, rfl⟩
  case kickDestLookup c r dn k =>
    rcases call_kickDestLookup c r dn k with hcall | hcall
    · cases hcall.symm.trans h
    · cases hcall.symm.trans h
  all_goals cases h

namespace Proxy
variable {p : Proxy} {e : HubEvent}

def callers (p : Proxy) : Caller → CallPc
  | .goroutine g => (p.hub.pc g).call
  | .registration => p.registration.call

/-! A lock that is free for the hub is free for the threads. -/

theorem read_channels (hidle : p.registration = .idle) (hlock : p.hub.DestinationRLock)
    (i : Caller) : program.holds (p.callers i) .outgoingDestinationMessageSendChannels
      ≠ some .write := by
  cases i with
  | goroutine g =>
    rw [callers, HubPc.holds_channels, hlock g, if_neg Bool.false_ne_true]
    split <;> simp
  | registration => simp [callers, hidle, RegistrationPc.call, program, CallPc.holds]

theorem write_channels (hidle : p.registration = .idle) (hlock : p.hub.DestinationLock)
    (i : Caller) : program.holds (p.callers i) .outgoingDestinationMessageSendChannels = none := by
  cases i with
  | goroutine g => simp [callers, HubPc.holds_channels, hlock g]
  | registration => simp [callers, hidle, RegistrationPc.call, program, CallPc.holds]

theorem read_handlers (hfree : p.registration.holdsHandlers = false) (i : Caller) :
    program.holds (p.callers i) .connectedDestinationHandlers ≠ some .write := by
  cases i with
  | goroutine g =>
    rw [callers, HubPc.holds_handlers]
    split <;> simp
  | registration =>
    unfold callers
    cases hreg : p.registration with
    | insert | append => simp [hreg, RegistrationPc.holdsHandlers] at hfree
    | _ => simp [RegistrationPc.call, program, CallPc.holds]

theorem write_handlers (hlock : p.hub.HandlersLock) {i : Caller} (hi : i ≠ .registration) :
    program.holds (p.callers i) .connectedDestinationHandlers = none := by
  cases i with
  | goroutine g => simp [callers, HubPc.holds_handlers, hlock g]
  | registration => exact (hi rfl).elim

/-- The goroutine that does something, and how it gets on with the two locks. -/
def Moves (p : Proxy) (e : HubEvent) : Prop :=
  ∃ g pc, (p.hub.next e).pc = Function.update p.hub.pc g pc ∧
    Passage program p.callers (.goroutine g) (p.hub.pc g).call pc.call

/-- Nothing happens to the two locks. -/
theorem moves_silent {g : Goroutine} {pc pc' : HubPc} (hpc : p.hub.pc g = pc)
    (hnext : (p.hub.next e).pc = Function.update p.hub.pc g pc') (hcall : pc.call = pc'.call) :
    p.Moves e := by
  refine ⟨g, pc', hnext, ?_⟩
  rw [hpc, hcall]
  exact .refl

/-- Nothing happens to a goroutine. -/
theorem moves_frame (hnext : (p.hub.next e).pc = p.hub.pc) : p.Moves e :=
  moves_silent (g := .main) rfl (by rw [hnext, Function.update_eq_self]) rfl

/-- Both locks are released. -/
theorem requestReturns {g : Goroutine} :
    Passage program p.callers (.goroutine g) .requestAttach .idle :=
  Passage.trans (q := CallPc.requestRUnlockHandlers) (.move rfl rfl) (.move rfl rfl)

/-- A kick gets to `sendDestinationDisconnect`. -/
theorem disconnectBegins {g : Goroutine} {c : ClientId} {r : Option GoError} {dn : String}
    {k : KickReturn} :
    Passage program p.callers (.goroutine g) .idle (HubPc.kickDestLookup c r dn k).call := by
  rcases HubPc.call_kickDestLookup c r dn k with hcall | hcall
  · rw [hcall]
    exact .refl
  · rw [hcall]
    exact .move rfl rfl

theorem moves_of_enabled (he : p.enabled (.hub e)) : p.Moves e := by
  obtain ⟨hen, -, -, hdest, hhandlers⟩ := he
  have hidle : e.locksDestinations → p.registration = .idle := fun hlocks =>
    by_contra fun hne => hdest hne hlocks
  have hfree : e.locksHandlers → p.registration.holdsHandlers = false := fun hlocks =>
    Bool.eq_false_iff.mpr fun hholds => hhandlers hholds hlocks
  cases e
  case advanceClock | cancel | createClientMessageHandler | createDestinationMessageHandler
      | getNewClientId | callbackNow | createClient | createClientFails => exact moves_frame rfl
  -- forwardClientMessage
  case fwdClientName m t name => exact ⟨.client, _, rfl, hen.1 ▸ .move rfl rfl⟩
  case fwdClientLookup m t name =>
    exact ⟨.client, _, rfl, hen.1 ▸ .read rfl fun j _ => read_channels (hidle trivial) hen.2.1 j⟩
  case fwdClientNoHandler m t name =>
    refine ⟨.client, _, rfl, hen.1 ▸ Passage.trans (q := CallPc.forwardSend) ?_ (.move rfl rfl)⟩
    exact .read rfl fun j _ => read_channels (hidle trivial) hen.2.1 j
  case fwdClientSend m name => exact ⟨.client, _, rfl, hen ▸ .move rfl rfl⟩
  -- handleClientConnectionRequestMessage
  case reqName m t => exact ⟨.client, _, rfl, hen.1 ▸ .move rfl rfl⟩
  case reqMatch m t name =>
    refine ⟨.client, _, rfl, hen.1 ▸ Passage.trans (q := CallPc.requestMatch) ?_ (.move rfl rfl)⟩
    exact .read rfl fun j _ => read_handlers (hfree trivial) j
  case reqNoMatch m t =>
    refine ⟨.client, _, rfl, hen.1 ▸ Passage.trans (q := CallPc.requestMatch) ?_ (.move rfl rfl)⟩
    exact .read rfl fun j _ => read_handlers (hfree trivial) j
  case reqLookup m t name =>
    exact ⟨.client, _, rfl, hen.1 ▸ .read rfl fun j _ => read_channels (hidle trivial) hen.2.1 j⟩
  case reqNoHandler m t name =>
    refine ⟨.client, _, rfl, hen.1 ▸ Passage.trans (q := CallPc.requestAttach) ?_ requestReturns⟩
    exact .read rfl fun j _ => read_channels (hidle trivial) hen.2.1 j
  case reqAttachFails m t name => exact ⟨.client, _, rfl, hen.1 ▸ requestReturns⟩
  case reqSend m name => exact ⟨.client, _, rfl, hen ▸ requestReturns⟩
  -- sendDestinationDisconnect
  case kickClientSkip g c r cn dn k => exact ⟨g, _, rfl, hen.1 ▸ disconnectBegins⟩
  case kickClientSend g c r cn dn k => exact ⟨g, _, rfl, hen ▸ disconnectBegins⟩
  case kickDestLock g c r dn k =>
    refine ⟨g, _, rfl, ?_⟩
    rw [hen.1, HubPc.call, if_neg hen.2.1]
    exact .write rfl fun j _ => write_channels (hidle trivial) hen.2.2.1 j
  case kickDestSkip g c r dn k =>
    by_cases hdn : dn = ""
    · exact moves_silent hen.1 rfl (if_pos hdn)
    · obtain ⟨hpc, hempty | ⟨hlock, -⟩⟩ := hen
      · exact (hdn hempty).elim
      refine ⟨g, _, rfl, ?_⟩
      rw [hpc, HubPc.call, if_neg hdn]
      refine Passage.trans (q := CallPc.disconnectSend) ?_ (.move rfl rfl)
      exact .write rfl fun j _ => write_channels (hidle hdn) hlock j
  case kickDestSend g c r dn k => exact ⟨g, _, rfl, hen ▸ .move rfl rfl⟩
  case kickRemove g c r k => exact moves_silent hen rfl (by cases k <;> rfl)
  all_goals first | exact moves_silent hen rfl rfl | exact moves_silent hen.1 rfl rfl

/-- How a registration gets on with the two locks. -/
theorem path_registration {ev : ProxyEvent} (he : p.enabled ev) (hev : ∀ e, ev ≠ .hub e) :
    Passage program p.callers .registration p.registration.call (p.next ev).registration.call := by
  cases ev with
  | hub e => exact (hev e rfl).elim
  | nameCollision handler => exact .refl
  | lock handler =>
    obtain ⟨hidle, hlock, -⟩ := he
    rw [hidle]
    refine Passage.trans (q := CallPc.createLock) (.move rfl rfl) ?_
    refine Passage.trans (q := CallPc.createCheckName) ?_ (.move rfl rfl)
    exact .write rfl fun j _ => write_channels hidle hlock j
  | lockHandlers handler =>
    rw [he.1]
    exact .write rfl fun j hj => write_handlers he.2 hj
  | insert handler =>
    rw [show p.registration = _ from he]
    exact .refl
  | append handler =>
    rw [show p.registration = _ from he]
    exact Passage.trans (q := CallPc.createUnlock) (.move rfl rfl) (.move rfl rfl)

theorem callers_registration {ev : ProxyEvent} (hev : ∀ e, ev ≠ .hub e) :
    (p.next ev).callers =
      Function.update p.callers .registration (p.next ev).registration.call := by
  funext i
  cases i with
  | registration => rw [Function.update_self]; rfl
  | goroutine g =>
    rw [Function.update_of_ne (by simp)]
    cases ev with
    | hub e => exact (hev e rfl).elim
    | _ => rfl

theorem callers_hub {g : Goroutine} {pc : HubPc}
    (hnext : (p.hub.next e).pc = Function.update p.hub.pc g pc) :
    (p.next (.hub e)).callers = Function.update p.callers (.goroutine g) pc.call := by
  funext i
  cases i with
  | registration => rw [Function.update_of_ne (by simp)]; rfl
  | goroutine g' =>
    show ((p.hub.next e).pc g').call = _
    by_cases hg : g' = g
    · rw [hg, hnext, Function.update_self, Function.update_self]
    · rw [hnext, Function.update_of_ne hg, Function.update_of_ne (by simpa using hg)]
      rfl

theorem callers_next {ev : ProxyEvent} (he : p.enabled ev) :
    ∃ tr, (system Caller program).Run (quiet p.callers) tr (quiet (p.next ev).callers) := by
  by_cases hev : ∃ e, ev = .hub e
  · obtain ⟨e, rfl⟩ := hev
    obtain ⟨g, pc, hnext, hpath⟩ := moves_of_enabled he
    rw [callers_hub hnext]
    exact Passage.run hpath
  · have hev : ∀ e, ev ≠ .hub e := fun e h => hev ⟨e, h⟩
    rw [callers_registration hev]
    exact Passage.run (path_registration he hev)

/-- The hub and a registration are threads that call the four functions: a run of `Proxy` is one of
theirs, and the locks are held by the same threads. -/
theorem locks_run {config : HubConfig} {maxConnections : Nat} {tr : List ProxyEvent}
    (hr : automaton.Run (start config maxConnections) tr p) :
    ∃ tr', (system Caller program).Run LockOrder.start tr' (quiet p.callers) := by
  induction hr with
  | nil =>
    refine ⟨[], ?_⟩
    have hidle : (start config maxConnections).callers = fun _ => .idle := by
      funext i
      rcases i with (_ | _ | _ | _) | _ <;> rfl
    rw [hidle]
    exact .nil
  | @snoc tr p ev hr he ih =>
    obtain ⟨tr₁, hr₁⟩ := ih
    obtain ⟨tr₂, hr₂⟩ := callers_next he
    exact ⟨tr₁ ++ tr₂, hr₁.trans hr₂⟩

/-- The hub and a registration are deadlocked exactly if the registration has found its name free
and a goroutine has found a handler that matches. -/
theorem deadlocked_iff : (∃ threads, (quiet p.callers).Deadlocked program threads) ↔
    (∃ handler, p.registration = .lockHandlers handler) ∧
      ∃ g m t name, p.hub.pc g = .reqLookup m t name := by
  rw [LockOrder.deadlocked_iff]
  constructor
  · rintro ⟨⟨i, hi⟩, j, hj⟩
    constructor
    · cases i with
      | registration =>
        cases hreg : p.registration with
        | lockHandlers handler => exact ⟨handler, rfl⟩
        | _ => simp [quiet, callers, hreg, RegistrationPc.call] at hi
      | goroutine g => exact (HubPc.call_ne hi).elim
    · cases j with
      | registration =>
        cases hreg : p.registration <;> simp [quiet, callers, hreg, RegistrationPc.call] at hj
      | goroutine g => exact ⟨g, HubPc.call_eq_requestRLock hj⟩
  · rintro ⟨⟨handler, hreg⟩, g, m, t, name, hpc⟩
    exact ⟨⟨.registration, by simp [quiet, callers, hreg, RegistrationPc.call]⟩,
      .goroutine g, by simp [quiet, callers, hpc, HubPc.call]⟩

end Proxy
end Spanreed
