import Spanreed.HubNet

/-! # The next operation of a goroutine

A goroutine of the hub that is not at its `select` always has an operation to do next, if it gets
the lock it needs and its request does not panic (`exists_op`), and every operation but the receipt
of something new brings it closer to its return (`steps_next`). -/

namespace Spanreed
open Flatbuffers Automata

/-- A goroutine takes up new work. -/
def HubEvent.Begins : HubEvent → Prop
  | .recvClientMessage _ | .recvOpenClient _ | .recvClientClose _ | .recvDestinationMessage _
  | .recvVerdict _ | .recvDestinationClose _ | .ticker => True
  | _ => False

namespace HubPc

/-- In the middle of some work of its own: neither waiting for something to do, nor returned, nor
waiting for others. -/
def busy : HubPc → Bool
  | .select | .exited | .waitGroup | .kickAllClients => false
  | _ => true

/-- Somewhere in a kick. -/
def inKick : HubPc → Bool
  | .kickClientName .. | .kickDestName .. | .kickClientLookup .. | .kickClientSend ..
  | .kickDestLookup .. | .kickDestSend .. | .kickRemove .. => true
  | _ => false

/-- About to take the lock of the map of client channels. -/
def locksClients : HubPc → Bool
  | .fwdDestLookup .. | .verdictLookup .. => true
  | .kickClientLookup _ _ cn _ _ => cn ≠ ""
  | _ => false

/-- About to take the lock of the map of destination channels. -/
def locksDestinations : HubPc → Bool
  | .fwdClientLookup .. | .reqLookup .. => true
  | .kickDestLookup _ _ dn _ => dn ≠ ""
  | _ => false

/-- Nobody looks into both maps at once. -/
theorem locksClients_of_destinations {pc : HubPc} (h : pc.locksDestinations = true) :
    pc.locksClients = false := by
  cases pc <;> first | rfl | cases h

theorem locks_of_waitsOn {pc : HubPc} {ch : Chan} (hw : pc.waitsOn = some ch) :
    pc.locksClients = false ∧ pc.locksDestinations = false := by
  cases pc <;> first | exact ⟨rfl, rfl⟩ | cases hw

theorem busy_of_waitsOn {pc : HubPc} {ch : Chan} (hw : pc.waitsOn = some ch) : pc.busy = true := by
  cases pc <;> first | rfl | cases hw

/-- The goroutines that `Start` waits for are at their `select` or busy until they return. -/
theorem Belongs.select_or_busy {pc : HubPc} {g : Goroutine} (hb : pc.Belongs g) (hg : g ≠ .main)
    (hex : pc ≠ .exited) : pc = .select ∨ pc.busy = true := by
  cases pc
  case select => exact .inl rfl
  case exited => exact (hex rfl).elim
  case waitGroup | kickAllClients => exact (hg hb).elim
  all_goals exact .inr rfl

end HubPc

namespace Hub
open HubEvent HubPc
variable {h : Hub} {e : HubEvent} {g : Goroutine}

/-- The goroutine can do an operation that takes up nothing new. -/
def Acts (h : Hub) (g : Goroutine) : Prop := ∃ e, h.enabled e ∧ e.mover = some g ∧ ¬e.Begins

theorem kick_acts (hk : (h.pc g).inKick = true)
    (hclient : (h.pc g).locksClients = true → h.ClientLock)
    (hdestination : (h.pc g).locksDestinations = true → h.DestinationLock) : h.Acts g := by
  cases hpc : h.pc g <;> rw [hpc] at hk hclient hdestination <;> cases hk
  case kickClientName c r k => exact ⟨.kickClientName g c r k, hpc, rfl, not_false⟩
  case kickDestName c r cn k => exact ⟨.kickDestName g c r cn k, hpc, rfl, not_false⟩
  case kickClientSend c r cn dn k => exact ⟨.kickClientSend g c r cn dn k, hpc, rfl, not_false⟩
  case kickDestSend c r dn k => exact ⟨.kickDestSend g c r dn k, hpc, rfl, not_false⟩
  case kickRemove c r k => exact ⟨.kickRemove g c r k, hpc, rfl, not_false⟩
  case kickClientLookup c r cn dn k =>
    by_cases hempty : cn = ""
    · exact ⟨.kickClientSkip g c r cn dn k, ⟨hpc, .inl hempty⟩, rfl, not_false⟩
    have hlock := hclient (by simp [locksClients, hempty])
    by_cases hmem : cn ∈ h.clientHandlers
    · exact ⟨.kickClientLock g c r cn dn k, ⟨hpc, hempty, hlock, hmem⟩, rfl, not_false⟩
    · exact ⟨.kickClientSkip g c r cn dn k, ⟨hpc, .inr ⟨hlock, hmem⟩⟩, rfl, not_false⟩
  case kickDestLookup c r dn k =>
    by_cases hempty : dn = ""
    · exact ⟨.kickDestSkip g c r dn k, ⟨hpc, .inl hempty⟩, rfl, not_false⟩
    have hlock := hdestination (by simp [locksDestinations, hempty])
    by_cases hmem : dn ∈ h.destinationHandlers
    · exact ⟨.kickDestLock g c r dn k, ⟨hpc, hempty, hlock, hmem⟩, rfl, not_false⟩
    · exact ⟨.kickDestSkip g c r dn k, ⟨hpc, .inr ⟨hlock, hmem⟩⟩, rfl, not_false⟩

theorem client_acts (hb : (h.pc .client).Belongs .client) (hbusy : (h.pc .client).busy = true)
    (hk : (h.pc .client).inKick = false) (hmatch : h.Matches)
    (hlock : (h.pc .client).locksDestinations = true → h.DestinationLock) : h.Acts .client := by
  unfold Matches at hmatch
  cases hpc : h.pc .client <;> simp only [hpc] at hmatch <;> rw [hpc] at hb hbusy hk hlock
  case select | exited | waitGroup | kickAllClients => cases hbusy
  case fwdClientNow m => exact ⟨.fwdClientNow m, hpc, rfl, not_false⟩
  case fwdClientName m t =>
    cases hget : h.clientStore.get m.clientId with
    | none => exact ⟨.fwdClientNoClient m t, ⟨hpc, hget⟩, rfl, not_false⟩
    | some md =>
      exact ⟨.fwdClientName m t md.destinationHandlerName, ⟨hpc, by rw [hget]; rfl⟩, rfl, not_false⟩
  case fwdClientLookup m t name =>
    have hrlock : h.DestinationRLock := fun g => (hlock rfl g).1
    by_cases hmem : name ∈ h.destinationHandlers
    · exact ⟨.fwdClientLookup m t name, ⟨hpc, hrlock, hmem⟩, rfl, not_false⟩
    · exact ⟨.fwdClientNoHandler m t name, ⟨hpc, hrlock, hmem⟩, rfl, not_false⟩
  case fwdClientSend m name => exact ⟨.fwdClientSend m name, hpc, rfl, not_false⟩
  case clientStampNow c => exact ⟨.clientStampNow c, hpc, rfl, not_false⟩
  case clientStamp c t => exact ⟨.clientStamp c t, hpc, rfl, not_false⟩
  case reqNow m => exact ⟨.reqNow m, hpc, rfl, not_false⟩
  case reqName m t =>
    cases hget : h.clientStore.get m.clientId with
    | none => exact ⟨.reqNoClient m t, ⟨hpc, hget⟩, rfl, not_false⟩
    | some md =>
      by_cases hempty : md.destinationHandlerName = ""
      · exact ⟨.reqName m t, ⟨hpc, by rw [hget, ← hempty]; rfl⟩, rfl, not_false⟩
      · exact ⟨.reqDuplicate m t md.destinationHandlerName, ⟨hpc, by rw [hget]; rfl, hempty⟩, rfl,
          not_false⟩
  case reqMatch m t =>
    cases hfirst : firstMatch m.connectionString h.connectedDestinationHandlers with
    | none => exact (hmatch hfirst).elim
    | some result =>
      cases result with
      | none => exact ⟨.reqNoMatch m t, ⟨hpc, hfirst⟩, rfl, not_false⟩
      | some name => exact ⟨.reqMatch m t name, ⟨hpc, hfirst⟩, rfl, not_false⟩
  case reqLookup m t name =>
    have hrlock : h.DestinationRLock := fun g => (hlock rfl g).1
    by_cases hmem : name ∈ h.destinationHandlers
    · exact ⟨.reqLookup m t name, ⟨hpc, hrlock, hmem⟩, rfl, not_false⟩
    · exact ⟨.reqNoHandler m t name, ⟨hpc, hrlock, hmem⟩, rfl, not_false⟩
  case reqAttach m t name =>
    cases hget : h.clientStore.get m.clientId with
    | none => exact ⟨.reqAttachFails m t name, ⟨hpc, hget⟩, rfl, not_false⟩
    | some md => exact ⟨.reqAttach m t name, ⟨hpc, by simp [hget]⟩, rfl, not_false⟩
  case reqSend m name => exact ⟨.reqSend m name, hpc, rfl, not_false⟩
  case kickClientName | kickDestName | kickClientLookup | kickClientSend | kickDestLookup
      | kickDestSend | kickRemove => cases hk
  all_goals cases hb

theorem destination_acts (hb : (h.pc .destination).Belongs .destination)
    (hbusy : (h.pc .destination).busy = true) (hk : (h.pc .destination).inKick = false)
    (hlock : (h.pc .destination).locksClients = true → h.ClientLock) : h.Acts .destination := by
  cases hpc : h.pc .destination <;> rw [hpc] at hb hbusy hk hlock
  case select | exited | waitGroup | kickAllClients => cases hbusy
  case fwdDestNow m => exact ⟨.fwdDestNow m, hpc, rfl, not_false⟩
  case fwdDestName m t =>
    cases hget : h.clientStore.get m.clientId with
    | none => exact ⟨.fwdDestNoClient m t, ⟨hpc, hget⟩, rfl, not_false⟩
    | some md =>
      exact ⟨.fwdDestName m t md.clientHandlerName, ⟨hpc, by rw [hget]; rfl⟩, rfl, not_false⟩
  case fwdDestLookup m t name =>
    have hrlock : h.ClientRLock := fun g => (hlock rfl g).1
    by_cases hmem : name ∈ h.clientHandlers
    · exact ⟨.fwdDestLookup m t name, ⟨hpc, hrlock, hmem⟩, rfl, not_false⟩
    · exact ⟨.fwdDestNoHandler m t name, ⟨hpc, hrlock, hmem⟩, rfl, not_false⟩
  case fwdDestSend m name => exact ⟨.fwdDestSend m name, hpc, rfl, not_false⟩
  case destStampNow c => exact ⟨.destStampNow c, hpc, rfl, not_false⟩
  case destStamp c t => exact ⟨.destStamp c t, hpc, rfl, not_false⟩
  case verdictName v =>
    cases hget : h.clientStore.get v.clientId with
    | none => exact ⟨.verdictNoClient v, ⟨hpc, hget⟩, rfl, not_false⟩
    | some md =>
      exact ⟨.verdictName v md.clientHandlerName, ⟨hpc, by rw [hget]; rfl⟩, rfl, not_false⟩
  case verdictLookup v name =>
    have hrlock : h.ClientRLock := fun g => (hlock rfl g).1
    by_cases hmem : name ∈ h.clientHandlers
    · exact ⟨.verdictLookup v name, ⟨hpc, hrlock, hmem⟩, rfl, not_false⟩
    · exact ⟨.verdictNoHandler v name, ⟨hpc, hrlock, hmem⟩, rfl, not_false⟩
  case verdictConnect v name => exact ⟨.verdictConnect v name, hpc, rfl, not_false⟩
  case verdictSend v name => exact ⟨.verdictSend v name, hpc, rfl, not_false⟩
  case kickClientName | kickDestName | kickClientLookup | kickClientSend | kickDestLookup
      | kickDestSend | kickRemove => cases hk
  all_goals cases hb

theorem timeout_acts (hb : (h.pc .timeout).Belongs .timeout)
    (hbusy : (h.pc .timeout).busy = true) (hk : (h.pc .timeout).inKick = false) :
    h.Acts .timeout := by
  cases hpc : h.pc .timeout <;> rw [hpc] at hb hbusy hk
  case select | exited | waitGroup | kickAllClients => cases hbusy
  case sweepNow₁ => exact ⟨.sweepNow₁, hpc, rfl, not_false⟩
  case sweepNow₂ a => exact ⟨.sweepNow₂ a, hpc, rfl, not_false⟩
  case sweepNow₃ a b => exact ⟨.sweepNow₃ a b, hpc, rfl, not_false⟩
  case sweepList a b d => exact ⟨.sweepList a b d _, ⟨hpc, .refl _⟩, rfl, not_false⟩
  case kickOldClients l =>
    cases l with
    | nil => exact ⟨.sweepDone, hpc, rfl, not_false⟩
    | cons c rest => exact ⟨.kickOldClient c rest, hpc, rfl, not_false⟩
  case authNow => exact ⟨.authNow, hpc, rfl, not_false⟩
  case authList a => exact ⟨.authList a _, ⟨hpc, .refl _⟩, rfl, not_false⟩
  case checkForAuthTimeouts l =>
    cases l with
    | nil => exact ⟨.authDone, hpc, rfl, not_false⟩
    | cons c rest => exact ⟨.kickUnauthedClient c rest, hpc, rfl, not_false⟩
  case kickClientName | kickDestName | kickClientLookup | kickClientSend | kickDestLookup
      | kickDestSend | kickRemove => cases hk
  all_goals cases hb

/-- A busy goroutine has something to do next. -/
theorem exists_op (hb : (h.pc g).Belongs g) (hbusy : (h.pc g).busy = true) (hmatch : h.Matches)
    (hclient : (h.pc g).locksClients = true → h.ClientLock)
    (hdestination : (h.pc g).locksDestinations = true → h.DestinationLock) : h.Acts g := by
  cases hk : (h.pc g).inKick with
  | true => exact kick_acts hk hclient hdestination
  | false =>
    cases g with
    | client => exact client_acts hb hbusy hk hmatch hdestination
    | destination => exact destination_acts hb hbusy hk hclient
    | timeout => exact timeout_acts hb hbusy hk
    | main =>
      cases hpc : h.pc .main <;> rw [hpc] at hb hbusy hk
      case kickClientName | kickDestName | kickClientLookup | kickClientSend | kickDestLookup
          | kickDestSend | kickRemove => cases hk
      case select | exited | waitGroup | kickAllClients => cases hbusy
      all_goals cases hb

/-- What an operation that takes up nothing new does to the channels. -/
theorem op_of_not_begins (hm : e.mover = some g) (hb : ¬e.Begins) :
    e.op = .internal ∨ ∃ ch m, e.op = .send ch m ∧ (h.enabled e → (h.pc g).waitsOn = some ch) := by
  cases e
  case recvClientMessage | recvOpenClient | recvClientClose | recvDestinationMessage | recvVerdict
      | recvDestinationClose => exact (hb trivial).elim
  case createClient => cases hm
  case fwdClientSend | fwdDestSend | verdictSend | reqSend | kickClientSend | kickDestSend =>
    cases hm
    refine .inr ⟨_, _, rfl, ?_⟩
    intro he
    simp only [enabled] at he
    rw [he]
    rfl
  all_goals exact .inl rfl

end Hub

/-! ## Every operation brings the end closer -/

/-- The steps that are left after a kick, with `n` clients in the store. -/
def KickReturn.steps (n : Nat) : KickReturn → Nat
  | .select | .kickAllClients => 1
  | .kickOldClients rest => 8 * rest.length + 8 * n + 5
  | .checkForAuthTimeouts rest => 8 * rest.length + 2

/-- The steps a goroutine has left until it returns. -/
def HubPc.steps (n : Nat) : HubPc → Nat
  | .exited => 0
  | .select | .kickAllClients => 1
  | .fwdClientNow _ | .fwdDestNow _ => 7
  | .fwdClientName .. | .fwdDestName .. => 6
  | .fwdClientLookup .. | .fwdDestLookup .. => 5
  | .fwdClientSend .. | .fwdDestSend .. => 4
  | .clientStampNow _ | .destStampNow _ => 3
  | .clientStamp .. | .destStamp .. => 2
  | .verdictName _ => 5
  | .verdictLookup .. => 4
  | .verdictConnect .. => 3
  | .verdictSend .. => 2
  | .reqNow _ => 13
  | .reqName .. => 12
  | .reqMatch .. => 11
  | .reqLookup .. => 10
  | .reqAttach .. => 9
  | .reqSend .. => 2
  | .kickClientName _ _ k => 7 + k.steps n
  | .kickDestName _ _ _ k => 6 + k.steps n
  | .kickClientLookup _ _ _ _ k => 5 + k.steps n
  | .kickClientSend _ _ _ _ k => 4 + k.steps n
  | .kickDestLookup _ _ _ k => 3 + k.steps n
  | .kickDestSend _ _ _ k => 2 + k.steps n
  | .kickRemove _ _ k => 1 + k.steps n
  | .sweepNow₁ => 16 * n + 9
  | .sweepNow₂ _ => 16 * n + 8
  | .sweepNow₃ .. => 16 * n + 7
  | .sweepList .. => 16 * n + 6
  | .kickOldClients l => 8 * l.length + 8 * n + 5
  | .authNow => 8 * n + 4
  | .authList _ => 8 * n + 3
  | .checkForAuthTimeouts l => 8 * l.length + 2
  | .waitGroup => 2

@[simp] theorem KickReturn.steps_resume (n : Nat) (k : KickReturn) :
    k.resume.steps n = k.steps n := by cases k <;> rfl

theorem KickReturn.steps_mono {n n' : Nat} (hn : n' ≤ n) (k : KickReturn) :
    k.steps n' ≤ k.steps n := by
  cases k <;> simp only [KickReturn.steps] <;> omega

theorem HubPc.steps_mono {n n' : Nat} (hn : n' ≤ n) (pc : HubPc) : pc.steps n' ≤ pc.steps n := by
  cases pc
  case kickClientName k | kickDestName k | kickClientLookup k | kickClientSend k
      | kickDestLookup k | kickDestSend k | kickRemove k =>
    exact Nat.add_le_add_left (k.steps_mono hn) _
  all_goals
    simp only [HubPc.steps]
    omega

namespace Hub
open HubEvent HubPc
variable {h : Hub} {e : HubEvent} {g : Goroutine}

/-- A goroutine gets on with its work. -/
theorem steps_next {n : Nat} (he : h.enabled e) (hm : e.mover = some g) (hb : ¬e.Begins)
    (hall : ∀ c connection, e ≠ .kickAllNext c connection)
    (hn : g = .timeout → h.clientStore.clientConnections.entries.length ≤ n) :
    ((h.next e).pc g).steps n < (h.pc g).steps n := by
  cases e <;> simp only [mover, Option.some.injEq, reduceCtorEq] at hm
  all_goals
    subst hm
    simp only [enabled] at he
  case recvClientMessage | recvOpenClient | recvClientClose | recvDestinationMessage | recvVerdict
      | recvDestinationClose | ticker => exact (hb trivial).elim
  case kickAllNext c connection => exact (hall c connection rfl).elim
  case sweepList a b d l =>
    have hlen : l.length ≤ n := by
      rw [he.2.length_eq, ClientStore.getTimeoutClientList, List.length_map]
      exact (List.length_filter_le ..).trans (hn rfl)
    simp only [next, goto_pc, Function.update_self, he.1, HubPc.steps]
    omega
  case authList a l =>
    have hlen : l.length ≤ n := by
      rw [he.2.length_eq, ClientStore.getAuthTimeoutClientList, List.length_map]
      exact (List.length_filter_le ..).trans (hn rfl)
    simp only [next, goto_pc, Function.update_self, he.1, HubPc.steps]
    omega
  case kickRemove g c r k =>
    rw [he, next, goto_pc, Function.update_self, KickReturn.steps_resume]
    simp only [HubPc.steps]
    omega
  all_goals
    simp only [next, goto_pc, Function.update_self, he, HubPc.steps, KickReturn.steps,
      List.length_cons, List.length_nil]
    omega

theorem matches_of_matched (hm : (h.pc .client).matching = false) : h.Matches := by
  unfold Matches
  cases hpc : h.pc .client <;> rw [hpc] at hm <;> trivial

/-- No request is taken up. -/
theorem matched_next (he : h.enabled e) (hb : ¬e.Begins) (hm : (h.pc .client).matching = false) :
    ((h.next e).pc .client).matching = false := by
  by_cases hmover : e.mover = some .client
  · cases e <;> simp only [mover, Option.some.injEq, reduceCtorEq] at hmover
    all_goals
      try subst hmover
      simp only [enabled] at he
    case recvOpenClient => exact (hb trivial).elim
    case reqNow => simp [he, matching] at hm
    case reqName => simp [he.1, matching] at hm
    case kickRemove c r k => cases k <;> simp [next, matching, KickReturn.resume]
    all_goals simp [next, matching]
  · rwa [pc_next_of_ne hmover]

/-- A busy goroutine does not return at once. -/
theorem not_exited_next (he : h.enabled e) (hm : e.mover = some g) (hbusy : (h.pc g).busy = true) :
    (h.next e).pc g ≠ .exited := by
  cases e <;> simp only [mover, Option.some.injEq, reduceCtorEq] at hm
  all_goals
    subst hm
    simp only [enabled] at he
  case exit | kickAllDone => simp [he.1, busy] at hbusy
  case kickRemove c r k => cases k <;> simp [next, KickReturn.resume]
  all_goals simp [next]

end Hub
end Spanreed
